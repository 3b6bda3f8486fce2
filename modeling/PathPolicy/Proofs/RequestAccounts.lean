import PathPolicy.Proofs.RequestTasks
import PathPolicy.Proofs.StandIn

/-!
# The requests of a connection and what becomes of them

Requests are known by their places in the stream of their client. At any moment each of them has
been answered or is under way. Its task has taken some of its turns among those of the others and
what happens elsewhere, and a response comes up when the task ends. Each step of a connection leaves
these accounts in order.
-/

namespace PathPolicy

variable {σ α : Type}

namespace Call

/-- A request as it arrives at a server. -/
structure Request where
  callId : UInt64
  method : String
  payload : List UInt8

namespace Request

def ofFrame? : Frame → Option Request
  | ⟨callId, .request method payload⟩ => some ⟨callId, method, payload⟩
  | ⟨_, .response _⟩ => none

def task (S : Server σ) (client : ClientId) (r : Request) :
    Procedure σ (Except MethodError (List UInt8)) :=
  S.dispatch client r.method r.payload

def response (r : Request) (outcome : Except MethodError (List UInt8)) : Frame :=
  ⟨r.callId, .response outcome⟩

end Request

/-- The requests on a stream, up to its end or to the first frame there that cannot be read. -/
def requests (limit : Nat) (bytes : List UInt8) : List Request :=
  (Frame.readMany limit bytes).1.filterMap Request.ofFrame?

namespace Service

/-- What has come to a connection from without. -/
structure History (σ : Type) where
  /-- What arrived before the stream ended. -/
  received : List UInt8 := []
  hungUp : Bool := false
  outside : List (σ → σ) := []

namespace History

def add (h : History σ) : Step σ → History σ
  | .arrive _ bytes => if h.hungUp then h else { h with received := h.received ++ bytes }
  | .hangUp => { h with hungUp := true }
  | .elsewhere f => { h with outside := h.outside ++ [f] }
  | _ => h

def of (steps : List (Step σ)) : History σ := steps.foldl add {}

end History

section Accounts

variable (S : Server σ) (client : ClientId) (s : σ)

/-- The tasks of some requests, after some moves. -/
def tasks (rs : List Request) (moves : List (Move σ)) :
    Pool σ (Except MethodError (List UInt8)) :=
  (Pool.mk (rs.map (Request.task S client)) s).playAll (S.release client) moves

/-- What has become of the requests `rs` by the time their server has come to `m`. Requests go by
their places in the stream: those that have ended with their responses, in the order in which they
did, and the others with what is left of them. -/
structure Accounts (rs : List Request) (outside : List (σ → σ)) (m : Service σ)
    (moves : List (Move σ)) (answered : List (Nat × Frame)) (underWay : List (Nat × Job σ))
    (written : List Frame) : Prop where
  /-- Nothing has happened to the state but by the tasks, from outside, and by the farewell. -/
  state : (tasks S client s rs moves).state = m.state
  outside : moves.filterMap Move.elsewhere? = outside
  farewell : moves.countP Move.isFarewell = m.connection.ended.toNat
  each : (answered.map Prod.fst ++ underWay.map Prod.fst).Perm (List.range rs.length)
  /-- A response has the number of its request and the outcome of its task. -/
  outcome : ∀ a ∈ answered, ∃ r outcome, rs[a.1]? = some r ∧
    (tasks S client s rs moves).answer? a.1 = some outcome ∧ a.2 = r.response outcome
  rest : ∀ u ∈ underWay, ∃ r, rs[u.1]? = some r ∧
    (tasks S client s rs moves).tasks[u.1]? = some u.2.rest ∧ u.2.callId = r.callId
  jobs : underWay.map Prod.snd = m.connection.jobs
  responses : answered.map Prod.snd = written ++ m.connection.responses
  /-- Each response has been written, or the error that stands in for it. -/
  output : Frame.writeAll S.frameLimit (written.map (Connection.standing S.frameLimit)) =
    (written.map fun _ => .ok (), m.taken ++ m.connection.output)

/-- The accounts of a server that can go on. -/
structure Tracks (rs : List Request) (outside : List (σ → σ)) (m : Service σ)
    (moves : List (Move σ)) (answered : List (Nat × Frame)) (underWay : List (Nat × Job σ))
    (written : List Frame) : Prop
    extends Accounts S client s rs outside m moves answered underWay written where
  client : m.connection.client = client
  writing : m.connection.writing = true
  within : ∀ n, Move.turn n ∈ moves → n < rs.length

end Accounts

/-- A connection has read all that arrived, as far as it can be read. -/
structure Reads (limit : Nat) (h : History σ) (c : Connection σ) : Prop where
  unread : c.reading = true →
    h.hungUp = false ∧ (Frame.readMany limit h.received).2 = .ok c.unread
  stopped : c.reading = false →
    h.hungUp = true ∨ ∃ e, (Frame.readMany limit h.received).2 = .error e

variable {S : Server σ} {client : ClientId} {s s' : σ} {h : History σ} {c : Connection σ}
  {m : Service σ} {taken : List UInt8} {rs : List Request} {outside : List (σ → σ)}
  {moves : List (Move σ)} {answered : List (Nat × Frame)} {underWay : List (Nat × Job σ)}
  {written : List Frame}

lemma requests_nil (limit : Nat) : requests limit [] = [] := by
  rw [requests, Frame.readMany_nil]
  rfl

lemma reads_start (limit : Nat) (client : ClientId) :
    Reads limit ({} : History σ) { client } where
  unread _ := ⟨rfl, by rw [Frame.readMany_nil]⟩
  stopped hr := by cases hr

lemma tracks_start (S : Server σ) (client : ClientId) (s : σ) :
    Tracks S client s [] [] ⟨{ client }, s, []⟩ [] [] [] [] where
  state := rfl
  outside := rfl
  farewell := rfl
  each := List.Perm.refl []
  outcome := by simp
  rest := by simp
  jobs := rfl
  responses := rfl
  output := rfl
  client := rfl
  writing := rfl
  within := by simp

/-! ### Arrival -/

/-- The jobs for requests that arrive. -/
def newJobs (S : Server σ) (client : ClientId) (now : Nat) (rs : List Request) : List (Job σ) :=
  rs.map fun r => ⟨r.callId, now, r.task S client⟩

lemma foldl_accept (now : Nat) (frames : List Frame) (c : Connection σ) :
    frames.foldl (Connection.accept S now) c =
      c.holding (c.jobs ++ newJobs S c.client now (frames.filterMap Request.ofFrame?)) := by
  induction frames generalizing c with
  | nil => simp [newJobs, Connection.holding]
  | cons f frames ih =>
    rw [List.foldl_cons, ih]
    obtain ⟨callId, ⟨method, payload⟩ | outcome⟩ := f
    · simp [Connection.accept, Connection.holding, newJobs, Request.ofFrame?, Request.task]
    · rfl

/-- Behind the end of a stream, or a frame that cannot be read, nothing more is found. -/
lemma readMany_add_of_stopped {limit : Nat}
    (hs : h.hungUp = true ∨ ∃ e, (Frame.readMany limit h.received).2 = .error e) (now : Nat)
    (bytes : List UInt8) :
    Frame.readMany limit (h.add (.arrive now bytes)).received = Frame.readMany limit h.received ∧
      (h.add (.arrive now bytes)).hungUp = h.hungUp := by
  cases hopen : h.hungUp with
  | true => simp [History.add, hopen]
  | false =>
    rw [hopen] at hs
    obtain hs | ⟨e, he⟩ := hs
    · cases hs
    · rcases hfirst : Frame.readMany limit h.received with ⟨frames, last⟩
      obtain rfl : last = .error e := by simpa [hfirst] using he
      simp [History.add, hopen, Frame.readMany_append_of_error hfirst]

/-- Bytes that arrive make requests, and each of them makes a job. -/
lemma Reads.arrive (hr : Reads S.frameLimit h c) (now : Nat) (bytes : List UInt8) :
    ∃ new reading unread,
      requests S.frameLimit (h.add (.arrive now bytes)).received =
        requests S.frameLimit h.received ++ new ∧
      (c.receive bytes).readAll S now =
        { c.holding (c.jobs ++ newJobs S c.client now new) with reading, unread } ∧
      Reads S.frameLimit (h.add (.arrive now bytes)) ((c.receive bytes).readAll S now) := by
  cases hreading : c.reading with
  | false =>
    have hsame : (c.receive bytes).readAll S now = c := by
      simp [Connection.receive, Connection.readAll, hreading]
    obtain ⟨hread, hungUp⟩ := readMany_add_of_stopped (hr.stopped hreading) now bytes
    rw [hsame]
    refine ⟨[], false, c.unread, ?_, by simp [newJobs, Connection.holding, ← hreading], ?_, ?_⟩
    · rw [requests, hread, List.append_nil, requests]
    · intro hreading'
      rw [hreading] at hreading'
      cases hreading'
    · intro _
      rw [hread, hungUp]
      exact hr.stopped hreading
  | true =>
    obtain ⟨hopen, hunread⟩ := hr.unread hreading
    have hadd : h.add (.arrive now bytes) = { h with received := h.received ++ bytes } := by
      simp [History.add, hopen]
    rcases hfirst : Frame.readMany S.frameLimit h.received with ⟨frames, last⟩
    obtain rfl : last = .ok c.unread := by simpa [hfirst] using hunread
    have hread := Frame.readMany_append_of_ok hfirst bytes
    rcases hmore : Frame.readMany S.frameLimit (c.unread ++ bytes) with ⟨more, last⟩
    rw [hmore] at hread
    have hnew : requests S.frameLimit (h.received ++ bytes) =
        requests S.frameLimit h.received ++ more.filterMap Request.ofFrame? := by
      rw [requests, hread, List.filterMap_append, requests, hfirst]
    rw [hadd]
    cases last with
    | ok unread =>
      have hc : (c.receive bytes).readAll S now =
          { c.holding (c.jobs ++ newJobs S c.client now (more.filterMap Request.ofFrame?)) with
            reading := true, unread } := by
        simp [Connection.receive, Connection.readAll, hreading, hmore, foldl_accept,
          Connection.holding]
      refine ⟨_, true, unread, hnew, hc, ?_, ?_⟩
      · intro _
        rw [hc, hread]
        exact ⟨hopen, rfl⟩
      · intro hreading'
        rw [hc] at hreading'
        cases hreading'
    | error e =>
      have hc : (c.receive bytes).readAll S now =
          { c.holding (c.jobs ++ newJobs S c.client now (more.filterMap Request.ofFrame?)) with
            reading := false, unread := [] } := by
        simp [Connection.receive, Connection.readAll, hreading, hmore, foldl_accept,
          Connection.holding, Connection.receiveEnd]
      refine ⟨_, false, [], hnew, hc, ?_, ?_⟩
      · intro hreading'
        rw [hc] at hreading'
        cases hreading'
      · intro _
        rw [hread]
        exact .inr ⟨e, rfl⟩

variable (S client s) in
lemma tasks_append (hw : ∀ n, Move.turn n ∈ moves → n < rs.length) (more : List Request) :
    tasks S client s (rs ++ more) moves =
      ⟨(tasks S client s rs moves).tasks ++ more.map (Request.task S client),
        (tasks S client s rs moves).state⟩ := by
  have happend := Pool.playAll_append_tasks (S.release client) ⟨rs.map (Request.task S client), s⟩
    (by simpa using hw) (more.map (Request.task S client))
  rw [tasks, List.map_append]
  exact happend

lemma getElem?_append_of_some {α : Type} {l : List α} {n : Nat} {a : α} (h : l[n]? = some a)
    (l' : List α) : (l ++ l')[n]? = some a := by
  obtain ⟨hn, -⟩ := List.getElem?_eq_some_iff.mp h
  rw [List.getElem?_append_left hn, h]

lemma answer?_append_of_some {p : Pool σ α} {n : Nat} {a : α} (h : p.answer? n = some a)
    (more : List (Procedure σ α)) (s : σ) :
    (Pool.mk (p.tasks ++ more) s).answer? n = some a := by
  obtain ⟨task, htask, ha⟩ := Option.bind_eq_some_iff.mp h
  rw [Pool.answer?, getElem?_append_of_some htask]
  exact ha

/-- Requests that arrive are under way from then on. -/
lemma Tracks.arrive
    (t : Tracks S client s rs outside ⟨c, s', taken⟩ moves answered underWay written)
    (now : Nat) (new : List Request) (reading : Bool) (unread : List UInt8) :
    ∃ underWay', Tracks S client s (rs ++ new) outside
      ⟨{ c.holding (c.jobs ++ newJobs S client now new) with reading, unread }, s', taken⟩
      moves answered underWay' written := by
  have htasks := tasks_append S client s t.within new
  have hlength : (tasks S client s rs moves).tasks.length = rs.length := by
    rw [tasks, Pool.length_playAll, List.length_map]
  have hjobs : (newJobs S client now new).length = new.length := List.length_map ..
  refine ⟨underWay ++ (List.range' rs.length new.length).zip (newJobs S client now new), ?_⟩
  exact
  { state := by
      rw [htasks]
      exact t.state
    outside := t.outside
    farewell := t.farewell
    each := by
      have hrange : List.range (rs ++ new).length =
          List.range rs.length ++ List.range' rs.length new.length := by
        rw [List.length_append, List.range_eq_range', List.range_eq_range', ← List.range'_append_1,
          Nat.zero_add]
      rw [List.map_append, List.map_fst_zip (by simp [hjobs]), hrange, ← List.append_assoc]
      exact t.each.append_right _
    outcome := by
      intro a ha
      obtain ⟨r, outcome, hr, hanswer, hresponse⟩ := t.outcome a ha
      rw [htasks]
      exact ⟨r, outcome, getElem?_append_of_some hr new, answer?_append_of_some hanswer _ _,
        hresponse⟩
    rest := by
      intro u hu
      rw [htasks]
      obtain hu | hu := List.mem_append.mp hu
      · obtain ⟨r, hr, htask, hid⟩ := t.rest u hu
        exact ⟨r, getElem?_append_of_some hr new, getElem?_append_of_some htask _, hid⟩
      · obtain ⟨i, hi⟩ := List.mem_iff_getElem?.mp hu
        obtain ⟨hn, hjob⟩ := List.getElem?_zip_eq_some.mp hi
        rw [newJobs, List.getElem?_map] at hjob
        obtain ⟨r, hr, hjob⟩ := Option.map_eq_some_iff.mp hjob
        have hi : i < new.length := (List.getElem?_eq_some_iff.mp hr).1
        rw [List.getElem?_range' hi, Option.some.injEq, Nat.one_mul] at hn
        refine ⟨r, ?_, ?_, by rw [← hjob]⟩
        · rw [← hn, List.getElem?_append_right (Nat.le_add_right ..), Nat.add_sub_cancel_left]
          exact hr
        · rw [← hn, ← hjob, List.getElem?_append_right (by omega), hlength, Nat.add_sub_cancel_left,
            List.getElem?_map, hr]
          rfl
    jobs := by
      rw [List.map_append, List.map_snd_zip (by simp [hjobs]), t.jobs]
      rfl
    responses := t.responses
    output := t.output
    client := t.client
    writing := t.writing
    within := by
      intro n hn
      rw [List.length_append]
      exact Nat.lt_add_right _ (t.within n hn) }

/-! ### Turns -/

variable (S client s) in
lemma tasks_append_singleton (rs : List Request) (moves : List (Move σ)) (move : Move σ) :
    tasks S client s rs (moves ++ [move]) =
      (tasks S client s rs moves).play (S.release client) move :=
  Pool.playAll_append_singleton moves move

/-- The places of the requests that are not at turn. -/
lemma Accounts.others {pre post : List (Nat × Job σ)} {n : Nat} {job : Job σ}
    (a : Accounts S client s rs outside m moves answered (pre ++ (n, job) :: post) written) :
    (∀ b ∈ answered, n ≠ b.1) ∧ ∀ u ∈ pre ++ post, n ≠ u.1 := by
  have hnodup : (answered.map Prod.fst ++ (pre ++ (n, job) :: post).map Prod.fst).Nodup :=
    a.each.nodup_iff.mpr List.nodup_range
  have hperm : (answered.map Prod.fst ++ (pre ++ (n, job) :: post).map Prod.fst).Perm
      (n :: (answered.map Prod.fst ++ (pre ++ post).map Prod.fst)) := by
    simp only [List.map_append, List.map_cons, ← List.append_assoc]
    exact List.perm_middle
  obtain ⟨hn, -⟩ := List.nodup_cons.mp (hperm.nodup_iff.mp hnodup)
  simp only [List.mem_append, List.mem_map, not_or, not_exists, not_and] at hn
  refine ⟨fun b hb he => hn.1 b hb he.symm, fun u hu he => hn.2 u (List.mem_append.mp hu) he.symm⟩

/-- A task that has not ended goes on, and nothing but its own rest and the state changes. -/
lemma Tracks.goesOn {pre post : List (Nat × Job σ)} {n : Nat} {job : Job σ}
    (t : Tracks S client s rs outside ⟨c, s', taken⟩ moves answered (pre ++ (n, job) :: post)
      written)
    (job' : Job σ) (hid : job'.callId = job.callId)
    (hrest : job'.rest = (job.rest.advance (fun _ s => s) s').1) :
    Tracks S client s rs outside
      ⟨c.holding (pre.map Prod.snd ++ post.map Prod.snd ++ [job']),
        (job.rest.advance (fun _ s => s) s').2, taken⟩
      (moves ++ [.turn n]) answered (pre ++ post ++ [(n, job')]) written := by
  obtain ⟨hanswered, hunderWay⟩ := t.others
  obtain ⟨r, hr, htask, hcallId⟩ := t.rest (n, job) (by simp)
  have hstate : (tasks S client s rs moves).state = s' := t.state
  have hplay : tasks S client s rs (moves ++ [.turn n]) =
      (tasks S client s rs moves).step (fun _ s => s) n :=
    tasks_append_singleton S client s rs moves (.turn n)
  have hother (j : Nat) (hj : n ≠ j) : (tasks S client s rs (moves ++ [.turn n])).tasks[j]? =
      (tasks S client s rs moves).tasks[j]? := by
    rw [hplay, Pool.getElem?_step, if_neg hj]
  exact
  { state := by
      rw [hplay, Pool.step_of_some htask, hstate]
    outside := by
      rw [List.filterMap_append, t.outside]
      exact List.append_nil _
    farewell := by
      rw [List.countP_append, t.farewell]
      rfl
    each := by
      refine List.Perm.trans (List.Perm.append_left _ ?_) t.each
      rw [List.map_append, List.map_append, List.map_append, List.map_cons]
      exact (List.perm_append_singleton n _).trans List.perm_middle.symm
    outcome := by
      intro b hb
      obtain ⟨r, outcome, hr, hanswer, hresponse⟩ := t.outcome b hb
      refine ⟨r, outcome, hr, ?_, hresponse⟩
      rw [Pool.answer?, hother b.1 (hanswered b hb)]
      exact hanswer
    rest := by
      intro u hu
      obtain hu | hu := List.mem_append.mp hu
      · obtain ⟨r, hr, htask, hid⟩ := t.rest u (by
          obtain hu | hu := List.mem_append.mp hu <;> simp [hu])
        refine ⟨r, hr, ?_, hid⟩
        rw [hother u.1 (hunderWay u hu), htask]
      · obtain rfl := List.mem_singleton.mp hu
        refine ⟨r, hr, ?_, hid.trans hcallId⟩
        rw [hplay, Pool.getElem?_step, if_pos rfl, htask, hstate, hrest]
        rfl
    jobs := by simp [Connection.holding]
    responses := t.responses
    output := t.output
    client := t.client
    writing := t.writing
    within := by
      intro i hi
      obtain hi | hi := List.mem_append.mp hi
      · exact t.within i hi
      · obtain rfl := Move.turn.inj (List.mem_singleton.mp hi)
        exact (List.getElem?_eq_some_iff.mp hr).1 }

/-- The response to a task that has ended waits to be written. -/
lemma Tracks.ends {pre post : List (Nat × Job σ)} {n : Nat} {job : Job σ}
    {outcome : Except MethodError (List UInt8)}
    (t : Tracks S client s rs outside ⟨c, s', taken⟩ moves answered (pre ++ (n, job) :: post)
      written) (hrest : job.rest = .done outcome) :
    Tracks S client s rs outside
      ⟨(c.holding (pre.map Prod.snd ++ post.map Prod.snd)).respond ⟨job.callId, .response outcome⟩,
        s', taken⟩
      moves (answered ++ [(n, ⟨job.callId, .response outcome⟩)]) (pre ++ post) written := by
  obtain ⟨r, hr, htask, hcallId⟩ := t.rest (n, job) (by simp)
  exact
  { state := t.state
    outside := t.outside
    farewell := t.farewell
    each := by
      refine List.Perm.trans ?_ t.each
      simp only [List.map_append, List.map_cons, List.map_nil, List.append_assoc,
        List.singleton_append]
      exact List.Perm.append_left _ List.perm_middle.symm
    outcome := by
      intro b hb
      obtain hb | hb := List.mem_append.mp hb
      · exact t.outcome b hb
      · obtain rfl := List.mem_singleton.mp hb
        refine ⟨r, outcome, hr, ?_, by rw [Request.response, ← hcallId]⟩
        rw [Pool.answer?, htask, hrest]
        rfl
    rest := by
      intro u hu
      exact t.rest u (by obtain hu | hu := List.mem_append.mp hu <;> simp [hu])
    jobs := by simp [Connection.holding, Connection.respond]
    responses := by
      have hresponses := t.responses
      simp only [Connection.holding, Connection.respond, List.map_append, hresponses]
      simp
    output := t.output
    client := t.client
    writing := t.writing
    within := t.within }

lemma Tracks.turn (t : Tracks S client s rs outside m moves answered underWay written)
    (now i : Nat) :
    ∃ moves' answered' underWay',
      Tracks S client s rs outside (m.step S (.turn now i)) moves' answered' underWay' written := by
  obtain ⟨c, s', taken⟩ := m
  have hjobs : underWay.map Prod.snd = c.jobs := t.jobs
  by_cases hi : i < underWay.length
  · obtain ⟨pre, post, ⟨n, job⟩, hsplit, rfl⟩ :
        ∃ pre post u, underWay = pre ++ u :: post ∧ pre.length = i :=
      ⟨underWay.take i, underWay.drop (i + 1), underWay[i], by simp, by simp [Nat.le_of_lt hi]⟩
    subst hsplit
    have hc : c = c.holding (pre.map Prod.snd ++ job :: post.map Prod.snd) := by
      rw [List.map_append, List.map_cons] at hjobs
      rw [hjobs]
      rfl
    have hstep := turn_middle (S := S) now c s' taken (pre.map Prod.snd) (post.map Prod.snd) job
    rw [← hc, List.length_map] at hstep
    rw [hstep]
    cases hrest : job.rest with
    | done outcome => exact ⟨_, _, _, t.ends hrest⟩
    | act update resume =>
      have hgoes := t.goesOn { job with rest := resume s' } rfl (by rw [hrest]; rfl)
      rw [hrest] at hgoes
      exact ⟨_, _, _, hgoes⟩
    | sleep ms rest =>
      have hgoes := t.goesOn { job with due := now + ms, rest } rfl (by rw [hrest]; rfl)
      rw [hrest] at hgoes
      exact ⟨_, _, _, hgoes⟩
  · -- There is no such job.
    have hnone : c.jobs[i]? = none := by
      rw [← hjobs, List.getElem?_eq_none_iff, List.length_map]
      exact Nat.not_lt.mp hi
    have hstep : (Service.mk c s' taken).step S (.turn now i) = ⟨c, s', taken⟩ := by
      simp only [step, Connection.turn, hnone]
    rw [hstep]
    exact ⟨_, _, _, t⟩

/-! ### The writer, the client and the farewell -/

lemma Tracks.write (t : Tracks S client s rs outside m moves answered underWay written)
    (hlo : 1024 ≤ S.frameLimit) (hhi : S.frameLimit < UInt64.size)
    (hsize : ∀ f ∈ m.connection.responses, f.encoding.length < UInt64.size) :
    ∃ written',
      Tracks S client s rs outside (m.step S .write) moves answered underWay written' := by
  obtain ⟨c, s', taken⟩ := m
  have hwriting : c.writing = true := t.writing
  cases hresponses : c.responses with
  | nil =>
    have hstep : (Service.mk c s' taken).step S .write = ⟨c, s', taken⟩ := by
      simp only [step, Connection.writeNext, hresponses, hwriting]
    rw [hstep]
    exact ⟨_, t⟩
  | cons f rest =>
    obtain ⟨bs, hbs⟩ := Connection.exists_write_standing hlo hhi
      (hsize f (by simp [hresponses]))
    have hstep : (Service.mk c s' taken).step S .write =
        ⟨{ c with responses := rest, output := c.output ++ bs }, s', taken⟩ := by
      simp only [step, Connection.writeNext, hresponses, hwriting, Connection.responseBytes_eq, hbs]
    rw [hstep]
    refine ⟨written ++ [f], { t with responses := ?_, output := ?_ }⟩
    · rw [t.responses]
      simp [hresponses]
    · rw [List.map_append, List.map_singleton, Frame.writeAll_append_singleton hbs, t.output]
      simp

lemma Tracks.finish (t : Tracks S client s rs outside m moves answered underWay written) :
    ∃ moves',
      Tracks S client s rs outside (m.step S .finish) moves' answered underWay written := by
  obtain ⟨c, s', taken⟩ := m
  cases hdone : c.isDone && !c.ended with
  | false =>
    have hstep : (Service.mk c s' taken).step S .finish = ⟨c, s', taken⟩ := by
      simp [step, Connection.finish, hdone]
    rw [hstep]
    exact ⟨_, t⟩
  | true =>
    have hclient : c.client = client := t.client
    have hopen : c.ended = false := by
      simp only [Bool.and_eq_true, Bool.not_eq_true'] at hdone
      exact hdone.2
    have hstep : (Service.mk c s' taken).step S .finish =
        ⟨{ c with ended := true }, S.release client s', taken⟩ := by
      simp [step, Connection.finish, hdone, hclient]
    have hplay := tasks_append_singleton S client s rs moves .farewell
    have hstate : (tasks S client s rs moves).state = s' := t.state
    rw [hstep]
    refine ⟨moves ++ [.farewell], { t with
      state := ?_, outside := ?_, farewell := ?_, outcome := ?_, rest := ?_, within := ?_ }⟩
    · rw [hplay, Pool.play, hstate]
    · rw [List.filterMap_append, t.outside]
      exact List.append_nil _
    · rw [List.countP_append, t.farewell]
      simp [hopen, Move.isFarewell]
    · rw [hplay]
      exact t.outcome
    · rw [hplay]
      exact t.rest
    · intro n hn
      obtain hn | hn := List.mem_append.mp hn
      · exact t.within n hn
      · cases List.mem_singleton.mp hn

lemma Tracks.take (t : Tracks S client s rs outside m moves answered underWay written) :
    Tracks S client s rs outside (m.step S .take) moves answered underWay written :=
  { t with
    output := by
      rw [t.output]
      simp [step, Connection.take] }

lemma Tracks.elsewhere (t : Tracks S client s rs outside m moves answered underWay written)
    (f : σ → σ) :
    Tracks S client s rs (outside ++ [f]) (m.step S (.elsewhere f)) (moves ++ [.elsewhere f])
      answered underWay written := by
  have hplay := tasks_append_singleton S client s rs moves (.elsewhere f)
  refine { t with
    state := ?_, outside := ?_, farewell := ?_, outcome := ?_, rest := ?_, within := ?_ }
  · rw [hplay, Pool.play, t.state]
    rfl
  · rw [List.filterMap_append, t.outside]
    rfl
  · rw [List.countP_append, t.farewell]
    rfl
  · rw [hplay]
    exact t.outcome
  · rw [hplay]
    exact t.rest
  · intro n hn
    obtain hn | hn := List.mem_append.mp hn
    · exact t.within n hn
    · cases List.mem_singleton.mp hn

end Service

end Call

end PathPolicy
