import PathPolicy.Proofs.ForwardingTurns
import Mathlib.Data.List.Perm.Subperm
import Mathlib.Data.Set.Function

/-!
# Forwarded notices reach the tracer once

Any number of sources forward to one tracer through one server, their turns in any order. The
tracer is told each source's notices in order and once, but those that are refused, each id under
one of the server's own.
-/

namespace PathPolicy.Remote

open Telemetry Procedure Call

namespace Forwarding

variable {τ : Type}

/-- A client of the server, and what it forwards. -/
structure Source where
  client : ClientId
  limit : Nat
  calls : List Notice

/-- What the tracer behind the server has been told. -/
def told (s : Forwarding τ) : List Notice := s.service.2.1.map Prod.snd

/-- Each source has a client of its own, whose connection is up, and registers no id twice. The
server has ids for all that is registered, and all frames fit. -/
structure Attached (T : Tracer τ) (base : Server (Serving τ)) (sources : List Source)
    (clients : ClientId → Client) : Prop where
  distinct : (sources.map Source.client).Nodup
  quiet : ∀ src ∈ sources, (clients src.client).Quiet src.limit
  once : ∀ src ∈ sources, (requested src.calls).Nodup
  few : (sources.flatMap fun src => requested src.calls).length ≤ UInt64.size
  fits : ∀ src ∈ sources, ∀ n ∈ src.calls, Fits T base src.limit src.client n

/-- What the tracer was told of a source whose first calls were answered `answers`: those that were
not refused, and perhaps the call under way. -/
structure Source.Forwards (src : Source) (answers : List (Except PolicyError Unit))
    (told : List Notice) : Prop where
  answered : answers.length ≤ src.calls.length
  refused : ∀ before n o after, src.calls.zip answers = before ++ (n, o) :: after →
    ∀ e, refusal (succeeded before) n = some e → o = .error e
  told : told = heard [] (src.calls.zip answers) ∨
    ∃ n, src.calls[answers.length]? = some n ∧
      refusal (succeeded (src.calls.zip answers)) n = none ∧
      told = heard [] (src.calls.zip answers) ++ [n]

variable (T : Tracer τ) (base : Server (Serving τ)) (sources : List Source)

def start (clients : ClientId → Client) (t : τ) : Pool (Forwarding τ) Unit :=
  ⟨sources.map fun src => forwarding T base src.client src.calls,
    ⟨clients, ({}, [], t), fun _ => []⟩⟩

/-- What is known once some turns have been taken. -/
structure Kept (w : Record) (pool : Pool (Forwarding τ) Unit) : Prop where
  tallies : Tallies w pool.state.service
  length : pool.tasks.length = sources.length
  follows : ∀ (i : Nat) (src : Source), sources[i]? = some src →
    ∃ task past todo p, pool.tasks[i]? = some task ∧
      Follows T base src.limit src.client src.calls w pool.state past todo p task
  others : ∀ c, c ∉ sources.map Source.client → entriesOf c w.issued = []

variable {T base sources} {clients : ClientId → Client} {w : Record}
  {pool : Pool (Forwarding τ) Unit}

lemma kept_start (h : Attached T base sources clients) (t : τ) :
    Kept T base sources {} (start T base sources clients t) where
  tallies := by
    refine ⟨rfl, rfl, fun c id => rfl, List.nodup_nil, by decide, ?_, ?_⟩
    · intro entry hentry
      cases hentry
    · intro entry hentry
      cases hentry
  length := List.length_map _
  follows := by
    intro i src hi
    refine ⟨_, [], src.calls, {}, by rw [start, List.getElem?_map, hi]; rfl, ?_⟩
    have hquiet := h.quiet src (List.mem_of_getElem? hi)
    refine ⟨rfl, rfl, ?_, rfl, rfl, rfl, .idle hquiet src.calls⟩
    intro before n o after hsplit
    exact absurd hsplit (by simp)
  others _ _ := rfl

lemma Kept.mem_clients (h : Kept T base sources w pool) {x : ClientId × TracingId}
    (hx : x ∈ w.issued) : x.1 ∈ sources.map Source.client := by
  by_contra hnot
  have hown := mem_entriesOf.mpr hx
  rw [h.others x.1 hnot] at hown
  cases hown

/-- There are ids left for a registration. -/
lemma Kept.room (h : Kept T base sources w pool)
    (hfew : (sources.flatMap fun src => requested src.calls).length ≤ UInt64.size) {src : Source}
    (hsrc : src ∈ sources) {id : TracingId} (hid : id ∈ requested src.calls)
    (hfresh : (src.client, id) ∉ w.issued) : w.issued.length + 1 ≤ UInt64.size := by
  let all : List (ClientId × TracingId) :=
    sources.flatMap fun src => (requested src.calls).map fun id => (src.client, id)
  have hall {src : Source} (hsrc : src ∈ sources) {id : TracingId}
      (hid : id ∈ requested src.calls) : (src.client, id) ∈ all :=
    List.mem_flatMap.mpr ⟨src, hsrc, List.mem_map_of_mem hid⟩
  have hlength : all.length = (sources.flatMap fun src => requested src.calls).length := by
    simp [all, List.length_flatMap]
  have hsub : ((src.client, id) :: w.issued) ⊆ all := by
    intro x hx
    obtain rfl | hx := List.mem_cons.mp hx
    · exact hall hsrc hid
    · obtain ⟨c, id'⟩ := x
      obtain ⟨src', hsrc', rfl⟩ := List.mem_map.mp (h.mem_clients hx)
      obtain ⟨i, hi⟩ := List.getElem?_of_mem hsrc'
      obtain ⟨_, _, _, _, -, hfollows⟩ := h.follows i src' hi
      exact hall hsrc' (hfollows.mem_requested hx)
  have hnodup : ((src.client, id) :: w.issued).Nodup :=
    List.nodup_cons.mpr ⟨hfresh, h.tallies.distinct⟩
  have hle := (List.subperm_of_subset hnodup hsub).length_le
  rw [List.length_cons, hlength] at hle
  omega

lemma client_ne (h : (sources.map Source.client).Nodup) {i j : Nat} {src src' : Source}
    (hi : sources[i]? = some src) (hj : sources[j]? = some src') (hij : i ≠ j) :
    src.client ≠ src'.client := by
  intro hsame
  have hi' : (sources.map Source.client)[i]? = some src.client := by
    rw [List.getElem?_map, hi]
    rfl
  have hj' : (sources.map Source.client)[j]? = some src.client := by
    rw [List.getElem?_map, hj, hsame]
    rfl
  have hlt : i < (sources.map Source.client).length := (List.getElem?_eq_some_iff.mp hi').1
  exact hij ((List.getElem?_inj hlt h).mp (hi'.trans hj'.symm))

lemma Kept.step (hsources : Attached T base sources clients) (elapse : Nat → τ → τ)
    (h : Kept T base sources w pool) (i : Nat) :
    ∃ w', Kept T base sources w' (pool.step (elapsed elapse) i) := by
  cases hi : sources[i]? with
  | none =>
    have hnone : pool.tasks[i]? = none := by
      rw [List.getElem?_eq_none_iff] at hi ⊢
      rwa [h.length]
    rw [Pool.step_of_none hnone]
    exact ⟨w, h⟩
  | some src =>
    have hsrc : src ∈ sources := List.mem_of_getElem? hi
    obtain ⟨task, past, todo, p, htask, hfollows⟩ := h.follows i src hi
    cases hanswer : task.answer? with
    | some a =>
      have hdone : pool.answer? i = some a := by
        rw [Pool.answer?, htask]
        exact hanswer
      rw [Pool.step_of_answered hdone]
      exact ⟨w, h⟩
    | none =>
      obtain ⟨w', ⟨n, r, r', hgrows⟩, htallies, hself, hclients, hanswers⟩ :=
        hfollows.advance h.tallies hanswer (hsources.fits src hsrc) (hsources.once src hsrc)
          (fun id hid hfresh => h.room hsources.few hsrc hid hfresh) elapse
      have hothers : ∀ c, c ∉ sources.map Source.client → entriesOf c w'.issued = [] := by
        intro c hc
        have hne : src.client ≠ c := by
          intro hsame
          apply hc
          rw [← hsame]
          exact List.mem_map_of_mem hsrc
        rw [(hgrows.elsewhere hne).2.1]
        exact h.others c hc
      rw [Pool.step_of_some htask]
      refine ⟨w', htallies, (List.length_set ..).trans h.length, ?_, hothers⟩
      intro j src' hj
      rw [List.getElem?_set]
      by_cases hij : i = j
      · subst hij
        obtain rfl := Option.some.inj (hi.symm.trans hj)
        obtain ⟨past', todo', p', hfollows'⟩ := hself
        have hlt : i < pool.tasks.length := (List.getElem?_eq_some_iff.mp htask).1
        rw [if_pos rfl, if_pos hlt]
        exact ⟨_, past', todo', p', rfl, hfollows'⟩
      · obtain ⟨task', past', todo', p', htask', hfollows'⟩ := h.follows j src' hj
        have hne := client_ne hsources.distinct hi hj hij
        have hwaits := hfollows'.wait hne hgrows (hclients _ hne.symm) (hanswers _ hne.symm)
        rw [if_neg hij]
        exact ⟨task', past', todo', p', htask', hwaits⟩

lemma Kept.run (hsources : Attached T base sources clients) (elapse : Nat → τ → τ)
    (h : Kept T base sources w pool) (turns : List Nat) :
    ∃ w', Kept T base sources w' (pool.run (elapsed elapse) turns) := by
  induction turns generalizing w pool with
  | nil => exact ⟨w, h⟩
  | cons i turns ih =>
    obtain ⟨w', h'⟩ := h.step hsources elapse i
    exact ih h'

lemma Kept.finished (h : Kept T base sources w pool)
    (hdone : ∀ i < pool.tasks.length, ∃ a, pool.answer? i = some a) {src : Source}
    (hsrc : src ∈ sources) : (pool.state.answers src.client).length = src.calls.length := by
  obtain ⟨i, hi⟩ := List.getElem?_of_mem hsrc
  obtain ⟨task, past, todo, p, htask, hfollows⟩ := h.follows i src hi
  have hlt : i < pool.tasks.length := (List.getElem?_eq_some_iff.mp htask).1
  obtain ⟨a, ha⟩ := hdone i hlt
  have hanswer : task.answer? = some () := by
    rw [Pool.answer?, htask] at ha
    exact ha
  have htodo := hfollows.finished hanswer
  rw [← hfollows.answers, ← hfollows.calls, htodo, List.append_nil, List.length_map,
    List.length_map]

/-! ### What the tracer is told -/

lemma Follows.forwards {s : Forwarding τ} {src : Source} {past : Past} {todo : List Notice}
    {p : Progress} {task : Procedure (Forwarding τ) Unit}
    (h : Follows T base src.limit src.client src.calls w s past todo p task) :
    src.Forwards (s.answers src.client) (entriesOf src.client w.log) := by
  have hpast : src.calls.zip (s.answers src.client) = past := by
    rw [← h.calls, ← h.answers, ← List.append_nil (past.map Prod.snd),
      List.zip_append (by simp), List.zip_nil_right, List.append_nil, List.zip_map']
    exact List.map_id past
  have hlength : (s.answers src.client).length = past.length := by
    rw [← h.answers, List.length_map]
  refine ⟨?_, hpast ▸ h.refused, ?_⟩
  · rw [hlength, ← h.calls, List.length_append, List.length_map]
    omega
  · rw [hpast, hlength, h.log]
    cases hp : p.told with
    | false => exact .inl (List.append_nil _)
    | true =>
      obtain ⟨n, ns, rfl, hn⟩ := h.told hp
      exact .inr ⟨n, by simp [← h.calls], hn, rfl⟩

/-- Whatever turns the sources take, the tracer has been told what they forward: of each source the
notices that were not refused, in order and once, with nothing changed but the id, which is replaced
by another for each id of each source. Those that were refused were answered so. All sources can go
on until every call is answered. -/
theorem told_once (hsources : Attached T base sources clients) (elapse : Nat → τ → τ) (t : τ)
    (turns : List Nat) :
    let run := (start T base sources clients t).run (elapsed elapse)
    (∃ (log : List (ClientId × Notice)) (rename : ClientId × TracingId → TracingId),
      told (run turns).state = log.map (fun x => x.2.under (rename (x.1, x.2.id))) ∧
      Set.InjOn rename {x | ∃ n, (x.1, n) ∈ log ∧ n.id = x.2} ∧
      (∀ x ∈ log, x.1 ∈ sources.map Source.client) ∧
      ∀ src ∈ sources,
        src.Forwards ((run turns).state.answers src.client) (entriesOf src.client log)) ∧
    ∃ more, ∀ src ∈ sources,
      ((run (turns ++ more)).state.answers src.client).length = src.calls.length := by
  intro run
  have hstart := kept_start hsources t
  constructor
  · obtain ⟨w, hkept⟩ := hstart.run hsources elapse turns
    refine ⟨w.log, w.renaming, hkept.tallies.told, ?_, ?_, ?_⟩
    · apply hkept.tallies.injOn_renaming.mono
      rintro ⟨c, id⟩ ⟨n, hn, rfl⟩
      exact hkept.tallies.logged (c, n) hn
    · intro x hx
      exact hkept.mem_clients (hkept.tallies.logged x hx)
    · intro src hsrc
      obtain ⟨i, hi⟩ := List.getElem?_of_mem hsrc
      obtain ⟨_, _, _, _, -, hfollows⟩ := hkept.follows i src hi
      exact hfollows.forwards
  · obtain ⟨more, hmore⟩ := Pool.exists_all_answered (elapsed elapse) (run turns)
    have hrun : run (turns ++ more) = (run turns).run (elapsed elapse) more := List.foldl_append
    obtain ⟨w, hkept⟩ := hstart.run hsources elapse (turns ++ more)
    refine ⟨more, ?_⟩
    intro src hsrc
    apply hkept.finished _ hsrc
    intro i hi
    have hi' : i < (run turns).tasks.length := by
      rw [Pool.length_tasks_run] at hi ⊢
      exact hi
    obtain ⟨a, ha⟩ := hmore i hi'
    rw [← hrun] at ha
    exact ⟨a, ha⟩

/-- Two sources use the same ids. The tracer has no room for connections of servers, so an event of
such a connection is refused; and one event is of a time before the epoch. -/
theorem told_once_sameIds :
    let full : PolicyError := .call (.connectionLost "full")
    let T : Tracer Unit :=
      ⟨fun _ side _ => .done (if side = .server then .error full else .ok ()),
        fun _ _ => .done (.ok ())⟩
    let first : List Notice := [.registered ⟨1⟩ .client ⟨[0xa0]⟩, .recorded ⟨1⟩ .close,
      .recorded ⟨1⟩ (.setLossTimer .pto .initial ⟨-1, 0⟩)]
    let second : List Notice := [.registered ⟨1⟩ .client ⟨[0xb0]⟩,
      .registered ⟨2⟩ .server ⟨[0xb1]⟩, .recorded ⟨2⟩ .close, .recorded ⟨1⟩ (.debug "k" "v")]
    let sources : List Source := [⟨⟨1⟩, 512, first⟩, ⟨⟨2⟩, 512, second⟩]
    let base : Server (Serving Unit) := { frameLimit := 512 }
    let clients : ClientId → Client := fun _ => { frameLimit := 512 }
    let turns := (List.replicate 25 [1, 0]).flatten
    let s := ((start T base sources clients ()).run (elapsed fun _ s => s) turns).state
    Attached T base sources clients ∧
      told s = [.registered ⟨1⟩ .client ⟨[0xb0]⟩, .registered ⟨2⟩ .client ⟨[0xa0]⟩,
        .registered ⟨3⟩ .server ⟨[0xb1]⟩, .recorded ⟨2⟩ .close, .recorded ⟨1⟩ (.debug "k" "v")] ∧
      s.answers ⟨1⟩ = [.ok (), .ok (),
        .error (.call (.encode "request" "SystemTime must be later than UNIX_EPOCH"))] ∧
      s.answers ⟨2⟩ = [.ok (),
        .error (.call (.method "ConnectionTracer.NewTracerForConnection" full.toMethodError)),
        .error (.call (.method "ConnectionTracer.Close" ⟨.unknownTracingId,
          "ConnectionTracer.Close: tracing id 2 was never registered"⟩)), .ok ()] ∧
      ∃ (log : List (ClientId × Notice)) (rename : ClientId × TracingId → TracingId),
        told s = log.map (fun x => x.2.under (rename (x.1, x.2.id))) ∧
        ∀ src ∈ sources, src.Forwards (s.answers src.client) (entriesOf src.client log) := by
  intro full T first second sources base clients turns s
  have hlimit : ∀ src ∈ sources, src.limit = 512 := by decide
  have hserver : (tracerServer T base).frameLimit = 512 := rfl
  have hrequest : ∀ src ∈ sources, ∀ n ∈ src.calls,
      ∀ payload ∈ (Codec.tracerMessage.encode n.message).toOption,
        Codec.requestLength n.method payload ≤ 512 := by decide +kernel
  have hunknown : ∀ src ∈ sources, ∀ n ∈ src.calls,
      28 + (MethodError.unknownTracingId n.method n.id).message.utf8ByteSize ≤ 512 := by
    decide +kernel
  have hfull : 28 + full.toMethodError.message.utf8ByteSize ≤ 512 := by decide +kernel
  have hattached : Attached T base sources clients := by
    refine ⟨by decide, fun src hsrc => ?_, by decide, by decide, fun src hsrc n hn => ?_⟩
    · rw [hlimit src hsrc]
      exact Client.quiet_new "" 512
    · rw [hlimit src hsrc]
      refine fits_of_size (Nat.le_refl 512) (Nat.le_of_eq hserver.symm) (by decide)
        (hrequest src hsrc n hn) (fun i e he => ?_) (hunknown src hsrc n hn)
      cases n with
      | recorded => cases he
      | registered id side odcid =>
        cases side with
        | client => cases he
        | server => exact Except.error.inj he ▸ hfull
  obtain ⟨⟨log, rename, htold, -, -, hforwards⟩, -⟩ :=
    told_once hattached (fun _ s => s) () turns
  refine ⟨hattached, by decide +kernel, by decide +kernel, by decide +kernel, log, rename, ?_⟩
  -- The run is not to be unfolded here.
  with_reducible exact ⟨htold, hforwards⟩

end Forwarding

end PathPolicy.Remote
