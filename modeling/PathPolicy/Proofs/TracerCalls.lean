import PathPolicy.Proofs.Interleaving
import PathPolicy.Remote.TracerService

/-!
# Calls to a tracer service

Registrations, events and departures of clients act on one book of connections. Everything the
tracer behind the service is told goes into a journal, under the number of the call it is told for.
`Stage` lists how far a call can have come, and `Stage.advance` says all that one turn of it can do
to the book, to the journal and to itself.
-/

namespace PathPolicy

namespace Procedure

variable {ρ σ τ α β : Type}

lemma advance_within_second {elapse : Nat → τ → τ} (p : Procedure τ α) (s : ρ × τ) :
    (p.within .second).advance (beside elapse) s =
      ((p.advance elapse s.2).1.within .second, (s.1, (p.advance elapse s.2).2)) := by
  cases p <;> rfl

lemma answer?_within {p : Procedure τ α} (place : Place σ τ) :
    (p.within place).answer? = p.answer? := by
  cases p <;> rfl

end Procedure

namespace Remote

open Telemetry Procedure

variable {τ α : Type}

/-- What a tracer is told. -/
inductive Notice
  | registered (id : TracingId) (side : Perspective) (odcid : ConnectionId)
  | recorded (id : TracingId) (e : ConnectionEvent)
  deriving DecidableEq

/-- What a tracer was told, with the numbers of the calls it was told for. -/
abbrev Journal := List (Nat × Notice)

def Journal.told (j : Journal) (i : Nat) : List Notice :=
  (j.filter fun entry => entry.1 = i).map Prod.snd

/-- The state of a tracer service: its book, the journal, and what the tracer itself keeps. -/
abbrev Serving (τ : Type) := ConnectionBook × Journal × τ

abbrev ServiceTask (τ : Type) := Procedure (Serving τ) (Except MethodError Unit)

def note (i : Nat) (n : Notice) (s : Journal × τ) : Journal × τ := (s.1 ++ [(i, n)], s.2)

/-- A tracer that is also noted down. -/
def noting (T : Tracer τ) (i : Nat) : Tracer (Journal × τ) where
  register id side odcid := .act (note i (.registered id side odcid)) fun _ =>
    (T.register id side odcid).within .second
  record id e := .act (note i (.recorded id e)) fun _ => (T.record id e).within .second

/-- What clients can do to a tracer service. -/
inductive TracerCall
  | register (c : ClientId) (m : TracerMessage)
  | event (c : ClientId) (k : EventKind) (m : TracerMessage)
  | release (c : ClientId)

namespace TracerCall

def isRegistration : TracerCall → Bool
  | .register .. => true
  | _ => false

def serve (T : Tracer τ) (i : Nat) : TracerCall → ServiceTask τ
  | .register c m => serveRegistration ((noting T i).within .second) .first c m
  | .event c k m => serveEvent ((noting T i).within .second) .first k c m
  | .release c => .act (Place.first.modify (·.release c)) fun _ => .done (.ok ())

end TracerCall

/-- A call that was settled may have changed which ids are known. -/
inductive Change
  | registered (c : ClientId) (id issued : TracingId)
  | released (c : ClientId)

def Change.apply (b : ConnectionBook) : Change → ConnectionBook
  | .registered c id issued => b.insert c id issued
  | .released c => b.release c

/-- What the settling of a call changes: a registration that succeeds makes the caller's id known
under the id that the tracer was told. -/
def TracerCall.change? :
    TracerCall → List Notice → Option (Except MethodError Unit) → Option Change
  | .register c m, [.registered issued _ _], some (.ok ()) =>
    m.tracingId.map fun id => .registered c id issued
  | .release c, _, some _ => some (.released c)
  | _, _, _ => none

/-! ### How far a call has come -/

/-- The procedure of the tracer, on its own part of the state. -/
def asking (q : Procedure τ α) : Procedure (Serving τ) α := (q.within .second).within .second

/-- What is left of a registration once the tracer has answered. -/
def settle (c : ClientId) (callerId issued : TracingId) :
    Except PolicyError Unit → ServiceTask τ
  | .error e => .done (.error e.toMethodError)
  | .ok () => .act (Place.first.modify (·.insert c callerId issued)) fun _ => .done (.ok ())

/-- What is left of an event once the tracer has answered. -/
def report (o : Except PolicyError Unit) : ServiceTask τ :=
  .done (o.mapError PolicyError.toMethodError)

/-- Tells the tracer and goes on with its answer. -/
def tell (i : Nat) (n : Notice) (q : Procedure τ α)
    (k : α → ServiceTask τ) : ServiceTask τ :=
  .act (Place.second.modify (note i n)) fun _ => (asking q).bind k

/-- The message has all that a registration needs. -/
structure Registers (m : TracerMessage) (callerId : TracingId) (side : Perspective)
    (odcid : ConnectionId) : Prop where
  tracingId : m.tracingId = some callerId
  perspective : m.perspective = some side
  odcid : m.odcid = some odcid

/-- The message has all that an event of the kind needs. -/
structure Reports (m : TracerMessage) (k : EventKind) (callerId : TracingId)
    (e : ConnectionEvent) : Prop where
  tracingId : m.tracingId = some callerId
  event : m.toEvent? k = .ok e

section Serve

variable {T : Tracer τ} {i : Nat} {c : ClientId} {m : TracerMessage} {callerId : TracingId}

lemma serve_register {side : Perspective} {odcid : ConnectionId}
    (h : Registers m callerId side odcid) :
    (TracerCall.register c m).serve T i = .act (Place.first.modify fun b => b.issue.2) fun s =>
      tell i (.registered s.1.issue.1 side odcid) (T.register s.1.issue.1 side odcid)
        (settle c callerId s.1.issue.1) := by
  simp only [TracerCall.serve, serveRegistration, h.tracingId, h.perspective, h.odcid]
  refine congrArg (Procedure.act _) (funext fun s => ?_)
  refine congrArg (Procedure.act _) (funext fun s' => ?_)
  refine congrArg (Procedure.bind _) (funext fun o => ?_)
  cases o <;> rfl

lemma registers_or_refused (T : Tracer τ) (i : Nat) (c : ClientId) (m : TracerMessage) :
    (∃ callerId side odcid, Registers m callerId side odcid) ∨
      ∃ e, (TracerCall.register c m).serve T i = .done (.error e) := by
  simp only [TracerCall.serve, serveRegistration]
  cases hid : m.tracingId with
  | none => exact .inr ⟨_, rfl⟩
  | some callerId =>
    cases hside : m.perspective with
    | none => exact .inr ⟨_, rfl⟩
    | some side =>
      cases hodcid : m.odcid with
      | none => exact .inr ⟨_, rfl⟩
      | some odcid => exact .inl ⟨callerId, side, odcid, hid, hside, hodcid⟩

/-- What is left of an event once its id has been looked up. -/
def pass (T : Tracer τ) (i : Nat) (k : EventKind) (callerId : TracingId) (e : ConnectionEvent) :
    Option TracingId → ServiceTask τ
  | none => .done (.error (.unknownTracingId (TracerMessage.methodFor k) callerId))
  | some issued => tell i (.recorded issued e) (T.record issued e) report

lemma serve_event {k : EventKind} {e : ConnectionEvent} (h : Reports m k callerId e) :
    (TracerCall.event c k m).serve T i =
      .act id fun s => pass T i k callerId e (s.1.connections.get? (c, callerId)) := by
  simp only [TracerCall.serve, serveEvent, h.tracingId, h.event]
  refine congrArg (Procedure.act _) (funext fun s => ?_)
  cases hs : s.1.connections.get? (c, callerId) with
  | none =>
    simp only [Place.first, hs]
    rfl
  | some issued =>
    simp only [Place.first, hs]
    rfl

lemma reports_or_refused (T : Tracer τ) (i : Nat) (c : ClientId) (k : EventKind)
    (m : TracerMessage) :
    (∃ callerId e, Reports m k callerId e) ∨
      ∃ e, (TracerCall.event c k m).serve T i = .done (.error e) := by
  simp only [TracerCall.serve, serveEvent]
  cases hid : m.tracingId with
  | none => exact .inr ⟨_, rfl⟩
  | some callerId =>
    cases he : m.toEvent? k with
    | error e => exact .inr ⟨_, rfl⟩
    | ok e => exact .inl ⟨callerId, e, hid, he⟩

end Serve

/-- How far an event has come whose id was looked up, and found to be known or not: whether it had
a turn since, what the tracer was told for it, and what is left to do. -/
inductive Passing (T : Tracer τ) (i : Nat) (k : EventKind) (callerId : TracingId)
    (e : ConnectionEvent) : Option TracingId → Bool → List Notice → ServiceTask τ → Prop
  | unknown (turned : Bool) :
    Passing T i k callerId e none turned []
      (.done (.error (.unknownTracingId (TracerMessage.methodFor k) callerId)))
  | looked (issued : TracingId) :
    Passing T i k callerId e (some issued) false []
      (tell i (.recorded issued e) (T.record issued e) report)
  | told (issued : TracingId) (q : Procedure τ (Except PolicyError Unit)) :
    Passing T i k callerId e (some issued) true [.recorded issued e] ((asking q).bind report)

lemma passing_pass (T : Tracer τ) (i : Nat) (k : EventKind) (callerId : TracingId)
    (e : ConnectionEvent) (known : Option TracingId) :
    Passing T i k callerId e known false [] (pass T i k callerId e known) := by
  cases known with
  | none => exact .unknown false
  | some issued => exact .looked issued

/-- How far a call has come: the id issued for it, what the tracer was told for it, and what is
left to do. -/
inductive Stage (T : Tracer τ) (i : Nat) : TracerCall → Option TracingId → List Notice →
    ServiceTask τ → Prop
  | fresh (call : TracerCall) : Stage T i call none [] (call.serve T i)
  | issued {c : ClientId} {m : TracerMessage} {callerId : TracingId} {side : Perspective}
      {odcid : ConnectionId} (h : Registers m callerId side odcid) (issued : TracingId) :
    Stage T i (.register c m) (some issued) []
      (tell i (.registered issued side odcid) (T.register issued side odcid)
        (settle c callerId issued))
  | waiting {c : ClientId} {m : TracerMessage} {callerId : TracingId} {side : Perspective}
      {odcid : ConnectionId} (h : Registers m callerId side odcid) (issued : TracingId)
      (q : Procedure τ (Except PolicyError Unit)) :
    Stage T i (.register c m) (some issued) [.registered issued side odcid]
      ((asking q).bind (settle c callerId issued))
  | registered {c : ClientId} {m : TracerMessage} {callerId : TracingId} {side : Perspective}
      {odcid : ConnectionId} (h : Registers m callerId side odcid) (issued : TracingId) :
    Stage T i (.register c m) (some issued) [.registered issued side odcid] (.done (.ok ()))
  | passing {c : ClientId} {k : EventKind} {m : TracerMessage} {callerId : TracingId}
      {e : ConnectionEvent} {known : Option TracingId} {turned : Bool} {told : List Notice}
      {task : ServiceTask τ} (h : Passing T i k callerId e known turned told task) :
    Stage T i (.event c k m) none told task
  | released (c : ClientId) : Stage T i (.release c) none [] (.done (.ok ()))

/-! ### One turn -/

/-- Time passes for the tracer only. -/
abbrev meanwhile (elapse : Nat → τ → τ) : Nat → Serving τ → Serving τ := beside (beside elapse)

/-- The answer after a turn, unless it was there before. -/
def arising (before after : Option (Except MethodError Unit)) : Option (Except MethodError Unit) :=
  if before.isSome then none else after

/-- What a turn of a call may do to the book: issue an id for a registration that has none, or
what the settling of the call changes. -/
inductive Turn (call : TracerCall) (b : ConnectionBook) :
    Option TracingId → Option TracingId → Option Change → ConnectionBook → Prop
  | issues (hcall : call.isRegistration) : Turn call b none (some b.issue.1) none b.issue.2
  | keeps (minted : Option TracingId) : Turn call b minted minted none b
  | changes (minted : Option TracingId) (change : Change) :
    Turn call b minted minted (some change) (change.apply b)

variable {T : Tracer τ} {i : Nat}

lemma advance_asking {elapse : Nat → τ → τ} {k : α → ServiceTask τ}
    {q : Procedure τ α} (hq : q.answer? = none) (s : Serving τ) :
    ((asking q).bind k).advance (meanwhile elapse) s =
      ((asking (q.advance elapse s.2.2).1).bind k, (s.1, s.2.1, (q.advance elapse s.2.2).2)) := by
  have hasking : (asking q).answer? = none := by
    rw [asking, answer?_within, answer?_within, hq]
  rw [advance_bind hasking, asking, advance_within_second, advance_within_second]
  rfl

lemma Passing.advance {k : EventKind} {callerId : TracingId} {e : ConnectionEvent}
    {known : Option TracingId} {turned : Bool} {told : List Notice} {task : ServiceTask τ}
    (h : Passing T i k callerId e known turned told task) (elapse : Nat → τ → τ) (s : Serving τ) :
    ∃ notices,
      Passing T i k callerId e known true (told ++ notices)
        (task.advance (meanwhile elapse) s).1 ∧
      (task.advance (meanwhile elapse) s).2.1 = s.1 ∧
      (task.advance (meanwhile elapse) s).2.2.1 = s.2.1 ++ notices.map fun n => (i, n) := by
  cases h with
  | unknown turned => exact ⟨[], .unknown true, rfl, (List.append_nil _).symm⟩
  | looked issued => exact ⟨[.recorded issued e], .told issued _, rfl, rfl⟩
  | told issued q =>
    refine ⟨[], ?_⟩
    cases hq : q.answer? with
    | none =>
      rw [advance_asking hq]
      exact ⟨.told issued _, rfl, (List.append_nil _).symm⟩
    | some o =>
      obtain rfl := answer?_eq_some_iff.mp hq
      exact ⟨.told issued (.done o), rfl, (List.append_nil _).symm⟩

/-- A registration is not granted before the tracer's answer is acted upon. -/
lemma answer?_settle_ne (c : ClientId) (callerId issued : TracingId)
    (q : Procedure τ (Except PolicyError Unit)) :
    ((asking q).bind (settle c callerId issued)).answer? ≠ some (.ok ()) := by
  cases q with
  | done o =>
    cases o with
    | error e => rintro ⟨⟩
    | ok u => rintro ⟨⟩
  | act update resume => rintro ⟨⟩
  | sleep ms rest => rintro ⟨⟩

lemma arising_eq_some {before after : Option (Except MethodError Unit)}
    {o : Except MethodError Unit} (h : arising before after = some o) : after = some o := by
  unfold arising at h
  split_ifs at h
  exact h

lemma change?_register {c : ClientId} {m : TracerMessage} {told : List Notice}
    {o : Option (Except MethodError Unit)} {change : Change}
    (h : (TracerCall.register c m).change? told o = some change) :
    ∃ id issued side odcid, change = .registered c id issued ∧ m.tracingId = some id ∧
      told = [.registered issued side odcid] ∧ o = some (.ok ()) := by
  unfold TracerCall.change? at h
  split at h
  · rename_i issued side odcid heq
    cases heq
    obtain ⟨id, hid, rfl⟩ := Option.map_eq_some_iff.mp h
    exact ⟨id, issued, side, odcid, rfl, hid, rfl, rfl⟩
  · rename_i heq
    cases heq
  · cases h

lemma change?_register_eq_none {c : ClientId} {m : TracerMessage} (told : List Notice)
    {before after : Option (Except MethodError Unit)} (h : after ≠ some (.ok ())) :
    (TracerCall.register c m).change? told (arising before after) = none := by
  refine Option.eq_none_iff_forall_ne_some.mpr fun change hchange => ?_
  obtain ⟨id, issued, side, odcid, -, -, -, ho⟩ := change?_register hchange
  exact h (arising_eq_some ho)

lemma Turn.keeps_register {c : ClientId} {m : TracerMessage} (b : ConnectionBook)
    (minted : Option TracingId) (told : List Notice)
    {before after : Option (Except MethodError Unit)} (h : after ≠ some (.ok ())) :
    Turn (.register c m) b minted minted
      ((TracerCall.register c m).change? told (arising before after)) b := by
  rw [change?_register_eq_none told h]
  exact .keeps minted

/-- All that a turn of a call can do. -/
lemma Stage.advance {call : TracerCall} {minted : Option TracingId} {told : List Notice}
    {task : ServiceTask τ} (h : Stage T i call minted told task)
    (elapse : Nat → τ → τ) (s : Serving τ) :
    ∃ minted' notices,
      Stage T i call minted' (told ++ notices) (task.advance (meanwhile elapse) s).1 ∧
      (task.advance (meanwhile elapse) s).2.2.1 = s.2.1 ++ notices.map (fun n => (i, n)) ∧
      Turn call s.1 minted minted'
        (call.change? (told ++ notices)
          (arising task.answer? (task.advance (meanwhile elapse) s).1.answer?))
        (task.advance (meanwhile elapse) s).2.1 := by
  cases h with
  | fresh =>
    have hfresh := Stage.fresh (T := T) (i := i) call
    cases call with
    | register c m =>
      obtain ⟨callerId, side, odcid, hm⟩ | ⟨e, he⟩ := registers_or_refused T i c m
      · rw [serve_register hm]
        exact ⟨_, [], .issued hm _, (List.append_nil _).symm, .issues rfl⟩
      · rw [he] at hfresh ⊢
        exact ⟨none, [], hfresh, (List.append_nil _).symm, .keeps none⟩
    | event c k m =>
      obtain ⟨callerId, e, hm⟩ | ⟨e, he⟩ := reports_or_refused T i c k m
      · rw [serve_event hm]
        exact ⟨none, [], .passing (passing_pass ..), (List.append_nil _).symm, .keeps none⟩
      · rw [he] at hfresh ⊢
        exact ⟨none, [], hfresh, (List.append_nil _).symm, .keeps none⟩
    | release c => exact ⟨none, [], .released c, (List.append_nil _).symm, .changes none _⟩
  | @issued c m callerId side odcid hm issued =>
    exact ⟨_, [.registered issued side odcid], .waiting hm issued _, rfl,
      .keeps_register _ _ _ (answer?_settle_ne c callerId issued _)⟩
  | @waiting c m callerId side odcid hm issued q =>
    cases hq : q.answer? with
    | none =>
      rw [advance_asking hq]
      exact ⟨_, [], .waiting hm issued _, (List.append_nil _).symm,
        .keeps_register _ _ _ (answer?_settle_ne c callerId issued _)⟩
    | some o =>
      obtain rfl := answer?_eq_some_iff.mp hq
      cases o with
      | error e =>
        exact ⟨_, [], .waiting hm issued (.done (.error e)), (List.append_nil _).symm, .keeps _⟩
      | ok u =>
        -- The only turn with which an id becomes known.
        refine ⟨_, [], .registered hm issued, (List.append_nil _).symm, ?_⟩
        have hchange : (TracerCall.register c m).change? [.registered issued side odcid]
            (some (.ok ())) = some (.registered c callerId issued) := by
          simp [TracerCall.change?, hm.tracingId]
        show Turn _ s.1 _ _ ((TracerCall.register c m).change? [.registered issued side odcid]
          (some (.ok ()))) _
        rw [hchange]
        exact .changes _ _
  | @registered c m callerId side odcid hm issued =>
    exact ⟨_, [], .registered hm issued, (List.append_nil _).symm, .keeps _⟩
  | passing hp =>
    obtain ⟨notices, hp', hbook, hjournal⟩ := hp.advance elapse s
    refine ⟨none, notices, .passing hp', hjournal, ?_⟩
    rw [hbook]
    exact .keeps none
  | released c => exact ⟨none, [], .released c, (List.append_nil _).symm, .keeps _⟩

lemma Turn.connections_of_none {call : TracerCall} {b b' : ConnectionBook}
    {minted minted' : Option TracingId} (h : Turn call b minted minted' none b') :
    b'.connections = b.connections := by
  cases h with
  | issues => rfl
  | keeps => rfl

lemma Stage.minted_of_mem {call : TracerCall} {minted : Option TracingId} {told : List Notice}
    {task : ServiceTask τ} (h : Stage T i call minted told task) {issued : TracingId}
    {side : Perspective} {odcid : ConnectionId} (hmem : .registered issued side odcid ∈ told) :
    minted = some issued := by
  cases h with
  | fresh => cases hmem
  | issued => cases hmem
  | waiting =>
    cases List.mem_singleton.mp hmem
    rfl
  | registered =>
    cases List.mem_singleton.mp hmem
    rfl
  | passing hp =>
    cases hp with
    | unknown => cases hmem
    | looked => cases hmem
    | told => cases List.mem_singleton.mp hmem
  | released => cases hmem

/-- A registration that was granted was told to the tracer once. -/
lemma Stage.told_of_granted {c : ClientId} {m : TracerMessage} {minted : Option TracingId}
    {told : List Notice} {task : ServiceTask τ}
    (h : Stage T i (.register c m) minted told task) (ho : task.answer? = some (.ok ())) :
    ∃ id issued side odcid, m.tracingId = some id ∧ told = [.registered issued side odcid] := by
  cases h with
  | fresh =>
    obtain ⟨callerId, side, odcid, hm⟩ | ⟨e, he⟩ := registers_or_refused T i c m
    · rw [serve_register hm] at ho
      cases ho
    · rw [he] at ho
      cases ho
  | issued => cases ho
  | waiting => exact absurd ho (answer?_settle_ne _ _ _ _)
  | registered hm => exact ⟨_, _, _, _, hm.tracingId, rfl⟩

end Remote

end PathPolicy
