import PathPolicy.Proofs.Lifecycle
import PathPolicy.Proofs.SelectorRequest
import PathPolicy.Selector.Failover

/-!
# What a remote selector amounts to

A selector at home that keeps a lifecycle beside its choices. An operation on a closed remote is
refused, unless it opens the remote, and changes nothing. Any other is applied; and a path that was
reported down since its remote's last offer is withheld when it is chosen all the same.
-/

namespace PathPolicy

deriving instance DecidableEq for SelectorAnswer

namespace SelectorCall

/-- What the refusal of a call says was tried. Nothing refuses to open a remote. -/
def operation : SelectorCall → String
  | .start .. => "initialize"
  | .path _ => "path"
  | .pathDown .. => "path_down"
  | .refresh .. => "refresh"
  | .close _ => "close"

def failed (call : SelectorCall) (e : PolicyError) : SelectorAnswer :=
  match call with
  | .path _ => .chosen (.error e)
  | _ => .done (.error e)

def refusal (call : SelectorCall) : SelectorAnswer :=
  call.failed (.selector (.remoteClosed call.remote call.operation))

end SelectorCall

/-- The call is on a remote that reads as closed, and does not open it. -/
def RemoteLifecycle.Refuses (l : RemoteLifecycle) : SelectorCall → Prop
  | .start .. => False
  | call => l.state call.remote = .closed

instance (l : RemoteLifecycle) : (call : SelectorCall) → Decidable (l.Refuses call)
  | .start .. => inferInstanceAs (Decidable False)
  | .path r | .close r => inferInstanceAs (Decidable (l.state r = .closed))
  | .pathDown r .. | .refresh r _ => inferInstanceAs (Decidable (l.state r = .closed))

namespace Remote

structure Reference where
  lifecycle : RemoteLifecycle := {}
  failover : FailoverState := {}
  /-- The paths reported down since the last offer for their remote. -/
  down : List (RemoteAddress × Fingerprint) := []

namespace Reference

variable {α : Type}

def failoverPlace : Procedure.Place Reference FailoverState :=
  ⟨failover, fun failover s => { s with failover }⟩

def inner : Selector Reference := failoverSelector.within failoverPlace

def unlessClosed (r : RemoteAddress) (operation : String)
    (p : Procedure Reference (Except PolicyError α)) :
    Procedure Reference (Except PolicyError α) := do
  match ← .read fun s => s.lifecycle.ensureOpen r operation with
  | .error e => return .error e
  | .ok _ => p

/-- After a new offer for `r` no path of it is down. -/
def renew (r : RemoteAddress) (s : Reference) : Reference :=
  { s with
    lifecycle := s.lifecycle.markPopulated r
    down := s.down.filter (·.1 ≠ r) }

def selector : Selector Reference where
  start r ps := do
    let outcome ← inner.start r ps
    .write (renew r)
    return outcome
  path r := unlessClosed r "path" do
    match ← inner.path r with
    | .ok (some o) => .read fun s => .ok (if (r, o.fingerprint) ∈ s.down then none else some o)
    | outcome => return outcome
  pathDown r f i := unlessClosed r "path_down" do
    let outcome ← inner.pathDown r f i
    .write fun s => { s with down := (r, f) :: s.down }
    return outcome
  refresh r ps := unlessClosed r "refresh" do
    let outcome ← inner.refresh r ps
    .write (renew r)
    return outcome
  close r := unlessClosed r "close" do
    let outcome ← inner.close r
    .write fun s => { s with lifecycle := s.lifecycle.markClosed r }
    return outcome

/-- What a call is answered, and the state after it. None takes any time. -/
def answer (s : Reference) (call : SelectorCall) : SelectorAnswer × Reference :=
  (selector.call call).run (fun _ s => s) s

def answerAll (s : Reference) (calls : List SelectorCall) : List SelectorAnswer × Reference :=
  selector.runAll (fun _ s => s) calls s

/-- Every call that is not refused when its turn comes can be sent. -/
def Admits (limit : Nat) : Reference → List SelectorCall → Prop
  | _, [] => True
  | s, c :: cs => (¬s.lifecycle.Refuses c → Sendable limit c) ∧ Admits limit (s.answer c).2 cs

instance decidableAdmits (limit : Nat) :
    (s : Reference) → (calls : List SelectorCall) → Decidable (Admits limit s calls)
  | _, [] => .isTrue trivial
  | s, c :: cs =>
    have := decidableAdmits limit (s.answer c).2 cs
    inferInstanceAs (Decidable ((¬s.lifecycle.Refuses c → Sendable limit c) ∧
      Admits limit (s.answer c).2 cs))

/-! ### Calls one by one -/

lemma run_unlessClosed (elapse : Nat → Reference → Reference) (r : RemoteAddress)
    (operation : String) (p : Procedure Reference (Except PolicyError α)) (s : Reference) :
    (unlessClosed r operation p).run elapse s =
      if s.lifecycle.state r = .closed then
        (.error (.selector (.remoteClosed r operation)), s)
      else p.run elapse s := by
  simp only [unlessClosed, Procedure.run_bind, Procedure.run_read, RemoteLifecycle.ensureOpen_eq]
  split_ifs <;> rfl

variable (s : Reference) {r : RemoteAddress}

theorem answer_of_refuses {call : SelectorCall} (h : s.lifecycle.Refuses call) :
    s.answer call = (call.refusal, s) := by
  cases call with
  | start r ps => exact h.elim
  | _ =>
    simp only [RemoteLifecycle.Refuses, SelectorCall.remote] at h
    simp only [answer, Selector.call, selector, Procedure.run_bind, run_unlessClosed, if_pos h]
    rfl

lemma answer_start (r : RemoteAddress) (ps : List PathObject) : s.answer (.start r ps) =
    (.done (.ok ()), { s with failover := s.failover.start r ps }.renew r) := rfl

lemma answer_path (h : ¬s.lifecycle.Refuses (.path r)) : s.answer (.path r) =
    (.chosen (.ok ((s.failover.path r).bind fun o =>
      if (r, o.fingerprint) ∈ s.down then none else some o)), s) := by
  change s.lifecycle.state r ≠ .closed at h
  simp only [answer, Selector.call, selector, Procedure.run_bind, run_unlessClosed, if_neg h]
  have hinner : (inner.path r).run (fun _ s => s) s = (.ok (s.failover.path r), s) := rfl
  rw [hinner]
  cases s.failover.path r <;> rfl

lemma answer_pathDown {f : Fingerprint} {i : Interface}
    (h : ¬s.lifecycle.Refuses (.pathDown r f i)) : s.answer (.pathDown r f i) =
    (.done (.ok ()),
      { s with failover := s.failover.pathDown r f i, down := (r, f) :: s.down }) := by
  change s.lifecycle.state r ≠ .closed at h
  simp only [answer, Selector.call, selector, Procedure.run_bind, run_unlessClosed, if_neg h]
  rfl

lemma answer_refresh {ps : List PathObject} (h : ¬s.lifecycle.Refuses (.refresh r ps)) :
    s.answer (.refresh r ps) =
      (.done (.ok ()), { s with failover := s.failover.refresh r ps }.renew r) := by
  change s.lifecycle.state r ≠ .closed at h
  simp only [answer, Selector.call, selector, Procedure.run_bind, run_unlessClosed, if_neg h]
  rfl

lemma answer_close (h : ¬s.lifecycle.Refuses (.close r)) : s.answer (.close r) =
    (.done (.ok ()),
      { s with failover := s.failover.close r, lifecycle := s.lifecycle.markClosed r }) := by
  change s.lifecycle.state r ≠ .closed at h
  simp only [answer, Selector.call, selector, Procedure.run_bind, run_unlessClosed, if_neg h]
  rfl

end Reference

end Remote

end PathPolicy
