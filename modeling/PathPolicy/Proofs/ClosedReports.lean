import PathPolicy.Proofs.ClosedRemotes
import PathPolicy.Proofs.FarEndChoice

/-!
# Calls on a closed remote

Once a closing was not turned away its remote is closed, whatever the closing came to. From then on
every call on the remote is turned away by its first stretch, which changes nothing, until the
remote is started again or too many others were closed after it. A refresh does not open it: it is
turned away as well.
-/

namespace PathPolicy

open Call

namespace RemoteLifecycle

variable {limit n : Nat} {l : RemoteLifecycle} {r r' : RemoteAddress}

/-- `r` is among the remotes closed last, and stays there while `n` others are closed. -/
def StaysClosed (limit : Nat) (l : RemoteLifecycle) (r : RemoteAddress) (n : Nat) : Prop :=
  ∃ m, Remembers limit l m ∧ ∃ pre post, m.closed = pre ++ r :: post ∧ post.length + n < limit

lemma StaysClosed.state_eq (h : StaysClosed limit l r n) : l.state r = .closed := by
  obtain ⟨m, hm, pre, post, hc, -⟩ := h
  rw [hm.state_eq_closed_iff, hc]
  simp

lemma StaysClosed.mono {k : Nat} (h : StaysClosed limit l r n) (hk : k ≤ n) :
    StaysClosed limit l r k := by
  obtain ⟨m, hm, pre, post, hc, hlt⟩ := h
  exact ⟨m, hm, pre, post, hc, by omega⟩

/-- A remote that is closed just now comes last. -/
lemma Remembers.staysClosed {m : Memory} (h : Remembers limit l m) (hr : l.state r ≠ .closed)
    (hn : n < limit) : StaysClosed limit (l.markClosed r) r n := by
  refine ⟨_, h.close r, m.closed.drop (m.closed.length + 1 - limit), [], ?_, by simpa using hn⟩
  have hnot : r ∉ m.closed := (h.state_eq_closed_iff r).not.mp hr
  have hle : m.closed.length + 1 - limit ≤ m.closed.length := by omega
  simp only [Memory.mark, if_neg hnot, List.rtake, List.length_append, List.length_singleton]
  rw [List.drop_append_of_le_length hle]

lemma StaysClosed.populate (h : StaysClosed limit l r n) (hr : r' ≠ r) :
    StaysClosed limit (l.markPopulated r') r n := by
  obtain ⟨m, hm, pre, post, hc, hlt⟩ := h
  refine ⟨_, hm.populate r', pre.filter (· ≠ r'), post.filter (· ≠ r'), ?_, ?_⟩
  · simp [Memory.mark, hc, Ne.symm hr]
  · have := List.length_filter_le (· ≠ r') post
    omega

lemma StaysClosed.close (h : StaysClosed limit l r (n + 1)) (r' : RemoteAddress) :
    StaysClosed limit (l.markClosed r') r n := by
  obtain ⟨m, hm, pre, post, hc, hlt⟩ := h
  by_cases hin : r' ∈ m.closed
  · refine ⟨_, hm.close r', pre, post, ?_, by omega⟩
    simp only [Memory.mark, if_pos hin]
    exact hc
  · -- What falls out of the list comes before `r`.
    have hle : (m.closed ++ [r']).length - limit ≤ pre.length := by
      simp only [hc, List.length_append, List.length_cons, List.length_nil]
      omega
    refine ⟨_, hm.close r', pre.drop ((m.closed ++ [r']).length - limit), post ++ [r'], ?_, ?_⟩
    · simp only [Memory.mark, if_neg hin, List.rtake]
      rw [← List.drop_append_of_le_length hle, hc]
      simp
    · simp only [List.length_append, List.length_singleton]
      omega

/-- What is remembered of the remotes once a call is answered, where `settles` tells whether an
offer took effect. A closing takes effect unless it is turned away. -/
def noted (settles : SelectorCall → SelectorAnswer → Prop) [∀ call a, Decidable (settles call a)]
    (l : RemoteLifecycle) (call : SelectorCall) (a : SelectorAnswer) : RemoteLifecycle :=
  match call with
  | .start r _ | .refresh r _ => if settles call a then l.markPopulated r else l
  | .close r => if a = call.refusal then l else l.markClosed r
  | .path _ | .pathDown .. => l

lemma noted_refusal {settles : SelectorCall → SelectorAnswer → Prop}
    [∀ call a, Decidable (settles call a)] {call : SelectorCall}
    (h : ¬settles call call.refusal) : l.noted settles call call.refusal = l := by
  cases call <;> simp [noted, h]

lemma noted_cases (settles : SelectorCall → SelectorAnswer → Prop)
    [∀ call a, Decidable (settles call a)] (l : RemoteLifecycle) (call : SelectorCall)
    (a : SelectorAnswer) :
    l.noted settles call a = l ∨ l.noted settles call a = l.markPopulated call.remote ∨
      ∃ r, call = .close r ∧ a ≠ call.refusal ∧ l.noted settles call a = l.markClosed r := by
  have hoffer (r : RemoteAddress) : (if settles call a then l.markPopulated r else l) = l ∨
      (if settles call a then l.markPopulated r else l) = l.markPopulated r := by
    split_ifs <;> simp
  cases call with
  | start r ps => exact (hoffer r).imp_right .inl
  | path r => exact .inl rfl
  | pathDown r f i => exact .inl rfl
  | refresh r ps => exact (hoffer r).imp_right .inl
  | close r =>
    by_cases ha : a = (SelectorCall.close r).refusal
    · exact .inl (if_pos ha)
    · exact .inr (.inr ⟨r, rfl, ha, if_neg ha⟩)

end RemoteLifecycle

lemma Procedure.run_of_advance {σ α : Type} {elapse : Nat → σ → σ} {p : Procedure σ α} {s s' : σ}
    {a : α} (h : p.advance elapse s = (.done a, s')) : p.run elapse s = (a, s') := by
  have hrun : (p.advance elapse s).1.run elapse (p.advance elapse s).2 = p.run elapse s := by
    cases p <;> rfl
  rw [← hrun, h]
  rfl

/-! ### A selector that remembers remotes -/

namespace Selector

variable {σ : Type} (S : Selector σ) (lifecycle : σ → RemoteLifecycle) (elapse : Nat → σ → σ)
  (settles : SelectorCall → SelectorAnswer → Prop)

/-- Calls issued one after another, each with its answer. -/
def log (calls : List SelectorCall) (s : σ) : List (SelectorCall × SelectorAnswer) :=
  calls.zip (S.runAll elapse calls s).1

/-- The call closed a remote other than `r`. -/
def closesOther (r : RemoteAddress) (e : SelectorCall × SelectorAnswer) : Bool :=
  match e.1 with
  | .close r' => decide (r' ≠ r ∧ e.2 ≠ e.1.refusal)
  | _ => false

/-- When a closing was not turned away, every call on its remote but a start is turned away with its
first stretch, and the state stays as it is. This holds until a start of the remote is settled, and
as long as fewer than `limit` closings of other remotes follow. -/
def ReportsClosed (limit : Nat) (s : σ) : Prop :=
  ∀ (before since : List SelectorCall) (r : RemoteAddress),
    let closing := (S.call (.close r)).run elapse (S.runAll elapse before s).2
    let later := (S.runAll elapse since closing.2).2
    closing.1 ≠ (SelectorCall.close r).refusal →
    (∀ ps a, (.start r ps, a) ∈ S.log elapse since closing.2 → ¬settles (.start r ps) a) →
    (S.log elapse since closing.2).countP (closesOther r) < limit →
    ∀ call : SelectorCall, call.remote = r → (∀ ps, call ≠ .start r ps) →
      (S.call call).advance elapse later = (.done call.refusal, later) ∧
        (S.call call).run elapse later = (call.refusal, later)

variable [∀ call a, Decidable (settles call a)]

/-- Calls on closed remotes are turned away with their first stretch, and what is remembered of
remotes follows from the calls and their answers. -/
structure Remembering : Prop where
  turnsAway : ∀ call s, (lifecycle s).Refuses call →
    (S.call call).advance elapse s = (.done call.refusal, s)
  notes : ∀ call s, lifecycle ((S.call call).run elapse s).2 =
    (lifecycle s).noted settles call ((S.call call).run elapse s).1

variable {S lifecycle elapse settles} {limit n : Nat} {s : σ} {r : RemoteAddress}

lemma log_cons (call : SelectorCall) (calls : List SelectorCall) (s : σ) :
    S.log elapse (call :: calls) s =
      (call, ((S.call call).run elapse s).1) :: S.log elapse calls ((S.call call).run elapse s).2 :=
  rfl

lemma Remembering.run_of_refuses (h : S.Remembering lifecycle elapse settles) {call : SelectorCall}
    (hr : (lifecycle s).Refuses call) : (S.call call).run elapse s = (call.refusal, s) :=
  Procedure.run_of_advance (h.turnsAway call s hr)

open RemoteLifecycle (Remembers StaysClosed)

lemma Remembering.remembers (h : S.Remembering lifecycle elapse settles)
    (hs : ∃ m, Remembers limit (lifecycle s) m) (call : SelectorCall) :
    ∃ m, Remembers limit (lifecycle ((S.call call).run elapse s).2) m := by
  obtain ⟨m, hm⟩ := hs
  rw [h.notes]
  rcases (lifecycle s).noted_cases settles call ((S.call call).run elapse s).1 with
    hn | hn | ⟨r, -, -, hn⟩
  · rw [hn]
    exact ⟨m, hm⟩
  · rw [hn]
    exact ⟨_, hm.populate call.remote⟩
  · rw [hn]
    exact ⟨_, hm.close r⟩

lemma Remembering.remembers_runAll (h : S.Remembering lifecycle elapse settles)
    (calls : List SelectorCall) (hs : ∃ m, Remembers limit (lifecycle s) m) :
    ∃ m, Remembers limit (lifecycle (S.runAll elapse calls s).2) m := by
  induction calls generalizing s with
  | nil => exact hs
  | cons call calls ih => exact ih (h.remembers hs call)

/-- A call on a closed remote leaves it closed unless it is a start that is settled. A call on
another remote closes one more at most. -/
lemma Remembering.staysClosed (h : S.Remembering lifecycle elapse settles) (call : SelectorCall)
    (hstart : ∀ ps, call = .start r ps → ¬settles call ((S.call call).run elapse s).1)
    (hs : StaysClosed limit (lifecycle s) r
      (n + [(call, ((S.call call).run elapse s).1)].countP (closesOther r))) :
    StaysClosed limit (lifecycle ((S.call call).run elapse s).2) r n := by
  by_cases hr : call.remote = r
  · have hkept : lifecycle ((S.call call).run elapse s).2 = lifecycle s := by
      cases call with
      | start r' ps =>
        obtain rfl : r' = r := hr
        rw [h.notes, RemoteLifecycle.noted, if_neg (hstart ps rfl)]
      | _ =>
        rw [h.run_of_refuses]
        simp only [RemoteLifecycle.Refuses, hr, hs.state_eq]
    rw [hkept]
    exact hs.mono (Nat.le_add_right _ _)
  · rw [h.notes]
    rcases (lifecycle s).noted_cases settles call ((S.call call).run elapse s).1 with
      hn | hn | ⟨r', rfl, ha, hn⟩
    · rw [hn]
      exact hs.mono (Nat.le_add_right _ _)
    · rw [hn]
      exact (hs.mono (Nat.le_add_right _ _)).populate hr
    · have hother : r' ≠ r := hr
      rw [hn]
      refine StaysClosed.close ?_ r'
      simpa [closesOther, hother, ha] using hs

lemma Remembering.staysClosed_runAll (h : S.Remembering lifecycle elapse settles)
    (calls : List SelectorCall)
    (hstart : ∀ ps a, (.start r ps, a) ∈ S.log elapse calls s → ¬settles (.start r ps) a)
    (hs : StaysClosed limit (lifecycle s) r
      (n + (S.log elapse calls s).countP (closesOther r))) :
    StaysClosed limit (lifecycle (S.runAll elapse calls s).2) r n := by
  induction calls generalizing s with
  | nil => exact hs
  | cons call calls ih =>
    simp only [log_cons, List.mem_cons] at hstart
    refine ih (fun ps a ha => hstart ps a (.inr ha)) (h.staysClosed call ?_ ?_)
    · rintro ps rfl
      exact hstart ps _ (.inl rfl)
    · rw [log_cons, ← List.singleton_append, List.countP_append] at hs
      rwa [Nat.add_assoc, Nat.add_comm (List.countP _ (S.log elapse calls _))]

theorem Remembering.reportsClosed (h : S.Remembering lifecycle elapse settles)
    (hs : lifecycle s = { maxClosed := limit }) : S.ReportsClosed elapse settles limit s := by
  intro before since r closing later hclosing hstart hfew call hcall hother
  obtain ⟨m, hm⟩ := h.remembers_runAll before
    (hs ▸ ⟨_, RemoteLifecycle.remembers_empty limit⟩ : ∃ m, Remembers limit (lifecycle s) m)
  have hopen : (lifecycle (S.runAll elapse before s).2).state r ≠ .closed := by
    intro hc
    have hrefused : closing = ((SelectorCall.close r).refusal, (S.runAll elapse before s).2) :=
      h.run_of_refuses hc
    exact hclosing (congrArg Prod.fst hrefused)
  have hclosed : StaysClosed limit (lifecycle closing.2) r
      (0 + (S.log elapse since closing.2).countP (closesOther r)) := by
    rw [h.notes, RemoteLifecycle.noted, if_neg hclosing, Nat.zero_add]
    exact hm.staysClosed hopen hfew
  have hrefuses : (lifecycle later).Refuses call := by
    have hstate := (h.staysClosed_runAll since hstart hclosed).state_eq
    cases call with
    | start r' ps => exact absurd (congrArg (SelectorCall.start · ps) hcall) (hother ps)
    | _ => simpa only [RemoteLifecycle.Refuses, hcall] using hstate
  exact ⟨h.turnsAway call later hrefuses, h.run_of_refuses hrefuses⟩

end Selector

variable {τ : Type} {elapse : Nat → τ → τ}

namespace Remote

instance (call : SelectorCall) (a : SelectorAnswer) : Decidable (Granted call a) :=
  inferInstanceAs (Decidable (a = _))

lemma advance_refused (C : Caller τ) {call : SelectorCall} {s : ProxyState × τ}
    (h : s.1.lifecycle.Refuses call) :
    ((proxied C).call call).advance (Procedure.beside elapse) s = (.done call.refusal, s) := by
  have hask := ProxyState.ask_of_refuses h
  cases call with
  | start r ps => exact h.elim
  | path r =>
    simp only [Selector.call, proxied, selector, Procedure.Place.first, Bind.bind, Procedure.bind,
      Procedure.read, Procedure.advance, hask]
    rfl
  | _ =>
    refine (congrArg (Procedure.advance _ · s) (update_bind C _)).trans ?_
    simp only [Procedure.advance, hask]
    rfl

lemma noted_settleUpdate (s : ProxyState) (call : SelectorCall) (reply : Except CallError Unit)
    (hc : ∀ r, call ≠ .path r) :
    ((s.issued call).settleUpdate call reply).2.lifecycle =
      s.lifecycle.noted Granted call (.done (reply.mapError .call)) := by
  cases call with
  | path r => exact absurd rfl (hc r)
  | _ => cases reply <;> rfl

theorem remembering_proxied (C : Caller τ) :
    (proxied C).Remembering (fun s => s.1.lifecycle) (Procedure.beside elapse) Granted where
  turnsAway call s h := advance_refused C h
  notes call s := by
    by_cases h : s.1.lifecycle.Refuses call
    · rw [Procedure.run_of_advance (advance_refused C h)]
      refine (RemoteLifecycle.noted_refusal ?_).symm
      cases call <;> simp [Granted, SelectorCall.refusal, SelectorCall.failed]
    by_cases hp : ∃ r, call = .path r
    · obtain ⟨r, rfl⟩ := hp
      rw [proxied, run_asked_path (p := .first) h (run_request_within elapse C ..)]
      rfl
    · have hc : ∀ r, call ≠ .path r := fun r hr => hp ⟨r, hr⟩
      rw [proxied, run_asked (p := .first) hc h (run_request_within elapse C ..)]
      exact noted_settleUpdate s.1 call _ hc

end Remote

namespace Script

instance (call : SelectorCall) (a : SelectorAnswer) : Decidable (Entered call a) :=
  inferInstanceAs (Decidable (a ≠ _))

variable {clock : Nat → SelectorState × τ → SelectorState × τ} {s : SelectorState × τ}

lemma advance_unlessClosed {α : Type} (answer : Except PolicyError α → SelectorAnswer)
    {r : RemoteAddress} {operation : String}
    (next : RemoteState → Procedure (SelectorState × τ) (Except PolicyError α))
    (h : s.1.lifecycle.state r = .closed) :
    ((unlessClosed .first r operation next).bind fun o => .done (answer o)).advance clock s =
      (.done (answer (.error (.selector (.remoteClosed r operation)))), s) := by
  rw [unlessClosed_bind, Procedure.advance, looked, if_pos h]
  rfl

lemma advance_refused (S : Script τ) {call : SelectorCall} (h : s.1.lifecycle.Refuses call) :
    ((hosted S).call call).advance clock s = (.done call.refusal, s) := by
  cases call with
  | start r ps => exact h.elim
  | path r => exact advance_unlessClosed .chosen _ h
  | pathDown r f i => exact advance_unlessClosed .done _ h
  | refresh r ps => exact advance_unlessClosed .done _ h
  | close r => exact advance_unlessClosed .done _ h

lemma run_refused (S : Script τ) {call : SelectorCall} (h : s.1.lifecycle.Refuses call) :
    ((hosted S).call call).run clock s = (call.refusal, s) :=
  Procedure.run_of_advance (advance_refused S h)

/-- What a call leaves that is not turned away, when its tables are made with these identities. -/
def SelectorState.settle (s : SelectorState) (call : SelectorCall)
    (identities : List TableIdentity) : SelectorState :=
  match call with
  | .start r paths | .refresh r paths => s.populate r identities paths
  | .close r => s.release r
  | .path _ | .pathDown .. => s

/-- The entry point that is asked when a call is made. -/
def entry : SelectorCall → String
  | .start .. => "initialize"
  | .path _ => "selectpath"
  | .pathDown .. => "pathdown"
  | .refresh .. => "refresh"
  | .close _ => "close"

def arguments (identities : List TableIdentity) : SelectorCall → List Value
  | .start r paths | .refresh r paths =>
    [.text r.text, .list ((identities.zip paths).map fun (i, o) => o.path.table i)]
  | .path r | .close r => [.text r.text]
  | .pathDown r f i => [.text r.text, .text f.text, i.table]

/-- The tables that are made for a call. -/
def made (S : Script τ) (s : SelectorState × τ) (call : SelectorCall) : List TableIdentity :=
  if s.1.lifecycle.Refuses call then [] else (S.allocateMany call.paths.length s.2).1

/-- The script as it is called, with the tables made. -/
def prepared (S : Script τ) (call : SelectorCall) (t : τ) : τ :=
  (S.allocateMany call.paths.length t).2

def asked (S : Script τ) (s : SelectorState × τ) (call : SelectorCall) :
    Except ScriptError (List Value) × τ :=
  S.invoke selectorModule (entry call) (arguments (made S s call) call) (prepared S call s.2)

lemma run_offer_eq (S : Script τ) (entry : String) (r : RemoteAddress) (paths : List PathObject)
    (s : SelectorState × τ) :
    (offer (S.within .second) .first entry r paths).run clock s =
      let e := S.invoke selectorModule entry
        [.text r.text, .list (((S.allocateMany paths.length s.2).1.zip paths).map
          fun (i, o) => o.path.table i)] (S.allocateMany paths.length s.2).2
      (outcome e.1, s.1.populate r (S.allocateMany paths.length s.2).1 paths, e.2) := by
  simp only [offer, Procedure.run_stretch, allocateMany_within, Procedure.Place.modify,
    Procedure.Place.first, invoke_within]

/-- A call that is not turned away asks the script, and whatever comes of it is the answer. -/
lemma run_update (S : Script τ) {call : SelectorCall} (hc : ∀ r, call ≠ .path r)
    (h : ¬s.1.lifecycle.Refuses call) :
    ((hosted S).call call).run clock s =
      (.done (outcome (asked S s call).1), s.1.settle call (made S s call),
        (asked S s call).2) := by
  rw [asked, made, if_neg h]
  cases call with
  | path r => exact absurd rfl (hc r)
  | start r paths =>
    simp only [Selector.call, hosted, selector, Procedure.run_bind, Procedure.run_pure,
      run_offer_eq]
    rfl
  | pathDown r f i =>
    have hopen : s.1.lifecycle.state r ≠ .closed := h
    simp only [Selector.call, hosted, selector, Procedure.run_bind, Procedure.run_pure,
      run_unlessClosed, if_neg hopen, Procedure.run_stretch, invoke_within]
    rfl
  | refresh r paths =>
    have hopen : s.1.lifecycle.state r ≠ .closed := h
    simp only [Selector.call, hosted, selector, Procedure.run_bind, Procedure.run_pure,
      run_unlessClosed, if_neg hopen, run_offer_eq]
    rfl
  | close r =>
    have hopen : s.1.lifecycle.state r ≠ .closed := h
    simp only [Selector.call, hosted, selector, Procedure.run_bind, Procedure.run_pure,
      run_unlessClosed, if_neg hopen, Procedure.run_stretch, invoke_within]
    rfl

lemma entered_outcome (call : SelectorCall) (result : Except ScriptError (List Value)) :
    Entered call (.done (outcome result)) := by
  cases result <;> cases call <;>
    simp [Entered, outcome, SelectorCall.refusal, SelectorCall.failed]

theorem remembering_hosted (S : Script τ) :
    (hosted S).Remembering (fun s => s.1.lifecycle) (Procedure.beside elapse) Entered where
  turnsAway call s h := advance_refused S h
  notes call s := by
    by_cases h : s.1.lifecycle.Refuses call
    · rw [run_refused S h]
      exact (RemoteLifecycle.noted_refusal (by simp [Entered])).symm
    by_cases hp : ∃ r, call = .path r
    · obtain ⟨r, rfl⟩ := hp
      simp only [Selector.call, Procedure.run_bind, Procedure.run_pure, run_path]
      split_ifs <;> rfl
    · rw [run_update S (fun r hr => hp ⟨r, hr⟩) h]
      have hentered := entered_outcome call (asked S s call).1
      cases call with
      | start r ps => exact (if_pos hentered).symm
      | path r => exact absurd ⟨r, rfl⟩ hp
      | pathDown r f i => rfl
      | refresh r ps => exact (if_pos hentered).symm
      | close r => exact (if_neg hentered).symm

end Script

/-- Whatever far end a remote selector calls, and whatever script a script's selector asks: once
closing a remote came to anything but being turned away, be it to a failure, every call on the
remote but a start is answered that the remote is closed, by its first stretch. So no request is
made and no function of the script is entered, and nothing has changed. This lasts until the remote
is started again, at a remote selector with success, while fewer than 1024 others are closed. -/
theorem closed_is_reported (elapse : Nat → τ → τ) (t : τ) :
    (∀ C : Caller τ,
      (Remote.proxied C).ReportsClosed (Procedure.beside elapse) Remote.Granted 1024 ({}, t)) ∧
    (∀ S : Script τ,
      (Script.hosted S).ReportsClosed (Procedure.beside elapse) Script.Entered 1024 ({}, t)) :=
  ⟨fun C => (Remote.remembering_proxied C).reportsClosed rfl,
    fun S => (Script.remembering_hosted S).reportsClosed rfl⟩

/-- A connection that is lost, and a script that raises when it is told of a closing: the remote is
closed all the same, and neither a refresh nor a start that fails opens it. -/
theorem failed_close_is_reported :
    let r : RemoteAddress := ⟨"r"⟩
    let since : List SelectorCall := [.refresh r [], .close ⟨"q"⟩]
    let C : Caller Unit := ⟨fun _ _ => .done (.error (.connectionLost "broken pipe"))⟩
    let proxied := Remote.proxied C
    let closing := (proxied.call (.close r)).run (Procedure.beside fun _ u => u) ({}, ())
    let later := (proxied.runAll (Procedure.beside fun _ u => u)
      (.start r [] :: since) closing.2).2
    let P : Script.Program := { entries := [⟨.selector, "close", .function [.raise "no"]⟩] }
    let S : Script Script.Memory := P.script ⟨.self, fun _ m => m, fun _ m => m⟩
    let hosted := Script.hosted S
    let closing' := (hosted.call (.close r)).run (Procedure.beside fun _ m => m) ({}, {})
    let later' := (hosted.runAll (Procedure.beside fun _ m => m) since closing'.2).2
    (closing.1 = .done (.error (.call (.connectionLost "broken pipe"))) ∧
      (proxied.call (.path r)).run (Procedure.beside fun _ u => u) later =
        (.chosen (.error (.selector (.remoteClosed r "path"))), later)) ∧
    (closing'.1 = .done (.error (.script (.runtime "close" "runtime error: no"))) ∧
      (hosted.call (.path r)).run (Procedure.beside fun _ m => m) later' =
        (.chosen (.error (.selector (.remoteClosed r "path"))), later')) := by
  intro r since C proxied closing later P S hosted closing' later'
  let lost : SelectorAnswer := .done (.error (.call (.connectionLost "broken pipe")))
  let raised : SelectorAnswer := .done (.error (.script (.runtime "close" "runtime error: no")))
  have hlost : closing.1 = lost := by decide +kernel
  have hraised : closing'.1 = raised := by decide +kernel
  have hlog : proxied.log (Procedure.beside fun _ u => u) (.start r [] :: since) closing.2 =
      [(.start r [], lost), (.refresh r [], SelectorCall.refusal (.refresh r [])),
        (.close ⟨"q"⟩, lost)] := by decide +kernel
  have hlog' : hosted.log (Procedure.beside fun _ m => m) since closing'.2 =
      [(.refresh r [], SelectorCall.refusal (.refresh r [])), (.close ⟨"q"⟩, raised)] := by
    decide +kernel
  have hstart (ps : List PathObject) (a : SelectorAnswer) (ha : (.start r ps, a) ∈
      proxied.log (Procedure.beside fun _ u => u) (.start r [] :: since) closing.2) :
      ¬Remote.Granted (.start r ps) a := by
    rw [hlog] at ha
    obtain ⟨-, rfl⟩ : ps = [] ∧ a = lost := by simpa using ha
    simp [Remote.Granted, lost]
  have hstart' (ps : List PathObject) (a : SelectorAnswer) (ha : (.start r ps, a) ∈
      hosted.log (Procedure.beside fun _ m => m) since closing'.2) :
      ¬Script.Entered (.start r ps) a := by
    rw [hlog'] at ha
    simp at ha
  have hne : closing.1 ≠ SelectorCall.refusal (.close r) := ne_of_eq_of_ne hlost (by decide)
  have hne' : closing'.1 ≠ SelectorCall.refusal (.close r) := ne_of_eq_of_ne hraised (by decide)
  have h := (closed_is_reported (fun _ u => u) ()).1 C [] (.start r [] :: since) r hne hstart
  have h' := (closed_is_reported (fun _ m => m) ({} : Script.Memory)).2 S [] since r hne' hstart'
  refine ⟨⟨hlost, (h ?_ (.path r) rfl (by simp)).2⟩, ⟨hraised, (h' ?_ (.path r) rfl (by simp)).2⟩⟩
  · exact (congrArg (List.countP _) hlog).trans_lt (by decide)
  · exact (congrArg (List.countP _) hlog').trans_lt (by decide)

end PathPolicy
