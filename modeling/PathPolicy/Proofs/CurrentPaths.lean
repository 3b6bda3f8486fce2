import PathPolicy.Proofs.ServedCalls
import Mathlib.Algebra.BigOperators.Group.Finset.Piecewise
import Mathlib.Algebra.Order.BigOperators.Group.Finset

/-!
# Paths chosen while the offers change

A user of a remote selector may have any number of calls under way: offers are replaced and remotes
closed while answers to earlier questions are still to come, and the far end serves the calls in
any order. A path that is chosen is of the offer installed last for its remote, all the same.
-/

namespace PathPolicy

/-! ### What calls change -/

/-- What a turn changes at the handles of the caller's end: an offer is installed when its call
begins and is not turned away, the others take effect when they are answered. -/
def SelectorCall.change? (begun : Prop) [Decidable begun] (before after : Option SelectorAnswer) :
    SelectorCall → Option HandleTable.Call
  | .start r ps | .refresh r ps => if ¬begun ∧ after = none then some (.replace r ps) else none
  | .path _ => none
  | .pathDown r f _ =>
    if before = none ∧ after = some (.done (.ok ())) then some (.removePath r f) else none
  | .close r => if begun ∧ before = none ∧ after ≠ none then some (.removeRemote r) else none

namespace Selector

variable {σ : Type} (S : Selector σ) (elapse : Nat → σ → σ) (calls : List SelectorCall) (s : σ)

/-- What the turn of the `i`-th call changes that comes after the other turns. -/
def change? (turns : List Nat) (i : Nat) : Option HandleTable.Call :=
  calls[i]?.bind (SelectorCall.change? (i ∈ turns) ((S.during elapse calls s turns).answer? i)
    ((S.during elapse calls s (turns ++ [i])).answer? i))

def changes (turns : List Nat) : List HandleTable.Call :=
  (List.range turns.length).filterMap fun n =>
    turns[n]?.bind (S.change? elapse calls s (turns.take n))

lemma changes_append_singleton (turns : List Nat) (i : Nat) :
    S.changes elapse calls s (turns ++ [i]) =
      S.changes elapse calls s turns ++ (S.change? elapse calls s turns i).toList :=
  account_append_singleton (S.change? elapse calls s) turns i

end Selector

namespace Remote

open HandleTable Call

/-- What the reply to a call comes to, and what it leaves of the caller's end. -/
def ProxyState.settle (s : ProxyState) (call : SelectorCall) (reply : Reply) :
    SelectorAnswer × ProxyState :=
  match call with
  | .path _ =>
    (.chosen (s.settlePath (settleReply SelectorMethod.path.name Codec.pathReply reply)), s)
  | call =>
    let (outcome, s) := s.settleUpdate call
      (settleReply (SelectorMethod.of call).name Codec.unit reply)
    (.done outcome, s)

namespace Connected

variable {σ : Type} (S : Selector σ) (frameLimit : Nat) (id : ClientId)

/-- The last stretch of a call. -/
def finish (call : SelectorCall) (reply : Reply) : Procedure (Connected σ) SelectorAnswer :=
  .stretch fun s =>
    ((s.proxy.settle call reply).1, { s with proxy := (s.proxy.settle call reply).2 })

/-- A request that cannot be encoded is never sent. -/
def send (call : SelectorCall) (m : SelectorMessage) : Procedure (Connected σ) Reply :=
  match Codec.selectorMessage.encodeAs "request" m with
  | .error e => .done (.error e)
  | .ok payload => (caller S { frameLimit } id).call (SelectorMethod.of call).name payload

/-- What is left of a call that has asked what it may. -/
def asking (call : SelectorCall) :
    Except PolicyError SelectorMessage → Procedure (Connected σ) SelectorAnswer
  | .error e => .done (call.failed e)
  | .ok m => (send S frameLimit id call m).bind (finish call)

lemma request_bind {α β : Type} (call : SelectorCall) (output : Codec β) (m : SelectorMessage)
    (f : Except CallError β → Procedure (Connected σ) α)
    (g : α → Procedure (Connected σ) SelectorAnswer) :
    (((caller S { frameLimit } id).request (SelectorMethod.of call).name Codec.selectorMessage output
        m).bind f).bind g =
      (send S frameLimit id call m).bind fun reply =>
        (f (settleReply (SelectorMethod.of call).name output reply)).bind g := by
  unfold Caller.request send Codec.encodeAs
  cases Codec.selectorMessage.encode m with
  | error fault => rfl
  | ok payload =>
    rw [Procedure.bind_assoc]
    exact Procedure.bind_assoc _ _ _

lemma call_eq (call : SelectorCall) :
    (selector S { frameLimit } id).call call =
      .act (fun s => { s with proxy := (s.proxy.ask call).2 })
        fun s => asking S frameLimit id call (s.proxy.ask call).1 := by
  cases call with
  | path r =>
    refine congrArg (Procedure.act _) (funext fun s => ?_)
    show Procedure.bind (Procedure.bind (.done (s.proxy.ask (.path r)).1) _) _ = _
    cases (s.proxy.ask (.path r)).1 with
    | error e => rfl
    | ok m =>
      exact request_bind S frameLimit id (.path r) Codec.pathReply m _ _
  | _ =>
    refine congrArg (Procedure.act _) (funext fun s => ?_)
    show Procedure.bind (Procedure.bind (.done (s.proxy.ask _).1) _) _ = _
    cases (s.proxy.ask _).1 with
    | error e => rfl
    | ok m =>
      exact request_bind S frameLimit id _ Codec.unit m _ _

/-! ### How far a call has come -/

variable (calls : List SelectorCall) (elapse : Nat → σ → σ)

/-- What is left of the `i`-th call, with `begun` if it has had a turn. -/
inductive Stage (w : Ledger) (begun : Prop) (i : Nat) (call : SelectorCall) :
    Procedure (Connected σ) SelectorAnswer → Prop
  | fresh (hb : ¬begun) (hs : i ∉ w.sent) :
    Stage w begun i call ((selector S { frameLimit } id).call call)
  | asked {payload : List UInt8} {next : UInt64} (hb : begun) (hs : i ∉ w.sent)
      (ht : Tells w next call)
      (hp : Codec.selectorMessage.encode (message next call) = .ok payload) :
    Stage w begun i call
      (((caller S { frameLimit } id).call (SelectorMethod.of call).name payload).bind (finish call))
  | waits {p : Procedure (Connected σ) Reply} (hb : begun)
      (hp : p.Keeps (Sound calls id) (elapsed elapse) (Replies calls i) w) :
    Stage w begun i call (p.bind (finish call))
  | answered (hb : begun) (a : SelectorAnswer) : Stage w begun i call (.done a)

/-- What a turn of the `i`-th call leaves, which changes the handles by `change`. -/
structure Turned (w : Ledger) (i : Nat) (call : SelectorCall) (change : Option HandleTable.Call)
    (s : Connected σ) (p : Procedure (Connected σ) SelectorAnswer) (w' : Ledger) : Prop where
  changes : w'.changes = w.changes ++ change.toList
  sent : w'.sent = w.sent ∨ i ∉ w.sent ∧ w'.sent = w.sent ++ [i]
  sound : Sound calls id w' s
  stage : Stage S frameLimit id calls elapse w' True i call p

variable {S frameLimit id calls elapse} {w w' : Ledger} {i : Nat} {call : SelectorCall}
  {s : Connected σ} {begun : Prop}

lemma Turned.le {change : Option HandleTable.Call} {p : Procedure (Connected σ) SelectorAnswer}
    (h : Turned S frameLimit id calls elapse w i call change s p w') : w ≤ w' := by
  refine ⟨h.changes ▸ List.prefix_append _ _, ?_⟩
  rcases h.sent with hs | ⟨-, hs⟩
  · exact hs ▸ List.prefix_rfl
  · exact hs ▸ List.prefix_append _ _

lemma Stage.mono {p : Procedure (Connected σ) SelectorAnswer}
    (h : Stage S frameLimit id calls elapse w begun i call p) (hw : w ≤ w')
    (hs : i ∉ w.sent → i ∉ w'.sent) : Stage S frameLimit id calls elapse w' begun i call p := by
  cases h with
  | fresh hb hi => exact .fresh hb (hs hi)
  | asked hb hi ht hp => exact .asked hb (hs hi) (fun r hr f k hk => (ht r hr f k hk).mono hw) hp
  | waits hb hp => exact .waits hb (hp.mono hw)
  | answered hb a => exact .answered hb a

lemma answer?_finish (p : Procedure (Connected σ) Reply) :
    (p.bind (finish call)).answer? = none :=
  Procedure.answer?_bind fun _ => rfl

/-- What an offer installs is told from then on. -/
lemma tells_after {change : Option HandleTable.Call}
    (hchange : ∀ r, call.Offers r → change = some (.replace r call.paths)) :
    Tells (w.after change) (UInt64.ofNat (1 + issued w.changes)) call := by
  intro r hr f h hlookup
  refine ⟨HandleTable.changes 1 w.changes, _, [], ?_, hlookup⟩
  rw [Ledger.after, hchange r hr, Option.toList_some, changes_append]
  rfl

/-- A change that the ledger takes down was made to the handles. -/
lemma Sound.after (h : Sound calls id w s) {change : Option HandleTable.Call} {proxy : ProxyState}
    (hp : proxy.handles = s.proxy.handles.applyAll change.toList) :
    Sound calls id (w.after change) { s with proxy } := by
  refine h.proxy (w.le_after change) rfl ?_
  rw [hp, h.handles, applyAll, applyAll, applyAll, Ledger.after, List.foldl_append]

variable [Decidable begun]

/-- The first turn of a call asks, or is turned away. -/
lemma turned_fresh (hsound : Sound calls id w s) (hs : i ∉ w.sent) (hb : ¬begun) :
    ∃ w', Turned S frameLimit id calls elapse w i call
      (call.change? begun none (asking S frameLimit id call (s.proxy.ask call).1).answer?)
      { s with proxy := (s.proxy.ask call).2 }
      (asking S frameLimit id call (s.proxy.ask call).1) w' := by
  by_cases hr : s.proxy.lifecycle.Refuses call
  · rw [ProxyState.ask_of_refuses hr]
    have hnone : call.change? begun none (asking S frameLimit id call
        (.error (.selector (.remoteClosed call.remote call.operation)))).answer? = none := by
      cases call <;> simp [SelectorCall.change?, asking, SelectorCall.failed, Procedure.answer?, hb]
    rw [hnone]
    exact ⟨w, (List.append_nil _).symm, .inl rfl, hsound, .answered trivial _⟩
  · rw [ProxyState.ask_of_not_refuses hr]
    have hanswer : (asking S frameLimit id call (.ok (message s.proxy.handles.next call))).answer? =
        none := answer?_finish _
    rw [hanswer]
    have hchange (r : RemoteAddress) (ho : call.Offers r) :
        call.change? begun none none = some (.replace r call.paths) := by
      cases call with
      | start r' ps => simp [SelectorCall.change?, hb, show r' = r from ho, SelectorCall.paths]
      | refresh r' ps => simp [SelectorCall.change?, hb, show r' = r from ho, SelectorCall.paths]
      | _ => exact ho.elim
    have hissued : (s.proxy.issued call).handles =
        s.proxy.handles.applyAll (call.change? begun none none).toList := by
      cases call <;> simp [SelectorCall.change?, hb, ProxyState.issued, applyAll, HandleTable.apply]
    have hnext : s.proxy.handles.next = UInt64.ofNat (1 + issued w.changes) := by
      rw [hsound.handles]
      exact (applyAll_eq (t := {}) (n := 1) rfl w.changes).2
    refine ⟨w.after _, rfl, .inl rfl, hsound.after hissued, ?_⟩
    rw [asking, send, hnext]
    cases hencode : Codec.selectorMessage.encode
        (message (UInt64.ofNat (1 + issued w.changes)) call) with
    | error fault =>
      simp only [Codec.encodeAs, hencode]
      refine .waits trivial fun v _ bytes hbytes => ?_
      cases hbytes
    | ok payload =>
      simp only [Codec.encodeAs, hencode]
      exact .asked trivial hs (tells_after hchange) hencode

variable (S frameLimit elapse) in
/-- A request gets its number. -/
lemma turned_asked (hi : calls[i]? = some call) (hcalls : calls.length < UInt64.size)
    (hsound : Sound calls id w s) (hs : i ∉ w.sent) {next : UInt64} (ht : Tells w next call)
    {payload : List UInt8}
    (hp : Codec.selectorMessage.encode (message next call) = .ok payload) :
    ∃ w', Turned S frameLimit id calls elapse w i call none
      { s with client := (s.client.submit (SelectorMethod.of call).name payload).2.2 }
      ((await S frameLimit id (s.client.submit (SelectorMethod.of call).name payload).1
        (s.client.submit (SelectorMethod.of call).name payload).2.1).bind (finish call)) w' := by
  obtain ⟨bytes, c, hsubmit, hstill, hnext, hgiven, hbytes⟩ :=
    Client.submit_cases hsound.still (SelectorMethod.of call).name payload
  have hw : w ≤ ⟨w.changes, w.sent ++ [i]⟩ := ⟨List.prefix_rfl, List.prefix_append _ _⟩
  have hdistinct : (w.sent ++ [i]).Nodup := List.nodup_append.mpr ⟨hsound.distinct,
    List.nodup_singleton i, fun a ha b hb he => hs (List.mem_singleton.mp hb ▸ he ▸ ha)⟩
  have hknown : ∀ j ∈ w.sent ++ [i], j < calls.length := by
    intro j hj
    rcases List.mem_append.mp hj with hj | hj
    · exact hsound.known j hj
    · rw [List.mem_singleton.mp hj]
      exact (List.getElem?_eq_some_iff.mp hi).1
  have hfew : (w.sent ++ [i]).length ≤ calls.length := by
    have hsub := List.subperm_of_subset hdistinct fun j hj => List.mem_range.mpr (hknown j hj)
    rw [← List.length_range (n := calls.length)]
    exact hsub.length_le
  rw [hsubmit, hsound.nextId]
  refine ⟨⟨w.changes, w.sent ++ [i]⟩, (List.append_nil _).symm, .inr ⟨hs, rfl⟩, ?_, ?_⟩
  · refine ⟨hdistinct, hknown, Nat.lt_of_le_of_lt hfew hcalls, hstill, ?_, fun k bs hg => ?_,
      hsound.handles, hsound.told⟩
    · rw [hnext, hsound.nextId, ofNat_add_one, List.length_append, List.length_singleton]
    · obtain ⟨n, j, hn, hk, hfits⟩ := hsound.given k bs (hgiven k bs hg)
      exact ⟨n, j, Ledger.sent_of_le hw hn, hk, hfits.mono hw⟩
  · refine .waits trivial (keeps_await S frameLimit ?_ (hsound.nextId ▸ hbytes) fun hl => ?_)
    · simp
    · exact (keeps_dispatch S frameLimit hi ht hp hl).mono hw

/-- The answer to a call is taken. -/
lemma turned_finish (hsound : Sound calls id w s) (hb : begun) (reply : Reply) :
    ∃ w', Turned S frameLimit id calls elapse w i call
      (call.change? begun none (some (s.proxy.settle call reply).1))
      { s with proxy := (s.proxy.settle call reply).2 } (.done (s.proxy.settle call reply).1)
      w' := by
  have hhandles : (s.proxy.settle call reply).2.handles = s.proxy.handles.applyAll
      (call.change? begun none (some (s.proxy.settle call reply).1)).toList := by
    cases call with
    | path r => rfl
    | _ =>
      unfold ProxyState.settle
      dsimp only
      generalize settleReply _ Codec.unit reply = outcome
      cases outcome <;> simp [SelectorCall.change?, hb, ProxyState.settleUpdate, Except.mapError,
        applyAll, HandleTable.apply]
  exact ⟨w.after _, rfl, .inl rfl, hsound.after hhandles, .answered trivial _⟩

/-- Nothing changes with a turn in between. -/
lemma change?_eq_none {before after : Option SelectorAnswer} (hb : begun)
    (h : before = none → after = none) : call.change? begun before after = none := by
  cases before with
  | none => cases call <;> simp [SelectorCall.change?, hb, h rfl]
  | some a => cases call <;> simp [SelectorCall.change?, hb]

/-- Whatever a turn of a call does, it changes the handles as it is seen to. -/
theorem Stage.turned {p : Procedure (Connected σ) SelectorAnswer}
    (h : Stage S frameLimit id calls elapse w begun i call p) (hi : calls[i]? = some call)
    (hcalls : calls.length < UInt64.size) (hsound : Sound calls id w s) :
    ∃ w', Turned S frameLimit id calls elapse w i call
      (call.change? begun p.answer? (p.advance (elapsed elapse) s).1.answer?)
      (p.advance (elapsed elapse) s).2 (p.advance (elapsed elapse) s).1 w' := by
  cases h with
  | fresh hb hs =>
    rw [call_eq]
    exact turned_fresh hsound hs hb
  | asked hb hs ht hp =>
    rw [caller, Client.call_caller, answer?_finish, Procedure.advance_bind rfl, answer?_finish,
      change?_eq_none hb fun h => h]
    exact turned_asked S frameLimit elapse hi hcalls hsound hs ht hp
  | @waits q hb hq =>
    cases hq' : q.answer? with
    | some reply =>
      obtain rfl := Procedure.answer?_eq_some_iff.mp hq'
      exact turned_finish hsound hb reply
    | none =>
      obtain ⟨hrest, hkept⟩ := hq.advance hsound
      rw [Procedure.advance_bind hq', answer?_finish, answer?_finish, change?_eq_none hb fun h => h]
      exact ⟨w, (List.append_nil _).symm, .inl rfl, hkept, .waits trivial hrest⟩
  | answered hb a =>
    rw [change?_eq_none hb fun h => by cases h]
    exact ⟨w, (List.append_nil _).symm, .inl rfl, hsound, .answered trivial a⟩

/-! ### A run -/

/-- How many handles the `i`-th call may have issued. -/
def offered (calls : List SelectorCall) (i : Nat) : Nat :=
  (calls[i]?.map fun call => call.paths.length).getD 0

lemma sum_offered_le (calls : List SelectorCall) (t : Finset Nat) :
    ∑ i ∈ t, offered calls i ≤ (calls.flatMap SelectorCall.paths).length := by
  induction calls using List.reverseRecOn with
  | nil => simp [offered]
  | append_singleton calls call ih =>
    have hone (i : Nat) : offered (calls ++ [call]) i =
        offered calls i + if i = calls.length then call.paths.length else 0 := by
      unfold offered
      rcases Nat.lt_trichotomy i calls.length with h | rfl | h
      · simp [List.getElem?_append_left h, Nat.ne_of_lt h]
      · simp
      · have hbeyond : (calls ++ [call])[i]? = none := by
          rw [List.getElem?_eq_none_iff, List.length_append, List.length_singleton]
          omega
        simp [hbeyond, List.getElem?_eq_none (Nat.le_of_lt h), Nat.ne_of_gt h]
    have hlast : (∑ i ∈ t, if i = calls.length then call.paths.length else 0) ≤
        call.paths.length := by
      rw [Finset.sum_ite_eq' t calls.length fun _ => call.paths.length]
      split <;> omega
    simp only [hone, Finset.sum_add_distrib, List.flatMap_append, List.length_append,
      List.flatMap_cons, List.flatMap_nil, List.append_nil]
    omega

/-- A call issues its handles with its first turn only. -/
lemma length_of_change? {before after : Option SelectorAnswer} {c : HandleTable.Call}
    (h : call.change? begun before after = some c) :
    c.paths.length ≤ if begun then 0 else call.paths.length := by
  cases call with
  | path r => cases h
  | _ =>
    simp only [SelectorCall.change?, Option.ite_none_right_eq_some, Option.some.injEq] at h
    obtain ⟨hc, rfl⟩ := h
    simp_all [HandleTable.Call.paths, SelectorCall.paths]

lemma issued_change?_le {j : Nat} (hj : calls[j]? = some call) (begun : Prop) [Decidable begun]
    (before after : Option SelectorAnswer) :
    issued (call.change? begun before after).toList ≤ if begun then 0 else offered calls j := by
  cases hc : call.change? begun before after with
  | none => exact Nat.zero_le _
  | some c =>
    have hlength := length_of_change? hc
    simpa [issued, offered, hj] using hlength

section Run

variable (S frameLimit id calls elapse) (s)

/-- What is known once the turns have been taken. -/
structure Kept (turns : List Nat) (w : Ledger) : Prop where
  changes : w.changes = (selector S { frameLimit } id).changes (elapsed elapse) calls s turns
  sound : Sound calls id w ((selector S { frameLimit } id).during (elapsed elapse) calls s turns).state
  few : issued w.changes ≤ ∑ i ∈ turns.toFinset, offered calls i
  stages : ∀ i call, calls[i]? = some call →
    ∃ p, ((selector S { frameLimit } id).during (elapsed elapse) calls s turns).tasks[i]? = some p ∧
      Stage S frameLimit id calls elapse w (i ∈ turns) i call p

variable {S frameLimit id calls elapse s} {turns : List Nat}

lemma sum_offered_append (turns : List Nat) {j n : Nat}
    (hn : n ≤ if j ∈ turns then 0 else offered calls j) :
    (∑ i ∈ turns.toFinset, offered calls i) + n ≤
      ∑ i ∈ (turns ++ [j]).toFinset, offered calls i := by
  have hinsert : (turns ++ [j]).toFinset = insert j turns.toFinset := by
    ext i
    simp
  rw [hinsert]
  by_cases hj : j ∈ turns
  · rw [if_pos hj] at hn
    rw [Finset.insert_eq_of_mem (List.mem_toFinset.mpr hj)]
    omega
  · rw [if_neg hj] at hn
    rw [Finset.sum_insert (fun hm => hj (List.mem_toFinset.mp hm))]
    omega

/-- A turn of another call leaves a call where it is. -/
lemma Stage.wait {p : Procedure (Connected σ) SelectorAnswer} {j : Nat} (hij : i ≠ j)
    (h : Stage S frameLimit id calls elapse w (i ∈ turns) i call p) (hw : w ≤ w')
    (hs : w'.sent = w.sent ∨ j ∉ w.sent ∧ w'.sent = w.sent ++ [j]) :
    Stage S frameLimit id calls elapse w' (i ∈ turns ++ [j]) i call p := by
  have hsame : (i ∈ turns ++ [j]) = (i ∈ turns) := by simp [hij]
  rw [hsame]
  refine h.mono hw fun hi => ?_
  rcases hs with hs | ⟨-, hs⟩
  · rwa [hs]
  · simpa [hs, hij] using hi

lemma Kept.step (hcalls : calls.length < UInt64.size)
    (h : Kept S frameLimit id calls elapse s turns w) (j : Nat) :
    ∃ w', w ≤ w' ∧ Kept S frameLimit id calls elapse s (turns ++ [j]) w' := by
  cases hj : calls[j]? with
  | none =>
    have htasks : ((selector S { frameLimit } id).during (elapsed elapse) calls s turns).tasks[j]? =
        none := Selector.tasks_during_of_none hj turns
    have hpool : (selector S { frameLimit } id).during (elapsed elapse) calls s (turns ++ [j]) =
        (selector S { frameLimit } id).during (elapsed elapse) calls s turns := by
      rw [Selector.during_append_singleton, Pool.step_of_none htasks]
    refine ⟨w, le_refl w, ?_, ?_, ?_, fun i call hi => ?_⟩
    · rw [Selector.changes_append_singleton, Selector.change?, hj, ← h.changes]
      exact (List.append_nil _).symm
    · rw [hpool]
      exact h.sound
    · exact Nat.le_trans h.few (Nat.le_of_add_right_le (sum_offered_append turns (Nat.zero_le _)))
    · obtain ⟨p, hp, hstage⟩ := h.stages i call hi
      have hij : i ≠ j := by
        rintro rfl
        rw [hi] at hj
        cases hj
      exact ⟨p, by rw [hpool, hp], hstage.wait hij (le_refl w) (.inl rfl)⟩
  | some call =>
    obtain ⟨p, hp, hstage⟩ := h.stages j call hj
    obtain ⟨w', hturned⟩ := hstage.turned hj hcalls h.sound
    have htask (i : Nat) : ((selector S { frameLimit } id).during (elapsed elapse) calls s
        (turns ++ [j])).tasks[i]? = if j = i then some (p.advance (elapsed elapse)
          ((selector S { frameLimit } id).during (elapsed elapse) calls s turns).state).1
        else ((selector S { frameLimit } id).during (elapsed elapse) calls s turns).tasks[i]? := by
      rw [Selector.during_append_singleton, Pool.getElem?_step]
      split_ifs with hij
      · rw [← hij, hp, Option.map_some]
      · rfl
    have hstate : ((selector S { frameLimit } id).during (elapsed elapse) calls s
        (turns ++ [j])).state = (p.advance (elapsed elapse)
          ((selector S { frameLimit } id).during (elapsed elapse) calls s turns).state).2 := by
      rw [Selector.during_append_singleton, Pool.step_of_some hp]
    have hchange : (selector S { frameLimit } id).change? (elapsed elapse) calls s turns j =
        call.change? (j ∈ turns) p.answer? (p.advance (elapsed elapse)
          ((selector S { frameLimit } id).during (elapsed elapse) calls s turns).state).1.answer? := by
      rw [Selector.change?, hj, Option.bind_some, Pool.answer?, hp, Pool.answer?, htask, if_pos rfl,
        Option.bind_some, Option.bind_some]
    rw [← hchange] at hturned
    refine ⟨w', hturned.le, ?_, ?_, ?_, fun i call' hi => ?_⟩
    · rw [Selector.changes_append_singleton, hturned.changes, h.changes]
    · rw [hstate]
      exact hturned.sound
    · rw [hturned.changes, issued_append, hchange]
      exact Nat.le_trans (Nat.add_le_add_right h.few _)
        (sum_offered_append turns (issued_change?_le hj (j ∈ turns) _ _))
    · rw [htask]
      by_cases hij : i = j
      · subst hij
        obtain rfl := Option.some.inj (hj.symm.trans hi)
        have hbegun : (i ∈ turns ++ [i]) = True := by simp
        rw [if_pos rfl, hbegun]
        exact ⟨_, rfl, hturned.stage⟩
      · obtain ⟨q, hq, hstage'⟩ := h.stages i call' hi
        rw [if_neg (Ne.symm hij)]
        exact ⟨q, hq, hstage'.wait hij hturned.le hturned.sent⟩

variable (S frameLimit id elapse) in
lemma exists_kept (hcalls : calls.length < UInt64.size) (endpoint : String) (limit : Nat)
    (inner : σ) (turns : List Nat) :
    ∃ w, Kept S frameLimit id calls elapse
      { client := { endpoint, frameLimit := limit }, inner } turns w := by
  induction turns using List.reverseRecOn with
  | nil =>
    refine ⟨{}, rfl, ?_, Nat.le_refl _, fun i call hi => ?_⟩
    · refine ⟨List.nodup_nil, fun i hi => ?_, by decide, ⟨rfl, rfl⟩, rfl, fun k bytes hg => ?_, rfl,
        fun r f h hk => ?_⟩
      · cases hi
      · obtain ⟨o, ho, -⟩ := hg
        cases ho
      · exact absurd hk (OfferTable.loose_empty h r f)
    · refine ⟨(selector S { frameLimit } id).call call, ?_, .fresh (by simp) (by simp)⟩
      simp [Selector.during, Pool.run, hi]
  | append_singleton turns j ih =>
    obtain ⟨w, h⟩ := ih
    obtain ⟨w', -, h'⟩ := h.step hcalls j
    exact ⟨w', h'⟩

/-- A handle that was told for a remote leads to a path that is on offer for it. -/
lemma Sound.installed (h : Sound calls id w s) (hn : 1 + issued w.changes ≤ UInt64.size)
    {r : RemoteAddress} {f : Fingerprint} {k : PathHandle} (ht : w.Told r f k) {o : PathObject}
    (ho : s.proxy.handles.resolve k = some o) :
    (∃ ps, HandleTable.installed r w.changes = some ps ∧ o ∈ ps) ∧
      s.proxy.handles.keyOf r o.fingerprint = some k := by
  rw [h.handles, (applyAll_eq (t := {}) (n := 1) rfl w.changes).1] at ho ⊢
  obtain ⟨hcurrent, hkey⟩ := ht.current (nodup_keys_changes hn) ho
  exact ⟨exists_installed_of_current hcurrent, hkey⟩

omit [Decidable begun] in
/-- The last turn of a question for a path resolves a handle that was told for the remote. -/
lemma Stage.chosen {r : RemoteAddress} {o : PathObject} {p : Procedure (Connected σ) SelectorAnswer}
    (h : Stage S frameLimit id calls elapse w begun i (.path r) p)
    (hi : calls[i]? = some (.path r)) (hwaits : p.answer? = none)
    (ho : (p.advance (elapsed elapse) s).1.answer? = some (.chosen (.ok (some o)))) :
    ∃ f k, w.Told r f k ∧ s.proxy.handles.resolve k = some o := by
  cases h with
  | fresh hb hs =>
    rw [call_eq] at ho
    simp only [Procedure.advance] at ho
    cases hask : (s.proxy.ask (.path r)).1 with
    | error e =>
      rw [hask] at ho
      cases ho
    | ok m =>
      rw [hask, asking, answer?_finish] at ho
      cases ho
  | asked hb hs ht hp =>
    rw [caller, Client.call_caller, Procedure.advance_bind rfl, answer?_finish] at ho
    cases ho
  | @waits q hb hq =>
    cases hq' : q.answer? with
    | none =>
      rw [Procedure.advance_bind hq', answer?_finish] at ho
      cases ho
    | some reply =>
      obtain rfl := Procedure.answer?_eq_some_iff.mp hq'
      have hsettled : s.proxy.settlePath
          (settleReply SelectorMethod.path.name Codec.pathReply reply) = .ok (some o) :=
        SelectorAnswer.chosen.inj (Option.some.inj ho)
      cases hreply : settleReply SelectorMethod.path.name Codec.pathReply reply with
      | error e =>
        rw [hreply] at hsettled
        cases hsettled
      | ok answer =>
        rw [hreply] at hsettled
        obtain ⟨k, hk, hresolve⟩ := Option.bind_eq_some_iff.mp (Except.ok.inj hsettled)
        obtain ⟨bytes, rfl, hdecode⟩ : ∃ bytes, reply = .ok bytes ∧
            Codec.pathReply.decodeAs "response" bytes = .ok answer := by
          unfold settleReply at hreply
          split at hreply
          · exact ⟨_, rfl, hreply⟩
          · cases hreply
          · cases hreply
        obtain ⟨f, ht⟩ := hq w (le_refl w) bytes rfl r hi answer hdecode k hk
        exact ⟨f, k, ht, hresolve⟩
  | answered hb a => cases hwaits

/-- Whatever calls are under way: when a path is chosen for a remote, it is of the list installed
last for this remote, whose handles were not dropped since, and it is looked up by a handle that
the remote has for it. What was installed and dropped is what made the handles as they are. -/
theorem path_of_latest (S : Selector σ) (frameLimit : Nat) (id : ClientId) (elapse : Nat → σ → σ)
    (endpoint : String) (limit : Nat) (inner : σ) (calls : List SelectorCall)
    (hcalls : calls.length < UInt64.size)
    (hpaths : (calls.flatMap SelectorCall.paths).length < UInt64.size) (turns : List Nat) :
    let s : Connected σ := { client := { endpoint, frameLimit := limit }, inner }
    let run := (selector S { frameLimit } id).during (elapsed elapse) calls s
    let handles := (run turns).state.proxy.handles
    let history := (selector S { frameLimit } id).changes (elapsed elapse) calls s turns
    handles = ({} : HandleTable).applyAll history ∧
      ∀ (i : Nat) (r : RemoteAddress) (o : PathObject), calls[i]? = some (.path r) →
        (run turns).answer? i = none →
        (run (turns ++ [i])).answer? i = some (.chosen (.ok (some o))) →
        (∃ ps, installed r history = some ps ∧ o ∈ ps) ∧
          ∃ h, handles.keyOf r o.fingerprint = some h ∧ handles.resolve h = some o := by
  intro s run handles history
  obtain ⟨w, hkept⟩ := exists_kept S frameLimit id elapse hcalls endpoint limit inner turns
  have hhistory : history = w.changes := hkept.changes.symm
  have hfew : 1 + issued w.changes ≤ UInt64.size := by
    have hissued := Nat.le_trans hkept.few (sum_offered_le calls turns.toFinset)
    omega
  rw [hhistory]
  refine ⟨hkept.sound.handles, fun i r o hi hwaits hchosen => ?_⟩
  obtain ⟨p, hp, hstage⟩ := hkept.stages i (.path r) hi
  have hwaits' : p.answer? = none := by
    rw [Pool.answer?, hp] at hwaits
    exact hwaits
  have hchosen' : (p.advance (elapsed elapse) (run turns).state).1.answer? =
      some (.chosen (.ok (some o))) := by
    rw [show run (turns ++ [i]) = _ from Selector.during_append_singleton turns i, Pool.answer?,
      Pool.getElem?_step, if_pos rfl, hp] at hchosen
    exact hchosen
  obtain ⟨f, k, ht, hresolve⟩ := hstage.chosen hi hwaits' hchosen'
  obtain ⟨hinstalled, hkey⟩ := hkept.sound.installed hfew ht hresolve
  exact ⟨hinstalled, k, hkey, hresolve⟩

end Run

/-- A question is on its way when the offer it is about is replaced by one with the same
fingerprint. The far end serves the refresh first, so the question is answered from the new list,
before the refresh is. -/
theorem path_of_latest_overtaken :
    let path (label : Nat) : PathObject := ⟨some label, ⟨⟨"1-1"⟩, ⟨"1-2"⟩, ⟨"a"⟩, .epoch, none⟩⟩
    let r : RemoteAddress := ⟨"r"⟩
    let calls : List SelectorCall := [.start r [path 0], .path r, .refresh r [path 1]]
    let turns := [0, 0, 0, 0, 0, 0, 0, 1, 1, 2, 2, 2, 2, 1, 1, 1, 1]
    let S := selector failoverSelector { frameLimit := 1024 } ⟨1⟩
    let s : Connected FailoverState := { client := { frameLimit := 512 }, inner := {} }
    let run := S.during (elapsed fun _ s => s) calls s
    (calls[1]? = some (.path r) ∧ (run turns).answer? 1 = none ∧ (run turns).answer? 2 = none ∧
      (run (turns ++ [1])).answer? 1 = some (.chosen (.ok (some (path 1))))) ∧
    calls.length < UInt64.size ∧ (calls.flatMap SelectorCall.paths).length < UInt64.size ∧
    ∃ ps, installed r (S.changes (elapsed fun _ s => s) calls s turns) = some ps ∧ path 1 ∈ ps := by
  intro path r calls turns S s run
  have hwaits : (run turns).answer? 1 = none := by decide +kernel
  have hchosen : (run (turns ++ [1])).answer? 1 = some (.chosen (.ok (some (path 1)))) := by
    decide +kernel
  refine ⟨⟨rfl, hwaits, by decide +kernel, hchosen⟩, by decide, by decide, ?_⟩
  exact ((path_of_latest failoverSelector 1024 ⟨1⟩ (fun _ s => s) "" 512 {} calls (by decide)
    (by decide) turns).2 1 r (path 1) rfl hwaits hchosen).1

end Connected

end Remote

end PathPolicy
