import PathPolicy.Proofs.CurrentOffers
import PathPolicy.Proofs.Reopening

/-!
# What a far end can choose

A far end is arbitrary: it may answer any handle at any time, one that it was told for another
remote or for an earlier offer as well. The handles at the caller's end are a function of the calls
made and their answers alone. So which path a handle chooses is read off the calls. It is of the
list passed last for the remote asked about, of the list passed last for another remote, or left
from a list that had its fingerprint twice.
-/

namespace PathPolicy

lemma Procedure.Place.lawful_first {σ τ : Type} : (first : Place (σ × τ) σ).Lawful :=
  ⟨fun _ _ => rfl, fun _ _ _ => rfl, fun _ => rfl⟩

namespace Remote

open Call Codec

variable {τ : Type} (elapse : Nat → τ → τ) (C : Caller τ)

/-- What an answered call has changed at the handles of the caller's end. Paths are offered before
the far end has answered; a call on a closed remote changes nothing. -/
def tableCall? : SelectorCall → SelectorAnswer → Option HandleTable.Call
  | .start r ps, _ => some (.replace r ps)
  | .refresh _ _, .done (.error (.selector _)) => none
  | .refresh r ps, _ => some (.replace r ps)
  | .pathDown r f _, .done (.ok ()) => some (.removePath r f)
  | .close _, .done (.error (.selector _)) => none
  | .close r, _ => some (.removeRemote r)
  | _, _ => none

/-- What the calls of a run have changed at the handles of the caller's end. -/
def tableCalls (calls : List SelectorCall) (answers : List SelectorAnswer) :
    List HandleTable.Call :=
  (calls.zip answers).filterMap fun e => tableCall? e.1 e.2

/-- The handle that the far end, asked about `r`, answers with, if it answers with one. -/
def answeredHandle (u : τ) (r : RemoteAddress) : Option PathHandle :=
  match ((C.request SelectorMethod.path.name selectorMessage pathReply
    { remote := some r }).run elapse u).1 with
  | .ok reply => reply.handle
  | .error _ => none

/-! ### One call -/

lemma run_request_within {α β : Type} (method : String) (input : Codec α) (output : Codec β) (a : α)
    (s : ProxyState × τ) :
    ((C.within .second).request method input output a).run (Procedure.beside elapse) s =
      (((C.request method input output a).run elapse s.2).1,
        (s.1, ((C.request method input output a).run elapse s.2).2)) := by
  unfold Caller.request
  cases input.encodeAs "request" a with
  | error e => rfl
  | ok payload =>
    simp only [Caller.within, Procedure.run_bind, Procedure.run_within_second]
    rfl

lemma tableCall?_of_refuses {l : RemoteLifecycle} {call : SelectorCall} (h : l.Refuses call) :
    tableCall? call call.refusal = none := by
  cases call with
  | start r ps => exact h.elim
  | _ => rfl

lemma handles_settleUpdate (s : ProxyState) (call : SelectorCall) (reply : Except CallError Unit)
    (hc : ∀ r, call ≠ .path r) :
    ((s.issued call).settleUpdate call reply).2.handles =
      s.handles.applyAll (tableCall? call (.done (reply.mapError .call))).toList := by
  cases call with
  | path r => exact absurd rfl (hc r)
  | _ => cases reply <;> rfl

/-- A call changes the handles as its answer tells. -/
lemma handles_call (call : SelectorCall) (s : ProxyState × τ) :
    (((proxied C).call call).run (Procedure.beside elapse) s).2.1.handles =
      s.1.handles.applyAll (tableCall? call
        (((proxied C).call call).run (Procedure.beside elapse) s).1).toList := by
  by_cases h : s.1.lifecycle.Refuses call
  · rw [proxied, run_refused Procedure.Place.lawful_first h, tableCall?_of_refuses h]
    rfl
  by_cases hp : ∃ r, call = .path r
  · obtain ⟨r, rfl⟩ := hp
    rw [proxied, run_asked_path (p := .first) h (run_request_within elapse C ..)]
    rfl
  · have hc : ∀ r, call ≠ .path r := fun r hr => hp ⟨r, hr⟩
    rw [proxied, run_asked (p := .first) hc h (run_request_within elapse C ..)]
    exact handles_settleUpdate s.1 call _ hc

/-- Asked about a remote that is not closed, the far end chooses what its handle stands for. -/
lemma run_path_eq_some_iff (s : ProxyState × τ) (r : RemoteAddress) (p : PathObject) :
    (((proxied C).call (.path r)).run (Procedure.beside elapse) s).1 = .chosen (.ok (some p)) ↔
      s.1.lifecycle.state r ≠ .closed ∧
        ∃ h, answeredHandle elapse C s.2 r = some h ∧ s.1.handles.resolve h = some p := by
  by_cases h : s.1.lifecycle.Refuses (.path r)
  · have hclosed : s.1.lifecycle.state r = .closed := h
    rw [proxied, run_refused Procedure.Place.lawful_first h]
    simp [SelectorCall.refusal, SelectorCall.failed, hclosed]
  · have hopen : s.1.lifecycle.state r ≠ .closed := h
    rw [proxied, run_asked_path (p := .first) h (run_request_within elapse C ..)]
    rw [and_iff_right hopen, answeredHandle, SelectorAnswer.chosen.injEq]
    cases ((C.request SelectorMethod.path.name selectorMessage pathReply
        { remote := some r }).run elapse s.2).1 with
    | error e => simp [ProxyState.settlePath]
    | ok reply =>
      simp only [ProxyState.settlePath, Except.ok.injEq, Option.bind_eq_some_iff]
      rfl

/-! ### A run of calls -/

lemma tableCalls_cons (call : SelectorCall) (calls : List SelectorCall) (a : SelectorAnswer)
    (answers : List SelectorAnswer) : tableCalls (call :: calls) (a :: answers) =
      (tableCall? call a).toList ++ tableCalls calls answers := by
  rw [tableCalls, List.zip_cons_cons, List.filterMap_cons]
  cases tableCall? call a <;> rfl

lemma issued_tableCall? (call : SelectorCall) (a : SelectorAnswer) :
    HandleTable.issued (tableCall? call a).toList ≤ call.paths.length := by
  unfold tableCall?
  split <;> simp [HandleTable.issued, HandleTable.Call.paths, SelectorCall.paths]

/-- At most the paths passed are given handles. -/
lemma issued_tableCalls (calls : List SelectorCall) (answers : List SelectorAnswer) :
    HandleTable.issued (tableCalls calls answers) ≤ (calls.flatMap SelectorCall.paths).length := by
  induction calls generalizing answers with
  | nil => simp [tableCalls, HandleTable.issued]
  | cons call calls ih =>
    cases answers with
    | nil => simp [tableCalls, HandleTable.issued]
    | cons a answers =>
      have hcall := issued_tableCall? call a
      have hcalls := ih answers
      rw [tableCalls_cons, HandleTable.issued_append, List.flatMap_cons, List.length_append]
      omega

lemma handles_runAll (calls : List SelectorCall) (s : ProxyState × τ) :
    ((proxied C).runAll (Procedure.beside elapse) calls s).2.1.handles =
      s.1.handles.applyAll
        (tableCalls calls ((proxied C).runAll (Procedure.beside elapse) calls s).1) := by
  induction calls generalizing s with
  | nil => rfl
  | cons call calls ih =>
    have hrest := ih (((proxied C).call call).run (Procedure.beside elapse) s).2
    rw [handles_call] at hrest
    simp only [Selector.runAll, tableCalls_cons]
    rw [hrest]
    exact List.foldl_append.symm

/-- A path is chosen with a handle that stands for it on the remote's own current offer, on another
remote's current offer, or as one left from an offer that had its fingerprint twice. -/
theorem far_end_chooses_iff (t : τ) (calls : List SelectorCall)
    (hn : (calls.flatMap SelectorCall.paths).length < UInt64.size) (later : List SelectorCall)
    (r : RemoteAddress) (p : PathObject) :
    let before := (proxied C).runAll (Procedure.beside elapse) calls ({}, t)
    let told := tableCalls calls before.1
    let offers := HandleTable.changes 1 told
    ((proxied C).runAll (Procedure.beside elapse) (calls ++ .path r :: later)
        ({}, t)).1[calls.length]? = some (.chosen (.ok (some p))) ↔
      before.2.1.lifecycle.state r ≠ .closed ∧
        ∃ h, answeredHandle elapse C before.2.2 r = some h ∧
          ((∃ ps, HandleTable.installed r told = some ps ∧ p ∈ ps ∧
              OfferTable.Current offers r h p) ∨
            (∃ r', r' ≠ r ∧ OfferTable.Current offers r' h p) ∨
            OfferTable.Leftover offers h p) := by
  intro before told offers
  have hissued : HandleTable.issued told ≤ (calls.flatMap SelectorCall.paths).length :=
    issued_tableCalls calls _
  have hfresh : OfferTable.AllFresh offers :=
    OfferTable.allFresh_of_nodup (HandleTable.nodup_keys_changes (by omega))
  have htable : before.2.1.handles.toOfferTable = ({} : OfferTable PathHandle).applyAll offers := by
    have hhandles : before.2.1.handles = ({} : HandleTable).applyAll told :=
      handles_runAll elapse C calls ({}, t)
    rw [hhandles]
    exact (HandleTable.applyAll_eq (t := {}) (n := 1) rfl told).1
  rw [Selector.getElem?_runAll, Option.some.injEq, run_path_eq_some_iff]
  refine and_congr_right fun _ => exists_congr fun h => and_congr_right fun _ => ?_
  rw [htable, OfferTable.resolve_eq_some_iff hfresh]
  constructor
  · rintro (⟨r', hc⟩ | hl)
    · by_cases hr : r' = r
      · subst hr
        obtain ⟨ps, hps, hp⟩ := HandleTable.exists_installed_of_current hc
        exact .inl ⟨ps, hps, hp, hc⟩
      · exact .inr (.inl ⟨r', hr, hc⟩)
    · exact .inr (.inr hl)
  · rintro (⟨-, -, -, hc⟩ | ⟨r', -, hc⟩ | hl)
    · exact .inl ⟨r, hc⟩
    · exact .inl ⟨r', hc⟩
    · exact .inr hl

/-- Asked about one remote, a far end answers the handle told for another: its path is chosen. -/
theorem far_end_chooses_for_other_remote :
    let path (label : Nat) (f : String) : PathObject :=
      ⟨some label, ⟨⟨"1-ff00:0:110"⟩, ⟨"1-ff00:0:112"⟩, ⟨f⟩, .epoch, none⟩⟩
    let second : List UInt8 := [1, 2, 0, 0, 0, 0, 0, 0, 0]
    let C : Caller Unit :=
      ⟨fun method _ => .done (.ok (if method = "Selector.Path" then second else []))⟩
    let calls : List SelectorCall := [.start ⟨"r1"⟩ [path 0 "a"], .start ⟨"r2"⟩ [path 1 "b"]]
    let before := (proxied C).runAll (Procedure.beside fun _ u => u) calls ({}, ())
    (calls.flatMap SelectorCall.paths).length < UInt64.size ∧
      HandleTable.installed ⟨"r1"⟩ (tableCalls calls before.1) = some [path 0 "a"] ∧
      ((proxied C).runAll (Procedure.beside fun _ u => u) (calls ++ [.path ⟨"r1"⟩])
        ({}, ())).1[calls.length]? = some (.chosen (.ok (some (path 1 "b")))) := by
  intro path second C calls before
  have hn : (calls.flatMap SelectorCall.paths).length < UInt64.size := by decide
  refine ⟨hn, by rfl, ?_⟩
  refine (far_end_chooses_iff (fun _ u => u) C () calls hn [] ⟨"r1"⟩ (path 1 "b")).mpr ?_
  have hopen : before.2.1.lifecycle.state ⟨"r1"⟩ ≠ .closed := by decide +kernel
  exact ⟨hopen, ⟨2⟩, by rfl, .inr (.inl ⟨⟨"r2"⟩, by decide, [(⟨2⟩, path 1 "b")], by rfl, by simp⟩)⟩

end Remote

end PathPolicy
