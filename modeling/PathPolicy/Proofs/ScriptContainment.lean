import PathPolicy.Proofs.TableNames

/-!
# What a script cannot do

A script names the tables it is handed and answers calls, and may fail at any of it. The names are
all that its selector's own state takes from it: `SelectorState.after` goes from state to state by
the calls and the names of the tables made for them. Two scripts that are told the same calls leave
states that have the same of retained tables, up to their names, as long as new tables are told
apart from those retained. How a call of the script fails shows in the answer and nowhere else.

Beside the retained tables a state has those left over from lists that had a fingerprint twice. They
are nobody's any more, so their names can be given to new tables, and what they stand for then goes.
-/

namespace PathPolicy.Script

open OfferTable (Change)

variable {τ τ₁ τ₂ : Type}

/-! ### A selector's state without a script -/

namespace SelectorState

variable {s s' : SelectorState} {ρ : Equiv.Perm TableIdentity} {as bs : List TableIdentity}

/-- What a call leaves, when the tables made for it have these identities. -/
def after (s : SelectorState) (e : SelectorCall × List TableIdentity) : SelectorState :=
  if s.lifecycle.Refuses e.1 then s else s.settle e.1 e.2

def afterAll (s : SelectorState) (es : List (SelectorCall × List TableIdentity)) : SelectorState :=
  es.foldl after s

/-- Calls on the selector of some script, taking turns in some order, lead to the state. -/
def Reached (s : SelectorState) : Prop :=
  ∃ (τ : Type) (S : Script τ) (clock : Nat → SelectorState × τ → SelectorState × τ)
    (calls : List SelectorCall) (t : τ) (turns : List Nat),
    ((hosted S).during clock calls ({}, t) turns).state.1 = s

lemma Grounded.after (h : s.Grounded) (call : SelectorCall) (ks : List TableIdentity) :
    (s.after (call, ks)).Grounded := by
  unfold SelectorState.after
  split_ifs
  · exact h
  · exact h.settle call ks

lemma Reached.grounded (h : s.Reached) : s.Grounded := by
  obtain ⟨τ, S, clock, calls, t, turns, rfl⟩ := h
  induction turns using List.reverseRecOn with
  | nil => exact grounded_empty
  | append_singleton turns i ih =>
    obtain ⟨hstate, -⟩ | ⟨e, -, -, hstate, -⟩ := state_turn clock S calls t turns i
    · rwa [hstate]
    · rw [hstate]
      exact ih.settle e.call (newTables S e)

/-- Tables made for a call can have any names that are not retained. -/
lemma LiveRenamed.exists_after (h : s.LiveRenamed ρ s') (hg : s.Grounded) (call : SelectorCall)
    (ha : s.Apart as) (hb : s'.Apart bs)
    (hla : as.length = if s.lifecycle.Refuses call then 0 else call.paths.length)
    (hlb : bs.length = if s'.lifecycle.Refuses call then 0 else call.paths.length) :
    ∃ σ : Equiv.Perm TableIdentity, (∀ k, s.Retains k → σ k = ρ k) ∧ as.map σ = bs ∧
      (s.after (call, as)).LiveRenamed σ (s'.after (call, bs)) := by
  rw [h.lifecycle] at hlb
  by_cases hr : s.lifecycle.Refuses call
  · rw [if_pos hr] at hla hlb
    obtain rfl := List.eq_nil_of_length_eq_zero hla
    obtain rfl := List.eq_nil_of_length_eq_zero hlb
    simp only [after, h.lifecycle, if_pos hr]
    exact ⟨ρ, fun _ _ => rfl, rfl, h⟩
  · rw [if_neg hr] at hla hlb
    simp only [after, h.lifecycle, if_neg hr]
    exact h.exists_settle hg call ha hb hla hlb

end SelectorState

/-! ### A call of the script -/

variable {elapse : Nat → SelectorState × τ → SelectorState × τ} {S : Script τ}
  {s : SelectorState × τ} {call : SelectorCall}

lemma state_call (elapse : Nat → SelectorState × τ → SelectorState × τ) (S : Script τ)
    (s : SelectorState × τ) (call : SelectorCall) :
    (((hosted S).call call).run elapse s).2.1 = s.1.after (call, made S s call) := by
  unfold SelectorState.after
  split_ifs with h
  · rw [run_refused S h]
  · by_cases hp : ∃ r, call = .path r
    · obtain ⟨r, rfl⟩ := hp
      simp only [Selector.call, Procedure.run_bind, Procedure.run_pure, run_path]
      split_ifs <;> rfl
    · rw [run_update S (fun r hr => hp ⟨r, hr⟩) h]

lemma length_made (S : Script τ) (s : SelectorState × τ) (call : SelectorCall) :
    (made S s call).length = if s.1.lifecycle.Refuses call then 0 else call.paths.length := by
  unfold made
  split_ifs
  · rfl
  · exact length_allocateMany S _ _

/-! ### What looking for an entry point comes to -/

section Lookup

variable (S : Script τ) (module entry : String) (t : τ)

/-- The module has no such function, and the global names are next. -/
inductive FallsBack : τ → Prop
  | noTable {b : Binding τ} {t' : τ} : S.global module t = (.ok b, t') → b ≠ .table → FallsBack t'
  | noMember {t' : τ} {b : Binding τ} {t'' : τ} : S.global module t = (.ok .table, t') →
      S.member module entry t' = (.ok b, t'') → b.function? = none → FallsBack t''

inductive LookupRaises (text : String) : Prop
  | module {t' : τ} : S.global module t = (.error text, t') → LookupRaises text
  | member {t' t'' : τ} : S.global module t = (.ok .table, t') →
      S.member module entry t' = (.error text, t'') → LookupRaises text
  | fallback {t' t'' : τ} : FallsBack S module entry t t' →
      S.global entry t' = (.error text, t'') → LookupRaises text

/-- Neither is there such a function, and no lookup raises. -/
def Undefined : Prop :=
  ∃ t' b t'', FallsBack S module entry t t' ∧ S.global entry t' = (.ok b, t'') ∧ b.function? = none

inductive Finds (body : Body τ) : τ → Prop
  | member {t' t'' : τ} : S.global module t = (.ok .table, t') →
      S.member module entry t' = (.ok (.function body), t'') → Finds body t''
  | fallback {t' t'' : τ} : FallsBack S module entry t t' →
      S.global entry t' = (.ok (.function body), t'') → Finds body t''

variable {S module entry t}

lemma entryPoint_of_fallsBack {t' : τ} (h : FallsBack S module entry t t') :
    S.entryPoint module entry t = S.globalFunction entry t' := by
  cases h with
  | @noTable b _ hg hb =>
    simp only [entryPoint, hg]
  | noMember hg hm hb => simp only [entryPoint, hg, hm, hb]

lemma entryPoint_of_lookupRaises {text : String} (h : LookupRaises S module entry t text) :
    ∃ t', S.entryPoint module entry t = (.error text, t') := by
  cases h with
  | @module t' hg => exact ⟨t', by simp only [entryPoint, hg]⟩
  | @member t' t'' hg hm => exact ⟨t'', by simp only [entryPoint, hg, hm]⟩
  | @fallback t' t'' hf hg =>
    rw [entryPoint_of_fallsBack hf, globalFunction, hg]
    exact ⟨t'', rfl⟩

lemma entryPoint_of_undefined (h : Undefined S module entry t) :
    ∃ t', S.entryPoint module entry t = (.ok none, t') := by
  obtain ⟨t', b, t'', hf, hg, hb⟩ := h
  rw [entryPoint_of_fallsBack hf, globalFunction, hg]
  exact ⟨t'', congrArg (fun found => (Except.ok found, t'')) hb⟩

lemma entryPoint_of_finds {body : Body τ} {t' : τ} (h : Finds S module entry t body t') :
    S.entryPoint module entry t = (.ok (some body), t') := by
  cases h with
  | member hg hm => simp only [entryPoint, hg, hm, Binding.function?]
  | fallback hf hg =>
    rw [entryPoint_of_fallsBack hf, globalFunction, hg]
    rfl

/-- A lookup raises, or there is no such function, or there is one. -/
lemma lookup_cases (S : Script τ) (module entry : String) (t : τ) :
    (∃ text, LookupRaises S module entry t text) ∨ Undefined S module entry t ∨
      ∃ body t', Finds S module entry t body t' := by
  have hfallback (t' : τ) (hf : FallsBack S module entry t t') :
      (∃ text, LookupRaises S module entry t text) ∨ Undefined S module entry t ∨
        ∃ body t', Finds S module entry t body t' := by
    rcases hg : S.global entry t' with ⟨text | b, t''⟩
    · exact .inl ⟨text, .fallback hf hg⟩
    · cases hb : b.function? with
      | none => exact .inr (.inl ⟨t', b, t'', hf, hg, hb⟩)
      | some body =>
        cases b with
        | function body => exact .inr (.inr ⟨body, t'', .fallback hf hg⟩)
        | table => cases hb
        | other => cases hb
  rcases hg : S.global module t with ⟨text | b, t'⟩
  · exact .inl ⟨text, .module hg⟩
  · cases b with
    | function body => exact hfallback t' (.noTable hg (by simp))
    | other => exact hfallback t' (.noTable hg (by simp))
    | table =>
      rcases hm : S.member module entry t' with ⟨text | b, t''⟩
      · exact .inl ⟨text, .member hg hm⟩
      · cases b with
        | function body => exact .inr (.inr ⟨body, t'', .member hg hm⟩)
        | table => exact hfallback t'' (.noMember hg hm rfl)
        | other => exact hfallback t'' (.noMember hg hm rfl)

variable (S module entry t) in
/-- Calling an entry point fails: there is none, a lookup raises, or the function does. -/
inductive Fails (arguments : List Value) : ScriptError → Prop
  | undefined : Undefined S module entry t → Fails arguments (.notImplemented entry)
  | lookup {text : String} : LookupRaises S module entry t text →
      Fails arguments (.runtime entry (raisedReason text))
  | function {body : Body τ} {t' : τ} {text : String} : Finds S module entry t body t' →
      (body arguments t').1 = .error text → Fails arguments (.runtime entry (raisedReason text))

lemma invoke_of_undefined (h : Undefined S module entry t) (arguments : List Value) :
    (S.invoke module entry arguments t).1 = .error (.notImplemented entry) := by
  obtain ⟨t', he⟩ := entryPoint_of_undefined h
  simp only [invoke, he]

lemma invoke_of_lookupRaises {text : String} (h : LookupRaises S module entry t text)
    (arguments : List Value) :
    (S.invoke module entry arguments t).1 = .error (.runtime entry (raisedReason text)) := by
  obtain ⟨t', he⟩ := entryPoint_of_lookupRaises h
  simp only [invoke, he]

lemma invoke_of_finds {body : Body τ} {t' : τ} (h : Finds S module entry t body t')
    (arguments : List Value) :
    (S.invoke module entry arguments t).1 =
      (body arguments t').1.mapError fun text => .runtime entry (raisedReason text) := by
  simp only [invoke, entryPoint_of_finds h]
  rcases body arguments t' with ⟨text | values, t''⟩ <;> rfl

lemma invoke_eq_error_iff (arguments : List Value) (e : ScriptError) :
    (S.invoke module entry arguments t).1 = .error e ↔ Fails S module entry t arguments e := by
  constructor
  · intro he
    obtain ⟨text, h⟩ | h | ⟨body, t', h⟩ := lookup_cases S module entry t
    · rw [invoke_of_lookupRaises h] at he
      obtain rfl := Except.error.inj he
      exact .lookup h
    · rw [invoke_of_undefined h] at he
      obtain rfl := Except.error.inj he
      exact .undefined h
    · rw [invoke_of_finds h] at he
      cases hb : (body arguments t').1 with
      | ok values =>
        rw [hb] at he
        cases he
      | error text =>
        rw [hb] at he
        obtain rfl := Except.error.inj he
        exact .function h hb
  · rintro (h | h | ⟨h, hb⟩)
    · exact invoke_of_undefined h arguments
    · exact invoke_of_lookupRaises h arguments
    · rw [invoke_of_finds h, hb]
      rfl

lemma fails_notImplemented_iff (arguments : List Value) :
    Fails S module entry t arguments (.notImplemented entry) ↔ Undefined S module entry t := by
  constructor
  · intro h
    cases h with
    | undefined hu => exact hu
  · exact .undefined

end Lookup

/-! ### Runs -/

/-- The calls of a run, each with the tables that are made for it. -/
def offered (elapse : Nat → SelectorState × τ → SelectorState × τ) (S : Script τ)
    (s : SelectorState × τ) : List SelectorCall → List (SelectorCall × List TableIdentity)
  | [] => []
  | c :: cs => (c, made S s c) :: offered elapse S (((hosted S).call c).run elapse s).2 cs

lemma state_runAll (elapse : Nat → SelectorState × τ → SelectorState × τ) (S : Script τ)
    (calls : List SelectorCall) (s : SelectorState × τ) :
    ((hosted S).runAll elapse calls s).2.1 = s.1.afterAll (offered elapse S s calls) := by
  induction calls generalizing s with
  | nil => rfl
  | cons c calls ih =>
    refine (ih (((hosted S).call c).run elapse s).2).trans ?_
    rw [state_call]
    rfl

/-- A change offers the paths of its call with the tables that are made for them. -/
lemma change_cases (S : Script τ) (s : SelectorState × τ) (c : SelectorCall) :
    (change S s c = none ∧ made S s c = []) ∨
      ∃ d, change S s c = some d ∧ d.batch = (made S s c).zip c.paths ∧
        (made S s c).length = c.paths.length := by
  by_cases hr : s.1.lifecycle.Refuses c
  · have hnone : change S s c = none := by
      cases c with
      | start r paths => exact hr.elim
      | refresh r paths => exact if_pos hr
      | close r => exact if_pos hr
      | _ => rfl
    exact .inl ⟨hnone, if_pos hr⟩
  · have hmade : made S s c = (S.allocateMany c.paths.length s.2).1 := if_neg hr
    have hlength : (made S s c).length = c.paths.length := by rw [length_made, if_neg hr]
    cases c with
    | start r paths => exact .inr ⟨_, rfl, by rw [hmade]; rfl, hlength⟩
    | path r => exact .inl ⟨rfl, hmade⟩
    | pathDown r f i => exact .inl ⟨rfl, hmade⟩
    | refresh r paths => exact .inr ⟨_, if_neg hr, by rw [hmade]; rfl, hlength⟩
    | close r => exact .inr ⟨_, if_neg hr, by rw [hmade]; rfl, hlength⟩

lemma apart_made {c : SelectorCall} (h : ∀ d ∈ change S s c, s.1.Apart d.keys) :
    s.1.Apart (made S s c) := by
  obtain ⟨-, hnothing⟩ | ⟨d, hd, hbatch, hlength⟩ := change_cases S s c
  · rw [hnothing]
    exact ⟨List.nodup_nil, by simp⟩
  · have hkeys : d.keys = made S s c := by
      rw [Change.keys, hbatch, List.map_fst_zip (Nat.le_of_eq hlength)]
    rw [← hkeys]
    exact h d hd

variable {elapse₁ : Nat → SelectorState × τ₁ → SelectorState × τ₁}
  {elapse₂ : Nat → SelectorState × τ₂ → SelectorState × τ₂} {S₁ : Script τ₁} {S₂ : Script τ₂}

/-- States that differ in the names of retained tables stay so, as long as new ones are told
apart. -/
lemma exists_liveRenamed_runAll (calls : List SelectorCall) {s₁ : SelectorState × τ₁}
    {s₂ : SelectorState × τ₂} (hs : ∃ ρ, s₁.1.LiveRenamed ρ s₂.1) (hg : s₁.1.Grounded)
    (h₁ : ToldApart elapse₁ S₁ s₁ calls) (h₂ : ToldApart elapse₂ S₂ s₂ calls) :
    (∃ ρ, ((hosted S₁).runAll elapse₁ calls s₁).2.1.LiveRenamed ρ
      ((hosted S₂).runAll elapse₂ calls s₂).2.1) ∧
      ((hosted S₁).runAll elapse₁ calls s₁).2.1.Grounded := by
  induction calls generalizing s₁ s₂ with
  | nil => exact ⟨hs, hg⟩
  | cons c calls ih =>
    obtain ⟨ρ, hρ⟩ := hs
    obtain ⟨hmade₁, hrest₁⟩ := h₁
    obtain ⟨hmade₂, hrest₂⟩ := h₂
    obtain ⟨σ, -, -, hσ⟩ := hρ.exists_after hg c (apart_made hmade₁) (apart_made hmade₂)
      (length_made S₁ s₁ c) (length_made S₂ s₂ c)
    have hgrounded := hg.after c (made S₁ s₁ c)
    rw [← state_call elapse₁] at hσ hgrounded
    rw [← state_call elapse₂] at hσ
    exact ih ⟨σ, hσ⟩ hgrounded hrest₁ hrest₂

/-! ### What a run leaves over -/

lemma Reflects.retains_iff {s : SelectorState} {cs : List (Change TableIdentity)}
    (h : Reflects s cs) (k : TableIdentity) :
    s.Retains k ↔ ∃ r o, OfferTable.Current cs r k o := by
  simp only [SelectorState.retains_iff, SelectorState.RetainsFor, h.retained, OfferTable.Current]
  refine exists_congr fun r => ?_
  cases OfferTable.latest r cs <;> simp

/-- What is left over comes from lists that had its fingerprint again. -/
lemma get?_leftover_runAll {t : τ} {calls : List SelectorCall}
    (h : ToldApart elapse S ({}, t) calls) (k : TableIdentity) (o : PathObject) :
    let s := ((hosted S).runAll elapse calls ({}, t)).2.1
    s.leftover.get? k = some o ↔
      ¬s.Retains k ∧ OfferTable.Leftover (history elapse S ({}, t) calls) k o := by
  intro s
  have hs : Reflects s (history elapse S ({}, t) calls) :=
    Reflects.runAll elapse S calls (s := ({}, t)) reflects_empty
  have hf : OfferTable.AllFresh (history elapse S ({}, t) calls) :=
    h.allFresh elapse S reflects_empty OfferTable.allFresh_nil
  rw [SelectorState.get?_leftover]
  refine and_congr_right fun hk => ?_
  rw [hs.offers, OfferTable.resolve_eq_some_iff hf, or_iff_right]
  rintro ⟨r, hcurrent⟩
  exact hk ((hs.retains_iff k).mpr ⟨r, o, hcurrent⟩)

lemma distinct_history {calls : List SelectorCall}
    (h : ∀ call ∈ calls, (call.paths.map PathObject.fingerprint).Nodup) (s : SelectorState × τ) :
    ∀ d ∈ history elapse S s calls, d.Distinct := by
  induction calls generalizing s with
  | nil => simp [history]
  | cons c calls ih =>
    obtain ⟨hc, hcalls⟩ := List.forall_mem_cons.mp h
    rw [history, List.forall_mem_append]
    refine ⟨fun d hd => ?_, ih hcalls _⟩
    obtain ⟨hnone, -⟩ | ⟨d', hd', hbatch, hlength⟩ := change_cases S s c
    · simp [hnone] at hd
    · obtain rfl : d = d' := by simpa [hd'] using hd
      have hsnd : ((made S s c).zip c.paths).map Prod.snd = c.paths :=
        List.map_snd_zip (Nat.le_of_eq hlength.symm)
      rw [← hsnd, ← hbatch, List.map_map] at hc
      exact hc

lemma values_leftover_runAll {t : τ} {calls : List SelectorCall}
    (h : ToldApart elapse S ({}, t) calls)
    (hpaths : ∀ call ∈ calls, (call.paths.map PathObject.fingerprint).Nodup) :
    ((hosted S).runAll elapse calls ({}, t)).2.1.leftover.values = [] := by
  refine List.eq_nil_iff_forall_not_mem.mpr fun o ho => ?_
  obtain ⟨k, hk⟩ := Dictionary.mem_values.mp ho
  exact OfferTable.not_leftover (distinct_history hpaths ({}, t)) k o
    ((get?_leftover_runAll h k o).mp hk).2

/-! ### The answer -/

/-- A call of the script fails for what `call` asks of it. -/
def CallFails (S : Script τ) (s : SelectorState × τ) (call : SelectorCall) (e : ScriptError) :
    Prop :=
  Fails S selectorModule (entry call) (prepared S call s.2) (arguments (made S s call) call) e

lemma exists_refusal (hc : ∀ r, call ≠ .path r) : ∃ e, call.refusal = .done (.error e) := by
  cases call with
  | path r => exact absurd rfl (hc r)
  | _ => exact ⟨_, rfl⟩

lemma answer_eq_error_iff (hc : ∀ r, call ≠ .path r) (e : PolicyError) :
    (((hosted S).call call).run elapse s).1 = .done (.error e) ↔
      (s.1.lifecycle.Refuses call ∧ call.refusal = .done (.error e)) ∨
        ¬s.1.lifecycle.Refuses call ∧ ∃ e', e = .script e' ∧ CallFails S s call e' := by
  by_cases h : s.1.lifecycle.Refuses call
  · simp [run_refused S h, h]
  · rw [run_update S hc h]
    simp only [h, false_and, false_or, not_false_eq_true, true_and, SelectorAnswer.done.injEq,
      CallFails, ← invoke_eq_error_iff, asked]
    cases (S.invoke selectorModule (entry call) (arguments (made S s call) call)
      (prepared S call s.2)).1 <;> simp [outcome, eq_comm]

/-- Whatever two scripts do with a call, the selectors' own states come out equal if the tables made
for it are named alike. If new tables are told apart from those retained, the states have the same
of retained tables, up to their names, and are the same in all, up to names, just when the same is
left over in both. So the state after a run is a function of the calls and the names, and what it has
of retained tables is a function of the calls alone. Nothing is left over unless a list had a
fingerprint twice.

An update fails just when the remote is closed or the script call fails. The script call counts as
not implemented just when there is neither a function of the module nor a global one and no lookup
raises. Every other failure bears the text that was raised. -/
theorem failures_are_contained (S₁ : Script τ₁) (S₂ : Script τ₂)
    (elapse₁ : Nat → SelectorState × τ₁ → SelectorState × τ₁)
    (elapse₂ : Nat → SelectorState × τ₂ → SelectorState × τ₂) :
    (∀ (s : SelectorState), s.Reached → ∀ (call : SelectorCall) (t₁ : τ₁) (t₂ : τ₂),
      let s₁ := (((hosted S₁).call call).run elapse₁ (s, t₁)).2.1
      let s₂ := (((hosted S₂).call call).run elapse₂ (s, t₂)).2.1
      let made₁ := made S₁ (s, t₁) call
      let made₂ := made S₂ (s, t₂) call
      (made₁ = made₂ → s₁ = s₂) ∧
      (s.Apart made₁ → s.Apart made₂ →
        (∃ ρ : Equiv.Perm TableIdentity,
          (∀ k, s.Retains k → ρ k = k) ∧ made₁.map ρ = made₂ ∧ s₁.LiveRenamed ρ s₂) ∧
        ((∃ ρ, s₁.Renamed ρ s₂) ↔ s₁.leftover.values.Perm s₂.leftover.values))) ∧
    (∀ (calls : List SelectorCall) (t₁ : τ₁) (t₂ : τ₂),
      let s₁ := ((hosted S₁).runAll elapse₁ calls ({}, t₁)).2.1
      let s₂ := ((hosted S₂).runAll elapse₂ calls ({}, t₂)).2.1
      s₁ = ({} : SelectorState).afterAll (offered elapse₁ S₁ ({}, t₁) calls) ∧
      (ToldApart elapse₁ S₁ ({}, t₁) calls → ToldApart elapse₂ S₂ ({}, t₂) calls →
        (∃ ρ, s₁.LiveRenamed ρ s₂) ∧
        ((∃ ρ, s₁.Renamed ρ s₂) ↔ s₁.leftover.values.Perm s₂.leftover.values) ∧
        (∀ k o, s₁.leftover.get? k = some o ↔
          ¬s₁.Retains k ∧ OfferTable.Leftover (history elapse₁ S₁ ({}, t₁) calls) k o) ∧
        ((∀ call ∈ calls, (call.paths.map PathObject.fingerprint).Nodup) →
          ∃ ρ, s₁.Renamed ρ s₂))) ∧
    (∀ (call : SelectorCall) (s : SelectorState × τ₁), (∀ r, call ≠ .path r) →
      let a := (((hosted S₁).call call).run elapse₁ s).1
      let undefined := Undefined S₁ selectorModule (entry call) (prepared S₁ call s.2)
      ((∃ e, a = .done (.error e)) ↔
        s.1.lifecycle.Refuses call ∨ ∃ e, CallFails S₁ s call e) ∧
      (s.1.lifecycle.Refuses call → a = call.refusal) ∧
      (¬s.1.lifecycle.Refuses call →
        (a = .done (.error (.script (.notImplemented (entry call)))) ↔ undefined) ∧
        ∀ e, a = .done (.error e) → ¬undefined →
          ∃ text, e = .script (.runtime (entry call) ("runtime error: " ++ text)))) := by
  refine ⟨fun s hs call t₁ t₂ => ?_, fun calls t₁ t₂ => ?_, fun call s hc => ?_⟩
  · simp only [state_call]
    refine ⟨fun hmade => by rw [hmade], fun h₁ h₂ => ?_⟩
    obtain ⟨ρ, hfix, hmade, hρ⟩ := s.liveRenamed_one.exists_after hs.grounded call h₁ h₂
      (length_made S₁ (s, t₁) call) (length_made S₂ (s, t₂) call)
    exact ⟨⟨ρ, hfix, hmade, hρ⟩, hρ.exists_renamed_iff (hs.grounded.after call _)⟩
  · intro s₁ s₂
    refine ⟨state_runAll elapse₁ S₁ calls ({}, t₁), fun h₁ h₂ => ?_⟩
    obtain ⟨⟨ρ, hρ⟩, hgrounded⟩ := exists_liveRenamed_runAll calls ⟨1, SelectorState.liveRenamed_one {}⟩
      SelectorState.grounded_empty h₁ h₂
    have hiff : (∃ ρ, s₁.Renamed ρ s₂) ↔ s₁.leftover.values.Perm s₂.leftover.values :=
      hρ.exists_renamed_iff hgrounded
    refine ⟨⟨ρ, hρ⟩, hiff, get?_leftover_runAll h₁, fun hpaths => hiff.mpr ?_⟩
    rw [values_leftover_runAll h₁ hpaths, values_leftover_runAll h₂ hpaths]
  · intro a undefined
    have ha (e : PolicyError) : a = .done (.error e) ↔ _ := answer_eq_error_iff hc e
    have hrefused (h : s.1.lifecycle.Refuses call) : a = call.refusal :=
      congrArg Prod.fst (run_refused S₁ h)
    refine ⟨⟨?_, ?_⟩, hrefused, fun h => ⟨?_, fun e he hdefined => ?_⟩⟩
    · rintro ⟨e, he⟩
      obtain ⟨h, -⟩ | ⟨-, e', -, hfails⟩ := (ha e).mp he
      · exact .inl h
      · exact .inr ⟨e', hfails⟩
    · intro h
      by_cases hr : s.1.lifecycle.Refuses call
      · obtain ⟨e, he⟩ := exists_refusal hc
        exact ⟨e, (hrefused hr).trans he⟩
      · obtain ⟨e, hfails⟩ := h.resolve_left hr
        exact ⟨_, (ha _).mpr (.inr ⟨hr, e, rfl, hfails⟩)⟩
    · rw [ha]
      simp [h, CallFails, fails_notImplemented_iff, undefined]
    · obtain ⟨hr, -⟩ | ⟨-, e', rfl, hfails⟩ := (ha e).mp he
      · exact absurd hr h
      · cases hfails with
        | undefined hu => exact absurd hu hdefined
        | lookup => exact ⟨_, rfl⟩
        | function => exact ⟨_, rfl⟩

/-- One script keeps its tables, the other raises or has no function to call, and lets them go. The
first table has the fingerprint of the second, so it is left over after the refresh. There it still
stands for its path, unless its identity is given to a new table: then the new path is in its
place. -/
theorem failing_script_is_contained :
    let path (label : Nat) (f : String) : PathObject :=
      ⟨some label, ⟨⟨"1-ff00:0:110"⟩, ⟨"1-ff00:0:112"⟩, ⟨f⟩, .epoch, none⟩⟩
    let r : RemoteAddress := ⟨"r"⟩
    let script (entries : List Entry) : Script Memory :=
      { entries : Program }.script ⟨.self, fun _ m => m, fun _ m => m⟩
    let keeping := script [⟨.selector, "initialize", .function [.store]⟩,
      ⟨.global, "refresh", .function [.nothing]⟩, ⟨.selector, "selectpath", .function [.stale 1]⟩]
    let failing : Script Memory := { script [⟨.selector, "initialize", .function [.raise "no"]⟩] with
      allocate := fun m => (⟨m.nextTable.number % 3⟩, m.allocate.2) }
    let clock := fun (_ : Nat) (s : SelectorState × Memory) => s
    let calls : List SelectorCall := [.start r [path 0 "a", path 1 "a"], .refresh r [path 2 "b"]]
    let last : SelectorCall := .refresh r [path 3 "c"]
    let undefined : SelectorAnswer := .done (.error (.script (.notImplemented "refresh")))
    let run (S : Script Memory) := (hosted S).runAll clock (calls ++ [last]) ({}, {})
    let before := ((hosted keeping).during clock calls ({}, {}) [0, 1, 1]).state
    let s₁ := (((hosted keeping).call last).run clock before).2.1
    let s₂ := (((hosted failing).call last).run clock before).2.1
    ((run keeping).1 = [.done (.ok ()), .done (.ok ()), .done (.ok ())] ∧
      (run failing).1 = [.done (.error (.script (.runtime "initialize" "runtime error: no"))),
        undefined, undefined]) ∧
    (ToldApart clock keeping ({}, {}) (calls ++ [last]) ∧
      ToldApart clock failing ({}, {}) (calls ++ [last]) ∧
      (∃ ρ, (run keeping).2.1.LiveRenamed ρ (run failing).2.1) ∧
      ¬∃ ρ, (run keeping).2.1.Renamed ρ (run failing).2.1) ∧
    (before.1.Apart (made keeping before last) ∧ before.1.Apart (made failing before last) ∧
      (∃ ρ, s₁.LiveRenamed ρ s₂) ∧ ¬∃ ρ, s₁.Renamed ρ s₂) ∧
    ((hosted keeping).runAll clock [.path r] (run keeping).2).1 =
      [.chosen (.ok (some (path 0 "a")))] := by
  intro path r script keeping failing clock calls last undefined run before s₁ s₂
  obtain ⟨hcall, hrun, -⟩ := failures_are_contained keeping failing clock clock
  have hkeeping : ToldApart clock keeping ({}, {}) (calls ++ [last]) := by decide +kernel
  have hfailing : ToldApart clock failing ({}, {}) (calls ++ [last]) := by decide +kernel
  obtain ⟨hlive, hall, -⟩ := (hrun (calls ++ [last]) {} {}).2 hkeeping hfailing
  have hreached : before.1.Reached := ⟨Memory, keeping, clock, calls, {}, [0, 1, 1], rfl⟩
  have hmade₁ : before.1.Apart (made keeping before last) := by decide +kernel
  have hmade₂ : before.1.Apart (made failing before last) := by decide +kernel
  obtain ⟨⟨ρ, -, -, hρ⟩, hall'⟩ := (hcall before.1 hreached last before.2 before.2).2 hmade₁ hmade₂
  have hleft : ¬(run keeping).2.1.leftover.values.Perm (run failing).2.1.leftover.values := by
    decide +kernel
  have hleft' : ¬s₁.leftover.values.Perm s₂.leftover.values := by decide +kernel
  exact ⟨⟨by decide +kernel, by decide +kernel⟩,
    ⟨hkeeping, hfailing, hlive, fun h => hleft (hall.mp h)⟩,
    ⟨hmade₁, hmade₂, ⟨ρ, hρ⟩, fun h => hleft' (hall'.mp h)⟩, by decide +kernel⟩

end PathPolicy.Script
