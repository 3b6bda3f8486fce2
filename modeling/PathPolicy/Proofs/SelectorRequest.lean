import PathPolicy.Proofs.Frame
import PathPolicy.Proofs.SelectorMessage
import PathPolicy.Remote.Selector

/-!
# The request that a call makes

What a call asks the far end depends on the call and on the number of the next handle. The number
makes no difference to how long the request gets.
-/

namespace PathPolicy

/-- The object as it is read from a message. -/
def PathObject.bare (o : PathObject) : PathObject := ⟨none, o.path⟩

namespace SelectorCall

def paths : SelectorCall → List PathObject
  | .start _ ps | .refresh _ ps => ps
  | _ => []

/-- The call offers paths for the remote. -/
def Offers (r : RemoteAddress) : SelectorCall → Prop
  | .start r' _ | .refresh r' _ => r' = r
  | _ => False

instance (r : RemoteAddress) : (call : SelectorCall) → Decidable (call.Offers r)
  | .start r' _ | .refresh r' _ => inferInstanceAs (Decidable (r' = r))
  | .path _ | .pathDown .. | .close _ => inferInstanceAs (Decidable False)

end SelectorCall

namespace Remote

open Codec

def records (next : UInt64) (ps : List PathObject) : List PathRecord :=
  (HandleTable.number next ps).map fun e => ⟨e.1, e.2.path⟩

/-- The request of a call, whose paths get handles from `next` on. -/
def message (next : UInt64) : SelectorCall → SelectorMessage
  | .start r ps | .refresh r ps => { remote := r, paths := some (records next ps) }
  | .path r | .close r => { remote := r }
  | .pathDown r f i => { remote := r, fingerprint := f, interface := i }

/-- The call can be carried in a frame of at most `limit` bytes, and offers no fingerprint twice.
How long its frame gets is seen at any number of the call and of the handles. -/
structure Sendable (limit : Nat) (call : SelectorCall) : Prop where
  distinct : (call.paths.map PathObject.fingerprint).Nodup
  afterEpoch : ∀ o ∈ call.paths, o.path.expiry.isBeforeEpoch = false
  fits : ∀ payload, selectorMessage.encode (message 1 call) = .ok payload →
    ∃ bytes, (⟨1, .request (SelectorMethod.of call).name payload⟩ : Frame).write limit = .ok bytes

/-! ### Issued handles -/

/-- What the far end takes down of the records of an offer. -/
lemma zip_records (next : UInt64) (ps : List PathObject) :
    ((records next ps).map PathRecord.handle).zip
        ((records next ps).map fun record => (⟨none, record.path⟩ : PathObject)) =
      HandleTable.number next (ps.map PathObject.bare) := by
  induction ps generalizing next with
  | nil => rfl
  | cons p ps ih =>
    simp only [records, HandleTable.number, List.map_cons, List.zip_cons_cons] at ih ⊢
    rw [ih]
    rfl

lemma map_path_records (next : UInt64) (ps : List PathObject) :
    (records next ps).map (fun record => (⟨none, record.path⟩ : PathObject)) =
      ps.map PathObject.bare := by
  induction ps generalizing next with
  | nil => rfl
  | cons p ps ih =>
    simp only [records, HandleTable.number, List.map_cons] at ih ⊢
    rw [ih]
    rfl

/-! ### The length of a request -/

lemma sameSize_records (n n' : UInt64) {ps : List PathObject}
    (h : ∀ o ∈ ps, o.path.expiry.isBeforeEpoch = false) :
    List.Forall₂ pathRecord.SameSize (records n ps) (records n' ps) := by
  induction ps generalizing n n' with
  | nil => exact .nil
  | cons p ps ih =>
    obtain ⟨size, hsize⟩ := exists_takes_path (h p List.mem_cons_self)
    refine .cons ⟨8 + size, ?_, ?_⟩ (ih _ _ fun o ho => h o (List.mem_cons_of_mem p ho))
    · exact Takes.map (Takes.pair (takes_pathHandle _) hsize)
    · exact Takes.map (Takes.pair (takes_pathHandle _) hsize)

lemma sameSize_selectorMessage {a b : SelectorMessage}
    (hr : (option remoteAddress).SameSize a.remote b.remote)
    (hp : (option (list pathRecord)).SameSize a.paths b.paths)
    (hf : (option fingerprint).SameSize a.fingerprint b.fingerprint)
    (hi : (option interface).SameSize a.interface b.interface) : selectorMessage.SameSize a b :=
  SameSize.map (SameSize.pair hr (SameSize.pair hp (SameSize.pair hf hi)))

lemma sameSize_message (n n' : UInt64) {call : SelectorCall}
    (h : ∀ o ∈ call.paths, o.path.expiry.isBeforeEpoch = false) :
    selectorMessage.SameSize (message n call) (message n' call) := by
  have hremote (r : RemoteAddress) : (option remoteAddress).SameSize (some r) (some r) :=
    (Takes.map (takes_text r.text)).sameSize.option
  have hnone {α : Type} (c : Codec α) : c.option.SameSize none none := (takes_option_none c).sameSize
  have hoffer (ps : List PathObject) (hps : ∀ o ∈ ps, o.path.expiry.isBeforeEpoch = false) :
      (option (list pathRecord)).SameSize (some (records n ps)) (some (records n' ps)) :=
    (SameSize.list (sameSize_records n n' hps)).option
  cases call with
  | start r ps => exact sameSize_selectorMessage (hremote r) (hoffer ps h) (hnone _) (hnone _)
  | refresh r ps => exact sameSize_selectorMessage (hremote r) (hoffer ps h) (hnone _) (hnone _)
  | path r => exact sameSize_selectorMessage (hremote r) (hnone _) (hnone _) (hnone _)
  | close r => exact sameSize_selectorMessage (hremote r) (hnone _) (hnone _) (hnone _)
  | pathDown r f i =>
    exact sameSize_selectorMessage (hremote r) (hnone _)
      (Takes.map (takes_text f.text)).sameSize.option (takes_interface i).sameSize.option

/-- The request of a call that can be sent fits, whatever its number and those of its handles. -/
lemma Sendable.exists_write {limit : Nat} {call : SelectorCall} (h : Sendable limit call)
    (next id : UInt64) :
    ∃ payload bytes, selectorMessage.encode (message next call) = .ok payload ∧
      (⟨id, .request (SelectorMethod.of call).name payload⟩ : Frame).write limit = .ok bytes := by
  obtain ⟨n, ⟨payload, hp, rfl⟩, payload', hp', hl⟩ := sameSize_message 1 next h.afterEpoch
  have hfits := (Frame.exists_write_iff (takes_request _ _ _)).mp (h.fits payload hp)
  rw [requestLength, ← hl] at hfits
  obtain ⟨bytes, hw⟩ := (Frame.exists_write_iff
    (takes_request id (SelectorMethod.of call).name payload')).mpr hfits
  exact ⟨payload', bytes, hp', hw⟩

lemma sendable_iff {limit : Nat} {call : SelectorCall} :
    Sendable limit call ↔ (call.paths.map PathObject.fingerprint).Nodup ∧
      (∀ o ∈ call.paths, o.path.expiry.isBeforeEpoch = false) ∧
      ∀ payload ∈ (selectorMessage.encode (message 1 call)).toOption,
        requestLength (SelectorMethod.of call).name payload ≤ limit ∧
          requestLength (SelectorMethod.of call).name payload < Frame.headerBound := by
  have hmem (payload : List UInt8) : payload ∈ (selectorMessage.encode (message 1 call)).toOption ↔
      selectorMessage.encode (message 1 call) = .ok payload := by
    cases selectorMessage.encode (message 1 call) <;> simp [Except.toOption]
  simp only [hmem, ← Frame.exists_write_iff (takes_request 1 _ _)]
  exact ⟨fun h => ⟨h.distinct, h.afterEpoch, h.fits⟩, fun h => ⟨h.1, h.2.1, h.2.2⟩⟩

instance (limit : Nat) (call : SelectorCall) : Decidable (Sendable limit call) :=
  decidable_of_iff _ sendable_iff.symm

end Remote

end PathPolicy
