import PathPolicy.Proofs.Delivery

/-!
# A client with many calls under way

Calls of one client go out and come back in any order, each frame as a whole. No call is given any
bytes but those of the response that carries its number.
-/

namespace PathPolicy

namespace Frame

/-- A frame is read as it was written, or is too long for its reader. -/
lemma read_of_write {limit : Nat} {f : Frame} {bs : List UInt8} (h : f.write limit = .ok bs)
    (limit' : Nat) :
    read limit' bs = .frame f [] ∨ ∃ e, read limit' bs = .failed e := by
  by_cases hfits : ∃ bs', f.write limit' = .ok bs'
  · obtain ⟨bs', hbs'⟩ := hfits
    obtain rfl := write_unique hbs' h
    have hread := read_write hbs' []
    rw [List.append_nil] at hread
    exact .inl hread
  · rw [not_exists] at hfits
    exact .inr (read_failed_of_write h hfits)

end Frame

namespace Call.Client

/-- The call is answered the bytes, or is going to be. -/
def Given (c : Client) (id : UInt64) (bytes : List UInt8) : Prop :=
  ∃ o, c.ongoing.get? id = some o ∧ o.outcome = some (.ok bytes)

/-- Nothing waits to be sent, and no frame has arrived in part. -/
structure Still (c : Client) : Prop where
  queue : c.queue = []
  unread : c.unread = []

/-- A step gives no call any bytes but those that `given` allows, and leaves nothing half done. -/
structure Goes (c c' : Client) (given : UInt64 → List UInt8 → Prop) : Prop where
  nextId : c'.nextId = c.nextId
  still : c.Still → c'.Still
  given : ∀ id bytes, c'.Given id bytes → c.Given id bytes ∨ given id bytes

variable {c c' c'' : Client} {id : UInt64} {given given' : UInt64 → List UInt8 → Prop}

lemma Goes.refl (c : Client) (given : UInt64 → List UInt8 → Prop) : c.Goes c given :=
  ⟨rfl, id, fun _ _ h => .inl h⟩

lemma Goes.trans (h : c.Goes c' given) (h' : c'.Goes c'' given) : c.Goes c'' given where
  nextId := h'.nextId.trans h.nextId
  still hc := h'.still (h.still hc)
  given id bytes hg := (h'.given id bytes hg).elim (h.given id bytes) .inr

lemma Goes.mono (h : c.Goes c' given) (hle : ∀ id bytes, given id bytes → given' id bytes) :
    c.Goes c' given' :=
  ⟨h.nextId, h.still, fun id bytes hg => (h.given id bytes hg).imp_right (hle id bytes)⟩

lemma goes_update {g : Ongoing → Ongoing} (hg : ∀ o, (g o).outcome = o.outcome) (c : Client)
    (id : UInt64) : c.Goes (c.update id g) given where
  nextId := rfl
  still hc := ⟨hc.queue, hc.unread⟩
  given j bytes h := by
    obtain ⟨o, ho, hout⟩ := h
    rw [get?_update] at ho
    split_ifs at ho with hj
    · obtain ⟨o', ho', rfl⟩ := Option.map_eq_some_iff.mp ho
      rw [hg] at hout
      exact .inl ⟨o', by rwa [hj], hout⟩
    · exact .inl ⟨o, ho, hout⟩

lemma goes_unroute (c : Client) (id : UInt64) : c.Goes (c.unroute id) given :=
  ⟨rfl, fun hc => ⟨hc.queue, hc.unread⟩, fun _ _ h => .inl h⟩

lemma goes_refuse (c : Client) (id : UInt64) : c.Goes (c.refuse id) given :=
  (goes_update (g := fun o => { o with stage := .refused c.lostError }) (fun _ => rfl) c id).trans
    (goes_unroute _ id)

lemma goes_abandon (c : Client) (id : UInt64) : c.Goes (c.abandon id) given where
  nextId := rfl
  still hc := ⟨hc.queue, hc.unread⟩
  given j bytes h := by
    obtain ⟨o, ho, hout⟩ := h
    rw [get?_abandon] at ho
    split_ifs at ho
    exact .inl ⟨o, ho, hout⟩

lemma goes_deliver (c : Client) (id : UInt64) (reply : Reply) :
    c.Goes (c.deliver id reply) fun j bytes => j = id ∧ reply = .ok bytes where
  nextId := (alike_deliver c id reply).nextId
  still hc := by
    refine ⟨(queue_deliver c id reply).trans hc.queue, ?_⟩
    unfold deliver
    split <;> exact hc.unread
  given j bytes h := by
    obtain ⟨o, ho, hout⟩ := h
    rw [get?_deliver] at ho
    split_ifs at ho with hj
    · obtain ⟨o', -, rfl⟩ := Option.map_eq_some_iff.mp ho
      exact .inr ⟨hj.1, Option.some.inj hout⟩
    · exact .inl ⟨o, ho, hout⟩

/-- An error gives nobody any bytes. -/
lemma goes_deliver_error (c : Client) (id : UInt64) (e : CallError) :
    c.Goes (c.deliver id (.error e)) given :=
  (goes_deliver c id (.error e)).mono fun _ _ h => by cases h.2

lemma goes_failReading (c : Client) (reason : String) : c.Goes (c.failReading reason) given := by
  have hall (routes : List UInt64) (c : Client) : c.Goes (routes.foldl failOne c) given := by
    induction routes generalizing c with
    | nil => exact Goes.refl c _
    | cons id routes ih => exact (goes_deliver_error c id _).trans (ih _)
  obtain ⟨hnext, hstill, hgiven⟩ := hall (c.markFailed reason).routes (c.markFailed reason)
  refine ⟨hnext, fun hc => ⟨(hstill ⟨hc.queue, hc.unread⟩).queue, rfl⟩, fun id bytes h => ?_⟩
  exact hgiven id bytes h

/-! ### A request goes out -/

lemma goes_checkOpen (c : Client) (id : UInt64) : c.Goes (c.checkOpen id) given := by
  unfold checkOpen
  split
  · rename_i request _
    split
    · exact goes_refuse c id
    · exact goes_update (g := fun o => { o with stage := .queueing request }) (fun _ => rfl) c id
  · exact Goes.refl c _

/-- A call that waits for room in an empty queue gets it, or is refused. -/
lemma enqueue_cases (hq : c.queue = []) (id : UInt64) :
    c.Goes (c.enqueue id) given ∨
      ∃ f outcome, c.ongoing.get? id = some ⟨.queueing f, outcome⟩ ∧ c.writing = true ∧
        c.enqueue id =
          { c.update id fun o => { o with stage := .awaiting } with queue := [f] } := by
  unfold enqueue
  rcases hid : c.ongoing.get? id with _ | ⟨_ | ⟨f⟩ | _ | _, outcome⟩ <;>
    simp only [Option.map_none, Option.map_some]
  · exact .inl (Goes.refl c _)
  · exact .inl (Goes.refl c _)
  · cases hw : c.writing with
    | false =>
      simp only [Bool.not_false, if_true]
      exact .inl (goes_refuse c id)
    | true =>
      have hroom : ([] : List Frame).length < queueCapacity := by decide
      simp only [Bool.not_true, Bool.false_eq_true, if_false, hq, hroom, if_true, List.nil_append]
      exact .inr ⟨f, outcome, rfl, trivial, rfl⟩
  · exact .inl (Goes.refl c _)
  · exact .inl (Goes.refl c _)

lemma writeAll_nil (hq : c.queue = []) : c.writeAll = ([], c) := by
  simp only [writeAll, hq, List.length_nil, List.range_zero, List.foldl_nil]

lemma writeAll_singleton {f : Frame} (given : UInt64 → List UInt8 → Prop) (hq : c.queue = [f])
    (hw : c.writing = true) :
    ∃ bytes c', c.writeAll = (bytes, c') ∧ ({ c with queue := [] } : Client).Goes c' given ∧
      (bytes = [] ∨ f.write c.frameLimit = .ok bytes) := by
  have hall : c.writeAll = (c.writeNext.1, c.writeNext.2) := by
    simp only [writeAll, hq, List.length_singleton, List.range_one, List.foldl_cons,
      List.foldl_nil, List.nil_append]
  rw [hall]
  cases hf : f.write c.frameLimit with
  | ok bytes =>
    refine ⟨bytes, { c with queue := [] }, ?_, Goes.refl _ _, .inr rfl⟩
    simp only [writeNext, hw, hq, hf]
  | error e =>
    obtain ⟨size, rfl⟩ := Frame.write_eq_error hf
    refine ⟨[], _, ?_, goes_deliver_error { c with queue := [] } f.callId
      (.frameTooLarge size c.frameLimit), .inl rfl⟩
    simp only [writeNext, hw, hq, hf]

lemma get?_checkOpen_enter (c : Client) (method : String) (payload : List UInt8) {f : Frame}
    {outcome : Option Reply}
    (h : ((c.enter method payload).2.checkOpen c.nextId).ongoing.get? c.nextId =
      some ⟨.queueing f, outcome⟩) : f = ⟨c.nextId, .request method payload⟩ := by
  have hentered : (c.enter method payload).2.ongoing.get? c.nextId =
      some ⟨.entered ⟨c.nextId, .request method payload⟩, none⟩ :=
    Dictionary.get?_insert_self _ _ _
  unfold checkOpen at h
  simp only [hentered, Option.map_some] at h
  split at h
  · simp [get?_refuse, hentered] at h
  · rw [get?_update, if_pos rfl, hentered] at h
    cases h
    rfl

/-- A call is numbered, and its request goes out as a whole or not at all. -/
theorem submit_cases (hc : c.Still) (method : String) (payload : List UInt8) :
    ∃ (bytes : List UInt8) (c' : Client), c.submit method payload = (c.nextId, bytes, c') ∧
      c'.Still ∧ c'.nextId = c.nextId + 1 ∧ (∀ id bs, c'.Given id bs → c.Given id bs) ∧
      (bytes = [] ∨
        (⟨c.nextId, .request method payload⟩ : Frame).write c.frameLimit = .ok bytes) := by
  have hsubmit : c.submit method payload =
      (c.nextId, (((c.enter method payload).2.checkOpen c.nextId).enqueue c.nextId).writeAll) := rfl
  have hgiven (id : UInt64) (bs : List UInt8) (h : (c.enter method payload).2.Given id bs) :
      c.Given id bs := by
    obtain ⟨o, ho, hout⟩ := h
    rw [show (c.enter method payload).2.ongoing.get? id = _ from Dictionary.get?_insert _ _ _ _]
      at ho
    split_ifs at ho with hid
    · obtain rfl := Option.some.inj ho
      cases hout
    · exact ⟨o, ho, hout⟩
  have hopen : (c.enter method payload).2.Goes ((c.enter method payload).2.checkOpen c.nextId)
      fun _ _ => False := goes_checkOpen _ _
  have hstill : ((c.enter method payload).2.checkOpen c.nextId).Still :=
    hopen.still ⟨hc.queue, hc.unread⟩
  have hlimit : ((c.enter method payload).2.checkOpen c.nextId).frameLimit = c.frameLimit :=
    (alike_checkOpen _ _).frameLimit
  have hcall (f : Frame) (outcome : Option Reply)
      (h : ((c.enter method payload).2.checkOpen c.nextId).ongoing.get? c.nextId =
        some ⟨.queueing f, outcome⟩) : f = ⟨c.nextId, .request method payload⟩ :=
    get?_checkOpen_enter c method payload h
  rw [hsubmit]
  generalize (c.enter method payload).2.checkOpen c.nextId = e at hopen hstill hlimit hcall ⊢
  have hsent (c' : Client) (h : e.Goes c' fun _ _ => False) : c'.nextId = c.nextId + 1 ∧
      ∀ id bs, c'.Given id bs → c.Given id bs := by
    obtain ⟨hnext, -, hback⟩ := hopen.trans h
    exact ⟨hnext, fun id bs hg => hgiven id bs ((hback id bs hg).resolve_right not_false)⟩
  rcases enqueue_cases hstill.queue c.nextId with hgoes | ⟨f, outcome, hf, hw, he⟩
  · rw [writeAll_nil (hgoes.still hstill).queue]
    obtain ⟨hnext, hback⟩ := hsent _ hgoes
    exact ⟨[], _, rfl, hgoes.still hstill, hnext, hback, .inl rfl⟩
  · obtain rfl := hcall f outcome hf
    rw [he]
    obtain ⟨bytes, c', hall, hgoes, hbytes⟩ := writeAll_singleton (fun _ _ => False)
      (c := { e.update c.nextId fun o => { o with stage := .awaiting } with
        queue := [⟨c.nextId, .request method payload⟩] }) rfl hw
    have hupdate : e.Goes { e.update c.nextId fun o => { o with stage := .awaiting } with
        queue := [] } fun _ _ => False := by
      have hawaits : e.Goes (e.update c.nextId fun o => { o with stage := .awaiting })
          fun _ _ => False :=
        goes_update (g := fun o => { o with stage := .awaiting }) (fun _ => rfl) e c.nextId
      exact ⟨hawaits.nextId, fun h => ⟨rfl, h.unread⟩, hawaits.given⟩
    obtain ⟨hnext, hback⟩ := hsent _ (hupdate.trans hgoes)
    refine ⟨bytes, c', by rw [hall], (hupdate.trans hgoes).still hstill, hnext, hback, ?_⟩
    rw [← hlimit]
    exact hbytes

/-! ### A response comes in -/

/-- Bytes are given to the call whose response they hold, as a whole or not at all. -/
theorem goes_receive (hc : c.Still) {bytes : List UInt8}
    {outcome : Except MethodError (List UInt8)} {limit : Nat}
    (hw : bytes = [] ∨ (⟨id, .response outcome⟩ : Frame).write limit = .ok bytes) :
    c.Goes (c.receive bytes) fun j bs => j = id ∧ outcome = .ok bs := by
  unfold receive
  split
  · rw [hc.unread, List.nil_append]
    rcases hw with rfl | hw
    · rw [Frame.readMany_nil]
      exact ⟨rfl, fun hc => ⟨hc.queue, rfl⟩, fun _ _ h => .inl h⟩
    · rcases Frame.read_of_write hw c.frameLimit with hread | ⟨e, hread⟩
      · have hmany : Frame.readMany c.frameLimit bytes =
            ([⟨id, .response outcome⟩], .ok []) := by
          rw [Frame.readMany_of_frame hread, Frame.readMany_nil]
        rw [hmany]
        have hgoes := goes_deliver c id (outcome.mapError (.method ""))
        refine ⟨hgoes.nextId, fun hc => ⟨(hgoes.still hc).queue, rfl⟩, fun j bs h => ?_⟩
        refine (hgoes.given j bs h).imp_right fun ⟨hj, hbs⟩ => ⟨hj, ?_⟩
        cases outcome with
        | ok b => exact congrArg _ (Except.ok.inj hbs)
        | error e => cases hbs
      · rw [Frame.readMany_of_failed hread]
        exact goes_failReading c e.message
  · exact Goes.refl c _

lemma goes_receiveEnd (c : Client) : c.Goes c.receiveEnd given := by
  unfold receiveEnd
  split
  · exact goes_failReading c _
  · exact Goes.refl c _

/-- Who is answered bytes was given them. -/
lemma given_of_returnTo {bytes : List UInt8} (h : c.returnTo id = (some (.ok bytes), c')) :
    c.Given id bytes := by
  unfold returnTo at h
  cases ho : c.ongoing.get? id with
  | none => simp [ho] at h
  | some o =>
    cases hr : o.reply? with
    | none => simp [ho, hr] at h
    | some reply =>
      simp only [ho, Option.bind_some, hr, Prod.mk.injEq, Option.some.injEq] at h
      obtain ⟨rfl, -⟩ := h
      refine ⟨o, ho, ?_⟩
      obtain ⟨stage, outcome⟩ := o
      cases stage <;> simp_all [Ongoing.reply?]

section Caller

variable {σ : Type} (p : Procedure.Place σ Client) (far : FarEnd σ)

/-- What a call is answered that waits no longer. -/
def returned (k : UInt64) (s : σ) : Reply × σ :=
  match (p.get s).returnTo k with
  | (some reply, c) => (reply, p.set c s)
  | (none, c) => (.error c.lostError, p.set (c.abandon k) s)

/-- What is left of a call whose request was numbered `k` and goes out as `request`. -/
def await (k : UInt64) (request : List UInt8) : Procedure σ Reply := do
  unless request.isEmpty do
    let answer ← far request
    .write (p.modify fun c =>
      let c := c.receive answer.bytes
      if answer.closes then c.receiveEnd else c)
  .stretch (returned p k)

lemma call_caller (method : String) (payload : List UInt8) :
    (caller p far).call method payload =
      .act (fun s => p.set ((p.get s).submit method payload).2.2 s)
        fun s => await p far ((p.get s).submit method payload).1
          ((p.get s).submit method payload).2.1 :=
  rfl

end Caller

end Call.Client

end PathPolicy
