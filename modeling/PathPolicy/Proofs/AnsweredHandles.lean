import PathPolicy.Proofs.MalformedCalls
import PathPolicy.Proofs.OfferTable

/-!
# Handles that a server answers

A server with a selector has a table of handles for each client. A request that is served changes
the table of its client only, and as the request says, whatever the selector makes of it. So the
tables are read off the requests: a fingerprint leads to the handle of the last record that has it
in the client's latest batch. With this handle the choice of a path is answered.
-/

namespace PathPolicy.Remote

open Call

/-! ### What the requests have offered -/

/-- What is on offer for `r` once the message was served by the method. A message that lacks its
remote or its paths offers nothing. -/
def SelectorMethod.batchAfter (method : SelectorMethod) (m : SelectorMessage) (r : RemoteAddress)
    (batch : Option (List PathRecord)) : Option (List PathRecord) :=
  if m.remote = some r then
    match method with
    | .start | .refresh => m.paths.or batch
    | .close => none
    | .path | .pathDown => batch
  else batch

/-- What `c` has on offer for `r` once the event was served. -/
def batchAfter (c : ClientId) (r : RemoteAddress) (batch : Option (List PathRecord)) :
    Server.Event → Option (List PathRecord)
  | .request d name payload =>
    if d = c then
      match SelectorMethod.all.find? fun method => method.name = name,
        Codec.selectorMessage.decode payload with
      | some method, .ok (m, _) => method.batchAfter m r batch
      | _, _ => batch
    else batch
  | .gone d => if d = c then none else batch

/-- The latest well-formed batch that `c` sent for `r`; none if `c` closed `r` since, or left. -/
def latestBatch (c : ClientId) (r : RemoteAddress) (events : List Server.Event) :
    Option (List PathRecord) :=
  events.foldl (batchAfter c r) none

/-- The handle of the last record with the fingerprint. -/
def lastHandle (batch : Option (List PathRecord)) (f : Fingerprint) : Option PathHandle :=
  ((batch.getD []).map fun record => (record.path.fingerprint, record.handle)).reverse.lookup f

lemma lastHandle_eq_some_iff {batch : Option (List PathRecord)} {f : Fingerprint}
    {h : PathHandle} : lastHandle batch f = some h ↔
      ∃ front record rest, batch = some (front ++ record :: rest) ∧ record.handle = h ∧
        record.path.fingerprint = f ∧ ∀ later ∈ rest, later.path.fingerprint ≠ f := by
  rw [lastHandle, OfferTable.lookup_reverse_eq_some_iff]
  constructor
  · rintro ⟨front', rest', hsplit, hlast⟩
    obtain ⟨front, tail, hbatch, -, htail⟩ := List.map_eq_append_iff.mp hsplit
    obtain ⟨record, rest, rfl, hrecord, rfl⟩ := List.map_eq_cons_iff.mp htail
    obtain ⟨rfl, rfl⟩ := Prod.mk.inj hrecord
    refine ⟨front, record, rest, ?_, rfl, rfl, fun later hm hf => hlast ?_⟩
    · cases batch with
      | none => simp at hbatch
      | some records => exact congrArg some hbatch
    · exact List.mem_map.mpr ⟨_, List.mem_map_of_mem hm, hf⟩
  · rintro ⟨front, record, rest, rfl, rfl, rfl, hlast⟩
    refine ⟨_, _, List.map_append, fun hm => ?_⟩
    obtain ⟨entry, he, hf⟩ := List.mem_map.mp hm
    obtain ⟨later, hlater, rfl⟩ := List.mem_map.mp he
    exact hlast later hlater hf

lemma lastHandle_eq_none_iff {batch : Option (List PathRecord)} {f : Fingerprint} :
    lastHandle batch f = none ↔
      ∀ records, batch = some records → ∀ record ∈ records, record.path.fingerprint ≠ f := by
  rw [lastHandle, List.lookup_eq_none_iff]
  cases batch with
  | none => simp
  | some records =>
    simp only [Option.getD_some, List.mem_reverse, List.mem_map, forall_exists_index, and_imp,
      forall_apply_eq_imp_iff₂, bne_iff_ne, Option.some.injEq, forall_eq']
    exact forall₂_congr fun record _ => ne_comm

/-! ### What is done for a client -/

variable {σ α β : Type} {elapse : Nat → σ → σ} {c : ClientId}
  {f : OfferTable PathHandle → OfferTable PathHandle}

/-- Carried out to its end, the procedure changes the table of `c` by `f` and no other table. -/
def Touches (elapse : Nat → σ → σ) (c : ClientId)
    (f : OfferTable PathHandle → OfferTable PathHandle) (p : Procedure (HandleBook × σ) α) : Prop :=
  ∀ s d, (p.run (Procedure.beside elapse) s).2.1.table d =
    if d = c then f (s.1.table d) else s.1.table d

lemma touches_pure (a : α) : Touches elapse c id (pure a) := by
  intro s d
  simp

lemma touches_within (p : Procedure σ α) : Touches elapse c id (p.within .second) := by
  intro s d
  simp [Procedure.run_within_second]

lemma table_update_eq_ite (b : HandleBook) (d : ClientId) :
    (b.update c f).table d = if d = c then f (b.table d) else b.table d := by
  split_ifs with hd
  · rw [hd, table_update]
  · rw [HandleBook.table, HandleBook.update, Dictionary.get?_insert, if_neg hd, HandleBook.table]

lemma touches_write : Touches elapse c f
    (.write (Procedure.Place.first.modify fun b : HandleBook => b.update c f)) :=
  fun s d => table_update_eq_ite s.1 d

lemma Touches.bind_idle {p : Procedure (HandleBook × σ) α}
    {k : α → Procedure (HandleBook × σ) β} (hp : Touches elapse c f p)
    (hk : ∀ a, Touches elapse c id (k a)) : Touches elapse c f (p >>= k) := by
  intro s d
  rw [Procedure.run_bind, hk, id_eq, ite_self, hp]

lemma Touches.of_idle_bind {p : Procedure (HandleBook × σ) α}
    {k : α → Procedure (HandleBook × σ) β} (hp : Touches elapse c id p)
    (hk : ∀ a, Touches elapse c f (k a)) : Touches elapse c f (p >>= k) := by
  intro s d
  rw [Procedure.run_bind, hk, hp, id_eq, ite_self]

/-! ### The methods -/

variable (S : Selector σ)

/-- What a message does to the table of its client. -/
def SelectorMethod.effect (method : SelectorMethod) (m : SelectorMessage)
    (t : OfferTable PathHandle) : OfferTable PathHandle :=
  match method, m.remote, m.paths with
  | .start, some r, some records | .refresh, some r, some records =>
    t.replaceWith r ((records.map PathRecord.handle).zip
      (records.map fun record => ⟨none, record.path⟩))
  | .close, some r, _ => t.removeRemote r
  | _, _, _ => t

lemma touches_serveOffer {method : SelectorMethod} (hmethod : method = .start ∨ method = .refresh)
    (m : SelectorMessage) :
    Touches elapse c (method.effect m) (serveOffer (S.within .second) .first method c m) := by
  obtain ⟨remote, paths, fingerprint, interface⟩ := m
  cases remote with
  | none => rcases hmethod with rfl | rfl <;> exact touches_pure _
  | some r =>
    cases paths with
    | none => rcases hmethod with rfl | rfl <;> exact touches_pure _
    | some records =>
      -- The table has the batch before the selector is asked.
      rcases hmethod with rfl | rfl <;>
        exact touches_write.bind_idle fun _ => (touches_within _).bind_idle fun _ => touches_pure _

lemma touches_servePath (m : SelectorMessage) :
    Touches elapse c id (servePath (S.within .second) .first c m) := by
  obtain ⟨remote, paths, fingerprint, interface⟩ := m
  cases remote with
  | none => exact touches_pure _
  | some r =>
    refine (touches_within (S.path (c.scoped r))).bind_idle fun chosen => ?_
    cases chosen with
    | error e => exact touches_pure _
    | ok o =>
      cases o with
      | none => exact touches_pure _
      | some o => exact fun s d => table_update_eq_ite s.1 d

lemma touches_servePathDown (m : SelectorMessage) :
    Touches elapse c id (servePathDown (S.within .second) c m) := by
  unfold servePathDown
  dsimp only
  split
  · exact touches_pure _
  · exact (touches_within _).bind_idle fun _ => touches_pure _

lemma touches_serveClose (m : SelectorMessage) :
    Touches elapse c (SelectorMethod.effect .close m)
      (serveClose (S.within .second) .first c m) := by
  obtain ⟨remote, paths, fingerprint, interface⟩ := m
  cases remote with
  | none => exact touches_pure _
  | some r =>
    -- The handles are dropped whatever the selector has answered.
    exact (touches_within _).of_idle_bind fun _ => touches_write.bind_idle fun _ => touches_pure _

lemma touches_handler {method : String} {input : Codec α} {output : Codec β}
    {answer : ClientId → α → Procedure (HandleBook × σ) (Except MethodError β)}
    {payload rest : List UInt8} {a : α} (ha : input.decode payload = .ok (a, rest))
    (h : Touches elapse c f (answer c a)) :
    Touches elapse c f (Server.handler method input output answer c payload) := by
  unfold Server.handler
  rw [ha]
  refine h.bind_idle fun outcome => ?_
  cases outcome with
  | error e => exact touches_pure _
  | ok b =>
    dsimp only
    split <;> exact touches_pure _

/-- The server of the selector, which keeps its state apart. -/
def selectorServer (frameLimit : Nat) : Server (HandleBook × σ) :=
  registerSelector (S.within .second) .first { frameLimit }

variable {frameLimit : Nat} {payload : List UInt8}

lemma touches_dispatch (method : SelectorMethod) {m : SelectorMessage} {rest : List UInt8}
    (hm : Codec.selectorMessage.decode payload = .ok (m, rest)) :
    Touches elapse c (method.effect m)
      ((selectorServer S frameLimit).dispatch c method.name payload) := by
  rw [selectorServer, dispatch_registerSelector]
  cases method with
  | start => exact touches_handler hm (touches_serveOffer S (.inl rfl) m)
  | path => exact touches_handler hm (touches_servePath S m)
  | pathDown => exact touches_handler hm (touches_servePathDown S m)
  | refresh => exact touches_handler hm (touches_serveOffer S (.inr rfl) m)
  | close => exact touches_handler hm (touches_serveClose S m)

lemma touches_unknown {name : String} (h : ∀ method : SelectorMethod, name ≠ method.name) :
    Touches elapse c id ((selectorServer S frameLimit).dispatch c name payload) := by
  rw [selectorServer, dispatch_registerSelector_of_ne _ _ _ _ _ h]
  exact touches_pure _

lemma touches_undecodable (method : SelectorMethod) {fault : DecodeFault}
    (hm : Codec.selectorMessage.decode payload = .error fault) :
    Touches elapse c id ((selectorServer S frameLimit).dispatch c method.name payload) := by
  rw [selectorServer, dispatch_registerSelector]
  cases method <;>
    · simp only [Server.handler, hm]
      exact touches_pure _

/-! ### A run of requests -/

/-- What a request does to the table of its client. -/
def requestEffect (name : String) (payload : List UInt8) (t : OfferTable PathHandle) :
    OfferTable PathHandle :=
  match SelectorMethod.all.find? fun method => method.name = name,
    Codec.selectorMessage.decode payload with
  | some method, .ok (m, _) => method.effect m t
  | _, _ => t

lemma touches_request (name : String) (payload : List UInt8) :
    Touches elapse c (requestEffect name payload)
      ((selectorServer S frameLimit).dispatch c name payload) := by
  unfold requestEffect
  cases hfind : SelectorMethod.all.find? fun method => method.name = name with
  | none =>
    refine touches_unknown S fun method hname => ?_
    have hno := List.find?_eq_none.mp hfind method (by cases method <;> decide)
    exact hno (decide_eq_true hname.symm)
  | some method =>
    obtain rfl : method.name = name := by simpa using List.find?_some hfind
    cases hm : Codec.selectorMessage.decode payload with
    | error fault => exact touches_undecodable S method hm
    | ok decoded => exact touches_dispatch S method hm

variable {r : RemoteAddress} {batch : Option (List PathRecord)}

lemma keyOf_effect {t : OfferTable PathHandle} (h : ∀ f, t.keyOf r f = lastHandle batch f)
    (method : SelectorMethod) (m : SelectorMessage) (f : Fingerprint) :
    (method.effect m t).keyOf r f = lastHandle (method.batchAfter m r batch) f := by
  obtain ⟨remote, paths, fingerprint, interface⟩ := m
  cases remote with
  | none => cases method <;> exact h f
  | some r' =>
    by_cases hr : r' = r
    · subst hr
      unfold SelectorMethod.batchAfter
      rw [if_pos rfl]
      cases method with
      | path => exact h f
      | pathDown => exact h f
      | close => exact (OfferTable.keyOf_removeRemote ..).trans (if_pos rfl)
      | _ =>
        cases paths with
        | none => exact h f
        | some records =>
          refine (OfferTable.keyOf_replaceWith ..).trans ((if_pos rfl).trans ?_)
          rw [List.zip_map', List.map_map]
          rfl
    · unfold SelectorMethod.batchAfter
      rw [if_neg fun he => hr (Option.some.inj he)]
      cases method with
      | path => exact h f
      | pathDown => exact h f
      | close => exact (OfferTable.keyOf_removeRemote ..).trans ((if_neg (Ne.symm hr)).trans (h f))
      | _ =>
        cases paths with
        | none => exact h f
        | some records =>
          exact (OfferTable.keyOf_replaceWith ..).trans ((if_neg (Ne.symm hr)).trans (h f))

/-- The table of `c` has what `c` has on offer. -/
lemma keyOf_serve {s : HandleBook × σ}
    (h : ∀ f, (s.1.table c).keyOf r f = lastHandle batch f) (e : Server.Event) (f : Fingerprint) :
    (((selectorServer S frameLimit).serve (Procedure.beside elapse) e s).2.1.table c).keyOf r f =
      lastHandle (batchAfter c r batch e) f := by
  cases e with
  | gone d =>
    show ((s.1.release d).table c).keyOf r f = lastHandle (if d = c then none else batch) f
    rw [HandleBook.table, HandleBook.release, Dictionary.get?_erase]
    by_cases hd : d = c
    · rw [if_pos hd.symm, if_pos hd]
      rfl
    · rw [if_neg (Ne.symm hd), if_neg hd]
      exact h f
  | request d name payload =>
    have htouches : Touches elapse d (requestEffect name payload)
        ((selectorServer S frameLimit).dispatch d name payload) := touches_request S name payload
    simp only [Server.serve, htouches s c, batchAfter, requestEffect, eq_comm (a := d)]
    split_ifs with hd
    · split
      · exact keyOf_effect h _ _ f
      · exact h f
    · exact h f

lemma keyOf_serveAll (events : List Server.Event) (inner : σ) (f : Fingerprint) :
    (((selectorServer S frameLimit).serveAll (Procedure.beside elapse) events
      ({}, inner)).2.1.table c).keyOf r f = lastHandle (latestBatch c r events) f := by
  induction events using List.reverseRecOn generalizing f with
  | nil => rfl
  | append_singleton events e ih =>
    rw [Server.serveAll_append, latestBatch, List.foldl_append]
    exact keyOf_serve S ih e f

/-! ### The answer -/

/-- The replies are one to `c`, with the handle as it is encoded. -/
def Answers (c : ClientId) (handle : Option PathHandle) (replies : List Server.Addressed) : Prop :=
  ∃ bytes, Codec.pathReply.encode ⟨handle⟩ = .ok bytes ∧ replies = [(c, .ok bytes)]

lemma exists_encode_pathReply (reply : PathReply) :
    ∃ bytes, Codec.pathReply.encode reply = .ok bytes := by
  obtain ⟨n, -, bytes, hbytes, -⟩ := Codec.takes_pathReply reply
  exact ⟨bytes, hbytes⟩

/-- Handles that differ are encoded differently. -/
lemma eq_of_encode_pathReply {reply reply' : PathReply} {bytes : List UInt8}
    (h : Codec.pathReply.encode reply = .ok bytes)
    (h' : Codec.pathReply.encode reply' = .ok bytes) : reply = reply' := by
  obtain ⟨n, hn, bytes', hbytes', rfl⟩ := Codec.takes_pathReply reply
  obtain rfl : bytes = bytes' := Except.ok.inj (h.symm.trans hbytes')
  have hshort : bytes.length < UInt64.size := Nat.lt_of_le_of_lt hn (by decide)
  have hdecode := Codec.readsBack_pathReply reply bytes [] h hshort
  have hdecode' := Codec.readsBack_pathReply reply' bytes [] h' hshort
  exact (Prod.mk.inj (Except.ok.inj (hdecode.symm.trans hdecode'))).1

variable {m : SelectorMessage} {rest : List UInt8}

/-- A choice is answered with the handle that its fingerprint has in the client's table. -/
lemma run_servePath (hr : m.remote = some r) (s : HandleBook × σ) :
    ((servePath (S.within .second) .first c m).run (Procedure.beside elapse) s).1 =
      match ((S.path (c.scoped r)).run elapse s.2).1 with
      | .error e => .error e.toMethodError
      | .ok chosen => .ok ⟨chosen.bind fun o => (s.1.table c).keyOf r o.fingerprint⟩ := by
  simp only [servePath, SelectorMethod.required, MethodError.required, hr, Procedure.run_bind,
    Selector.within, Procedure.run_within_second]
  cases ((S.path (c.scoped r)).run elapse s.2).1 with
  | error e => rfl
  | ok chosen =>
    cases chosen with
    | none => rfl
    | some o =>
      simp only [Procedure.run_stretch, Procedure.Place.first, table_update]
      rfl

/-- The request for a path is answered the encoded handle, or the selector's error. -/
lemma serve_pathRequest (hm : Codec.selectorMessage.decode payload = .ok (m, rest))
    (hr : m.remote = some r) (s : HandleBook × σ) :
    ((selectorServer S frameLimit).serve (Procedure.beside elapse)
        (.request c SelectorMethod.path.name payload) s).1 =
      [(c, match ((S.path (c.scoped r)).run elapse s.2).1 with
        | .error e => .error e.toMethodError
        | .ok chosen =>
          (Codec.pathReply.encode
            ⟨chosen.bind fun o => (s.1.table c).keyOf r o.fingerprint⟩).mapError
              (Server.unencodable SelectorMethod.path.name))] := by
  simp only [Server.serve, selectorServer, dispatch_registerSelector, Server.handler, hm,
    Procedure.run_bind, run_servePath S hr]
  cases ((S.path (c.scoped r)).run elapse s.2).1 with
  | error e => rfl
  | ok chosen =>
    obtain ⟨bytes, hbytes⟩ := exists_encode_pathReply
      ⟨chosen.bind fun o => (s.1.table c).keyOf r o.fingerprint⟩
    simp only [hbytes]
    rfl

/-- Answering is telling which handle was meant. -/
lemma answers_encoded_iff (handle handle' : Option PathHandle) (method : String) :
    Answers c handle [(c, (Codec.pathReply.encode ⟨handle'⟩).mapError
      (Server.unencodable method))] ↔ handle' = handle := by
  obtain ⟨bytes', hbytes'⟩ := exists_encode_pathReply ⟨handle'⟩
  rw [Answers, hbytes']
  constructor
  · rintro ⟨bytes, hbytes, hreplies⟩
    obtain rfl : bytes' = bytes := by simpa [Except.mapError] using hreplies
    exact congrArg PathReply.handle (eq_of_encode_pathReply hbytes' hbytes)
  · rintro rfl
    exact ⟨bytes', hbytes', rfl⟩

/-- Whatever was asked before, one request after another, a client that asks for a path is answered
the handle of the last record with the chosen fingerprint in its latest batch for the remote; none
if the selector has no opinion or no record there has the fingerprint; and an error if the selector
fails. What the selector made of the batch, and what handles others told or the client told for
other remotes, makes no difference. -/
theorem answers_offered_handle (elapse : Nat → σ → σ) (S : Selector σ) (frameLimit : Nat)
    (before : List Server.Event) (inner : σ) (c : ClientId) (payload rest : List UInt8)
    (m : SelectorMessage) (r : RemoteAddress)
    (hm : Codec.selectorMessage.decode payload = .ok (m, rest)) (hr : m.remote = some r) :
    let server := selectorServer S frameLimit
    let s := (server.serveAll (Procedure.beside elapse) before ({}, inner)).2
    let chosen := ((S.path (c.scoped r)).run elapse s.2).1
    let replies := (server.serve (Procedure.beside elapse)
      (.request c SelectorMethod.path.name payload) s).1
    (∀ h, Answers c (some h) replies ↔ ∃ o front record later, chosen = .ok (some o) ∧
      latestBatch c r before = some (front ++ record :: later) ∧ record.handle = h ∧
        record.path.fingerprint = o.fingerprint ∧
          ∀ record' ∈ later, record'.path.fingerprint ≠ o.fingerprint) ∧
    (Answers c none replies ↔ chosen = .ok none ∨ ∃ o, chosen = .ok (some o) ∧
      ∀ records, latestBatch c r before = some records →
        ∀ record ∈ records, record.path.fingerprint ≠ o.fingerprint) ∧
    (∀ e, replies = [(c, .error e)] ↔ ∃ failure, chosen = .error failure ∧
      e = failure.toMethodError) := by
  intro server s chosen replies
  have hkey (f : Fingerprint) : (s.1.table c).keyOf r f = lastHandle (latestBatch c r before) f :=
    keyOf_serveAll S before inner f
  have hreplies : replies = [(c, _)] := serve_pathRequest S hm hr s
  change replies = [(c, match chosen with | .error e => _ | .ok chosen => _)] at hreplies
  simp only [hkey] at hreplies
  rw [hreplies]
  cases chosen with
  | error failure =>
    have hno (handle : Option PathHandle) :
        ¬Answers c handle [(c, .error failure.toMethodError)] := by
      rintro ⟨bytes, -, hbytes⟩
      simp at hbytes
    refine ⟨fun h => iff_of_false (hno _) ?_, iff_of_false (hno _) ?_, fun e => ?_⟩
    · rintro ⟨o, -, -, -, ho, -⟩
      cases ho
    · rintro (ho | ⟨o, ho, -⟩) <;> cases ho
    · simp [eq_comm]
  | ok chosen =>
    simp only [answers_encoded_iff]
    refine ⟨fun h => ?_, ?_, fun e => iff_of_false ?_ ?_⟩
    · simp only [Option.bind_eq_some_iff, lastHandle_eq_some_iff, Except.ok.injEq]
      exact exists_congr fun o => by simp
    · cases chosen with
      | none => simp
      | some o => simp [lastHandle_eq_none_iff]
    · obtain ⟨bytes, hbytes⟩ := exists_encode_pathReply
        ⟨chosen.bind fun o => lastHandle (latestBatch c r before) o.fingerprint⟩
      rw [hbytes]
      simp [Except.mapError]
    · rintro ⟨failure, hfailure, -⟩
      cases hfailure

/-- Two clients use one name and one handle; the client that asks had a fingerprint twice in its
batch, offered the same handles for another remote and closed that. -/
theorem answers_offered_handle_shared :
    let path (f : String) : Path := ⟨⟨"1-1"⟩, ⟨"1-2"⟩, ⟨f⟩, .epoch, none⟩
    let payload (m : SelectorMessage) : List UInt8 :=
      (Codec.selectorMessage.encode m).toOption.getD []
    let offer (r : RemoteAddress) (records : List PathRecord) : List UInt8 :=
      payload { remote := some r, paths := some records }
    let ask : SelectorMessage := { remote := some ⟨"r"⟩ }
    let events : List Server.Event := [
      .request ⟨1⟩ "Selector.Initialize" (offer ⟨"r"⟩ [⟨⟨7⟩, path "a"⟩, ⟨⟨5⟩, path "a"⟩]),
      .request ⟨2⟩ "Selector.Initialize" (offer ⟨"r"⟩ [⟨⟨9⟩, path "a"⟩]),
      .request ⟨1⟩ "Selector.Refresh" (offer ⟨"q"⟩ [⟨⟨5⟩, path "b"⟩]),
      .request ⟨1⟩ "Selector.Close" (payload { remote := some ⟨"q"⟩ })]
    let server := selectorServer failoverSelector 1024
    let s := (server.serveAll (Procedure.beside fun _ s => s) events ({}, {})).2
    Codec.selectorMessage.decode (payload ask) = .ok (ask, []) ∧ ask.remote = some ⟨"r"⟩ ∧
      Answers ⟨1⟩ (some ⟨5⟩) (server.serve (Procedure.beside fun _ s => s)
        (.request ⟨1⟩ SelectorMethod.path.name (payload ask)) s).1 := by
  intro path payload offer ask events server s
  have hm : Codec.selectorMessage.decode (payload ask) = .ok (ask, []) := by decide +kernel
  obtain ⟨hhandle, -, -⟩ := answers_offered_handle (fun _ s => s) failoverSelector 1024 events {}
    ⟨1⟩ (payload ask) [] ask ⟨"r"⟩ hm rfl
  have hbatch : latestBatch ⟨1⟩ ⟨"r"⟩ events =
      some ([⟨⟨7⟩, path "a"⟩] ++ ⟨⟨5⟩, path "a"⟩ :: []) := by decide +kernel
  refine ⟨hm, rfl, (hhandle ⟨5⟩).mpr ⟨⟨none, path "a"⟩, _, _, _, ?_, hbatch, rfl, rfl, by simp⟩⟩
  decide +kernel

end PathPolicy.Remote
