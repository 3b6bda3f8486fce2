import PathPolicy.Proofs.FailingCalls
import PathPolicy.Proofs.Keeping
import PathPolicy.Proofs.OfferedKeys
import PathPolicy.Proofs.SharedClient

/-!
# What the far end answers a client with many calls

The far end answers with handles that it was told, and it is told handles by offers only. So while
calls of a client are served in any order, whatever handle comes back for a remote was once offered
for this remote. Nothing that the selector behind the server does has an influence on that.
-/

namespace PathPolicy

namespace Call.Server

variable {σ α β W : Type} [Preorder W] {I : W → σ → Prop} {elapse : Nat → σ → σ}

/-- What holds of the answer of a method holds of what its payload was made from. -/
lemma keeps_handler {method : String} {input : Codec α} {output : Codec β}
    {answer : ClientId → α → Procedure σ (Except MethodError β)} {c : ClientId} {a : α}
    {payload : List UInt8} {Q : W → Except MethodError β → Prop} {w : W} (ha : input.ReadsBack a)
    (hpayload : input.encode a = .ok payload) (hl : payload.length < UInt64.size)
    (h : (answer c a).Keeps I elapse Q w) :
    (handler method input output answer c payload).Keeps I elapse
      (fun w o => ∀ bytes, o = .ok bytes → ∃ b, Q w (.ok b) ∧ output.encode b = .ok bytes) w := by
  have hdecode := ha payload [] hpayload hl
  rw [List.append_nil] at hdecode
  simp only [handler, hdecode]
  refine h.bind fun v result hv hQ => ?_
  cases result with
  | error e =>
    intro v' _ bytes he
    cases he
  | ok b =>
    cases hb : output.encode b with
    | error fault =>
      simp only [hb]
      intro v' _ bytes he
      cases he
    | ok bytes =>
      simp only [hb]
      intro v' hv' bytes' he
      obtain rfl := Except.ok.inj he
      exact ⟨b, hQ v' hv', hb⟩

end Call.Server

namespace Remote

open HandleTable Call

/-- What has come to be known: the changes to the caller's handles, and the calls whose requests
were numbered, in order. -/
structure Ledger where
  changes : List HandleTable.Call := []
  sent : List Nat := []

namespace Ledger

instance : Preorder Ledger where
  le w w' := w.changes <+: w'.changes ∧ w.sent <+: w'.sent
  le_refl w := ⟨List.prefix_rfl, List.prefix_rfl⟩
  le_trans w w' w'' h h' := ⟨h.1.trans h'.1, h.2.trans h'.2⟩

/-- The ledger with one more change, if there is any. -/
def after (w : Ledger) (change : Option HandleTable.Call) : Ledger :=
  ⟨w.changes ++ change.toList, w.sent⟩

lemma le_after (w : Ledger) (change : Option HandleTable.Call) : w ≤ w.after change :=
  ⟨List.prefix_append _ _, List.prefix_rfl⟩

/-- At some time the handle was offered for the fingerprint. -/
def Told (w : Ledger) (r : RemoteAddress) (f : Fingerprint) (h : PathHandle) : Prop :=
  OfferTable.Offered (HandleTable.changes 1 w.changes) r f h

lemma Told.mono {w w' : Ledger} (hw : w ≤ w') {r : RemoteAddress} {f : Fingerprint} {h : PathHandle}
    (ht : w.Told r f h) : w'.Told r f h := by
  obtain ⟨ds, hds⟩ := hw.1
  rw [Told, ← hds, changes_append]
  exact OfferTable.Offered.append ht _

/-- A handle in the answer to a question for a path was offered for its remote. -/
def Fits (calls : List SelectorCall) (w : Ledger) (i : Nat) (bytes : List UInt8) : Prop :=
  ∀ r, calls[i]? = some (.path r) → ∀ reply,
    Codec.pathReply.decodeAs "response" bytes = .ok reply → ∀ h ∈ reply.handle, ∃ f, w.Told r f h

lemma Fits.mono {calls : List SelectorCall} {w w' : Ledger} (hw : w ≤ w') {i : Nat}
    {bytes : List UInt8} (h : w.Fits calls i bytes) : w'.Fits calls i bytes := by
  intro r hi reply hreply k hk
  obtain ⟨f, ht⟩ := h r hi reply hreply k hk
  exact ⟨f, ht.mono hw⟩

lemma sent_of_le {w v : Ledger} (hv : w ≤ v) {n i : Nat} (hn : w.sent[n]? = some i) :
    v.sent[n]? = some i := by
  obtain ⟨rest, hrest⟩ := hv.2
  rw [← hrest, List.getElem?_append_left (List.getElem?_eq_some_iff.mp hn).1]
  exact hn

end Ledger

namespace Connected

variable {σ : Type}

/-- Handles are what the ledger makes them, the far end has only told ones, and calls are given
only what fits them. -/
structure Sound (calls : List SelectorCall) (id : ClientId) (w : Ledger) (s : Connected σ) :
    Prop where
  distinct : w.sent.Nodup
  known : ∀ i ∈ w.sent, i < calls.length
  few : w.sent.length < UInt64.size
  still : s.client.Still
  nextId : s.client.nextId = UInt64.ofNat (w.sent.length + 1)
  given : ∀ k bytes, s.client.Given k bytes →
    ∃ n i, w.sent[n]? = some i ∧ k = UInt64.ofNat (n + 1) ∧ w.Fits calls i bytes
  handles : s.proxy.handles = ({} : HandleTable).applyAll w.changes
  told : ∀ r f h, (s.book.table id).keyOf r f = some h → w.Told r f h

variable {calls : List SelectorCall} {id : ClientId} {elapse : Nat → σ → σ} {w w' : Ledger}
  {s : Connected σ} {α : Type}

/-- What the server does besides does not matter. -/
lemma Sound.serve (h : Sound calls id w s) {book : HandleBook}
    (hb : ∀ r f k, (book.table id).keyOf r f = some k → w.Told r f k) (inner : σ) :
    Sound calls id w { s with book, inner } :=
  ⟨h.distinct, h.known, h.few, h.still, h.nextId, h.given, h.handles, hb⟩

/-- What is new at the client has to fit the call that it is for. -/
lemma Sound.client (h : Sound calls id w s) {c : Client} {n i : Nat} {P : List UInt8 → Prop}
    (hn : w.sent[n]? = some i)
    (hgoes : s.client.Goes c fun k bytes => k = UInt64.ofNat (n + 1) ∧ P bytes)
    (hP : ∀ bytes, P bytes → w.Fits calls i bytes) : Sound calls id w { s with client := c } where
  distinct := h.distinct
  known := h.known
  few := h.few
  still := hgoes.still h.still
  nextId := hgoes.nextId.trans h.nextId
  given k bytes hg := by
    rcases hgoes.given k bytes hg with hold | ⟨rfl, hbytes⟩
    · exact h.given k bytes hold
    · exact ⟨n, i, hn, rfl, hP bytes hbytes⟩
  handles := h.handles
  told := h.told

/-- The handles may change with the ledger. -/
lemma Sound.proxy (h : Sound calls id w s) (hw : w ≤ w') (hs : w'.sent = w.sent)
    {proxy : ProxyState} (hp : proxy.handles = ({} : HandleTable).applyAll w'.changes) :
    Sound calls id w' { s with proxy } where
  distinct := hs ▸ h.distinct
  known := hs ▸ h.known
  few := hs ▸ h.few
  still := h.still
  nextId := hs ▸ h.nextId
  given k bytes hg := by
    obtain ⟨n, i, hn, hk, hfits⟩ := h.given k bytes hg
    exact ⟨n, i, hs ▸ hn, hk, hfits.mono hw⟩
  handles := hp
  told r f k hk := (h.told r f k hk).mono hw

/-! ### The server -/

variable (S : Selector σ) (frameLimit : Nat)

/-- The selector behind the server does not see the handles. -/
lemma keeps_within_inner (q : Procedure σ α) (w : Ledger) :
    (q.within innerPlace).Keeps (Sound calls id) (elapsed elapse) (fun _ _ => True) w := by
  induction q generalizing w with
  | done a => exact fun _ _ => trivial
  | act update resume ih => exact fun v _ s hs => ⟨hs.serve hs.told _, ih _ v⟩
  | sleep ms rest ih => exact ⟨fun v _ s hs => hs.serve hs.told _, ih w⟩

/-- The handles of the client may change to such as were told before. -/
lemma keeps_write_book {f : OfferTable PathHandle → OfferTable PathHandle}
    {q : Procedure (Connected σ) α} {Q : Ledger → α → Prop}
    (hf : ∀ t r g k, (f t).keyOf r g = some k → t.keyOf r g = some k ∨ w.Told r g k)
    (hq : q.Keeps (Sound calls id) (elapsed elapse) Q w) :
    ((Procedure.write (bookPlace.modify fun b => b.update id f)).bind fun _ => q).Keeps
      (Sound calls id) (elapsed elapse) Q w := by
  refine fun v hv s hs => ⟨hs.serve (fun r g k hk => ?_) _, hq.mono hv⟩
  have htable : (f (s.book.table id)).keyOf r g = some k := by
    rw [← table_update id s.book f]
    exact hk
  exact (hf _ r g k htable).elim (hs.told r g k) (.mono hv)

lemma keeps_told (q : Procedure σ (Except PolicyError Unit)) (w : Ledger) :
    ((q.within innerPlace).bind fun outcome => .done (told outcome)).Keeps (Sound calls id)
      (elapsed elapse) (fun _ _ => True) w :=
  (keeps_within_inner q w).bind fun _ _ _ _ _ _ => trivial

/-- The handles in the request of the call are told. -/
def Tells (w : Ledger) (next : UInt64) (call : SelectorCall) : Prop :=
  ∀ r, call.Offers r → ∀ f h,
    ((number next call.paths).map fun e => (e.2.fingerprint, e.1)).reverse.lookup f = some h →
      w.Told r f h

lemma keeps_serveUpdate {call : SelectorCall} (hp : ∀ r, call ≠ .path r) {next : UInt64}
    (ht : Tells w next call) :
    (serveUpdate (S.within innerPlace) bookPlace (SelectorMethod.of call) id
      (message next call)).Keeps (Sound calls id) (elapsed elapse) (fun _ _ => True) w := by
  have hoffer (r : RemoteAddress) (ps : List PathObject)
      (ht : ∀ f h, ((number next ps).map fun e => (e.2.fingerprint, e.1)).reverse.lookup f =
        some h → w.Told r f h) (t : OfferTable PathHandle) (r' : RemoteAddress) (f : Fingerprint)
      (k : PathHandle)
      (hk : (t.replaceWith r (((records next ps).map PathRecord.handle).zip
        ((records next ps).map fun record => (⟨none, record.path⟩ : PathObject)))).keyOf r' f =
          some k) : t.keyOf r' f = some k ∨ w.Told r' f k := by
    rw [zip_records, OfferTable.keyOf_replaceWith, map_fingerprint_bare] at hk
    split_ifs at hk with hr
    · subst hr
      exact .inr (ht f k hk)
    · exact .inl hk
  cases call with
  | start r ps => exact keeps_write_book (hoffer r ps (ht r rfl)) (keeps_told _ w)
  | refresh r ps => exact keeps_write_book (hoffer r ps (ht r rfl)) (keeps_told _ w)
  | pathDown r f i => exact keeps_told _ w
  | close r =>
    refine (keeps_within_inner _ w).bind fun v outcome _ _ => ?_
    refine keeps_write_book (fun t r' f k hk => .inl ?_) fun _ _ => trivial
    rw [OfferTable.keyOf_removeRemote] at hk
    split_ifs at hk
    exact hk
  | path r => exact absurd rfl (hp r)

/-- A chosen path is answered with a handle that was told for its remote. -/
lemma keeps_servePath (r : RemoteAddress) (w : Ledger) :
    (servePath (S.within innerPlace) bookPlace id { remote := some r }).Keeps (Sound calls id)
      (elapsed elapse)
      (fun w result => ∀ reply, result = .ok reply → ∀ h ∈ reply.handle, ∃ f, w.Told r f h) w := by
  refine (keeps_within_inner (S.path (id.scoped r)) w).bind fun v chosen _ _ => ?_
  rcases chosen with e | _ | o
  · intro v' _ reply hreply
    cases hreply
  · intro v' _ reply hreply h hh
    obtain rfl := Except.ok.inj hreply
    cases hh
  · refine fun v' _ s hs => ⟨hs.serve (fun r' f k hk => hs.told r' f k ?_) _, ?_⟩
    · rw [← hk, ← table_update id s.book fun t => t]
      rfl
    · intro v'' hv reply hreply h hh
      obtain rfl := Except.ok.inj hreply
      refine ⟨o.fingerprint, (hs.told r o.fingerprint h ?_).mono hv⟩
      rw [← table_update id s.book fun t => t]
      exact hh

/-- Bytes that answer the `i`-th call fit it. -/
lemma keeps_dispatch {i : Nat} {call : SelectorCall} (hi : calls[i]? = some call) {next : UInt64}
    (ht : Tells w next call) {payload : List UInt8}
    (hpayload : Codec.selectorMessage.encode (message next call) = .ok payload)
    (hl : payload.length < UInt64.size) :
    ((server S { frameLimit }).dispatch id (SelectorMethod.of call).name payload).Keeps
      (Sound calls id) (elapsed elapse)
      (fun w o => ∀ bytes, o = .ok bytes → w.Fits calls i bytes) w := by
  have hreads := Codec.readsBack_selectorMessage (message next call)
  by_cases hp : ∀ r, call ≠ .path r
  · rw [server, dispatch_update _ _ _ id hp]
    refine (Server.keeps_handler hreads hpayload hl (keeps_serveUpdate S hp ht)).weaken ?_
    intro v o _ bytes _ r hr
    exact absurd (Option.some.inj (hi.symm.trans hr)) (hp r)
  · simp only [not_forall, Decidable.not_not] at hp
    obtain ⟨r, rfl⟩ := hp
    rw [server, SelectorMethod.of, dispatch_registerSelector]
    refine (Server.keeps_handler hreads hpayload hl (keeps_servePath S r w)).weaken ?_
    intro v o ho bytes hbytes r' hr'
    obtain ⟨reply, hreply, hencode⟩ := ho bytes hbytes
    obtain ⟨⟩ := Option.some.inj (hi.symm.trans hr')
    obtain ⟨n, hn, htakes⟩ := Codec.takes_pathReply reply
    have hshort : bytes.length < UInt64.size := by
      rw [htakes.length_eq hencode]
      exact Nat.lt_of_le_of_lt hn (by decide)
    have hdecode := Codec.readsBack_pathReply reply bytes [] hencode hshort
    rw [List.append_nil] at hdecode
    intro reply' hreply'
    rw [Codec.decodeAs, hdecode] at hreply'
    obtain rfl := Except.ok.inj hreply'
    exact hreply reply rfl

/-! ### The connection -/

/-- What comes back holds the response to the `i`-th call, or nothing. -/
def Brings (calls : List SelectorCall) (i : Nat) (k : UInt64) (w : Ledger) (t : Transmission) :
    Prop :=
  ∃ outcome limit, (t.bytes = [] ∨ (⟨k, .response outcome⟩ : Frame).write limit = .ok t.bytes) ∧
    ∀ bytes, outcome = .ok bytes → w.Fits calls i bytes

lemma keeps_farEnd {i : Nat} {k : UInt64} {method : String} {payload request : List UInt8}
    {limit : Nat} (hw : (⟨k, .request method payload⟩ : Frame).write limit = .ok request)
    (hd : ((server S { frameLimit }).dispatch id method payload).Keeps (Sound calls id)
      (elapsed elapse) (fun w o => ∀ bytes, o = .ok bytes → w.Fits calls i bytes) w) :
    ((server S { frameLimit }).farEnd id request).Keeps (Sound calls id) (elapsed elapse)
      (Brings calls i k) w := by
  have hnothing (closes : Bool) (v : Ledger) : Brings calls i k v { closes } :=
    ⟨.error (.unknownMethod method), 0, .inl rfl, fun _ h => by cases h⟩
  unfold Server.farEnd
  rcases Frame.read_of_write hw (server S { frameLimit }).frameLimit with hread | ⟨e, hread⟩
  · simp only [hread]
    refine hd.bind fun v outcome hv hfits => ?_
    split
    · rename_i bytes hresponse
      obtain ⟨outcome', hwritten, hsame⟩ := Connection.exists_of_responseBytes hresponse
      refine fun v' hv' => ⟨outcome', _, .inr hwritten, fun bytes' hbytes => ?_⟩
      rcases hsame with rfl | ⟨size, rfl⟩
      · exact hfits v' hv' bytes' hbytes
      · cases hbytes
    · exact fun v' _ => hnothing false v'
  · simp only [hread]
    refine fun v hv s hs => ⟨hs.serve (fun r f h hh => ?_) _, fun v' _ => hnothing true v'⟩
    -- A client that the server takes leave of has no handles there any more.
    have htable : ((s.book.release id).table id) = {} := by
      simp [HandleBook.table, HandleBook.release]
    have hreleased : ((s.book.release id).table id).keyOf r f = some h := hh
    rw [htable] at hreleased
    exact absurd hreleased (OfferTable.loose_empty h r f)

/-- What is left of a call whose request was numbered `k` and goes out as `request`. -/
abbrev await (id : ClientId) (k : UInt64) (request : List UInt8) : Procedure (Connected σ) Reply :=
  Client.await clientPlace ((server S { frameLimit }).farEnd id) k request

variable {n i : Nat}

/-- The reply to a call fits it. -/
abbrev Replies {ε : Type} (calls : List SelectorCall) (i : Nat) (w : Ledger)
    (reply : Except ε (List UInt8)) : Prop :=
  ∀ bytes, reply = .ok bytes → w.Fits calls i bytes

/-- The call with a number is found by it. -/
lemma Sound.fits (h : Sound calls id w s) (hn : w.sent[n]? = some i) {bytes : List UInt8}
    (hg : s.client.Given (UInt64.ofNat (n + 1)) bytes) : w.Fits calls i bytes := by
  obtain ⟨n', i', hn', hk, hfits⟩ := h.given _ bytes hg
  have hlt := (List.getElem?_eq_some_iff.mp hn).1
  have hlt' := (List.getElem?_eq_some_iff.mp hn').1
  have hfew := h.few
  have hsame := congrArg UInt64.toNat hk
  rw [UInt64.toNat_ofNat_of_lt' (by omega), UInt64.toNat_ofNat_of_lt' (by omega)] at hsame
  obtain rfl : n = n' := by omega
  obtain rfl := Option.some.inj (hn.symm.trans hn')
  exact hfits

/-- A call that returns is answered what it was given, if it is answered bytes at all. -/
lemma returned_cases (k : UInt64) (s : Connected σ) :
    ∃ reply c, Client.returned clientPlace k s = (reply, { s with client := c }) ∧
      s.client.Goes c (fun _ _ => False) ∧
      ∀ bytes, reply = .ok bytes → s.client.Given k bytes := by
  have hget : clientPlace.get s = s.client := rfl
  rw [Client.returned, hget]
  cases hr : (s.client.ongoing.get? k).bind Ongoing.reply? with
  | none =>
    have hreturn : s.client.returnTo k = (none, s.client) := by
      simp only [Client.returnTo, hr]
    rw [hreturn]
    refine ⟨_, _, rfl, Client.goes_abandon _ k, fun bytes h => ?_⟩
    cases h
  | some reply =>
    have hreturn : s.client.returnTo k = (some reply, s.client.abandon k) := by
      simp only [Client.returnTo, hr]
    rw [hreturn]
    refine ⟨_, _, rfl, Client.goes_abandon _ k, fun bytes h => ?_⟩
    obtain rfl := h
    exact Client.given_of_returnTo hreturn

lemma keeps_return (hn : w.sent[n]? = some i) :
    (Procedure.stretch (Client.returned clientPlace (UInt64.ofNat (n + 1)))).Keeps
      (Sound calls id) (elapsed elapse) (Replies calls i) w := by
  refine Procedure.keeps_stretch fun v s hv hs => ?_
  have hn' := Ledger.sent_of_le hv hn
  obtain ⟨reply, c, hreturned, hgoes, hgiven⟩ := returned_cases (UInt64.ofNat (n + 1)) s
  rw [hreturned]
  constructor
  · exact hs.client hn' (hgoes.mono fun _ _ h => h.elim) fun bytes h => h
  · intro v' hv' bytes hbytes
    exact (hs.fits hn' (hgiven bytes hbytes)).mono hv'

theorem keeps_await (hn : w.sent[n]? = some i) {method : String} {payload request : List UInt8}
    {limit : Nat}
    (hw : request = [] ∨
      (⟨UInt64.ofNat (n + 1), .request method payload⟩ : Frame).write limit = .ok request)
    (hd : payload.length < UInt64.size →
      ((server S { frameLimit }).dispatch id method payload).Keeps (Sound calls id) (elapsed elapse)
        (Replies calls i) w) :
    (await S frameLimit id (UInt64.ofNat (n + 1)) request).Keeps (Sound calls id) (elapsed elapse)
      (Replies calls i) w := by
  unfold await Client.await
  rcases hw with rfl | hw
  · exact keeps_return hn
  · have hsent := Frame.isEmpty_of_write hw
    simp only [hsent, Bool.false_eq_true, if_false]
    have hfar := keeps_farEnd S frameLimit hw (hd (Frame.length_of_write hw))
    refine hfar.bind fun v t hv hbrings => ?_
    refine fun v' hv' s hs => ⟨?_, keeps_return (Ledger.sent_of_le (le_trans hv hv') hn)⟩
    obtain ⟨outcome, limit', hbytes, hfits⟩ := hbrings v' hv'
    have hreceive := Client.goes_receive hs.still hbytes
    refine hs.client (Ledger.sent_of_le (le_trans hv hv') hn) (P := fun bs => outcome = .ok bs) ?_
      hfits
    split
    · exact hreceive.trans (Client.goes_receiveEnd _)
    · exact hreceive

end Connected

end Remote

end PathPolicy
