import PathPolicy.Proofs.SelectorService
import PathPolicy.Selector.Failover

/-!
# Clients of one server do not meet

Serving a client reads and changes what belongs to this client only: its handles, and the choices
for remotes under its own names. The names of two clients never coincide, since a client's number
ends at the first slash. So a client is answered as if it were alone with the server.
-/

namespace PathPolicy

/-! ### The names of different clients -/

lemma ClientId.toList_scoped (c : ClientId) (r : RemoteAddress) :
    (c.scoped r).text.toList =
      "client-".toList ++ (Nat.toDigits 10 c.number.toNat ++ '/' :: r.text.toList) := by
  simp only [ClientId.scoped, toString, String.toList_append, Nat.toList_repr, List.append_assoc]
  rfl

lemma takeWhile_isDigit_toDigits (n : Nat) (rest : List Char) :
    (Nat.toDigits 10 n ++ '/' :: rest).takeWhile Char.isDigit = Nat.toDigits 10 n := by
  rw [List.takeWhile_append_of_pos fun ch hch =>
    Nat.isDigit_of_mem_toDigits (by decide) (by decide) hch]
  simp

lemma ClientId.eq_of_scoped_eq {c d : ClientId} {r r' : RemoteAddress}
    (h : c.scoped r = d.scoped r') : c = d := by
  have htext := congrArg (fun name : RemoteAddress => name.text.toList) h
  simp only [ClientId.toList_scoped, List.append_cancel_left_eq] at htext
  have hdigits := congrArg (List.takeWhile Char.isDigit) htext
  rw [takeWhile_isDigit_toDigits, takeWhile_isDigit_toDigits] at hdigits
  have hnumber := congrArg (fun digits => Nat.ofDigitChars 10 digits 0) hdigits
  simp only [Nat.ofDigitChars_ten_toDigits, UInt64.toNat_inj] at hnumber
  cases c
  cases d
  exact congrArg ClientId.mk hnumber

/-- The name of a remote at a shared selector tells the client and the remote, whatever stands in
the client's own name for it. -/
theorem ClientId.scoped_eq_scoped_iff {c d : ClientId} {r r' : RemoteAddress} :
    c.scoped r = d.scoped r' ↔ c = d ∧ r = r' := by
  constructor
  · intro h
    obtain rfl := ClientId.eq_of_scoped_eq h
    exact ⟨rfl, c.scoped_inj.mp h⟩
  · rintro ⟨rfl, rfl⟩
    rfl

namespace Call.Server

variable {σ : Type}

/-- What comes to a server from its clients. -/
inductive Event
  | request (client : ClientId) (method : String) (payload : List UInt8)
  | gone (client : ClientId)

def Event.client : Event → ClientId
  | .request c .. | .gone c => c

/-- A reply and the client it goes to. -/
abbrev Addressed := ClientId × Except MethodError (List UInt8)

def serve (elapse : Nat → σ → σ) (S : Server σ) : Event → σ → List Addressed × σ
  | .request c method payload, s =>
    let (reply, s) := (S.dispatch c method payload).run elapse s
    ([(c, reply)], s)
  | .gone c, s => ([], S.release c s)

/-- Serves events one after another, each to its end. -/
def serveAll (elapse : Nat → σ → σ) (S : Server σ) : List Event → σ → List Addressed × σ
  | [], s => ([], s)
  | e :: es, s =>
    let (replies, s) := S.serve elapse e s
    let (rest, s) := serveAll elapse S es s
    (replies ++ rest, s)

def repliesTo (c : ClientId) (replies : List Addressed) : List (Except MethodError (List UInt8)) :=
  (replies.filter (·.1 = c)).map Prod.snd

end Call.Server

namespace Remote

open Call

/-- What a server with the default selector keeps. -/
abbrev Shared := FailoverState × HandleBook

def sharedServer (frameLimit : Nat) : Server Shared :=
  registerSelector (failoverSelector.within .first) .second { frameLimit }

/-- Two states hold the same for a client. -/
structure Agree (c : ClientId) (s t : Shared) : Prop where
  choices : ∀ r, s.1.choices.get? (c.scoped r) = t.1.choices.get? (c.scoped r)
  table : s.2.table c = t.2.table c

lemma Agree.refl (c : ClientId) (s : Shared) : Agree c s s := ⟨fun _ => rfl, rfl⟩

lemma Agree.symm {c : ClientId} {s t : Shared} (h : Agree c s t) : Agree c t s :=
  ⟨fun r => (h.choices r).symm, h.table.symm⟩

lemma Agree.trans {c : ClientId} {s t u : Shared} (h : Agree c s t) (h' : Agree c t u) :
    Agree c s u :=
  ⟨fun r => (h.choices r).trans (h'.choices r), h.table.trans h'.table⟩

/-- What is done for a client depends on what is held for it, and changes nothing else. -/
structure Confined {α : Type} (elapse : Nat → Shared → Shared) (c : ClientId)
    (p : Procedure Shared α) : Prop where
  answer : ∀ s t, Agree c s t → (p.run elapse s).1 = (p.run elapse t).1
  agree : ∀ s t, Agree c s t → Agree c (p.run elapse s).2 (p.run elapse t).2
  spares : ∀ d, d ≠ c → ∀ s, Agree d (p.run elapse s).2 s

variable {α β : Type} {elapse : Nat → Shared → Shared} {c : ClientId}

/-! ### Ways of building a procedure -/

lemma confined_pure (a : α) : Confined elapse c (pure a) :=
  ⟨fun _ _ _ => rfl, fun _ _ h => h, fun d _ s => Agree.refl d s⟩

lemma Confined.bind {p : Procedure Shared α} {k : α → Procedure Shared β}
    (hp : Confined elapse c p) (hk : ∀ a, Confined elapse c (k a)) :
    Confined elapse c (p >>= k) where
  answer s t h := by
    rw [Procedure.run_bind, Procedure.run_bind, hp.answer s t h]
    exact (hk _).answer _ _ (hp.agree s t h)
  agree s t h := by
    rw [Procedure.run_bind, Procedure.run_bind, hp.answer s t h]
    exact (hk _).agree _ _ (hp.agree s t h)
  spares d hd s := by
    rw [Procedure.run_bind]
    exact ((hk _).spares d hd _).trans (hp.spares d hd s)

/-- A stretch of the selector that reads and changes the choice for one of the client's names. -/
lemma confined_choice {f : FailoverState → α × FailoverState} {r : RemoteAddress}
    (hread : ∀ s t : FailoverState, s.choices.get? (c.scoped r) = t.choices.get? (c.scoped r) →
      (f s).1 = (f t).1 ∧
        (f s).2.choices.get? (c.scoped r) = (f t).2.choices.get? (c.scoped r))
    (hspare : ∀ (s : FailoverState) (name : RemoteAddress), name ≠ c.scoped r →
      (f s).2.choices.get? name = s.choices.get? name) :
    Confined elapse c ((Procedure.stretch f).within .first) where
  answer s t h := (hread s.1 t.1 (h.choices r)).1
  agree s t h := by
    refine ⟨fun r' => ?_, h.table⟩
    show (f s.1).2.choices.get? _ = (f t.1).2.choices.get? _
    by_cases hr : r' = r
    · rw [hr]
      exact (hread s.1 t.1 (h.choices r)).2
    · have hne : c.scoped r' ≠ c.scoped r := fun he => hr (c.scoped_inj.mp he)
      rw [hspare _ _ hne, hspare _ _ hne, h.choices r']
  spares d hd s :=
    ⟨fun r' => hspare s.1 _ fun he => hd (ClientId.eq_of_scoped_eq he), rfl⟩

/-- A stretch that reads and changes the client's handles. -/
lemma confined_table (f : OfferTable PathHandle → α × OfferTable PathHandle) :
    Confined elapse c (.stretch fun s : Shared =>
      ((f (s.2.table c)).1, (s.1, s.2.update c fun t => (f t).2))) where
  answer s t h := by
    show (f (s.2.table c)).1 = (f (t.2.table c)).1
    rw [h.table]
  agree s t h := by
    refine ⟨h.choices, ?_⟩
    show (s.2.update c _).table c = (t.2.update c _).table c
    rw [table_update, table_update, h.table]
  spares d hd s := by
    refine ⟨fun _ => rfl, ?_⟩
    show (s.2.update c _).table d = s.2.table d
    simp only [HandleBook.table, HandleBook.update, Dictionary.get?_insert, if_neg hd]

/-! ### The selector under the client's names -/

lemma confined_start (r : RemoteAddress) (ps : List PathObject) :
    Confined elapse c ((failoverSelector.within .first).start (c.scoped r) ps) := by
  refine confined_choice (r := r) (fun s t h => ⟨rfl, ?_⟩) fun s name hn => ?_
  · simp only [FailoverState.start, Dictionary.get?_insert_self]
  · simp only [FailoverState.start, Dictionary.get?_insert, if_neg hn]

lemma confined_path (r : RemoteAddress) :
    Confined elapse c ((failoverSelector.within .first).path (c.scoped r)) := by
  refine confined_choice (r := r) (fun s t h => ⟨?_, h⟩) fun s name hn => rfl
  simp only [FailoverState.path, h]

lemma confined_pathDown (r : RemoteAddress) (f : Fingerprint) (i : Interface) :
    Confined elapse c ((failoverSelector.within .first).pathDown (c.scoped r) f i) := by
  refine confined_choice (r := r) (fun s t h => ⟨rfl, ?_⟩) fun s name hn => ?_
  · simp only [FailoverState.pathDown, Dictionary.get?_modify, if_true, h]
  · simp only [FailoverState.pathDown, Dictionary.get?_modify, if_neg hn]

lemma confined_refresh (r : RemoteAddress) (ps : List PathObject) :
    Confined elapse c ((failoverSelector.within .first).refresh (c.scoped r) ps) := by
  refine confined_choice (r := r) (fun s t h => ⟨rfl, ?_⟩) fun s name hn => ?_
  · simp only [FailoverState.refresh, Dictionary.get?_insert_self, h]
  · simp only [FailoverState.refresh, Dictionary.get?_insert, if_neg hn]

lemma confined_close (r : RemoteAddress) :
    Confined elapse c ((failoverSelector.within .first).close (c.scoped r)) := by
  refine confined_choice (r := r) (fun s t h => ⟨rfl, ?_⟩) fun s name hn => ?_
  · simp only [FailoverState.close, Dictionary.get?_erase_self]
  · simp only [FailoverState.close, Dictionary.get?_erase, if_neg hn]

/-! ### The methods -/

lemma confined_write (f : OfferTable PathHandle → OfferTable PathHandle) :
    Confined elapse c
      (.write (Procedure.Place.second.modify fun b : HandleBook => b.update c f)) := by
  have h : Confined elapse c _ := confined_table fun t => ((), f t)
  obtain ⟨-, hagree, hspares⟩ := h
  exact ⟨fun _ _ _ => rfl, hagree, hspares⟩

lemma confined_serveOffer (method : SelectorMethod) (m : SelectorMessage) :
    Confined elapse c
      (serveOffer (failoverSelector.within .first) .second method c m) := by
  unfold serveOffer
  split
  · exact confined_pure _
  · rename_i r records _
    refine (confined_write _).bind fun _ => ?_
    cases method with
    | start => exact (confined_start r _).bind fun _ => confined_pure _
    | _ => exact (confined_refresh r _).bind fun _ => confined_pure _

lemma confined_servePath (m : SelectorMessage) :
    Confined elapse c (servePath (failoverSelector.within .first) .second c m) := by
  unfold servePath
  split
  · exact confined_pure _
  · rename_i r _
    refine (confined_path r).bind fun chosen => ?_
    split
    · exact confined_pure _
    · exact confined_pure _
    · rename_i o
      have h : Confined elapse c _ := confined_table
        fun t => ((Except.ok ⟨t.keyOf r o.fingerprint⟩ : Except MethodError PathReply), t)
      obtain ⟨hanswer, hagree, hspares⟩ := h
      refine ⟨fun s t h => ?_, hagree, hspares⟩
      have htable := hanswer s t h
      simpa [Procedure.run_stretch, Procedure.Place.second, table_update] using htable

lemma confined_servePathDown (m : SelectorMessage) :
    Confined elapse c (servePathDown (failoverSelector.within .first) c m) := by
  unfold servePathDown
  dsimp only
  split
  · exact confined_pure _
  · exact (confined_pathDown _ _ _).bind fun _ => confined_pure _

lemma confined_serveClose (m : SelectorMessage) :
    Confined elapse c (serveClose (failoverSelector.within .first) .second c m) := by
  unfold serveClose
  split
  · exact confined_pure _
  · exact (confined_close _).bind fun _ => (confined_write _).bind fun _ => confined_pure _

lemma confined_handler {method : String} {input : Codec α} {output : Codec β}
    {answer : ClientId → α → Procedure Shared (Except MethodError β)}
    (h : ∀ a, Confined elapse c (answer c a)) (payload : List UInt8) :
    Confined elapse c (Server.handler method input output answer c payload) := by
  unfold Server.handler
  split
  · exact confined_pure _
  · refine (h _).bind fun outcome => ?_
    split
    · exact confined_pure _
    · split <;> exact confined_pure _

lemma confined_dispatch (limit : Nat) (method : String) (payload : List UInt8) :
    Confined elapse c ((sharedServer limit).dispatch c method payload) := by
  by_cases hm : ∃ m : SelectorMethod, method = m.name
  · obtain ⟨m, rfl⟩ := hm
    rw [sharedServer, dispatch_registerSelector]
    cases m with
    | start => exact confined_handler (confined_serveOffer .start) payload
    | path => exact confined_handler confined_servePath payload
    | pathDown => exact confined_handler confined_servePathDown payload
    | refresh => exact confined_handler (confined_serveOffer .refresh) payload
    | close => exact confined_handler confined_serveClose payload
  · have hnone (m : SelectorMethod) : method ≠ m.name := fun h => hm ⟨m, h⟩
    rw [sharedServer, dispatch_registerSelector_of_ne _ _ _ _ _ hnone]
    exact confined_pure _

/-! ### Runs -/

lemma release_sharedServer (limit : Nat) (d : ClientId) (s : Shared) :
    (sharedServer limit).release d s = (s.1, s.2.release d) := rfl

lemma agree_serve (elapse : Nat → Shared → Shared) (limit : Nat) {e : Server.Event} {s t : Shared}
    (h : Agree e.client s t) :
    ((sharedServer limit).serve elapse e s).1 = ((sharedServer limit).serve elapse e t).1 ∧
      Agree e.client ((sharedServer limit).serve elapse e s).2
        ((sharedServer limit).serve elapse e t).2 := by
  cases e with
  | request d method payload =>
    have hd : Confined elapse d _ := confined_dispatch limit method payload
    refine ⟨?_, hd.agree s t h⟩
    simp only [Server.serve, hd.answer s t h]
  | gone d =>
    refine ⟨rfl, h.choices, ?_⟩
    simp only [Server.serve, release_sharedServer, HandleBook.table, HandleBook.release,
      Server.Event.client, Dictionary.get?_erase_self]

lemma serve_spares (elapse : Nat → Shared → Shared) (limit : Nat) {e : Server.Event}
    (hc : c ≠ e.client) (s : Shared) :
    Server.repliesTo c ((sharedServer limit).serve elapse e s).1 = [] ∧
      Agree c ((sharedServer limit).serve elapse e s).2 s := by
  cases e with
  | request d method payload =>
    have hd : Confined elapse d _ := confined_dispatch limit method payload
    refine ⟨?_, hd.spares c hc s⟩
    have hne : d ≠ c := fun h => hc h.symm
    simp [Server.serve, Server.repliesTo, hne]
  | gone d =>
    refine ⟨rfl, fun _ => rfl, ?_⟩
    have hne : c ≠ d := hc
    simp only [Server.serve, release_sharedServer, HandleBook.table, HandleBook.release,
      Dictionary.get?_erase, if_neg hne]

lemma repliesTo_append (rs qs : List Server.Addressed) :
    Server.repliesTo c (rs ++ qs) = Server.repliesTo c rs ++ Server.repliesTo c qs := by
  simp only [Server.repliesTo, List.filter_append, List.map_append]

lemma repliesTo_serveAll {limit : Nat} {s t : Shared} (h : Agree c s t)
    (events : List Server.Event) :
    Server.repliesTo c ((sharedServer limit).serveAll elapse events s).1 =
      Server.repliesTo c
        ((sharedServer limit).serveAll elapse (events.filter fun e => e.client = c) t).1 := by
  induction events generalizing s t with
  | nil => rfl
  | cons e events ih =>
    simp only [Server.serveAll, repliesTo_append]
    by_cases hc : e.client = c
    · -- Served on both sides, in states that hold the same for the client.
      subst hc
      obtain ⟨hreply, hagree⟩ := agree_serve elapse limit h
      rw [List.filter_cons_of_pos (by simp), Server.serveAll, repliesTo_append, hreply, ih hagree]
    · -- Served on one side only, which the client does not notice.
      obtain ⟨hnone, hagree⟩ := serve_spares elapse limit (Ne.symm hc) s
      rw [List.filter_cons_of_neg (by simpa using hc), hnone, ih (hagree.trans h),
        List.nil_append]

/-- Each client is answered as if no other had ever been there, whatever the others ask for and
whenever they leave. What others did before its first request makes no difference either. -/
theorem repliesTo_eq_alone (elapse : Nat → Shared → Shared) (limit : Nat) (c : ClientId)
    (events : List Server.Event) (s : Shared) :
    Server.repliesTo c ((sharedServer limit).serveAll elapse events s).1 =
        Server.repliesTo c
          ((sharedServer limit).serveAll elapse (events.filter fun e => e.client = c) s).1 ∧
      ∀ before : List Server.Event, (∀ e ∈ before, e.client ≠ c) →
        Server.repliesTo c ((sharedServer limit).serveAll elapse (before ++ events) s).1 =
          Server.repliesTo c ((sharedServer limit).serveAll elapse events s).1 := by
  refine ⟨repliesTo_serveAll (Agree.refl c s) events, fun before hb => ?_⟩
  have hnone : before.filter (fun e => e.client = c) = [] := by
    rw [List.filter_eq_nil_iff]
    intro e he
    simpa using hb e he
  rw [repliesTo_serveAll (Agree.refl c s) (before ++ events),
    repliesTo_serveAll (Agree.refl c s) events, List.filter_append, hnone, List.nil_append]

/-- A client whose remote others also call `r`: one offered a path for it and left, another closes
it and sends nonsense. -/
theorem repliesTo_among_others :
    let path (f : String) : Path := ⟨⟨"1-1"⟩, ⟨"1-2"⟩, ⟨f⟩, .epoch, none⟩
    let payload (m : SelectorMessage) : List UInt8 :=
      (Codec.selectorMessage.encode m).toOption.getD []
    let offer (h : UInt64) (f : String) : List UInt8 :=
      payload { remote := some ⟨"r"⟩, paths := some [⟨⟨h⟩, path f⟩] }
    let ask : List UInt8 := payload { remote := some ⟨"r"⟩ }
    let before : List Server.Event :=
      [.request ⟨2⟩ "Selector.Initialize" (offer 7 "a"), .gone ⟨2⟩]
    let events : List Server.Event := [.request ⟨1⟩ "Selector.Path" ask,
      .request ⟨12⟩ "Selector.Initialize" (offer 5 "c"),
      .request ⟨1⟩ "Selector.Initialize" (offer 5 "b"), .request ⟨12⟩ "Selector.Close" ask,
      .request ⟨12⟩ "Selector.Path" [9], .request ⟨1⟩ "Selector.Path" ask,
      .request ⟨1⟩ "Selector.Close" (payload {})]
    (∀ e ∈ before, e.client ≠ ⟨1⟩) ∧
      Server.repliesTo ⟨1⟩
          ((sharedServer 1024).serveAll (fun _ s => s) (before ++ events) ({}, {})).1 =
        [.ok [0], .ok [], .ok [1, 5, 0, 0, 0, 0, 0, 0, 0],
          .error ⟨.missingField, "Selector.Close: missing required field `remote`"⟩] := by
  intro path payload offer ask before events
  have hbefore : ∀ e ∈ before, e.client ≠ ⟨1⟩ := by decide
  obtain ⟨halone, hlate⟩ := repliesTo_eq_alone (fun _ s => s) 1024 ⟨1⟩ events ({}, {})
  refine ⟨hbefore, (hlate before hbefore).trans (halone.trans ?_)⟩
  decide +kernel

end Remote

end PathPolicy
