import PathPolicy.Proofs.MalformedCalls
import PathPolicy.Proofs.ServedConnections

/-!
# Nothing is left of a client that is gone

A server with a selector and a tracer holds a table of handles and the ids of traced connections for
each of its clients. What is held for a client is changed by the client's own tasks only, and they
have all come to their ends before the first farewell. So what the farewells take away does not come
back, and they take nothing from the others.
-/

namespace PathPolicy

variable {σ τ α β γ δ : Type}

/-! ### Parts of the state -/

/-- No stretch changes that part of the state, whatever happens between the stretches. -/
def Procedure.Leaves (part : σ → γ) : Procedure σ α → Prop
  | .done _ => True
  | .act update resume => (∀ s, part (update s) = part s) ∧ ∀ s, (resume s).Leaves part
  | .sleep _ rest => rest.Leaves part

namespace Procedure

variable {part : σ → γ}

lemma Leads.leaves {p q : Procedure σ α} (h : p.Leads q) (hp : p.Leaves part) : q.Leaves part := by
  induction h with
  | start => exact hp
  | act s _ ih => exact ih.2 s
  | sleep _ ih => exact ih

lemma Leaves.bind {p : Procedure σ α} {k : α → Procedure σ β} (hp : p.Leaves part)
    (hk : ∀ a, (k a).Leaves part) : (p >>= k).Leaves part := by
  show (p.bind k).Leaves part
  induction p with
  | done a => exact hk a
  | act update resume ih => exact ⟨hp.1, fun s => ih s (hp.2 s)⟩
  | sleep ms rest ih => exact ih hp

/-- What goes on at a place leaves what is not there. -/
lemma leaves_within {p : Place σ τ} (hpart : ∀ f s, part (p.modify f s) = part s)
    (q : Procedure τ α) : (q.within p).Leaves part := by
  induction q with
  | done a => trivial
  | act update resume ih => exact ⟨fun s => hpart update s, fun s => ih (p.get s)⟩
  | sleep ms rest ih => exact ih

/-- What depends on a part that is left is left as well. -/
lemma Leaves.comp {p : Procedure σ α} (h : p.Leaves part) (f : γ → δ) :
    p.Leaves fun s => f (part s) := by
  induction p with
  | done a => trivial
  | act update resume ih => exact ⟨fun s => congrArg f (h.1 s), fun s => ih s (h.2 s)⟩
  | sleep ms rest ih => exact ih h

end Procedure

/-! ### What belongs to clients -/

namespace Call

/-- Each client has a part of the state of its own, which only its own tasks change. The `k`-th
farewell empties the part of its client. No farewell fills one, or changes another's. -/
structure Server.Owns (S : Server σ) (p : Procedure.Place σ τ) (part : ClientId → σ → γ)
    (empty : γ) (k : Nat) : Prop where
  task : ∀ c d method payload, d ≠ c → (S.dispatch c method payload).Leaves (part d)
  elsewhere : ∀ d f s, part d (p.modify f s) = part d s
  spares : ∀ farewell ∈ S.farewells, ∀ c d s, d ≠ c → part d (farewell c s) = part d s
  keeps : ∀ farewell ∈ S.farewells, ∀ c s, part c s = empty → part c (farewell c s) = empty
  empties : ∀ farewell, S.farewells[k]? = some farewell → ∀ c s, part c (farewell c s) = empty

namespace Hub

variable {S : Server σ} {p : Procedure.Place σ τ} {h : Hub σ} {part : ClientId → σ → γ}
  {empty : γ} {k n : Nat} {d : ClientId} {seat : Seat σ}

/-- A connection of the client has still to be told the `k`-th farewell. -/
def Awaits (h : Hub σ) (d : ClientId) (k : Nat) : Prop :=
  ∃ (n : Nat) (seat : Seat σ), h.seats[n]? = some seat ∧ seat.connection.client = d ∧
    seat.farewells ≤ k

/-- It awaits it still when the step was another connection's, or was not this farewell. -/
lemma Awaits.connection (ha : h.Awaits d k) (hn : h.seats[n]? = some seat) (step : Seat.Step)
    (hstays : seat.connection.client = d → seat.farewells ≤ k →
      (seat.step S h.state step).1.farewells ≤ k) :
    (h.step S p (.connection n step)).Awaits d k := by
  obtain ⟨i, seat', hi, hclient, hsaid⟩ := ha
  obtain ⟨hlt, -⟩ := List.getElem?_eq_some_iff.mp hn
  simp only [Hub.step, hn]
  by_cases hin : n = i
  · subst hin
    obtain rfl := Option.some.inj (hn.symm.trans hi)
    refine ⟨n, (seat.step S h.state step).1, List.getElem?_set_self hlt, ?_, ?_⟩
    · rw [Seat.client_step, hclient]
    · exact hstays hclient hsaid
  · exact ⟨i, seat', by rw [List.getElem?_set_ne hin, hi], hclient, hsaid⟩

lemma awaits_connection (hn : h.seats[n]? = some seat) (hclient : seat.connection.client = d)
    {step : Seat.Step} (hsaid : (seat.step S h.state step).1.farewells ≤ k) :
    (h.step S p (.connection n step)).Awaits d k := by
  obtain ⟨hlt, -⟩ := List.getElem?_eq_some_iff.mp hn
  simp only [Hub.step, hn]
  exact ⟨n, (seat.step S h.state step).1, List.getElem?_set_self hlt,
    by rw [Seat.client_step, hclient], hsaid⟩

/-- The tasks of a connection serve its client. -/
lemma leaves_job (own : S.Owns p part empty k) (hkept : seat.Kept S)
    (hd : d ≠ seat.connection.client) {job : Job σ} (hjob : job ∈ seat.connection.jobs) :
    job.rest.Leaves (part d) := by
  obtain ⟨answered, underWay, -, -, hjobs, -, hserves⟩ := hkept.balanced
  rw [← hjobs] at hjob
  obtain ⟨u, hu, rfl⟩ := List.mem_map.mp hjob
  exact (hserves u hu).2.leaves (own.task _ d _ _ hd)

/-- A connection changes nothing that belongs to another client. -/
lemma part_connection (own : S.Owns p part empty k) (hkept : seat.Kept S)
    (hd : d ≠ seat.connection.client) (step : Seat.Step) (s : σ) :
    part d (seat.step S s step).2 = part d s := by
  obtain ⟨hsame, -⟩ | ⟨job, hjob, update, resume, hrest, hupdate, -⟩ | ⟨-, farewell, hf, hstep⟩ :=
    Seat.step_cases S seat s step
  · rw [hsame]
  · have hleaves := leaves_job own hkept hd hjob
    rw [hrest] at hleaves
    rw [hupdate]
    exact hleaves.1 s
  · rw [hstep]
    exact own.spares farewell (List.mem_of_getElem? hf) _ d s hd

/-- What belongs to a client is gone unless one of its connections has still to be told. -/
def Cleared (h : Hub σ) (part : ClientId → σ → γ) (empty : γ) (k : Nat) : Prop :=
  ∀ d, part d h.state = empty ∨ h.Awaits d k

/-- While a connection has tasks it has been told nothing, so whatever they fill is still awaited
to be emptied. -/
lemma Cleared.connection (own : S.Owns p part empty k) (hc : h.Cleared part empty k)
    (hn : h.seats[n]? = some seat) (hkept : seat.Kept S) (step : Seat.Step) :
    part seat.connection.client (seat.step S h.state step).2 = empty ∨
      (h.step S p (.connection n step)).Awaits seat.connection.client k := by
  obtain ⟨hstate, hsaid⟩ | ⟨job, hjob, _, _, -, -, hsaid⟩ | ⟨-, farewell, hf, hstep⟩ :=
    Seat.step_cases S seat h.state step
  · obtain hempty | ha := hc seat.connection.client
    · exact .inl (by rw [hstate, hempty])
    · exact .inr (ha.connection hn step fun _ hle => hsaid.le.trans hle)
  · have hnone : seat.farewells = 0 := by
      by_contra hsome
      obtain ⟨-, hjobs, -⟩ := Seat.isDone_iff.mp (hkept.done (Nat.pos_of_ne_zero hsome))
      rw [hjobs] at hjob
      cases hjob
    exact .inr (awaits_connection hn rfl (by omega))
  · obtain hbefore | rfl | hafter := Nat.lt_trichotomy seat.farewells k
    · refine .inr (awaits_connection hn rfl ?_)
      rw [hstep]
      exact hbefore
    · rw [hstep]
      exact .inl (own.empties farewell hf _ h.state)
    · obtain hempty | ha := hc seat.connection.client
      · rw [hstep]
        exact .inl (own.keeps farewell (List.mem_of_getElem? hf) _ h.state hempty)
      · exact .inr (ha.connection hn step fun _ hle => absurd hle (Nat.not_le.mpr hafter))

lemma Cleared.step (own : S.Owns p part empty k) (o : Orderly S h)
    (hc : h.Cleared part empty k) (step : Step τ) :
    (h.step S p step).Cleared part empty k := by
  intro d
  cases step with
  | accept =>
    obtain hempty | ⟨n, seat, hn, hclient, hsaid⟩ := hc d
    · exact .inl hempty
    · obtain ⟨hlt, -⟩ := List.getElem?_eq_some_iff.mp hn
      exact .inr ⟨n, seat, (List.getElem?_append_left hlt).trans hn, hclient, hsaid⟩
  | elsewhere f =>
    obtain hempty | ha := hc d
    · exact .inl ((own.elsewhere d f h.state).trans hempty)
    · exact .inr ha
  | connection n step =>
    cases hn : h.seats[n]? with
    | none =>
      simp only [Hub.step, hn]
      exact hc d
    | some seat =>
      have hkept := o.kept seat (List.mem_of_getElem? hn)
      rw [state_connection hn]
      by_cases hd : d = seat.connection.client
      · rw [hd]
        exact hc.connection own hn hkept step
      · obtain hempty | ha := hc d
        · exact .inl ((part_connection own hkept hd step h.state).trans hempty)
        · exact .inr (ha.connection hn step fun hclient => absurd hclient.symm hd)

lemma Cleared.run (own : S.Owns p part empty k) (o : Orderly S h)
    (hc : h.Cleared part empty k) (steps : List (Step τ)) :
    (h.run S p steps).Cleared part empty k := by
  induction steps generalizing h with
  | nil => exact hc
  | cons step steps ih => exact ih (o.step step) (hc.step own o step)

/-- A client whose connections have all been told the `k`-th farewell holds nothing. -/
lemma Cleared.part_eq (hc : h.Cleared part empty k)
    (hgone : ∀ seat ∈ h.seats, seat.connection.client = d → k < seat.farewells) :
    part d h.state = empty := by
  obtain hempty | ⟨n, seat, hn, hclient, hsaid⟩ := hc d
  · exact hempty
  · exact absurd (hgone seat (List.mem_of_getElem? hn) hclient) (Nat.not_lt.mpr hsaid)

end Hub

end Call

/-! ### A server with a selector and a tracer -/

namespace Remote

open Call

/-- What such a server keeps for its clients, next to what its selector and its tracer keep. -/
structure Books (τ : Type) where
  handles : HandleBook := {}
  connections : ConnectionBook := {}
  rest : τ

namespace Books

def handlesPlace : Procedure.Place (Books τ) HandleBook :=
  ⟨handles, fun handles b => { b with handles }⟩

def connectionsPlace : Procedure.Place (Books τ) ConnectionBook :=
  ⟨connections, fun connections b => { b with connections }⟩

def restPlace : Procedure.Place (Books τ) τ := ⟨rest, fun rest b => { b with rest }⟩

def table (c : ClientId) (b : Books τ) : Option (OfferTable PathHandle) := b.handles.clients.get? c

def issued (c : ClientId) (b : Books τ) (callerId : TracingId) : Option TracingId :=
  b.connections.connections.get? (c, callerId)

/-- All that is held for a client. -/
def held (c : ClientId) (b : Books τ) :
    Option (OfferTable PathHandle) × (TracingId → Option TracingId) :=
  (b.table c, b.issued c)

end Books

variable (S : Selector τ) (T : Telemetry.Tracer τ) (frameLimit : Nat)

/-- The server of a selector and a tracer that share a state of their own. -/
def policyServer : Server (Books τ) :=
  service (S.within Books.restPlace) (T.within Books.restPlace) Books.handlesPlace
    Books.connectionsPlace frameLimit

/-! ### What the methods leave alone -/

namespace Books

variable {c d : ClientId}

lemma held_update (hd : d ≠ c) (f : OfferTable PathHandle → OfferTable PathHandle) (b : Books τ) :
    held d { b with handles := b.handles.update c f } = held d b := by
  refine Prod.ext ?_ rfl
  simp only [held, table, HandleBook.update, Dictionary.get?_insert, if_neg hd]

lemma held_issue (b : Books τ) :
    held d { b with connections := b.connections.issue.2 } = held d b := rfl

lemma held_insert (hd : d ≠ c) (callerId id : TracingId) (b : Books τ) :
    held d { b with connections := b.connections.insert c callerId id } = held d b := by
  refine Prod.ext rfl (funext fun other => ?_)
  have hne : (d, other) ≠ (c, callerId) := fun he => hd (congrArg Prod.fst he)
  simp only [held, issued, ConnectionBook.insert, Dictionary.get?_insert, if_neg hne]

end Books

section Methods

variable {S T} {c d : ClientId}

lemma leaves_pure {part : σ → γ} (a : α) : (pure a : Procedure σ α).Leaves part := trivial

lemma leaves_rest (q : Procedure τ α) : (q.within Books.restPlace).Leaves (Books.held d) :=
  Procedure.leaves_within (fun _ _ => rfl) q

lemma leaves_serveOffer (hd : d ≠ c) (method : SelectorMethod) (m : SelectorMessage) :
    (serveOffer (S.within Books.restPlace) Books.handlesPlace method c m).Leaves
      (Books.held d) := by
  unfold serveOffer
  split
  · exact leaves_pure _
  · have hwrite (f : OfferTable PathHandle → OfferTable PathHandle) :
        (Procedure.write (Books.handlesPlace.modify fun b => b.update c f) :
          Procedure (Books τ) Unit).Leaves (Books.held d) :=
      ⟨fun b => Books.held_update hd f b, fun _ => trivial⟩
    refine (hwrite _).bind fun _ => ?_
    cases method with
    | start => exact (leaves_rest _).bind fun _ => leaves_pure _
    | _ => exact (leaves_rest _).bind fun _ => leaves_pure _

lemma leaves_servePath (hd : d ≠ c) (m : SelectorMessage) :
    (servePath (S.within Books.restPlace) Books.handlesPlace c m).Leaves (Books.held d) := by
  unfold servePath
  split
  · exact leaves_pure _
  · refine (leaves_rest _).bind fun chosen => ?_
    split
    · exact leaves_pure _
    · exact leaves_pure _
    · exact ⟨fun b => Books.held_update hd id b, fun _ => trivial⟩

lemma leaves_servePathDown (m : SelectorMessage) :
    (servePathDown (S.within Books.restPlace) c m).Leaves (Books.held d) := by
  unfold servePathDown
  dsimp only
  split
  · exact leaves_pure _
  · exact (leaves_rest _).bind fun _ => leaves_pure _

lemma leaves_serveClose (hd : d ≠ c) (m : SelectorMessage) :
    (serveClose (S.within Books.restPlace) Books.handlesPlace c m).Leaves (Books.held d) := by
  unfold serveClose
  split
  · exact leaves_pure _
  · rename_i r _
    have hwrite : (Procedure.write (Books.handlesPlace.modify fun b =>
        b.update c (·.removeRemote r)) : Procedure (Books τ) Unit).Leaves (Books.held d) :=
      ⟨fun b => Books.held_update hd _ b, fun _ => trivial⟩
    exact (leaves_rest _).bind fun _ => hwrite.bind fun _ => leaves_pure _

lemma leaves_serveRegistration (hd : d ≠ c) (m : TracerMessage) :
    (serveRegistration (T.within Books.restPlace) Books.connectionsPlace c m).Leaves
      (Books.held d) := by
  unfold serveRegistration
  dsimp only
  split
  · exact leaves_pure _
  · rename_i callerId side odcid _
    have hissue : (Procedure.stretch fun b : Books τ =>
        (b.connections.issue.1, { b with connections := b.connections.issue.2 })).Leaves
          (Books.held d) := ⟨fun b => Books.held_issue b, fun _ => trivial⟩
    refine hissue.bind fun id => (leaves_rest _).bind fun outcome => ?_
    split
    · exact leaves_pure _
    · have hwrite : (Procedure.write (Books.connectionsPlace.modify
          (·.insert c callerId id)) : Procedure (Books τ) Unit).Leaves (Books.held d) :=
        ⟨fun b => Books.held_insert hd callerId id b, fun _ => trivial⟩
      exact hwrite.bind fun _ => leaves_pure _

lemma leaves_serveEvent (k : Telemetry.EventKind) (m : TracerMessage) :
    (serveEvent (T.within Books.restPlace) Books.connectionsPlace k c m).Leaves
      (Books.held d) := by
  unfold serveEvent
  dsimp only
  split
  · exact leaves_pure _
  · have hread (f : Books τ → Option TracingId) : (Procedure.read f).Leaves (Books.held d) :=
      ⟨fun _ => rfl, fun _ => trivial⟩
    refine (hread _).bind fun known => ?_
    split
    · exact leaves_pure _
    · exact (leaves_rest _).bind fun _ => leaves_pure _

lemma leaves_handler {part : σ → γ} {method : String} {input : Codec α} {output : Codec β}
    {answer : ClientId → α → Procedure σ (Except MethodError β)} {payload : List UInt8}
    (h : ∀ a, (answer c a).Leaves part) :
    (Server.handler method input output answer c payload).Leaves part := by
  unfold Server.handler
  split
  · exact leaves_pure _
  · refine (h _).bind fun outcome => ?_
    split
    · exact leaves_pure _
    · split <;> exact leaves_pure _

variable {frameLimit : Nat}

/-- Serving a client leaves what is held for the others. -/
lemma leaves_dispatch (hd : d ≠ c) (method : String) (payload : List UInt8) :
    ((policyServer S T frameLimit).dispatch c method payload).Leaves (Books.held d) := by
  by_cases hm : ∃ m : ServiceMethod, m.name = method
  · obtain ⟨m, rfl⟩ := hm
    cases m with
    | selector m =>
      rw [ServiceMethod.name, policyServer, service,
        dispatch_of_not_mem _ _ _ _ _ m.name_not_mem, dispatch_registerSelector]
      cases m with
      | start => exact leaves_handler fun m => leaves_serveOffer hd .start m
      | path => exact leaves_handler fun m => leaves_servePath hd m
      | pathDown => exact leaves_handler fun m => leaves_servePathDown m
      | refresh => exact leaves_handler fun m => leaves_serveOffer hd .refresh m
      | close => exact leaves_handler fun m => leaves_serveClose hd m
    | registration =>
      rw [ServiceMethod.name, policyServer, service, dispatch_registration]
      exact leaves_handler fun m => leaves_serveRegistration hd m
    | event k =>
      rw [ServiceMethod.name, policyServer, service, dispatch_event]
      exact leaves_handler fun m => leaves_serveEvent k m
  · have hne : ∀ m : ServiceMethod, m.name ≠ method := fun m h => hm ⟨m, h⟩
    rw [policyServer, dispatch_service_unknown hne]
    exact leaves_pure _

end Methods

/-! ### What the farewells take -/

lemma farewells_policyServer : (policyServer S T frameLimit).farewells =
    [fun c => Books.handlesPlace.modify (·.release c),
      fun c => Books.connectionsPlace.modify (·.release c)] := rfl

lemma held_farewell {c d : ClientId} (hd : d ≠ c) {farewell : ClientId → Books τ → Books τ}
    (hf : farewell ∈ (policyServer S T frameLimit).farewells) (b : Books τ) :
    Books.held d (farewell c b) = Books.held d b := by
  rw [farewells_policyServer, List.mem_cons, List.mem_singleton] at hf
  obtain rfl | rfl := hf
  · refine Prod.ext ?_ rfl
    simp only [Books.held, Books.table, Books.handlesPlace, Procedure.Place.modify,
      HandleBook.release, Dictionary.get?_erase, if_neg hd]
  · refine Prod.ext rfl (funext fun callerId => ?_)
    simp [Books.held, Books.issued, Books.connectionsPlace, Procedure.Place.modify,
      ConnectionBook.release, Dictionary.get?_restrict, hd]

lemma issued_release (c : ClientId) (b : Books τ) :
    Books.issued c (Books.connectionsPlace.modify (·.release c) b) = fun _ => none := by
  funext callerId
  simp [Books.issued, Books.connectionsPlace, Procedure.Place.modify, ConnectionBook.release,
    Dictionary.get?_restrict]

lemma owns_table :
    (policyServer S T frameLimit).Owns Books.restPlace (fun c b => Books.table c b) none 0 where
  task c d method payload hd := (leaves_dispatch hd method payload).comp Prod.fst
  elsewhere _ _ _ := rfl
  spares farewell hf c d b hd := congrArg Prod.fst (held_farewell S T frameLimit hd hf b)
  keeps farewell hf c b hnone := by
    rw [farewells_policyServer, List.mem_cons, List.mem_singleton] at hf
    obtain rfl | rfl := hf
    · exact Dictionary.get?_erase_self ..
    · exact hnone
  empties farewell hf c b := by
    obtain rfl := Option.some.inj hf
    exact Dictionary.get?_erase_self ..

lemma owns_issued :
    (policyServer S T frameLimit).Owns Books.restPlace (fun c b => Books.issued c b)
      (fun _ => none) 1 where
  task c d method payload hd := (leaves_dispatch hd method payload).comp Prod.snd
  elsewhere _ _ _ := rfl
  spares farewell hf c d b hd := congrArg Prod.snd (held_farewell S T frameLimit hd hf b)
  keeps farewell hf c b hnone := by
    rw [farewells_policyServer, List.mem_cons, List.mem_singleton] at hf
    obtain rfl | rfl := hf
    · exact hnone
    · exact issued_release c b
  empties farewell hf c b := by
    obtain rfl := Option.some.inj hf
    exact issued_release c b

/-- Nothing is held for a client. -/
def Books.Free (c : ClientId) (b : Books τ) : Prop := b.held c = (none, fun _ => none)

/-- All connections of a server that was started with nothing held, after some steps. -/
def opened (rest : τ) (steps : List (Hub.Step τ)) : Hub (Books τ) :=
  Hub.run (policyServer S T frameLimit) Books.restPlace { state := { rest } } steps

lemma orderly_opened (rest : τ) (steps : List (Hub.Step τ)) :
    (opened S T frameLimit rest steps).Orderly (policyServer S T frameLimit) :=
  (Hub.orderly_new _ _).run steps

/-- A client whose connections have all been told all farewells holds nothing. -/
lemma free_of_farewells {rest : τ} {steps : List (Hub.Step τ)} {c : ClientId}
    (hgone : ∀ seat ∈ (opened S T frameLimit rest steps).seats, seat.connection.client = c →
      seat.farewells = (policyServer S T frameLimit).farewells.length) :
    (opened S T frameLimit rest steps).state.Free c := by
  have htable := (Hub.Cleared.run (owns_table S T frameLimit) (Hub.orderly_new _ { rest })
    (fun d => .inl rfl) steps).part_eq fun seat hseat hclient => by
      rw [hgone seat hseat hclient]
      exact Nat.zero_lt_two
  have hissued := (Hub.Cleared.run (owns_issued S T frameLimit) (Hub.orderly_new _ { rest })
    (fun d => .inl rfl) steps).part_eq fun seat hseat hclient => by
      rw [hgone seat hseat hclient]
      exact Nat.one_lt_two
  exact Prod.ext htable hissued

/-- Whatever clients connect and ask for, in whatever order their tasks take their turns, and
wherever their streams end: before a client is told the first farewell, each of its requests has
come to its response. Once it has been told all of them nothing is held for it, then and ever
after. The numbers of clients may run out; then this is so of all connections with its number. No
farewell takes anything that is held for another client. -/
theorem farewells_leave_nothing (rest : τ) (steps later : List (Hub.Step τ)) :
    let server := policyServer S T frameLimit
    let h := opened S T frameLimit rest steps
    let h' := opened S T frameLimit rest (steps ++ later)
    (∀ seat ∈ h.seats, 0 < seat.farewells → seat.Finished server) ∧
    (∀ c, (∀ seat ∈ h.seats, seat.connection.client = c →
      seat.farewells = server.farewells.length) → h.state.Free c) ∧
    (∀ (n : Nat) (seat : Seat (Books τ)), h.seats[n]? = some seat →
      seat.farewells = server.farewells.length → h'.seats.length ≤ UInt64.size →
      h'.state.Free seat.connection.client) ∧
    ∀ (n : Nat) (seat : Seat (Books τ)), h.seats[n]? = some seat →
      ∀ d, d ≠ seat.connection.client →
        (h.step server Books.restPlace (.connection n .farewell)).state.held d = h.state.held d := by
  intro server h h'
  have horderly : h.Orderly server := orderly_opened S T frameLimit rest steps
  refine ⟨?_, ?_, ?_, ?_⟩
  · intro seat hseat hsaid
    have hkept := horderly.kept seat hseat
    exact hkept.finished (hkept.done hsaid)
  · intro c hgone
    exact free_of_farewells S T frameLimit hgone
  · intro n seat hn hsaid hfew
    have horderly' : h'.Orderly server := orderly_opened S T frameLimit rest (steps ++ later)
    obtain ⟨last, hlast, hclient, hmore⟩ : ∃ last : Seat (Books τ), h'.seats[n]? = some last ∧
        last.connection.client = seat.connection.client ∧ seat.farewells ≤ last.farewells := by
      have hrun : h' = h.run server Books.restPlace later := Hub.run_append steps later
      rw [hrun]
      exact Hub.exists_seat_run hn later
    refine free_of_farewells S T frameLimit fun seat' hseat' hclient' => ?_
    obtain ⟨i, hi⟩ := List.mem_iff_getElem?.mp hseat'
    obtain rfl := horderly'.eq_of_client_eq hfew hi hlast (hclient'.trans hclient.symm)
    obtain rfl := Option.some.inj (hi.symm.trans hlast)
    exact Nat.le_antisymm (horderly'.kept seat' hseat').most (hsaid ▸ hmore)
  · intro n seat hn d hd
    have hkept := horderly.kept seat (List.mem_of_getElem? hn)
    rw [Hub.state_connection hn]
    exact Prod.ext (Hub.part_connection (owns_table S T frameLimit) hkept hd .farewell h.state)
      (Hub.part_connection (owns_issued S T frameLimit) hkept hd .farewell h.state)

/-- Two clients make offers under one name, and one of them traces a connection. Its stream ends
while its requests are under way. -/
def partings : List (Hub.Step FailoverState) :=
  let offer := (Codec.selectorMessage.encode { remote := some ⟨"r"⟩, paths := some [] }).toOption
  let trace := (Codec.tracerMessage.encode
    { tracingId := some ⟨9⟩, perspective := some .client, odcid := some ⟨[1]⟩ }).toOption
  let first := Frame.writeAll 1024 [⟨1, .request "Selector.Initialize" (offer.getD [])⟩,
    ⟨2, .request TracerMessage.registrationMethod (trace.getD [])⟩]
  let second := Frame.writeAll 1024 [⟨1, .request "Selector.Initialize" (offer.getD [])⟩]
  [.accept, .accept, .connection 0 (.arrive 0 first.2), .connection 1 (.arrive 0 second.2),
    .connection 0 .hangUp, .connection 0 .farewell] ++
  List.replicate 8 (.connection 0 (.turn 0 0)) ++
  [.connection 1 (.turn 0 0), .connection 0 .write, .connection 0 .write]

theorem farewells_leave_nothing_partings :
    let after := opened failoverSelector Telemetry.Tracer.silent 1024 {}
    let said := partings ++ List.replicate 2 (.connection 0 .farewell)
    let later := List.replicate 4 (.connection 1 (.turn 0 0))
    ((after partings).state.table ⟨1⟩).isSome = true ∧
      (after partings).state.issued ⟨1⟩ ⟨9⟩ = some ⟨1⟩ ∧
      (after said).seats[0]?.map (fun seat => (seat.connection.client, seat.farewells)) =
        some (⟨1⟩, 2) ∧
      (∀ seat ∈ (after said).seats, 0 < seat.farewells →
        seat.Finished (policyServer failoverSelector Telemetry.Tracer.silent 1024)) ∧
      (after (said ++ later)).seats.length ≤ UInt64.size ∧
      (after (said ++ later)).state.Free ⟨1⟩ ∧
      ((after (said ++ later)).state.table ⟨2⟩).isSome = true := by
  intro after said later
  obtain ⟨hfinished, -, hfree, -⟩ :=
    farewells_leave_nothing failoverSelector Telemetry.Tracer.silent 1024 {} said later
  have hrun : (((after partings).state.table ⟨1⟩).isSome = true ∧
        (after partings).state.issued ⟨1⟩ ⟨9⟩ = some ⟨1⟩) ∧
      (after said).seats[0]?.map (fun seat => (seat.connection.client, seat.farewells)) =
        some (⟨1⟩, 2) ∧
      (after (said ++ later)).seats.length ≤ UInt64.size ∧
      ((after (said ++ later)).state.table ⟨2⟩).isSome = true := by decide +kernel
  obtain ⟨⟨htable, hissued⟩, hseat, hfew, hother⟩ := hrun
  obtain ⟨seat, hn, hparted⟩ := Option.map_eq_some_iff.mp hseat
  obtain ⟨hclient, hsaid⟩ := Prod.mk.inj hparted
  refine ⟨htable, hissued, hseat, hfinished, hfew, ?_, hother⟩
  exact hclient ▸ hfree 0 seat hn hsaid hfew

end Remote

end PathPolicy
