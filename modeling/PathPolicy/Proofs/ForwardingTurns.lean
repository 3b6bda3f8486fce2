import PathPolicy.Proofs.ForwardingSources

/-!
# Turns of a source

`Follows` ties how far a source has come to the record of the service: what the tracer was told of
the source are its answered calls that were not refused, and at most the call under way. A turn of
any source leaves all of them following.
-/

namespace PathPolicy.Remote

open Telemetry Procedure Call

namespace Forwarding

variable {τ : Type} {T : Tracer τ} {base : Server (Serving τ)} {limit : Nat} {c : ClientId}
  {n : Notice} {ns : List Notice}

/-! ### What a source has been answered -/

/-- The ids under which connections are registered. -/
def requested (calls : List Notice) : List TracingId :=
  calls.filterMap fun
    | .registered id _ _ => some id
    | .recorded .. => none

/-- Why a call of a source never comes to the tracer, if `known` are the ids that the source has
registered with success: nothing can be sent of a time before the epoch, and nothing is recorded of
other connections. -/
def refusal (known : List TracingId) (n : Notice) : Option PolicyError :=
  if n.instants.any Instant.isBeforeEpoch then
    some (.call (.encode "request" "SystemTime must be later than UNIX_EPOCH"))
  else
    match n with
    | .registered .. => none
    | .recorded id e =>
      if id ∈ known then none
      else some (.call (.method (TracerMessage.methodFor e.kind) ⟨.unknownTracingId,
        TracerMessage.methodFor e.kind ++ ": tracing id " ++ Nat.repr id.number.toNat ++
          " was never registered"⟩))

lemma refusal_unsent {known : List TracingId}
    (hn : n.instants.any Instant.isBeforeEpoch = true) :
    refusal known n = some (.call (.encode "request" EncodeFault.beforeEpoch.message)) :=
  if_pos hn

lemma refusal_registered (known : List TracingId) (id : TracingId) (side : Perspective)
    (odcid : ConnectionId) : refusal known (.registered id side odcid) = none :=
  rfl

lemma refusal_recorded {known : List TracingId} {id : TracingId} {e : ConnectionEvent}
    (he : e.instants.any Instant.isBeforeEpoch = false) :
    refusal known (.recorded id e) = if id ∈ known then none else
      some (.call (.method (TracerMessage.methodFor e.kind)
        (.unknownTracingId (TracerMessage.methodFor e.kind) id))) :=
  if_neg (ne_true_of_eq_false he)

/-- The calls of a source that were answered, with their answers. -/
abbrev Past := List (Notice × Except PolicyError Unit)

/-- The ids registered with success. -/
def succeeded (past : Past) : List TracingId :=
  past.filterMap fun
    | (.registered id _ _, .ok ()) => some id
    | _ => none

/-- The calls that come to the tracer, in order. -/
def heard (known : List TracingId) : Past → List Notice
  | [] => []
  | (n, o) :: rest =>
    (if (refusal known n).isNone then [n] else []) ++ heard (known ++ succeeded [(n, o)]) rest

lemma heard_append_singleton (known : List TracingId) (past : Past) (n : Notice)
    (o : Except PolicyError Unit) :
    heard known (past ++ [(n, o)]) = heard known past ++
      if (refusal (known ++ succeeded past) n).isNone then [n] else [] := by
  induction past generalizing known with
  | nil => simp [heard, succeeded]
  | cons call past ih =>
    obtain ⟨m, a⟩ := call
    have hsplit : succeeded ((m, a) :: past) = succeeded [(m, a)] ++ succeeded past :=
      List.filterMap_append (l := [(m, a)])
    rw [List.cons_append, heard, ih, heard, hsplit, List.append_assoc, List.append_assoc]

/-- What was told of a source and is known of it adds up to the calls that have been answered and
the one under way. -/
structure Follows (T : Tracer τ) (base : Server (Serving τ)) (limit : Nat) (c : ClientId)
    (calls : List Notice) (w : Record) (s : Forwarding τ) (past : Past) (todo : List Notice)
    (p : Progress) (task : Procedure (Forwarding τ) Unit) : Prop where
  calls : past.map Prod.fst ++ todo = calls
  answers : past.map Prod.snd = s.answers c
  refused : ∀ before n o after, past = before ++ (n, o) :: after →
    ∀ e, refusal (succeeded before) n = some e → o = .error e
  log : entriesOf c w.log = heard [] past ++ if p.told then todo.take 1 else []
  issued : entriesOf c w.issued =
    requested (past.map Prod.fst) ++ if p.issued then (todo.take 1).map Notice.id else []
  granted : entriesOf c w.granted =
    succeeded past ++ if p.granted then (todo.take 1).map Notice.id else []
  stage : Stage T base limit c w (s.clients c) todo p task

variable {w w' : Record} {s s' : Forwarding τ} {past : Past} {todo calls : List Notice}
  {p p' : Progress} {task task' : Procedure (Forwarding τ) Unit}

/-- A call is over. -/
lemma Follows.settle (h : Follows T base limit c calls w s past (n :: ns) p task)
    {o : Except PolicyError Unit}
    (hc : (s.clients c).Quiet limit)
    (hissued : (if p.issued then [n.id] else []) = requested [n])
    (hgranted : (if p.granted then [n.id] else []) = succeeded [(n, o)])
    (htold : p.told = (refusal (succeeded past) n).isNone)
    (hrefused : ∀ e, refusal (succeeded past) n = some e → o = .error e) :
    Follows T base limit c calls w
      { s with answers := Function.update s.answers c (s.answers c ++ [o]) } (past ++ [(n, o)]) ns
      {} (forwarding T base c ns) where
  calls := by
    rw [← h.calls]
    simp
  answers := by simp [h.answers]
  refused := by
    intro before m a after hsplit e he
    obtain rfl | ⟨after, last, rfl⟩ := List.eq_nil_or_concat after
    · obtain ⟨rfl, hlast⟩ := List.append_inj' hsplit rfl
      obtain ⟨rfl, rfl⟩ := Prod.mk.inj (List.cons.inj hlast).1
      exact hrefused e he
    · have hinit : past = before ++ (m, a) :: after := by
        have hconcat : past ++ [(n, o)] = (before ++ (m, a) :: after) ++ [last] := by
          simpa using hsplit
        exact (List.append_inj' hconcat rfl).1
      exact h.refused before m a after hinit e he
  log := by
    have hlog := h.log
    rw [List.take_succ_cons, List.take_zero, htold] at hlog
    rw [heard_append_singleton, List.nil_append, hlog]
    simp
  issued := by
    have hlog := h.issued
    rw [List.take_succ_cons, List.take_zero, List.map_singleton, hissued] at hlog
    rw [hlog]
    simp [requested]
  granted := by
    have hlog := h.granted
    rw [List.take_succ_cons, List.take_zero, List.map_singleton, hgranted] at hlog
    rw [hlog]
    simp [succeeded]
  stage := .idle hc ns

/-- A call has come further at the service. -/
lemma Follows.grow (h : Follows T base limit c calls w s past (n :: ns) p task)
    (hw : Grows c n p p' w w') (hs : s'.answers c = s.answers c)
    (hstage : Stage T base limit c w' (s'.clients c) (n :: ns) p' task') :
    Follows T base limit c calls w' s' past (n :: ns) p' task' :=
  ⟨h.calls, hs ▸ h.answers, h.refused, hw.log h.log, hw.issued h.issued, hw.granted h.granted,
    hstage⟩

/-- A turn of another source. -/
lemma Follows.wait (h : Follows T base limit c calls w s past todo p task) {c' : ClientId}
    (hne : c' ≠ c) {r r' : Progress} (hw : Grows c' n r r' w w')
    (hclients : s'.clients c = s.clients c) (hanswers : s'.answers c = s.answers c) :
    Follows T base limit c calls w' s' past todo p task := by
  obtain ⟨hlog, hissued, hgranted⟩ := hw.elsewhere hne
  exact ⟨h.calls, hanswers ▸ h.answers, h.refused, hlog ▸ h.log, hissued ▸ h.issued,
    hgranted ▸ h.granted, hclients ▸ h.stage.wait hne hw⟩

/-- Nothing was told of a call that cannot be sent. -/
lemma Follows.settle_unsent (h : Follows T base limit c calls w s past (n :: ns) {} task)
    (hc : (s.clients c).Quiet limit) (hn : n.instants.any Instant.isBeforeEpoch = true) :
    let o : Except PolicyError Unit :=
      .error (.call (.encode "request" EncodeFault.beforeEpoch.message))
    Follows T base limit c calls w
      { s with answers := Function.update s.answers c (s.answers c ++ [o]) } (past ++ [(n, o)]) ns
      {} (forwarding T base c ns) := by
  intro o
  refine h.settle hc ?_ ?_ ?_ ?_
  · cases n with
    | registered => cases hn
    | recorded => rfl
  · cases n <;> rfl
  · rw [refusal_unsent hn]
    rfl
  · intro e he
    rw [refusal_unsent hn] at he
    exact congrArg Except.error (Option.some.inj he)

/-- Outside of a registration, the ids that are known are those registered with success. -/
lemma Follows.mem_granted (h : Follows T base limit c calls w s past todo p task)
    (hp : p.granted = false) {id : TracingId} : (c, id) ∈ w.granted ↔ id ∈ succeeded past := by
  have hown := h.granted
  rw [hp, if_neg Bool.false_ne_true, List.append_nil] at hown
  rw [← hown, mem_entriesOf]

/-- A call is over that was served. -/
lemma Follows.settle_served (h : Follows T base limit c calls w s past (n :: ns) p task)
    (hc : (s.clients c).Quiet limit) (hn : n.instants.any Instant.isBeforeEpoch = false)
    {q : ServiceTask τ} (hq : Serves T w c n p q) {o : Except MethodError Unit}
    (ho : q.answer? = some o) :
    let o' := resultOf n (Client.replyOf (payloadOf o))
    Follows T base limit c calls w
      { s with answers := Function.update s.answers c (s.answers c ++ [o']) }
      (past ++ [(n, o')]) ns {} (forwarding T base c ns) := by
  intro o'
  have ho' : o' = o.mapError fun e => .call (.method n.method e) := resultOf_payloadOf n o
  cases n with
  | registered id side odcid =>
    obtain ⟨hissued, htold, hgranted⟩ := hq.registered_done ho
    refine h.settle hc ?_ ?_ ?_ ?_
    · rw [hissued]
      rfl
    · rw [ho']
      cases o with
      | ok u =>
        rw [hgranted.mpr rfl]
        rfl
      | error e =>
        have hnot : p.granted = false :=
          eq_false_of_ne_true fun hg => by cases hgranted.mp hg
        rw [hnot]
        rfl
    · rw [htold, refusal_registered]
      rfl
    · intro e he
      rw [refusal_registered] at he
      cases he
  | recorded id e =>
    obtain ⟨hissued, hgranted, htold⟩ := hq.recorded_done ho
    simp only [h.mem_granted hgranted] at htold
    refine h.settle hc ?_ ?_ ?_ ?_
    · rw [hissued]
      rfl
    · rw [hgranted]
      rfl
    · rw [refusal_recorded hn]
      split_ifs at htold ⊢
      · exact htold
      · exact htold.1
    · intro e' he
      rw [refusal_recorded hn] at he
      split_ifs at he with hid
      rw [if_neg hid] at htold
      rw [ho', htold.2, ← Option.some.inj he]
      rfl

/-! ### The call under way -/

lemma Stage.exists_serves {client : Client} (h : Stage T base limit c w client todo p task)
    (hp : p ≠ {}) :
    ∃ n ns q, todo = n :: ns ∧ n.instants.any Instant.isBeforeEpoch = false ∧
      Serves T w c n p q := by
  cases h with
  | idle => exact absurd rfl hp
  | serving hn _ hq => exact ⟨_, _, _, rfl, hn, hq⟩
  | received hn _ _ hq => exact ⟨_, _, _, rfl, hn, hq⟩
  | settled hn _ hq => exact ⟨_, _, _, rfl, hn, hq⟩

/-- Ids are issued for registrations only. -/
lemma requested_of_issued {q : ServiceTask τ} (h : Serves T w c n p q) (hp : p.issued = true) :
    requested [n] = [n.id] := by
  cases h with
  | fresh => cases hp
  | unknown => cases hp
  | looked => cases hp
  | passing => cases hp
  | _ => rfl

lemma Follows.mem_requested (h : Follows T base limit c calls w s past todo p task)
    {id : TracingId} (hid : (c, id) ∈ w.issued) : id ∈ requested calls := by
  rw [← mem_entriesOf, h.issued] at hid
  rw [← h.calls, requested, List.filterMap_append]
  obtain hid | hid := List.mem_append.mp hid
  · exact List.mem_append_left _ hid
  · cases hp : p.issued with
    | false =>
      rw [hp] at hid
      cases hid
    | true =>
      have hne : p ≠ {} := by
        rintro rfl
        cases hp
      obtain ⟨n, ns, q, rfl, -, hq⟩ := h.stage.exists_serves hne
      have hn : id ∈ requested [n] := by
        rw [requested_of_issued hq hp]
        rwa [hp] at hid
      exact List.mem_append_right _ (List.filterMap_append (l := [n]) ▸ List.mem_append_left _ hn)

/-- The tracer is told of a call under way only if this comes to it. -/
lemma Follows.told (h : Follows T base limit c calls w s past todo p task) (hp : p.told = true) :
    ∃ n ns, todo = n :: ns ∧ refusal (succeeded past) n = none := by
  have hne : p ≠ {} := by
    rintro rfl
    cases hp
  obtain ⟨n, ns, q, rfl, hn, hq⟩ := h.stage.exists_serves hne
  refine ⟨n, ns, rfl, ?_⟩
  cases n with
  | registered => exact refusal_registered ..
  | recorded id e =>
    rw [refusal_recorded hn]
    cases hq with
    | passing hid => exact if_pos ((h.mem_granted rfl).mp hid)
    | _ => cases hp

/-- A source is through when it has no calls left. -/
lemma Follows.finished (h : Follows T base limit c calls w s past todo p task)
    (htask : task.answer? = some ()) : todo = [] := by
  have hmore {α : Type} (q : Procedure (Forwarding τ) α)
      (k : α → Procedure (Forwarding τ) Unit) (hk : ∀ a, (k a).answer? = none) :
      (q.bind k).answer? ≠ some () := by
    rw [answer?_bind hk]
    exact fun hsome => by cases hsome
  have hstage := h.stage
  cases hstage with
  | idle =>
    cases todo with
    | nil => rfl
    | cons n ns => exact absurd htask (hmore _ _ fun _ => rfl)
  | serving => exact absurd htask (hmore _ _ fun _ => rfl)
  | received => cases htask
  | settled => cases htask

/-! ### One turn of a source -/

/-- What a turn of a source does to the record, to itself, and to the other sources. -/
structure Turned (T : Tracer τ) (base : Server (Serving τ)) (limit : Nat) (c : ClientId)
    (calls : List Notice) (w : Record) (s : Forwarding τ)
    (after : Procedure (Forwarding τ) Unit × Forwarding τ) (w' : Record) : Prop where
  grows : ∃ n p p', Grows c n p p' w w'
  tallies : Tallies w' after.2.service
  follows : ∃ past todo p, Follows T base limit c calls w' after.2 past todo p after.1
  clients : ∀ c', c' ≠ c → after.2.clients c' = s.clients c'
  answers : ∀ c', c' ≠ c → after.2.answers c' = s.answers c'

lemma await_eq {k : UInt64} {request : List UInt8} (h : request.isEmpty = false) :
    Client.await (clientPlace c) (far T base c) k request =
      (far T base c request).bind (taking c k) := by
  simp only [Client.await, h, Bool.false_eq_true, if_false]
  rfl

/-- A source sends its next call, or takes down why it cannot. -/
lemma Follows.advance_idle (h : Follows T base limit c calls w s past (n :: ns) {} task)
    (hs : Tallies w s.service) (hc : (s.clients c).Quiet limit) (hfits : Fits T base limit c n)
    (elapse : Nat → τ → τ) :
    Turned T base limit c calls w s
      ((forwarding T base c (n :: ns)).advance (elapsed elapse) s) w := by
  have hencodes := encodes_message n
  cases hencode : Codec.tracerMessage.encode n.message with
  | error fault =>
    have hn : n.instants.any Instant.isBeforeEpoch = true := by
      by_contra hn
      obtain ⟨bytes, hbytes⟩ := hencodes.mpr (by simpa using hn)
      rw [hencode] at hbytes
      cases hbytes
    rw [forwarding_of_unencodable hencode]
    refine ⟨⟨n, {}, {}, .stays _ w⟩, hs, ⟨_, _, _, h.settle_unsent hc hn⟩, fun _ _ => rfl, ?_⟩
    exact fun c' hc' => Function.update_of_ne hc' ..
  | ok payload =>
    have hn : n.instants.any Instant.isBeforeEpoch = false := by
      simpa using hencodes.mp ⟨payload, hencode⟩
    obtain ⟨request, hwrite, hread⟩ := hfits.request payload hencode (s.clients c).nextId
    have hlength := Frame.length_of_write hread
    obtain ⟨client, hsubmit, hcarries⟩ := hc.submit hwrite
    have hsubmit' : ((clientPlace c).get s).submit n.method payload =
        ((s.clients c).nextId, request, client) := hsubmit
    rw [forwarding_of_encode hencode, caller, Client.call_caller, advance_bind rfl]
    simp only [advance, hsubmit']
    rw [await_eq (Frame.isEmpty_of_write hwrite), far_of_write hencode hlength hread]
    have hanswers : ∀ o, ((n.call c).serve T 0).MayAnswer o →
        Crosses limit (tracerServer T base).frameLimit
          ⟨(s.clients c).nextId, .response (payloadOf o)⟩ := by
      intro o ho
      apply hfits.response payload hencode
      rw [dispatch_message hencode hlength]
      exact ho.bind_done payloadOf
    refine ⟨⟨n, {}, {}, .stays _ w⟩, hs, ⟨past, n :: ns, {}, ?_⟩, ?_, fun _ _ => rfl⟩
    · refine h.grow (.stays {} w) rfl ?_
      refine .serving hn ?_ (.fresh n) hanswers ns
      rw [clients_set]
      exact hcarries
    · intro c' hc'
      exact clients_set_of_ne hc' client s

lemma sent_of_crosses {limit' : Nat} {id : UInt64} {o : Except MethodError Unit}
    (h : Crosses limit limit' ⟨id, .response (payloadOf o)⟩) :
    ∃ bytes, sent limit' id o = { bytes } ∧
      (⟨id, .response (payloadOf o)⟩ : Frame).write limit = .ok bytes := by
  obtain ⟨bytes, hread, hwrite⟩ := h
  exact ⟨bytes, by simp only [sent, Connection.responseBytes, hwrite], hread⟩

/-- The service goes on with the call, or the source takes in what the service has sent. -/
lemma Follows.advance_serving {q : ServiceTask τ} {k : UInt64}
    (h : Follows T base limit c calls w s past (n :: ns) p task) (hs : Tallies w s.service)
    (hn : n.instants.any Instant.isBeforeEpoch = false)
    (hc : (s.clients c).Carries limit k ⟨.awaiting, none⟩ []) (hq : Serves T w c n p q)
    (hfits : ∀ o, q.MayAnswer o →
      Crosses limit (tracerServer T base).frameLimit ⟨k, .response (payloadOf o)⟩)
    (hroom : ∀ id side odcid, n = .registered id side odcid → p.issued = false →
      (c, id) ∉ w.issued ∧ w.issued.length + 1 ≤ UInt64.size) (elapse : Nat → τ → τ) :
    ∃ w', Turned T base limit c calls w s
      (((((q.bind fun o => .done (sent (tracerServer T base).frameLimit k o)).within
        servicePlace).bind (taking c k)).bind (finishing T base c n ns)).advance
          (elapsed elapse) s) w' := by
  cases hanswer : q.answer? with
  | none =>
    obtain ⟨p', w', hgrows, htallies, hserves⟩ := hq.advance hs hanswer hroom elapse
    have hwithin : ((q.bind fun o => .done (sent (tracerServer T base).frameLimit k o)).within
        (servicePlace (τ := τ))).answer? = none := by
      rw [answer?_within]
      exact answer?_bind_of_none hanswer _
    rw [advance_bind (answer?_bind_of_none hwithin _), advance_bind hwithin, advance_within_service,
      advance_bind hanswer]
    refine ⟨w', ⟨n, p, p', hgrows⟩, htallies, ⟨past, n :: ns, p', ?_⟩, fun _ _ => rfl,
      fun _ _ => rfl⟩
    refine h.grow hgrows rfl ?_
    exact .serving hn hc hserves (fun o ho => hfits o ho.of_advance) ns
  | some o =>
    obtain rfl := answer?_eq_some_iff.mp hanswer
    obtain ⟨bytes, hsent, hread⟩ := sent_of_crosses (hfits o rfl)
    obtain ⟨hquiet, hreply⟩ := hc.receive hread
    refine ⟨w, ⟨n, p, p, .stays p w⟩, hs, ⟨past, n :: ns, p, ?_⟩, ?_, fun _ _ => rfl⟩
    · refine h.grow (.stays p w) rfl ?_
      have hclient : (((Procedure.done (sent (tracerServer T base).frameLimit k o)).bind
          (taking c k)).advance (elapsed elapse) s).2.clients c = (s.clients c).receive bytes := by
        rw [hsent]
        exact clients_set ..
      have hstage : Stage T base limit c w ((s.clients c).receive bytes) (n :: ns) p _ :=
        .received hn hquiet hreply hq rfl ns
      rw [← hclient] at hstage
      exact hstage
    · intro c' hc'
      exact clients_set_of_ne hc' _ s

/-- The source takes the reply out of its client. -/
lemma Follows.advance_received {q : ServiceTask τ} {k : UInt64} {o : Except MethodError Unit}
    (h : Follows T base limit c calls w s past (n :: ns) p task) (hs : Tallies w s.service)
    (hn : n.instants.any Instant.isBeforeEpoch = false) (hc : (s.clients c).Quiet limit)
    (hreply : (s.clients c).ongoing.get? k =
      some ⟨.awaiting, some (Client.replyOf (payloadOf o))⟩)
    (hq : Serves T w c n p q) (ho : q.answer? = some o) (elapse : Nat → τ → τ) :
    Turned T base limit c calls w s
      (((Procedure.stretch (Client.returned (clientPlace c) k)).bind
        (finishing T base c n ns)).advance (elapsed elapse) s) w := by
  obtain ⟨hreturn, hquiet⟩ := hc.returnTo hreply
  have hreturned : Client.returned (clientPlace c) k s =
      (Client.replyOf (payloadOf o), (clientPlace c).set ((s.clients c).abandon k) s) := by
    have hreturn' : ((clientPlace c).get s).returnTo k = _ := hreturn
    simp only [Client.returned, hreturn']
  rw [Procedure.stretch, advance_bind rfl]
  simp only [advance, hreturned]
  refine ⟨⟨n, p, p, .stays p w⟩, hs, ⟨past, n :: ns, p, ?_⟩, ?_, fun _ _ => rfl⟩
  · refine h.grow (.stays p w) rfl (.settled hn ?_ hq ho ns)
    rw [clients_set]
    exact hquiet
  · intro c' hc'
    exact clients_set_of_ne hc' _ s

/-- A turn of a source that has calls left. -/
lemma Follows.advance (h : Follows T base limit c calls w s past todo p task)
    (hs : Tallies w s.service) (htask : task.answer? = none)
    (hfits : ∀ n ∈ calls, Fits T base limit c n) (hdistinct : (requested calls).Nodup)
    (hroom : ∀ id ∈ requested calls, (c, id) ∉ w.issued → w.issued.length + 1 ≤ UInt64.size)
    (elapse : Nat → τ → τ) :
    ∃ w', Turned T base limit c calls w s (task.advance (elapsed elapse) s) w' := by
  have hstage := h.stage
  cases hstage with
  | idle hc =>
    cases todo with
    | nil => cases htask
    | cons n ns =>
      have hmem : n ∈ calls := by
        rw [← h.calls]
        simp
      exact ⟨w, h.advance_idle hs hc (hfits n hmem) elapse⟩
  | serving hn hc hq hanswers ns =>
    apply h.advance_serving hs hn hc hq hanswers
    intro id side odcid hreg hissued
    -- An id has not been issued before its registration, as no source registers an id twice.
    subst hreg
    have hcalls : requested calls =
        requested (past.map Prod.fst) ++ id :: requested ns := by
      rw [← h.calls, requested, List.filterMap_append]
      rfl
    have hid : (c, id) ∉ w.issued := by
      rw [← mem_entriesOf, h.issued, hissued, if_neg Bool.false_ne_true, List.append_nil]
      rw [hcalls] at hdistinct
      exact fun hmem => List.disjoint_of_nodup_append hdistinct hmem (List.mem_cons_self ..)
    exact ⟨hid, hroom id (by rw [hcalls]; simp) hid⟩
  | received hn hc hreply hq ho ns =>
    exact ⟨w, h.advance_received hs hn hc hreply hq ho elapse⟩
  | @settled n _ _ _ hn hc hq ho ns =>
    refine ⟨w, ⟨n, p, p, .stays p w⟩, hs, ⟨_, _, _, h.settle_served hc hn hq ho⟩, fun _ _ => rfl,
      ?_⟩
    exact fun c' hc' => Function.update_of_ne hc' ..

end Forwarding

end PathPolicy.Remote
