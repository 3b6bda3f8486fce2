import PathPolicy.Daemon
import Mathlib.Tactic.Common

/-!
# What a policy is built of

A policy is built for every request with a valid configuration. What it is built of can be read off
the request and the world: the selector and the tracer asked for where they can be had, and the
default selector and the silent tracer where they cannot. A build that has a connection or a script
uses it again for whatever is found at the same file. A daemon asks for nothing at a socket, so
building one connects to none.
-/

namespace PathPolicy

/-! ### What is asked for -/

namespace Configuration

variable {c : Configuration}

lemma selectorMode_of_script {m : SelectorMode} (hm : c.selector.mode = .script)
    (h : c.selectorMode = .ok m) :
    ∃ path, c.selector.scriptPath = some path ∧ m = .script path := by
  unfold selectorMode at h
  rw [hm] at h
  cases hp : c.selector.scriptPath with
  | none => simp [hp] at h
  | some path =>
    rw [hp] at h
    exact ⟨path, rfl, (Except.ok.inj h).symm⟩

lemma telemetryMode_of_script {m : TelemetryMode} (hm : c.telemetry.mode = .script)
    (h : c.telemetryMode = .ok m) :
    ∃ path, c.telemetry.scriptPath.or c.selector.scriptPath = some path ∧ m = .script path := by
  unfold telemetryMode at h
  rw [hm] at h
  cases hp : c.telemetry.scriptPath.or c.selector.scriptPath with
  | none => simp [hp] at h
  | some path =>
    rw [hp] at h
    exact ⟨path, rfl, (Except.ok.inj h).symm⟩

lemma modes_of_validate (h : c.validate = .ok ()) :
    (∃ m, c.selectorMode = .ok m) ∧ ∃ m, c.telemetryMode = .ok m := by
  unfold validate at h
  cases hs : c.selectorMode with
  | error e =>
    rw [hs] at h
    split_ifs at h <;> contradiction
  | ok S =>
    cases ht : c.telemetryMode with
    | error e =>
      rw [hs, ht] at h
      split_ifs at h <;> contradiction
    | ok T => exact ⟨⟨S, rfl⟩, T, rfl⟩

end Configuration

namespace PolicyRequest

/-- The selector asked for: the one in place of the configured one, or the configured one, where a
remote selector is at its own socket or else the common one. -/
inductive AsksSelector (r : PolicyRequest) : SelectorMode → Prop
  | replaced {m : SelectorMode} (h : r.selector = some m) : AsksSelector r m
  | default (h : r.selector = none) (hm : r.configuration.selector.mode = .default) :
      AsksSelector r .default
  | remote (h : r.selector = none) (hm : r.configuration.selector.mode = .remote) :
      AsksSelector r
        (.remote (r.configuration.selector.socketPath.getD r.configuration.rpc.socketPath))
  | script {path : String} (h : r.selector = none) (hm : r.configuration.selector.mode = .script)
      (hp : r.configuration.selector.scriptPath = some path) : AsksSelector r (.script path)

/-- The tracer asked for, where a scripted tracer has its own script or else the selector's. -/
inductive AsksTracer (r : PolicyRequest) : TelemetryMode → Prop
  | replaced {m : TelemetryMode} (h : r.telemetry = some m) : AsksTracer r m
  | noop (h : r.telemetry = none) (hm : r.configuration.telemetry.mode = .noop) :
      AsksTracer r .noop
  | logging (h : r.telemetry = none) (hm : r.configuration.telemetry.mode = .logging) :
      AsksTracer r .logging
  | remote (h : r.telemetry = none) (hm : r.configuration.telemetry.mode = .remote) :
      AsksTracer r
        (.remote (r.configuration.telemetry.socketPath.getD r.configuration.rpc.socketPath))
  | script {path : String} (h : r.telemetry = none)
      (hm : r.configuration.telemetry.mode = .script)
      (hp : r.configuration.telemetry.scriptPath.or r.configuration.selector.scriptPath =
        some path) : AsksTracer r (.script path)

lemma asksSelector_of_eq_ok {r : PolicyRequest} {m : SelectorMode}
    (h : r.selector.elim r.configuration.selectorMode .ok = .ok m) : r.AsksSelector m := by
  cases hr : r.selector with
  | some m' =>
    rw [hr] at h
    cases h
    exact .replaced hr
  | none =>
    rw [hr, Option.elim_none] at h
    cases hm : r.configuration.selector.mode with
    | default =>
      rw [Configuration.selectorMode, hm] at h
      cases h
      exact .default hr hm
    | remote =>
      rw [Configuration.selectorMode, hm] at h
      cases h
      exact .remote hr hm
    | script =>
      obtain ⟨path, hp, rfl⟩ := Configuration.selectorMode_of_script hm h
      exact .script hr hm hp

lemma asksTracer_of_eq_ok {r : PolicyRequest} {m : TelemetryMode}
    (h : r.telemetry.elim r.configuration.telemetryMode .ok = .ok m) : r.AsksTracer m := by
  cases hr : r.telemetry with
  | some m' =>
    rw [hr] at h
    cases h
    exact .replaced hr
  | none =>
    rw [hr, Option.elim_none] at h
    cases hm : r.configuration.telemetry.mode with
    | noop =>
      rw [Configuration.telemetryMode, hm] at h
      cases h
      exact .noop hr hm
    | logging =>
      rw [Configuration.telemetryMode, hm] at h
      cases h
      exact .logging hr hm
    | remote =>
      rw [Configuration.telemetryMode, hm] at h
      cases h
      exact .remote hr hm
    | script =>
      obtain ⟨path, hp, rfl⟩ := Configuration.telemetryMode_of_script hm h
      exact .script hr hm hp

end PolicyRequest

/-! ### What is acquired -/

/-- `b` goes after what `a` got already: the socket of a connection that is open, or a script that
is loaded. -/
def Acquisition.Repeats (env : Environment) : Acquisition → Acquisition → Prop
  | .connected s, .connected s' | .connected s, .unreachable s' =>
    SameFile s s' ∧ env.staysOpen s
  | .loaded f, .loaded f' | .loaded f, .unloadable f' => SameFile f f'
  | _, _ => False

/-- A socket is turned to as a client. -/
def Acquisition.Contacts : Acquisition → Prop
  | .connected _ | .unreachable _ => True
  | _ => False

namespace Environment

variable {env : Environment} {past : List Acquisition}

/-- Nothing is acquired that is there. -/
def Sparing (env : Environment) (past : List Acquisition) : Prop :=
  past.Pairwise fun a b => ¬a.Repeats env b

lemma isConnected_iff {s : String} : env.isConnected s past ↔
    ∃ name, .connected name ∈ past ∧ SameFile name s ∧ env.staysOpen name := by
  simp only [isConnected, List.any_eq_true]
  constructor
  · rintro ⟨a, ha, h⟩
    cases a with
    | connected name => exact ⟨name, ha, by simpa using h⟩
    | _ => contradiction
  · rintro ⟨name, ha, h⟩
    exact ⟨_, ha, by simpa using h⟩

lemma isLoaded_iff {f : String} :
    isLoaded f past ↔ ∃ name, .loaded name ∈ past ∧ SameFile name f := by
  simp only [isLoaded, List.any_eq_true]
  constructor
  · rintro ⟨a, ha, h⟩
    cases a with
    | loaded name => exact ⟨name, ha, by simpa using h⟩
    | _ => contradiction
  · rintro ⟨name, ha, h⟩
    exact ⟨_, ha, by simpa using h⟩

/-- What connecting can come to. -/
lemma connect_cases (env : Environment) (s : String) (past : List Acquisition) :
    (env.isConnected s past ∧ env.connect s past = (true, past)) ∨
    (¬env.isConnected s past ∧ env.connects s ∧
      env.connect s past = (true, past ++ [.connected s])) ∨
    (¬env.isConnected s past ∧ ¬env.connects s ∧
      env.connect s past = (false, past ++ [.unreachable s])) := by
  unfold connect
  split_ifs with hc hs
  · exact .inl ⟨hc, rfl⟩
  · exact .inr (.inl ⟨hc, hs, rfl⟩)
  · exact .inr (.inr ⟨hc, hs, rfl⟩)

/-- What loading can come to. -/
lemma load_cases (env : Environment) (f : String) (past : List Acquisition) :
    (isLoaded f past ∧ env.load f past = (true, past)) ∨
    (¬isLoaded f past ∧ env.loads f ∧ env.load f past = (true, past ++ [.loaded f])) ∨
    (¬isLoaded f past ∧ ¬env.loads f ∧
      env.load f past = (false, past ++ [.unloadable f])) := by
  unfold load
  split_ifs with hl hf
  · exact .inl ⟨hl, rfl⟩
  · exact .inr (.inl ⟨hl, hf, rfl⟩)
  · exact .inr (.inr ⟨hl, hf, rfl⟩)

lemma Sparing.append_singleton (h : env.Sparing past) {a : Acquisition}
    (ha : ∀ b ∈ past, ¬b.Repeats env a) : env.Sparing (past ++ [a]) := by
  refine List.pairwise_append.mpr ⟨h, List.pairwise_singleton _ _, fun b hb c hc => ?_⟩
  rw [List.mem_singleton] at hc
  rw [hc]
  exact ha b hb

lemma Sparing.connect (h : env.Sparing past) (s : String) :
    env.Sparing (env.connect s past).2 := by
  -- Without a connection that is open, nothing done so far got one.
  have hnew {a : Acquisition} (hc : ¬env.isConnected s past)
      (ha : a = .connected s ∨ a = .unreachable s) : ∀ b ∈ past, ¬b.Repeats env a := by
    intro b hb hr
    rcases ha with rfl | rfl <;> cases b with
    | connected name => exact hc (isConnected_iff.mpr ⟨name, hb, hr⟩)
    | _ => exact hr
  rcases env.connect_cases s past with ⟨-, he⟩ | ⟨hc, -, he⟩ | ⟨hc, -, he⟩
  · rw [he]
    exact h
  · rw [he]
    exact h.append_singleton (hnew hc (.inl rfl))
  · rw [he]
    exact h.append_singleton (hnew hc (.inr rfl))

lemma Sparing.load (h : env.Sparing past) (f : String) : env.Sparing (env.load f past).2 := by
  have hnew {a : Acquisition} (hl : ¬isLoaded f past)
      (ha : a = .loaded f ∨ a = .unloadable f) : ∀ b ∈ past, ¬b.Repeats env a := by
    intro b hb hr
    rcases ha with rfl | rfl <;> cases b with
    | loaded name => exact hl (isLoaded_iff.mpr ⟨name, hb, hr⟩)
    | _ => exact hr
  rcases env.load_cases f past with ⟨-, he⟩ | ⟨hl, -, he⟩ | ⟨hl, -, he⟩
  · rw [he]
    exact h
  · rw [he]
    exact h.append_singleton (hnew hl (.inl rfl))
  · rw [he]
    exact h.append_singleton (hnew hl (.inr rfl))

lemma Sparing.startHeartbeat (h : env.Sparing past) (f : String) :
    env.Sparing (startHeartbeat f past) := by
  unfold Environment.startHeartbeat
  split_ifs
  · exact h
  · refine h.append_singleton fun b _ hr => ?_
    cases b <;> exact hr

lemma obtainSelector_remote (env : Environment) (s : String) (past : List Acquisition) :
    env.obtainSelector (.remote s) past =
      (if (env.connect s past).1 then .remote s else .default, (env.connect s past).2) := by
  dsimp only [obtainSelector]
  rcases env.connect s past with ⟨_ | _, _⟩ <;> rfl

lemma obtainSelector_script (env : Environment) (f : String) (past : List Acquisition) :
    env.obtainSelector (.script f) past =
      if (env.load f past).1 then (.script f, startHeartbeat f (env.load f past).2)
      else (.default, (env.load f past).2) := by
  dsimp only [obtainSelector]
  rcases env.load f past with ⟨_ | _, _⟩ <;> rfl

lemma obtainTracer_remote (env : Environment) (s : String) (past : List Acquisition) :
    env.obtainTracer (.remote s) past =
      (if (env.connect s past).1 then .remote s else .noop, (env.connect s past).2) := by
  dsimp only [obtainTracer]
  rcases env.connect s past with ⟨_ | _, _⟩ <;> rfl

lemma obtainTracer_script (env : Environment) (f : String) (past : List Acquisition) :
    env.obtainTracer (.script f) past =
      (if (env.load f past).1 then .script f else .noop, (env.load f past).2) := by
  dsimp only [obtainTracer]
  rcases env.load f past with ⟨_ | _, _⟩ <;> rfl

lemma Sparing.obtainSelector (h : env.Sparing past) (m : SelectorMode) :
    env.Sparing (env.obtainSelector m past).2 := by
  cases m with
  | default => exact h
  | remote s =>
    rw [obtainSelector_remote]
    exact h.connect s
  | script f =>
    rw [obtainSelector_script]
    split_ifs
    · exact (h.load f).startHeartbeat f
    · exact h.load f

lemma Sparing.obtainTracer (h : env.Sparing past) (m : TelemetryMode) :
    env.Sparing (env.obtainTracer m past).2 := by
  cases m with
  | noop | logging => exact h
  | remote s =>
    rw [obtainTracer_remote]
    exact h.connect s
  | script f =>
    rw [obtainTracer_script]
    exact h.load f

/-! ### What can be had -/

/-- The selector can be had. -/
def HasSelector (env : Environment) : SelectorMode → Prop
  | .default => True
  | .remote s => env.connects s
  | .script f => env.loads f

/-- The tracer can be had beside the selector `S`, whose connection or script it may share. -/
def HasTracer (env : Environment) (S : SelectorMode) : TelemetryMode → Prop
  | .noop | .logging => True
  | .remote s =>
    env.connects s ∨ ∃ name, S = .remote name ∧ SameFile name s ∧ env.staysOpen name
  | .script f => env.loads f ∨ ∃ name, S = .script name ∧ SameFile name f

lemma connect_fst (env : Environment) (s : String) (past : List Acquisition) :
    (env.connect s past).1 = true ↔ env.connects s ∨
      ∃ name, .connected name ∈ past ∧ SameFile name s ∧ env.staysOpen name := by
  rw [← isConnected_iff]
  rcases env.connect_cases s past with h | h | h <;> simp [h]

lemma load_fst (env : Environment) (f : String) (past : List Acquisition) :
    (env.load f past).1 = true ↔
      env.loads f ∨ ∃ name, .loaded name ∈ past ∧ SameFile name f := by
  rw [← isLoaded_iff]
  rcases env.load_cases f past with h | h | h <;> simp [h]

/-- The selector asked for is built just where it can be had. -/
lemma obtainSelector_fst (env : Environment) (m : SelectorMode) :
    (env.HasSelector m ∧ (env.obtainSelector m []).1 = m) ∨
      (¬env.HasSelector m ∧ (env.obtainSelector m []).1 = .default) := by
  cases m with
  | default => exact .inl ⟨trivial, rfl⟩
  | remote s =>
    rw [obtainSelector_remote]
    by_cases hs : env.connects s
    · exact .inl ⟨hs, if_pos ((connect_fst ..).mpr (.inl hs))⟩
    · refine .inr ⟨hs, if_neg fun h => ?_⟩
      simpa [hs] using (connect_fst ..).mp h
  | script f =>
    rw [obtainSelector_script]
    by_cases hf : env.loads f
    · refine .inl ⟨hf, ?_⟩
      rw [if_pos ((load_fst ..).mpr (.inl hf))]
    · refine .inr ⟨hf, ?_⟩
      rw [if_neg]
      intro h
      simpa [hf] using (load_fst ..).mp h

/-- What a selector was built of is what its build has got. -/
lemma mem_obtainSelector_iff (env : Environment) (m : SelectorMode) :
    (∀ s, .connected s ∈ (env.obtainSelector m []).2 ↔ (env.obtainSelector m []).1 = .remote s) ∧
      ∀ f, .loaded f ∈ (env.obtainSelector m []).2 ↔ (env.obtainSelector m []).1 = .script f := by
  cases m with
  | default => simp [obtainSelector]
  | remote s =>
    rw [obtainSelector_remote]
    rcases env.connect_cases s [] with ⟨hc, -⟩ | ⟨-, -, he⟩ | ⟨-, -, he⟩
    · simp [isConnected] at hc
    · simp [he, eq_comm]
    · simp [he]
  | script f =>
    rw [obtainSelector_script]
    rcases env.load_cases f [] with ⟨hl, -⟩ | ⟨-, -, he⟩ | ⟨-, -, he⟩
    · simp [isLoaded] at hl
    · simp [he, startHeartbeat, isBeating, eq_comm]
    · simp [he]

/-- The tracer asked for is built just where it can be had beside the selector. -/
lemma obtainTracer_fst (env : Environment) (S : SelectorMode) (m : TelemetryMode) :
    (env.HasTracer (env.obtainSelector S []).1 m ∧
        (env.obtainTracer m (env.obtainSelector S []).2).1 = m) ∨
      (¬env.HasTracer (env.obtainSelector S []).1 m ∧
        (env.obtainTracer m (env.obtainSelector S []).2).1 = .noop) := by
  obtain ⟨hconnected, hloaded⟩ := env.mem_obtainSelector_iff S
  cases m with
  | noop | logging => exact .inl ⟨trivial, rfl⟩
  | remote s =>
    rw [obtainTracer_remote]
    have hs := env.connect_fst s (env.obtainSelector S []).2
    simp only [hconnected] at hs
    by_cases hhas : env.HasTracer (env.obtainSelector S []).1 (.remote s)
    · exact .inl ⟨hhas, if_pos (hs.mpr hhas)⟩
    · exact .inr ⟨hhas, if_neg fun h => hhas (hs.mp h)⟩
  | script f =>
    rw [obtainTracer_script]
    have hf := env.load_fst f (env.obtainSelector S []).2
    simp only [hloaded] at hf
    by_cases hhas : env.HasTracer (env.obtainSelector S []).1 (.script f)
    · exact .inl ⟨hhas, if_pos (hf.mpr hhas)⟩
    · exact .inr ⟨hhas, if_neg fun h => hhas (hf.mp h)⟩

lemma subset_connect (env : Environment) (s : String) (past : List Acquisition) :
    past ⊆ (env.connect s past).2 := by
  rcases env.connect_cases s past with h | h | h <;> simp [h]

lemma subset_load (env : Environment) (f : String) (past : List Acquisition) :
    past ⊆ (env.load f past).2 := by
  rcases env.load_cases f past with h | h | h <;> simp [h]

lemma subset_obtainTracer (env : Environment) (m : TelemetryMode) (past : List Acquisition) :
    past ⊆ (env.obtainTracer m past).2 := by
  cases m with
  | noop | logging => exact List.Subset.refl past
  | remote s =>
    rw [obtainTracer_remote]
    exact env.subset_connect s past
  | script f =>
    rw [obtainTracer_script]
    exact env.subset_load f past

/-- A tracer that is built has what it works with. -/
lemma obtainTracer_backed (env : Environment) (m : TelemetryMode) (past : List Acquisition) :
    (∀ s, (env.obtainTracer m past).1 = .remote s →
        ∃ name, .connected name ∈ (env.obtainTracer m past).2 ∧ SameFile name s) ∧
      ∀ f, (env.obtainTracer m past).1 = .script f →
        ∃ name, .loaded name ∈ (env.obtainTracer m past).2 ∧ SameFile name f := by
  cases m with
  | noop => simp [obtainTracer]
  | logging => simp [obtainTracer]
  | remote s =>
    rw [obtainTracer_remote]
    refine ⟨fun s' hs' => ?_, fun f hf => by split at hf <;> contradiction⟩
    rcases env.connect_cases s past with ⟨hc, he⟩ | ⟨-, -, he⟩ | ⟨-, -, he⟩
    · obtain ⟨name, hm, hn, -⟩ := isConnected_iff.mp hc
      obtain rfl : s = s' := by simpa [he] using hs'
      exact ⟨name, by rwa [he], hn⟩
    · obtain rfl : s = s' := by simpa [he] using hs'
      exact ⟨s, by simp [he], rfl⟩
    · simp [he] at hs'
  | script f =>
    rw [obtainTracer_script]
    refine ⟨fun s hs => by split at hs <;> contradiction, fun f' hf' => ?_⟩
    rcases env.load_cases f past with ⟨hl, he⟩ | ⟨-, -, he⟩ | ⟨-, -, he⟩
    · obtain ⟨name, hm, hn⟩ := isLoaded_iff.mp hl
      obtain rfl : f = f' := by simpa [he] using hf'
      exact ⟨name, by rwa [he], hn⟩
    · obtain rfl : f = f' := by simpa [he] using hf'
      exact ⟨f, by simp [he], rfl⟩
    · simp [he] at hf'

end Environment

/-! ### Building -/

/-- The policy is what the request comes to in the world. -/
structure PolicyRequest.Settles (r : PolicyRequest) (env : Environment) (p : Policy) : Prop where
  selector : ∃ m, r.AsksSelector m ∧
    (env.HasSelector m ∧ p.selector = m ∨ ¬env.HasSelector m ∧ p.selector = .default)
  tracer : ∃ m, r.AsksTracer m ∧
    (env.HasTracer p.selector m ∧ p.tracer = m ∨ ¬env.HasTracer p.selector m ∧ p.tracer = .noop)
  /-- The selector waits if a delay is asked for or configured. -/
  delay : p.delay = r.delay.or r.configuration.selector.debugDelayMs
  /-- Another delay changes nothing else. -/
  apart : ∀ d, { r with delay := d }.build env =
    .ok { p with delay := d.or r.configuration.selector.debugDelayMs }
  sparing : env.Sparing p.acquired
  connected : ∀ s, p.selector = .remote s → .connected s ∈ p.acquired
  loaded : ∀ f, p.selector = .script f → .loaded f ∈ p.acquired
  tracerConnected : ∀ s, p.tracer = .remote s →
    ∃ name, .connected name ∈ p.acquired ∧ SameFile name s
  tracerLoaded : ∀ f, p.tracer = .script f → ∃ name, .loaded name ∈ p.acquired ∧ SameFile name f

namespace PolicyRequest

variable {r : PolicyRequest} {env : Environment}

lemma build_of_invalid {e : InvalidConfiguration} (h : r.configuration.validate = .error e) :
    r.build env = .error e := by
  unfold build
  rw [h]
  rfl

/-- The policy built for what is asked for. -/
def outcome (r : PolicyRequest) (env : Environment) (S : SelectorMode) (T : TelemetryMode) :
    Policy where
  selector := (env.obtainSelector S []).1
  delay := r.delay.or r.configuration.selector.debugDelayMs
  tracer := (env.obtainTracer T (env.obtainSelector S []).2).1
  acquired := (env.obtainTracer T (env.obtainSelector S []).2).2

lemma build_of_modes {S : SelectorMode} {T : TelemetryMode}
    (h : r.configuration.validate = .ok ())
    (hS : r.selector.elim r.configuration.selectorMode .ok = .ok S)
    (hT : r.telemetry.elim r.configuration.telemetryMode .ok = .ok T) :
    r.build env = .ok (r.outcome env S T) := by
  unfold build
  rw [h, hS, hT]
  rfl

lemma settles_outcome {S : SelectorMode} {T : TelemetryMode}
    (h : r.configuration.validate = .ok ())
    (hS : r.selector.elim r.configuration.selectorMode .ok = .ok S)
    (hT : r.telemetry.elim r.configuration.telemetryMode .ok = .ok T) :
    r.Settles env (r.outcome env S T) where
  selector := ⟨S, asksSelector_of_eq_ok hS, env.obtainSelector_fst S⟩
  tracer := ⟨T, asksTracer_of_eq_ok hT, env.obtainTracer_fst S T⟩
  delay := rfl
  apart d := build_of_modes (r := { r with delay := d }) h hS hT
  sparing := (Environment.Sparing.obtainSelector List.Pairwise.nil S).obtainTracer T
  connected s hs := env.subset_obtainTracer T _ (((env.mem_obtainSelector_iff S).1 s).mpr hs)
  loaded f hf := env.subset_obtainTracer T _ (((env.mem_obtainSelector_iff S).2 f).mpr hf)
  tracerConnected := (env.obtainTracer_backed T _).1
  tracerLoaded := (env.obtainTracer_backed T _).2

/-- A valid configuration settles what is asked for. -/
lemma exists_modes (h : r.configuration.validate = .ok ()) :
    (∃ S, r.selector.elim r.configuration.selectorMode .ok = .ok S) ∧
      ∃ T, r.telemetry.elim r.configuration.telemetryMode .ok = .ok T := by
  obtain ⟨hS, hT⟩ := Configuration.modes_of_validate h
  constructor
  · cases r.selector with
    | none => exact hS
    | some m => exact ⟨m, rfl⟩
  · cases r.telemetry with
    | none => exact hT
    | some m => exact ⟨m, rfl⟩

end PolicyRequest

/-! ### Daemons -/

namespace Daemon

/-- What a daemon asks for as its selector. -/
inductive Selects (c : Configuration) : SelectorMode → Prop
  | script {path : String} (hm : c.selector.mode = .script)
      (hp : c.selector.scriptPath = some path) : Selects c (.script path)
  | default (hm : c.selector.mode ≠ .script) : Selects c .default

/-- What a daemon asks for as its tracer. -/
inductive Traces (c : Configuration) : TelemetryMode → Prop
  | script {path : String} (hm : c.telemetry.mode = .script)
      (hp : c.telemetry.scriptPath.or c.selector.scriptPath = some path) :
      Traces c (.script path)
  | logging (hm : c.telemetry.mode ≠ .script) : Traces c .logging

/-- What a daemon asks for is built, and nothing is asked for at a socket. -/
structure Settles (c : Configuration) (env : Environment) (p : Policy) : Prop where
  asked : ∃ S T, Selects c S ∧ Traces c T ∧
    ({ configuration := c, selector := some S, telemetry := some T } :
      PolicyRequest).Settles env p
  selector : p.selectorKind = .default ∨ p.selectorKind = .script
  tracer : p.tracerKind = .logging ∨ p.tracerKind = .script ∨ p.tracerKind = .noop
  alone : ∀ a ∈ p.acquired, ¬a.Contacts

variable {c : Configuration} {S : SelectorMode} {T : TelemetryMode}

lemma selects_of_eq_ok (h : selectorMode c = .ok S) : Selects c S := by
  unfold selectorMode at h
  cases hm : c.selector.mode with
  | default | remote =>
    rw [hm] at h
    cases h
    exact .default (by simp [hm])
  | script =>
    rw [hm] at h
    obtain ⟨path, hp, rfl⟩ := Configuration.selectorMode_of_script hm h
    exact .script hm hp

lemma traces_of_eq_ok (h : telemetryMode c = .ok T) : Traces c T := by
  unfold telemetryMode at h
  cases hm : c.telemetry.mode with
  | noop | logging | remote =>
    rw [hm] at h
    cases h
    exact .logging (by simp [hm])
  | script =>
    rw [hm] at h
    obtain ⟨path, hp, rfl⟩ := Configuration.telemetryMode_of_script hm h
    exact .script hm hp

lemma exists_modes (h : c.validate = .ok ()) :
    (∃ S, selectorMode c = .ok S) ∧ ∃ T, telemetryMode c = .ok T := by
  obtain ⟨hS, hT⟩ := Configuration.modes_of_validate h
  constructor
  · unfold selectorMode
    cases c.selector.mode with
    | script => exact hS
    | _ => exact ⟨.default, rfl⟩
  · unfold telemetryMode
    cases c.telemetry.mode with
    | script => exact hT
    | _ => exact ⟨.logging, rfl⟩

lemma exists_policy_eq_error {env : Environment} {e : InvalidConfiguration}
    (h : c.validate = .error e) : ∃ e', policy c env = .error e' := by
  unfold policy
  cases selectorMode c with
  | error e' => exact ⟨e', rfl⟩
  | ok S =>
    cases telemetryMode c with
    | error e' => exact ⟨e', rfl⟩
    | ok T => exact ⟨e, PolicyRequest.build_of_invalid h⟩

/-- Loading a script is no contact. -/
lemma alone_load (env : Environment) (f : String) {past : List Acquisition}
    (h : ∀ a ∈ past, ¬a.Contacts) : ∀ a ∈ (env.load f past).2, ¬a.Contacts := by
  rcases env.load_cases f past with ⟨-, he⟩ | ⟨-, -, he⟩ | ⟨-, -, he⟩
  · rwa [he]
  · simpa [he, or_imp, forall_and, Acquisition.Contacts] using h
  · simpa [he, or_imp, forall_and, Acquisition.Contacts] using h

/-- The heartbeat of a script is no contact. -/
lemma alone_startHeartbeat (f : String) {past : List Acquisition}
    (h : ∀ a ∈ past, ¬a.Contacts) : ∀ a ∈ Environment.startHeartbeat f past, ¬a.Contacts := by
  unfold Environment.startHeartbeat
  split_ifs
  · exact h
  · simpa [or_imp, forall_and, Acquisition.Contacts] using h

lemma alone_obtainSelector (env : Environment) (h : Selects c S) :
    ∀ a ∈ (env.obtainSelector S []).2, ¬a.Contacts := by
  cases h with
  | default hm => simp [Environment.obtainSelector]
  | @script path hm hp =>
    have hload : ∀ a ∈ (env.load path []).2, ¬a.Contacts := alone_load env path (by simp)
    rw [Environment.obtainSelector_script]
    split_ifs
    · exact alone_startHeartbeat path hload
    · exact hload

lemma alone_obtainTracer (env : Environment) (h : Traces c T) {past : List Acquisition}
    (hpast : ∀ a ∈ past, ¬a.Contacts) : ∀ a ∈ (env.obtainTracer T past).2, ¬a.Contacts := by
  cases h with
  | logging hm => exact hpast
  | @script path hm hp =>
    rw [Environment.obtainTracer_script]
    exact alone_load env path hpast

lemma settles_outcome {env : Environment} (h : c.validate = .ok ()) (hS : selectorMode c = .ok S)
    (hT : telemetryMode c = .ok T) :
    let r : PolicyRequest := { configuration := c, selector := some S, telemetry := some T }
    Settles c env (r.outcome env S T) := by
  intro r
  have hselects := selects_of_eq_ok hS
  have htraces := traces_of_eq_ok hT
  refine ⟨⟨S, T, hselects, htraces, r.settles_outcome h rfl rfl⟩, ?_, ?_, ?_⟩
  · rcases env.obtainSelector_fst S with ⟨-, he⟩ | ⟨-, he⟩
    · cases hselects <;> simp [Policy.selectorKind, PolicyRequest.outcome, he, SelectorMode.kind]
    · simp [Policy.selectorKind, PolicyRequest.outcome, he, SelectorMode.kind]
  · rcases env.obtainTracer_fst S T with ⟨-, he⟩ | ⟨-, he⟩
    · cases htraces <;> simp [Policy.tracerKind, PolicyRequest.outcome, he, TelemetryMode.kind]
    · simp [Policy.tracerKind, PolicyRequest.outcome, he, TelemetryMode.kind]
  · exact alone_obtainTracer env htraces (alone_obtainSelector env hselects)

end Daemon

/-- A policy is built, by request or for a daemon, just when the configuration is valid. It has
what was asked for where that can be had and the fallback where it cannot, a delay changes nothing
but the wait, and nothing is acquired twice. A daemon's policy has nothing at a socket. -/
theorem accepted_configuration_builds (env : Environment) :
    (∀ r : PolicyRequest,
      match r.configuration.validate with
      | .error e => r.build env = .error e
      | .ok () => ∃ p, r.build env = .ok p ∧ r.Settles env p) ∧
    ∀ c : Configuration,
      match c.validate with
      | .error _ => ∃ e, Daemon.policy c env = .error e
      | .ok () => ∃ p, Daemon.policy c env = .ok p ∧ Daemon.Settles c env p := by
  constructor
  · intro r
    cases h : r.configuration.validate with
    | error e => exact PolicyRequest.build_of_invalid h
    | ok u =>
      obtain ⟨⟨S, hS⟩, T, hT⟩ := PolicyRequest.exists_modes h
      exact ⟨_, PolicyRequest.build_of_modes h hS hT, PolicyRequest.settles_outcome h hS hT⟩
  · intro c
    cases h : c.validate with
    | error e => exact Daemon.exists_policy_eq_error h
    | ok u =>
      obtain ⟨⟨S, hS⟩, T, hT⟩ := Daemon.exists_modes h
      refine ⟨_, ?_, Daemon.settles_outcome h hS hT⟩
      unfold Daemon.policy
      rw [hS, hT]
      exact PolicyRequest.build_of_modes h rfl rfl

/-- One connection serves both where two names lead to one socket. -/
example :
    ({ selector := some (.remote "/run/p.sock"), telemetry := some (.remote "/run/./p.sock") } :
      PolicyRequest).build { connects := fun _ => true, loads := fun _ => false } =
    .ok {
      selector := .remote "/run/p.sock"
      tracer := .remote "/run/./p.sock"
      acquired := [.connected "/run/p.sock"] } := by
  rfl

end PathPolicy
