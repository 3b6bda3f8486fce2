import PathPolicy.Proofs.SelectorRequest
import PathPolicy.Proofs.SelectorService
import PathPolicy.Selector.Failover

/-!
# Failover for a client at the far end of a connection

The paths of a client arrive without the labels of their objects, and its remotes under names of
its own. Failover looks at neither, so for each remote of the client it chooses the same path as it
would at home.
-/

namespace PathPolicy

namespace Choice

def bare (c : Choice) : Choice := { c with paths := c.paths.map PathObject.bare }

lemma chosen_bare (c : Choice) : c.bare.chosen = c.chosen.map PathObject.bare :=
  List.getElem?_map

lemma isHealthy_bare (c : Choice) (f : Fingerprint) (i : Interface) :
    c.bare.isHealthy f i = c.isHealthy f i := by
  funext position
  simp only [isHealthy, bare, List.getElem?_map]
  cases c.paths[position]? <;> rfl

lemma candidates_bare (c : Choice) : c.bare.candidates = c.candidates := by
  simp only [candidates, bare, List.length_map]

lemma pathDown_bare (c : Choice) (f : Fingerprint) (i : Interface) :
    c.bare.pathDown f i = (c.pathDown f i).bare := by
  simp only [pathDown, chosen_bare, isHealthy_bare, candidates_bare]
  cases hc : c.chosen with
  | none => rfl
  | some o =>
    simp only [Option.map_some, PathObject.bare]
    split
    · cases c.candidates.find? (c.isHealthy f i) <;> rfl
    · rfl

lemma refresh_bare (c : Choice) (ps : List PathObject) :
    c.bare.refresh (ps.map PathObject.bare) = (c.refresh ps).bare := by
  simp only [refresh, chosen_bare]
  cases c.chosen with
  | none => rfl
  | some o =>
    simp only [Option.map_some, bare, List.findIdx?_map]
    rfl

lemma paths_pathDown (c : Choice) (f : Fingerprint) (i : Interface) :
    (c.pathDown f i).paths = c.paths := by
  unfold pathDown
  split
  · rfl
  · split
    · split <;> rfl
    · rfl

lemma paths_refresh (c : Choice) (ps : List PathObject) : (c.refresh ps).paths = ps := by
  unfold refresh
  split <;> rfl

end Choice

namespace FailoverState

/-- The paths on offer for `r`; none without an offer. -/
def offered (s : FailoverState) (r : RemoteAddress) : List PathObject :=
  ((s.choices.get? r).map Choice.paths).getD []

lemma mem_offered_of_path {s : FailoverState} {r : RemoteAddress} {o : PathObject}
    (h : s.path r = some o) : o ∈ s.offered r := by
  obtain ⟨c, hc, ho⟩ := Option.bind_eq_some_iff.mp h
  simp only [offered, hc, Option.map_some, Option.getD_some]
  exact List.mem_of_getElem? ho

lemma offered_start (s : FailoverState) (r r' : RemoteAddress) (ps : List PathObject) :
    (s.start r ps).offered r' = if r' = r then ps else s.offered r' := by
  simp only [offered, start, Dictionary.get?_insert]
  split <;> rfl

lemma offered_pathDown (s : FailoverState) (r r' : RemoteAddress) (f : Fingerprint)
    (i : Interface) : (s.pathDown r f i).offered r' = s.offered r' := by
  simp only [offered, pathDown, Dictionary.get?_modify]
  split
  · rename_i hr
    subst hr
    cases s.choices.get? r' <;> simp [Choice.paths_pathDown]
  · rfl

lemma offered_refresh (s : FailoverState) (r r' : RemoteAddress) (ps : List PathObject) :
    (s.refresh r ps).offered r' = if r' = r then ps else s.offered r' := by
  simp only [offered, refresh, Dictionary.get?_insert]
  split
  · exact Choice.paths_refresh _ ps
  · rfl

lemma offered_close (s : FailoverState) (r r' : RemoteAddress) :
    (s.close r).offered r' = if r' = r then [] else s.offered r' := by
  simp only [offered, close, Dictionary.get?_erase]
  split <;> rfl

/-- The choices for a client's remotes are those made at home. -/
def Serves (served : FailoverState) (c : ClientId) (s : FailoverState) : Prop :=
  ∀ r, served.choices.get? (c.scoped r) = (s.choices.get? r).map Choice.bare

variable {served s : FailoverState} {c : ClientId}

lemma serves_empty (c : ClientId) : ({} : FailoverState).Serves c {} := fun _ => rfl

lemma Serves.path (h : served.Serves c s) (r : RemoteAddress) :
    served.path (c.scoped r) = (s.path r).map PathObject.bare := by
  simp only [FailoverState.path, h r]
  cases s.choices.get? r with
  | none => rfl
  | some choice => exact choice.chosen_bare

lemma Serves.start (h : served.Serves c s) (r : RemoteAddress) (ps : List PathObject) :
    (served.start (c.scoped r) (ps.map PathObject.bare)).Serves c (s.start r ps) := by
  intro r'
  simp only [FailoverState.start, Dictionary.get?_insert, c.scoped_inj, h r']
  split <;> rfl

lemma Serves.pathDown (h : served.Serves c s) (r : RemoteAddress) (f : Fingerprint)
    (i : Interface) : (served.pathDown (c.scoped r) f i).Serves c (s.pathDown r f i) := by
  intro r'
  simp only [FailoverState.pathDown, Dictionary.get?_modify, c.scoped_inj, h r', h r]
  split
  · simp only [Option.map_map]
    exact congrArg (fun g => Option.map g _) (funext fun choice => choice.pathDown_bare f i)
  · rfl

lemma Serves.refresh (h : served.Serves c s) (r : RemoteAddress) (ps : List PathObject) :
    (served.refresh (c.scoped r) (ps.map PathObject.bare)).Serves c (s.refresh r ps) := by
  intro r'
  simp only [FailoverState.refresh, Dictionary.get?_insert, c.scoped_inj, h r', h r]
  split
  · cases s.choices.get? r with
    | none => rfl
    | some choice => exact congrArg some (choice.refresh_bare ps)
  · rfl

lemma Serves.close (h : served.Serves c s) (r : RemoteAddress) :
    (served.close (c.scoped r)).Serves c (s.close r) := by
  intro r'
  simp only [FailoverState.close, Dictionary.get?_erase, c.scoped_inj, h r']
  split <;> rfl

end FailoverState

end PathPolicy
