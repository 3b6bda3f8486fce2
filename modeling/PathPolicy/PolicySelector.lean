import PathPolicy.Selector.Basic

/-!
# The selector of a policy

Whoever has a policy asks its selector, and does not see which one decides: each operation is passed
on to the selector that is held, and answered what that one answers.
-/

namespace PathPolicy

/-- One of the selectors that a policy can have: of a kind that can be configured, or `none` for one
that waits and then asks another. -/
structure PolicySelector (σ : Type) where
  kind : Option SelectorKind
  held : Selector σ

namespace PolicySelector

variable {σ : Type}

def selector (P : PolicySelector σ) : Selector σ where
  start r ps := P.held.start r ps
  path r := P.held.path r
  pathDown r f i := P.held.pathDown r f i
  refresh r ps := P.held.refresh r ps
  close r := P.held.close r

end PolicySelector

end PathPolicy
