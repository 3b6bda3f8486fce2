import PathPolicy.Selector.Basic

/-!
# Selectors that take their time

`Selector.delayed` waits before each operation and then passes it on unchanged, to show what a slow
policy does to its caller.
-/

namespace PathPolicy

variable {σ : Type}

def Selector.delayed (ms : Nat) (S : Selector σ) : Selector σ where
  start r ps := do .pause ms; S.start r ps
  path r := do .pause ms; S.path r
  pathDown r f i := do .pause ms; S.pathDown r f i
  refresh r ps := do .pause ms; S.refresh r ps
  close r := do .pause ms; S.close r

end PathPolicy
