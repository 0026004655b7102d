import Mathlib.Tactic.TypeStar

set_option autoImplicit false

/-!
# Security modes

## Main definitions

* `MessageSecurityMode` — the mode of a secure channel. The chunk manager has its own
  copy of the enumeration (`Mode`, without the first value), to which the callers cast.
-/

namespace NodeOpcua

/-- `MessageSecurityMode`. -/
inductive MessageSecurityMode
  | Invalid
  | None
  | Sign
  | SignAndEncrypt
  deriving DecidableEq, Repr

end NodeOpcua
