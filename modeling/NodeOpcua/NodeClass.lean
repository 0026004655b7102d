set_option autoImplicit false

/-!
# Node classes

## Main definitions

* `NodeClass`.

## Design

* `Unspecified`, which stands for no class, is left to an `Option`.
-/

namespace NodeOpcua

/-- `NodeClass`. -/
inductive NodeClass
  | Object
  | Variable
  | Method
  | ObjectType
  | VariableType
  | ReferenceType
  | DataType
  | View
  deriving DecidableEq, Repr

end NodeOpcua
