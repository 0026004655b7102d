import NodeOpcua.ContentFilter.Comparison
import NodeOpcua.Library.AcyclicSearch
import NodeOpcua.NodeClass

set_option autoImplicit false

/-!
# Content filters

A content filter is an array of elements. An element has an operator and operands, which may refer
to other elements by their index. The first element is evaluated, and the elements that its
operands refer to in turn.

## Main definitions

* `ContentFilter`, `FilterContext`, `checkFilterAtIndex`, `validateContentFilter`, `checkFilter`.

## Design

* The evaluation need not end. It is given a number of nested calls it may make, and has no result
  when it needs more; the size of the call stack is not modelled.
* The methods of the context are functions: they return, and do not throw.
-/

namespace NodeOpcua

open BuiltIn

/-! ### Filters -/

/-- `FilterOperator`. -/
inductive FilterOperator
  | Equals
  | IsNull
  | GreaterThan
  | LessThan
  | GreaterThanOrEqual
  | LessThanOrEqual
  | Like
  | Not
  | Between
  | InList
  | And
  | Or
  | Cast
  | InView
  | OfType
  | RelatedTo
  | BitwiseAnd
  | BitwiseOr
  | unknown (code : ℤ)
  deriving DecidableEq, Repr

section

variable (U : CaseMapping) (X : Type)

/-- An operand of an element. -/
inductive FilterOperand
  | attributeOperand
  | simpleAttributeOperand (browsePath : Option (List QualifiedName))
  | literalOperand (value : Variant U X)
  | elementOperand (index : ℤ)
  | other (name : String)

/-- `ContentFilterElement`. The operands may be null. -/
structure ContentFilterElement where
  filterOperator : FilterOperator
  filterOperands : Option (List (Option (FilterOperand U X)))

/-- `ContentFilter`. The elements may be null. -/
structure ContentFilter where
  elements : Option (List (Option (ContentFilterElement U X)))

/-- A step of a browse path. -/
structure BrowsePathElement where
  referenceTypeId : NodeId U
  isInverse : Bool
  includeSubtypes : Bool
  targetName : QualifiedName

/-- `BrowsePath`. -/
structure BrowsePath where
  startingNode : Option (NodeId U)
  relativePath : List (BrowsePathElement U)

/-- **The context** of an evaluation. `getNodeClass` gives no class for what is no node
identifier. -/
structure FilterContext where
  eventSource : Option (NodeId U)
  isSubtypeOf : NodeId U → NodeId U → Bool
  getTypeDefinition : NodeId U → Option (NodeId U)
  readNodeValue : NodeId U → Variant U X
  getNodeClass : Option (NodeId U) → Option NodeClass
  getNodeClass_none : getNodeClass none = none
  browsePath : BrowsePath U → Option (NodeId U)

end

variable {U : CaseMapping} {X : Type}

/-- What is thrown. -/
inductive FilterError
  | nullRead (property : String)
  | notAFunction (method : String)
  | sameNodeId (message : String)
  | invalidIdentifierType
  deriving DecidableEq, Repr

/-! ### Operands -/

/-- `NodeId.isEmpty`. -/
def NodeId.isEmpty (n : NodeId U) : Bool :=
  match n.value with
  | .numeric value => value = 0
  | .string value => value = ""
  | .guid value => value.text = emptyGuid
  | .byteString value => value.getD [] = []

/-- `aggregatesReferencesId`. -/
def aggregatesReferencesId : NodeId U := ⟨0, .numeric 44⟩

/-- `constructBrowsePathFromQualifiedName`. -/
def constructBrowsePathFromQualifiedName (startingNode : Option (NodeId U))
    (targetNames : Option (List QualifiedName)) : BrowsePath U where
  startingNode := startingNode
  relativePath := (targetNames.getD []).map fun targetName =>
    ⟨aggregatesReferencesId, false, true, targetName⟩

/-- `resolveOperand`, for a simple attribute operand. -/
def resolveOperand (filterContext : FilterContext U X) (browsePath : Option (List QualifiedName)) :
    Variant U X :=
  let path := constructBrowsePathFromQualifiedName filterContext.eventSource browsePath
  match filterContext.browsePath path with
  | none => .scalar .null
  | some target =>
    if filterContext.getNodeClass (some target) = some .Variable then
      filterContext.readNodeValue target
    else .scalar (.statusCode (some .BadNodeClassInvalid))

/-- What an operand gives before it is converted: null, the result of another element, or a
variant. -/
inductive Evaluated (U : CaseMapping) (X : Type)
  | null
  | boolean (value : Bool)
  | variant (value : Variant U X)

/-- An evaluation: it throws or gives a value, or needs more nested calls. -/
abbrev Evaluation (α : Type) := ExceptT FilterError Option α

/-- An evaluation that makes no nested calls. -/
def finished {α : Type} (x : Except FilterError α) : Evaluation α := ExceptT.mk (some x)

/-- The operand at a position, or null. -/
def operandAt (operands : List (Option (FilterOperand U X))) (i : ℕ) : Option (FilterOperand U X) :=
  operands[i]?.join

/-- `evaluateOperand`, where `check` evaluates an element. -/
def evaluateOperand {α : Type} (filterContext : FilterContext U X) (check : ℤ → Evaluation Bool)
    (operand : Option (FilterOperand U X)) (coerce : Evaluated U X → Except FilterError α) :
    Evaluation α :=
  match operand with
  | some .attributeOperand => finished (coerce (.variant (.scalar .null)))
  | some (.simpleAttributeOperand browsePath) =>
    finished (coerce (.variant (resolveOperand filterContext browsePath)))
  | some (.literalOperand value) => finished (coerce (.variant value))
  | some (.elementOperand index) => do
    let value ← check index
    finished (coerce (.boolean value))
  | _ => finished (coerce .null)

/-! ### Conversions -/

section

variable (objects : Objects U X)

/-- `_coerceToBoolean`. -/
def coerceToBoolean : Evaluated U X → Except FilterError Bool
  | .null => .ok false
  | .boolean value => .ok value
  | .variant value =>
    match value.primitive with
    | none => .ok true
    | some value => .ok value.truthy

/-- `value.value.getTime()`. -/
def getTime : Variant U X → Except FilterError ℤ
  | .scalar (.dateTime (some date)) => .ok date.getTime
  | value =>
    if value.primitive = some .null then .error (.nullRead "getTime")
    else .error (.notAFunction "getTime")

/-- `value.value?.getTime()`: `none` for `undefined`. -/
def optionalTime (value : Variant U X) : Except FilterError (Option ℤ) :=
  if value.primitive = some .null then .ok none else (getTime value).map some

/-- `value.value.toLowerCase()`. -/
def toLowerCase (value : Variant U X) : Except FilterError String :=
  match value.primitive with
  | some (.text text) => .ok (objects.toLowerCase text)
  | some .null => .error (.nullRead "toLowerCase")
  | _ => .error (.notAFunction "toLowerCase")

/-- `value.value.toString("hex")`. -/
def toHexString : Variant U X → Except FilterError String
  | .scalar (.byteString (some bytes)) => .ok (String.ofList (Hexadecimal.hexString bytes))
  | value =>
    if value.primitive = some .null then .error (.nullRead "toString")
    else .ok (objects.toString value)

/-- `value.value.text`, for a value that is not null: `none` for `undefined`. -/
def textProperty : Variant U X → Option (Option String)
  | .scalar (.localizedText (some value)) => some value.text
  | _ => none

/-- `value.value.name`. -/
def nameProperty : Variant U X → Option (Option String)
  | .scalar (.qualifiedName (some value)) => some value.name
  | .scalar (.statusCode (some value)) => some (some (objects.statusCodeName value))
  | _ => none

/-- `value.value.namespaceIndex`. -/
def namespaceIndexProperty : Variant U X → Option UInt16
  | .scalar (.qualifiedName (some value)) => some value.namespaceIndex
  | _ => none

/-- A property that is compared. -/
def Comparable.ofProperty : Option (Option String) → Comparable
  | none => .undefined
  | some none => .null
  | some (some value) => .text value

/-- `_coerceToCompareable`. -/
def coerceToCompareable : Evaluated U X → Except FilterError Comparable
  | .null => .ok (.text "")
  | .boolean _ => .ok (.text "")
  | .variant value =>
    match value.dataType with
    | .string | .byte | .sByte | .int16 | .int32 | .uint16 | .uint32 | .double | .xmlElement =>
      .ok (Comparable.ofValue objects value)
    | .dateTime => (getTime value).map fun time => .number (Number.ofInt time)
    | .guid => (toLowerCase objects value).map Comparable.text
    | .byteString => (toHexString objects value).map Comparable.text
    | .localizedText =>
      if value.primitive = some .null then .error (.nullRead "text")
      else .ok (.ofProperty (textProperty value))
    | .qualifiedName =>
      if value.primitive = some .null then .error (.nullRead "name")
      else .ok (.ofProperty (nameProperty objects value))
    | _ => .ok (.text "")

/-! ### Operators -/

/-- `"" + (value.value || "")`. -/
def textOf (value : Variant U X) : String :=
  match value.primitive with
  | none => objects.toString value
  | some .null => ""
  | some (.boolean value) => if value then "true" else ""
  | some (.number value) =>
    if (Primitive.number value).truthy then String.ofList value.toChars else ""
  | some (.text value) => value

/-- The node identifier in a value. -/
def nodeIdOf : Variant U X → Option (NodeId U)
  | .scalar (.nodeId value) => value
  | .scalar (.expandedNodeId value) => value.map ExpandedNodeId.toNodeId
  | _ => none

/-- `sameNodeId`, for the values of two variants. -/
def sameNodeIdOf (a b : Variant U X) : Except FilterError Bool :=
  if a.primitive = some .null ∨ b.primitive = some .null then .error (.nullRead "identifierType")
  else
    match nodeIdOf a, nodeIdOf b with
    | some n1, some n2 =>
      match sameNodeId n1 n2 with
      | .ok same => .ok same
      | .error message => .error (.sameNodeId message)
    | none, none => .error .invalidIdentifierType
    | _, _ => .ok false

/-- `isVariantEqual`, for two variants. -/
def isSameValue (a b : Variant U X) : Except FilterError Bool :=
  match a.dataType with
  | .null => .ok (b.dataType = .null)
  | .boolean | .byte | .sByte | .int16 | .int32 | .uint16 | .uint32 | .double | .string
  | .xmlElement => .ok (strictEqual objects a b)
  | .nodeId => sameNodeIdOf a b
  | .dateTime => do
    let timeA ← optionalTime a
    let timeB ← getTime b
    return timeA = some timeB
  | .guid => do
    let textA ← toLowerCase objects a
    return textA = objects.toLowerCase (textOf objects b)
  | .byteString =>
    if b.dataType ≠ .byteString then return false
    else do
      let hexA ← toHexString objects a
      let hexB ← toHexString objects b
      return hexA = hexB
  | .localizedText => .ok (textProperty a = textProperty b)
  | .qualifiedName =>
    .ok (namespaceIndexProperty a = namespaceIndexProperty b ∧
      nameProperty objects a = nameProperty objects b)
  | _ => .ok false

/-- `isVariantEqual`, when the second operand is no variant but the result of an element: its
`dataType` and `value` are undefined. -/
def isSameAsBoolean (a : Variant U X) : Except FilterError Bool :=
  match a.dataType with
  | .nodeId => .error (.nullRead "identifierType")
  | .dateTime => do
    let _ ← optionalTime a
    throw (.nullRead "getTime")
  | .guid => do
    let textA ← toLowerCase objects a
    return textA = objects.toLowerCase ""
  | .localizedText => .ok (textProperty a = none)
  | .qualifiedName => .ok (namespaceIndexProperty a = none ∧ nameProperty objects a = none)
  | _ => .ok false

/-- `isVariantEqual`, when the second operand is null. -/
def isSameAsNull (a : Variant U X) : Except FilterError Bool :=
  match a.dataType with
  | .null | .byteString => .error (.nullRead "dataType")
  | .boolean | .byte | .sByte | .int16 | .int32 | .uint16 | .uint32 | .double | .string
  | .xmlElement | .nodeId | .localizedText | .qualifiedName => .error (.nullRead "value")
  | .dateTime => do
    let _ ← optionalTime a
    throw (.nullRead "value")
  | .guid => do
    let _ ← toLowerCase objects a
    throw (.nullRead "value")
  | _ => .ok false

/-- `isVariantEqual`. -/
def isVariantEqual : Evaluated U X → Evaluated U X → Except FilterError Bool
  | .null, _ => .error (.nullRead "dataType")
  | .boolean _, _ => .ok false
  | .variant a, .variant b => isSameValue objects a b
  | .variant a, .boolean _ => isSameAsBoolean objects a
  | .variant a, .null => isSameAsNull objects a

/-- `checkOfType`. -/
def checkOfType (filterContext : FilterContext U X) (ofType : Option (FilterOperand U X)) : Bool :=
  match ofType with
  | some (.literalOperand value) =>
    if value.dataType ≠ .nodeId then false
    else
      match nodeIdOf value with
      | none => false
      | some ofTypeNode =>
        let ofTypeNodeNodeClass := filterContext.getNodeClass (some ofTypeNode)
        if ofTypeNodeNodeClass ≠ some .ObjectType ∧ ofTypeNodeNodeClass ≠ some .VariableType ∧
            ofTypeNodeNodeClass ≠ some .DataType ∧ ofTypeNodeNodeClass ≠ some .ReferenceType then
          false
        else
          match filterContext.eventSource with
          | none => false
          | some eventSource =>
            if eventSource.isEmpty then false
            else
              let sourceNodeClass := filterContext.getNodeClass (some eventSource)
              if sourceNodeClass = some .Object ∨ sourceNodeClass = some .Variable then
                match filterContext.getTypeDefinition eventSource with
                | none => false
                | some sourceTypeDefinition =>
                  filterContext.isSubtypeOf sourceTypeDefinition ofTypeNode
              else filterContext.isSubtypeOf eventSource ofTypeNode
  | _ => false

/-- `_is`, for a literal: the class of its node is looked up first. -/
def isListed (filterContext : FilterContext U X) (value operandX : Variant U X) :
    Except FilterError Bool :=
  if operandX.dataType ≠ .nodeId then .ok false
  else if filterContext.getNodeClass (nodeIdOf operandX) = none then .ok false
  else sameNodeIdOf value operandX

/-- The loop of `checkInList` over the operands after the first one. -/
def checkList (filterContext : FilterContext U X) (value : Variant U X) :
    List (Option (FilterOperand U X)) → Except FilterError Bool
  | [] => .ok false
  | some (.literalOperand operandX) :: operands => do
    if ← isListed filterContext value operandX then return true
    else checkList filterContext value operands
  | _ :: operands => checkList filterContext value operands

/-- `checkInList`. -/
def checkInList (filterContext : FilterContext U X)
    (filterOperands : List (Option (FilterOperand U X))) : Except FilterError Bool :=
  match operandAt filterOperands 0 with
  | some (.simpleAttributeOperand browsePath) =>
    let value := resolveOperand filterContext browsePath
    if value.dataType ≠ .nodeId ∨ value.primitive = some .null then .ok false
    else checkList filterContext value (filterOperands.drop 1)
  | none => .error (.nullRead "constructor")
  | some _ => .ok false

/-! ### Evaluation -/

variable (filterContext : FilterContext U X) (check : ℤ → Evaluation Bool)
  (filteredOperands : List (Option (FilterOperand U X)))

/-- An operator that compares two values. -/
def checkComparison (compare : Comparable → Comparable → Bool) : Evaluation Bool := do
  let operandA ← evaluateOperand filterContext check (operandAt filteredOperands 0)
    (coerceToCompareable objects)
  let operandB ← evaluateOperand filterContext check (operandAt filteredOperands 1)
    (coerceToCompareable objects)
  return compare operandA operandB

/-- `checkLessThan`. -/
def checkLessThan : Evaluation Bool :=
  checkComparison objects filterContext check filteredOperands Comparable.lessThan

/-- `checkLessThanOrEqual`. -/
def checkLessThanOrEqual : Evaluation Bool :=
  checkComparison objects filterContext check filteredOperands Comparable.lessThanOrEqual

/-- `checkGreaterThan`. -/
def checkGreaterThan : Evaluation Bool :=
  checkComparison objects filterContext check filteredOperands fun a b => b.lessThan a

/-- `checkGreaterThanOrEqual`. -/
def checkGreaterThanOrEqual : Evaluation Bool :=
  checkComparison objects filterContext check filteredOperands fun a b => b.lessThanOrEqual a

/-- `checkBetween`. -/
def checkBetween : Evaluation Bool := do
  let operandA ← evaluateOperand filterContext check (operandAt filteredOperands 0)
    (coerceToCompareable objects)
  let operandLow ← evaluateOperand filterContext check (operandAt filteredOperands 1)
    (coerceToCompareable objects)
  let operandHigh ← evaluateOperand filterContext check (operandAt filteredOperands 2)
    (coerceToCompareable objects)
  return operandLow.lessThanOrEqual operandA && operandA.lessThanOrEqual operandHigh

/-- `checkEquals`. -/
def checkEquals : Evaluation Bool := do
  let operandA ← evaluateOperand filterContext check (operandAt filteredOperands 0) .ok
  let operandB ← evaluateOperand filterContext check (operandAt filteredOperands 1) .ok
  finished (isVariantEqual objects operandA operandB)

end

section

variable (filterContext : FilterContext U X) (check : ℤ → Evaluation Bool)
  (filteredOperands : List (Option (FilterOperand U X)))

/-- `checkNot`. -/
def checkNot : Evaluation Bool := do
  let operandA ← evaluateOperand filterContext check (operandAt filteredOperands 0) coerceToBoolean
  return !operandA

/-- `checkOr`. -/
def checkOr : Evaluation Bool := do
  let operandA ← evaluateOperand filterContext check (operandAt filteredOperands 0) coerceToBoolean
  let operandB ← evaluateOperand filterContext check (operandAt filteredOperands 1) coerceToBoolean
  return operandA || operandB

/-- `checkAnd`. -/
def checkAnd : Evaluation Bool := do
  let operandA ← evaluateOperand filterContext check (operandAt filteredOperands 0) coerceToBoolean
  let operandB ← evaluateOperand filterContext check (operandAt filteredOperands 1) coerceToBoolean
  return operandA && operandB

end

/-- The element at an index; `none` when there is none or it is null. -/
def ContentFilter.elementAt (filter : ContentFilter U X) (index : ℤ) :
    Option (ContentFilterElement U X) :=
  if index < 0 then none else ((filter.elements.getD [])[index.toNat]?).join

/-- The operators of `checkFilterAtIndex`. -/
def checkElement (objects : Objects U X) (filterContext : FilterContext U X)
    (check : ℤ → Evaluation Bool) (element : ContentFilterElement U X) : Evaluation Bool :=
  let filterOperands := element.filterOperands.getD []
  match element.filterOperator with
  | .Equals => checkEquals objects filterContext check filterOperands
  | .LessThan => checkLessThan objects filterContext check filterOperands
  | .LessThanOrEqual => checkLessThanOrEqual objects filterContext check filterOperands
  | .GreaterThan => checkGreaterThan objects filterContext check filterOperands
  | .GreaterThanOrEqual => checkGreaterThanOrEqual objects filterContext check filterOperands
  | .Between => checkBetween objects filterContext check filterOperands
  | .And => checkAnd filterContext check filterOperands
  | .Or => checkOr filterContext check filterOperands
  | .Not => checkNot filterContext check filterOperands
  | .OfType =>
    match element.filterOperands with
    | none => throw (.nullRead "0")
    | some filterOperands => return checkOfType filterContext (operandAt filterOperands 0)
  | .InList => finished (checkInList filterContext filterOperands)
  | .RelatedTo | .Like | .BitwiseAnd | .BitwiseOr | .Cast | .InView | .IsNull | .unknown _ =>
    return false

/-- `checkFilterAtIndex`, with a number of nested calls that it may make. -/
def checkFilterAtIndex (objects : Objects U X) (filterContext : FilterContext U X)
    (filter : ContentFilter U X) (calls : ℕ) (index : ℤ) : Evaluation Bool :=
  match calls with
  | 0 => ExceptT.mk none
  | calls + 1 =>
    if filter.elements.getD [] = [] then return true
    else
      match filter.elementAt index with
      | none => return true
      | some element =>
        checkElement objects filterContext (checkFilterAtIndex objects filterContext filter calls)
          element

/-! ### Validation -/

/-- `operandCountByOperator`: the least and the greatest number of operands, `none` for infinity. -/
def operandCountByOperator : FilterOperator → Option (ℕ × Option ℕ)
  | .Equals => some (2, some 2)
  | .IsNull => some (1, some 1)
  | .GreaterThan => some (2, some 2)
  | .LessThan => some (2, some 2)
  | .GreaterThanOrEqual => some (2, some 2)
  | .LessThanOrEqual => some (2, some 2)
  | .Like => some (2, some 2)
  | .Not => some (1, some 1)
  | .Between => some (3, some 3)
  | .InList => some (2, none)
  | .And => some (2, some 2)
  | .Or => some (2, some 2)
  | .Cast => some (2, some 2)
  | .BitwiseAnd => some (2, some 2)
  | .BitwiseOr => some (2, some 2)
  | .InView => some (1, some 1)
  | .OfType => some (1, some 1)
  | .RelatedTo => some (6, some 6)
  | .unknown _ => none

/-- The number of operands is as expected, or nothing is expected. -/
def countMatches (operator : FilterOperator) (count : ℕ) : Bool :=
  match operandCountByOperator operator with
  | none => true
  | some (min, none) => min ≤ count
  | some (min, some max) => min ≤ count && count ≤ max

/-- The indices in element operands, when all of them are within the bounds. -/
def collectTargets (n : ℕ) :
    List (Option (FilterOperand U X)) → Except StatusCode (List ℕ)
  | [] => .ok []
  | some (.elementOperand index) :: operands =>
    if index < 0 ∨ n ≤ index then .error .BadFilterElementInvalid
    else do
      let targets ← collectTargets n operands
      return index.toNat :: targets
  | _ :: operands => collectTargets n operands

/-- `inspect`: the elements an element refers to. -/
def inspect (filter : ContentFilter U X) (elementIndex : ℕ) : Except StatusCode (List ℕ) :=
  match filter.elementAt elementIndex with
  | none => .ok []
  | some element =>
    let operands := element.filterOperands.getD []
    if countMatches element.filterOperator operands.length then
      collectTargets (filter.elements.getD []).length operands
    else .error .BadFilterOperandCountMismatch

/-- `validateContentFilter`. -/
def validateContentFilter (filter : ContentFilter U X) : StatusCode :=
  let n := (filter.elements.getD []).length
  if n = 0 then .Good
  else
    match AcyclicSearch.search (inspect filter) .BadFilterElementInvalid n 0 with
    | .ok () => .Good
    | .error statusCode => statusCode

/-- `checkFilter`, with a number of nested calls that the evaluation may make. -/
def checkFilter (objects : Objects U X) (filterContext : FilterContext U X)
    (contentFilter : ContentFilter U X) (calls : ℕ) : Evaluation Bool :=
  if validateContentFilter contentFilter ≠ .Good then return false
  else checkFilterAtIndex objects filterContext contentFilter calls 0

end NodeOpcua
