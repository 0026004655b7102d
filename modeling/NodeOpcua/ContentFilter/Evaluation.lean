import NodeOpcua.ContentFilter.Validation

set_option autoImplicit false

/-!
# The evaluation of a good filter

The evaluation of a good filter ends. It gives a boolean exactly when the operator of every element
that it comes to can deal with the values of its operands.

## Main definitions

* `ContentFilter.Evaluates`, `ElementSafe`.

## Main results

* `isVariantEqual_ok_iff`, `coerceToCompareable_ok_iff`, `checkInList_ok_iff`.
* `checkFilterAtIndex_result`, `contentFilter_safe_iff`.
-/

namespace NodeOpcua

open AcyclicSearch BuiltIn
open Except (exists_bind_eq_ok_iff exists_bind_pure_eq_ok_iff)

variable {U : CaseMapping} {X : Type}

/-! ### Conditions on the operands -/

/-- The value of an operand before it is converted. Of the result of an element it only matters that
it is a boolean. -/
def operandValue (filterContext : FilterContext U X) : Option (FilterOperand U X) → Evaluated U X
  | some .attributeOperand => .variant (.scalar .null)
  | some (.simpleAttributeOperand browsePath) => .variant (resolveOperand filterContext browsePath)
  | some (.literalOperand value) => .variant value
  | some (.elementOperand _) => .boolean false
  | _ => .null

/-- The value is a date. -/
def IsDate (value : Variant U X) : Prop := ∃ date, value = .scalar (.dateTime (some date))

/-- The value is a text. -/
def IsText (value : Variant U X) : Prop := ∃ text, value.primitive = some (.text text)

/-- **A value can be ordered**: a date is a date, a GUID a text, and a structure is not null. -/
def ComparableSafe : Evaluated U X → Prop
  | .null => True
  | .boolean _ => True
  | .variant value =>
    match value.dataType with
    | .dateTime => IsDate value
    | .guid => IsText value
    | .byteString | .localizedText | .qualifiedName => value.primitive ≠ some .null
    | _ => True

/-- Two values can be compared as node identifiers. -/
def NodeIdsSafe (a b : Variant U X) : Prop :=
  a.primitive ≠ some .null ∧ b.primitive ≠ some .null ∧ (nodeIdOf a = none → nodeIdOf b ≠ none) ∧
    ∀ n1 n2, nodeIdOf a = some n1 → nodeIdOf b = some n2 → ¬ NullCompared n1 n2

/-- **Two values can be compared** for equality. -/
def EqualSafe : Evaluated U X → Evaluated U X → Prop
  | .null, _ => False
  | .boolean _, _ => True
  | .variant a, b =>
    match a.dataType with
    | .float | .int64 | .uint64 | .expandedNodeId | .statusCode | .extensionObject | .dataValue
    | .variant | .diagnosticInfo => True
    | .nodeId => ∃ value, b = .variant value ∧ NodeIdsSafe a value
    | .dateTime =>
      (a.primitive = some .null ∨ IsDate a) ∧ ∃ value, b = .variant value ∧ IsDate value
    | .guid => IsText a ∧ b ≠ .null
    | .byteString =>
      b ≠ .null ∧ ∀ value, b = .variant value → value.dataType = .byteString →
        a.primitive ≠ some .null ∧ value.primitive ≠ some .null
    | _ => b ≠ .null

/-- A literal in a list is compared: it is a node identifier, and its node has a class. -/
def ListCompared (filterContext : FilterContext U X) (literal : Variant U X) : Prop :=
  literal.dataType = .nodeId ∧ filterContext.getNodeClass (nodeIdOf literal) ≠ none

/-- **A list can be searched** for a value: what comes before the first literal that is equal can be
compared with the value. -/
def ListSafe (filterContext : FilterContext U X) (value : Variant U X) :
    List (Option (FilterOperand U X)) → Prop
  | [] => True
  | some (.literalOperand literal) :: operands =>
    (ListCompared filterContext literal → NodeIdsSafe value literal) ∧
      (ListCompared filterContext literal ∧ nodeIdOf value = nodeIdOf literal ∨
        ListSafe filterContext value operands)
  | _ :: operands => ListSafe filterContext value operands

/-- The operands of `InList` can be dealt with. -/
def InListSafe (filterContext : FilterContext U X) (operands : List (Option (FilterOperand U X))) :
    Prop :=
  operandAt operands 0 ≠ none ∧
    ∀ browsePath, operandAt operands 0 = some (.simpleAttributeOperand browsePath) →
      (resolveOperand filterContext browsePath).dataType = .nodeId →
      (resolveOperand filterContext browsePath).primitive ≠ some .null →
      ListSafe filterContext (resolveOperand filterContext browsePath) (operands.drop 1)

/-- **The operator of an element can deal with its operands**. -/
def ElementSafe (filterContext : FilterContext U X) (element : ContentFilterElement U X) : Prop :=
  let operands := element.filterOperands.getD []
  let value := fun i => operandValue filterContext (operandAt operands i)
  match element.filterOperator with
  | .Equals => EqualSafe (value 0) (value 1)
  | .LessThan | .LessThanOrEqual | .GreaterThan | .GreaterThanOrEqual =>
    ComparableSafe (value 0) ∧ ComparableSafe (value 1)
  | .Between => ComparableSafe (value 0) ∧ ComparableSafe (value 1) ∧ ComparableSafe (value 2)
  | .InList => InListSafe filterContext operands
  | _ => True

/-- The operators that evaluate their operands. -/
def FilterOperator.evaluatesOperands : FilterOperator → Bool
  | .Equals | .LessThan | .LessThanOrEqual | .GreaterThan | .GreaterThanOrEqual | .Between | .And
  | .Or | .Not => true
  | _ => false

/-- **The evaluation of an element** evaluates another one. -/
def ContentFilter.Evaluates (filter : ContentFilter U X) (i j : ℤ) : Prop :=
  ∃ element, filter.elementAt i = some element ∧
    element.filterOperator.evaluatesOperands = true ∧
    some (.elementOperand j) ∈ element.filterOperands.getD []

/-- **All elements that are evaluated are safe**. -/
def FilterSafe (filterContext : FilterContext U X) (filter : ContentFilter U X) : Prop :=
  ∀ i element, Relation.ReflTransGen filter.Evaluates 0 i → filter.elementAt i = some element →
    ElementSafe filterContext element

/-! ### When the operators throw -/

section

variable (objects : Objects U X)

lemma getTime_ok_iff (value : Variant U X) : (∃ time, getTime value = .ok time) ↔ IsDate value := by
  constructor
  · rintro ⟨time, h⟩
    unfold getTime at h
    split at h
    · exact ⟨_, rfl⟩
    · split_ifs at h
  · rintro ⟨date, rfl⟩
    exact ⟨_, rfl⟩

lemma toLowerCase_ok_iff (value : Variant U X) :
    (∃ text, toLowerCase objects value = .ok text) ↔ IsText value := by
  constructor
  · rintro ⟨text, h⟩
    unfold toLowerCase at h
    split at h
    · next hprimitive => exact ⟨_, hprimitive⟩
    · cases h
    · cases h
  · rintro ⟨text, h⟩
    rw [toLowerCase, h]
    exact ⟨_, rfl⟩

lemma toHexString_ok_iff (value : Variant U X) :
    (∃ text, toHexString objects value = .ok text) ↔ value.primitive ≠ some .null := by
  unfold toHexString
  split
  · exact iff_of_true ⟨_, rfl⟩ nofun
  · split_ifs with h
    · exact iff_of_false nofun fun hne => hne h
    · exact iff_of_true ⟨_, rfl⟩ h

/-- **Values that can be ordered** are converted. -/
theorem coerceToCompareable_ok_iff (value : Evaluated U X) :
    (∃ c, coerceToCompareable objects value = .ok c) ↔ ComparableSafe value := by
  cases value with
  | null | boolean value => exact iff_of_true ⟨_, rfl⟩ trivial
  | variant value =>
    rw [coerceToCompareable, ComparableSafe]
    cases hdata : value.dataType with
    | dateTime => exact Except.exists_map_eq_ok_iff.trans (getTime_ok_iff value)
    | guid => exact Except.exists_map_eq_ok_iff.trans (toLowerCase_ok_iff objects value)
    | byteString => exact Except.exists_map_eq_ok_iff.trans (toHexString_ok_iff objects value)
    | localizedText | qualifiedName =>
      split_ifs with h
      · exact iff_of_false (by simp) fun hne => hne h
      · exact iff_of_true ⟨_, rfl⟩ h
    | _ => exact iff_of_true ⟨_, rfl⟩ trivial

/-- **Node identifiers** are compared. -/
lemma sameNodeIdOf_ok_iff (a b : Variant U X) :
    (∃ same, sameNodeIdOf a b = .ok same) ↔ NodeIdsSafe a b := by
  rw [sameNodeIdOf, NodeIdsSafe]
  split_ifs with hnull
  · refine iff_of_false nofun ?_
    rintro ⟨ha, hb, -⟩
    exact hnull.elim ha hb
  · rw [not_or] at hnull
    cases ha : nodeIdOf a with
    | none =>
      cases hb : nodeIdOf b with
      | none => exact iff_of_false nofun fun h => h.2.2.1 rfl rfl
      | some n2 => exact iff_of_true ⟨_, rfl⟩ ⟨hnull.1, hnull.2, fun _ => nofun, nofun⟩
    | some n1 =>
      cases hb : nodeIdOf b with
      | none => exact iff_of_true ⟨_, rfl⟩ ⟨hnull.1, hnull.2, nofun, fun _ _ _ => nofun⟩
      | some n2 =>
        by_cases hcmp : NullCompared n1 n2
        · obtain ⟨message, hmsg⟩ := sameNodeId_of_nullCompared hcmp
          refine iff_of_false ?_ fun h => h.2.2.2 n1 n2 rfl rfl hcmp
          rintro ⟨same, hsame⟩
          dsimp only at hsame
          rw [hmsg] at hsame
          cases hsame
        · refine iff_of_true ?_ ⟨hnull.1, hnull.2, nofun, ?_⟩
          · dsimp only
            rw [(sameNodeId_eq_ok_iff n1 n2).mpr hcmp]
            exact ⟨_, rfl⟩
          · intro m1 m2 h1 h2
            cases h1
            cases h2
            exact hcmp

lemma optionalTime_ok_iff (value : Variant U X) :
    (∃ time, optionalTime value = .ok time) ↔ value.primitive = some .null ∨ IsDate value := by
  rw [optionalTime]
  split_ifs with h
  · exact iff_of_true ⟨_, rfl⟩ (Or.inl h)
  · rw [or_iff_right h, ← getTime_ok_iff]
    exact Except.exists_map_eq_ok_iff

lemma isSameValue_ok_iff (a b : Variant U X) :
    (∃ same, isSameValue objects a b = .ok same) ↔ EqualSafe (.variant a) (.variant b) := by
  have hne : (Evaluated.variant b : Evaluated U X) ≠ .null := nofun
  rw [isSameValue, EqualSafe]
  cases hdata : a.dataType with
  | nodeId =>
    refine (sameNodeIdOf_ok_iff a b).trans ⟨fun h => ⟨b, rfl, h⟩, ?_⟩
    rintro ⟨value, heq, h⟩
    cases heq
    exact h
  | dateTime =>
    rw [exists_bind_eq_ok_iff]
    simp only [exists_bind_pure_eq_ok_iff, getTime_ok_iff]
    rw [exists_and_right, optionalTime_ok_iff]
    refine and_congr_right fun _ => ⟨fun h => ⟨b, rfl, h⟩, ?_⟩
    rintro ⟨value, heq, h⟩
    cases heq
    exact h
  | guid =>
    rw [exists_bind_pure_eq_ok_iff, toLowerCase_ok_iff, and_iff_left hne]
  | byteString =>
    split_ifs with hb
    · refine iff_of_true ⟨_, rfl⟩ ⟨hne, ?_⟩
      intro value heq hvalue
      cases heq
      exact absurd hvalue hb
    · rw [exists_bind_eq_ok_iff]
      simp only [exists_bind_pure_eq_ok_iff, toHexString_ok_iff]
      rw [exists_and_right, toHexString_ok_iff]
      constructor
      · rintro ⟨ha, hb'⟩
        refine ⟨hne, fun value heq _ => ?_⟩
        cases heq
        exact ⟨ha, hb'⟩
      · rintro ⟨-, h⟩
        exact h b rfl (not_not.mp hb)
  | float | int64 | uint64 | expandedNodeId | statusCode | extensionObject | dataValue | variant
    | diagnosticInfo => exact iff_of_true ⟨_, rfl⟩ trivial
  | _ => exact iff_of_true ⟨_, rfl⟩ hne

lemma isSameAsBoolean_ok_iff (a : Variant U X) (value : Bool) :
    (∃ same, isSameAsBoolean objects a = .ok same) ↔ EqualSafe (.variant a) (.boolean value) := by
  have hne : (Evaluated.boolean value : Evaluated U X) ≠ .null := nofun
  rw [isSameAsBoolean, EqualSafe]
  cases hdata : a.dataType with
  | nodeId => exact iff_of_false nofun (by rintro ⟨_, heq, -⟩; cases heq)
  | dateTime =>
    refine iff_of_false ?_ (by rintro ⟨-, _, heq, -⟩; cases heq)
    rw [exists_bind_eq_ok_iff]
    rintro ⟨_, _, _, h⟩
    cases h
  | guid =>
    rw [exists_bind_pure_eq_ok_iff, toLowerCase_ok_iff, and_iff_left hne]
  | byteString => exact iff_of_true ⟨_, rfl⟩ ⟨hne, nofun⟩
  | float | int64 | uint64 | expandedNodeId | statusCode | extensionObject | dataValue | variant
    | diagnosticInfo => exact iff_of_true ⟨_, rfl⟩ trivial
  | _ => exact iff_of_true ⟨_, rfl⟩ hne

lemma isSameAsNull_ok_iff (a : Variant U X) :
    (∃ same, isSameAsNull objects a = .ok same) ↔ EqualSafe (.variant a) .null := by
  rw [isSameAsNull, EqualSafe]
  cases hdata : a.dataType with
  | nodeId => exact iff_of_false nofun (by rintro ⟨_, heq, -⟩; cases heq)
  | dateTime =>
    refine iff_of_false ?_ (by rintro ⟨-, _, heq, -⟩; cases heq)
    rw [exists_bind_eq_ok_iff]
    rintro ⟨_, _, _, h⟩
    cases h
  | guid =>
    refine iff_of_false ?_ fun h => h.2 rfl
    rw [exists_bind_eq_ok_iff]
    rintro ⟨_, _, _, h⟩
    cases h
  | byteString => exact iff_of_false nofun fun h => h.1 rfl
  | float | int64 | uint64 | expandedNodeId | statusCode | extensionObject | dataValue | variant
    | diagnosticInfo => exact iff_of_true ⟨_, rfl⟩ trivial
  | _ => exact iff_of_false nofun fun h => h rfl

/-- **Values that can be compared** for equality are compared. -/
theorem isVariantEqual_ok_iff (a b : Evaluated U X) :
    (∃ same, isVariantEqual objects a b = .ok same) ↔ EqualSafe a b := by
  cases a with
  | null => exact iff_of_false nofun id
  | boolean value => exact iff_of_true ⟨_, rfl⟩ trivial
  | variant a =>
    cases b with
    | null => exact isSameAsNull_ok_iff objects a
    | boolean value => exact isSameAsBoolean_ok_iff objects a value
    | variant b => exact isSameValue_ok_iff objects a b

end

lemma equalSafe_boolean (a : Evaluated U X) (x y : Bool) :
    EqualSafe a (.boolean x) ↔ EqualSafe a (.boolean y) := by
  cases a with
  | null => exact Iff.rfl
  | boolean value => exact Iff.rfl
  | variant a =>
    rw [EqualSafe, EqualSafe]
    cases a.dataType <;> simp

lemma sameNodeIdOf_true_iff {a b : Variant U X} {same : Bool} (h : sameNodeIdOf a b = .ok same) :
    same = true ↔ nodeIdOf a = nodeIdOf b := by
  rw [sameNodeIdOf] at h
  split_ifs at h
  cases ha : nodeIdOf a with
  | none =>
    cases hb : nodeIdOf b with
    | none =>
      rw [ha, hb] at h
      cases h
    | some n2 =>
      rw [ha, hb] at h
      cases h
      exact iff_of_false Bool.false_ne_true nofun
  | some n1 =>
    cases hb : nodeIdOf b with
    | none =>
      rw [ha, hb] at h
      cases h
      exact iff_of_false Bool.false_ne_true nofun
    | some n2 =>
      rw [ha, hb] at h
      dsimp only at h
      by_cases hcmp : NullCompared n1 n2
      · obtain ⟨message, hmsg⟩ := sameNodeId_of_nullCompared hcmp
        rw [hmsg] at h
        cases h
      · rw [(sameNodeId_eq_ok_iff n1 n2).mpr hcmp] at h
        cases h
        rw [decide_eq_true_eq, Option.some.injEq]

variable {filterContext : FilterContext U X}

lemma isListed_of_compared {literal : Variant U X}
    (h : ListCompared filterContext literal) (value : Variant U X) :
    isListed filterContext value literal = sameNodeIdOf value literal := by
  rw [isListed, if_neg (not_not.mpr h.1), if_neg h.2]

lemma isListed_of_not_compared {literal : Variant U X}
    (h : ¬ ListCompared filterContext literal) (value : Variant U X) :
    isListed filterContext value literal = .ok false := by
  rw [isListed]
  split_ifs with hdata hclass
  · rfl
  · rfl
  · exact absurd ⟨not_not.mp hdata, hclass⟩ h

section

variable (filterContext : FilterContext U X)

/-- **A list** is searched for a value. -/
lemma checkList_ok_iff (value : Variant U X) (operands : List (Option (FilterOperand U X))) :
    (∃ found, checkList filterContext value operands = .ok found) ↔
      ListSafe filterContext value operands := by
  induction operands using checkList.induct with
  | case1 => exact iff_of_true ⟨_, rfl⟩ trivial
  | case2 literal operands ih =>
    rw [checkList, ListSafe, exists_bind_eq_ok_iff]
    by_cases hcmp : ListCompared filterContext literal
    · rw [isListed_of_compared hcmp, ← sameNodeIdOf_ok_iff]
      constructor
      · rintro ⟨same, hsame, hrest⟩
        refine ⟨fun _ => ⟨same, hsame⟩, ?_⟩
        cases same with
        | true => exact Or.inl ⟨hcmp, (sameNodeIdOf_true_iff hsame).mp rfl⟩
        | false => exact Or.inr (ih.mp hrest)
      · rintro ⟨hsafe, hrest⟩
        obtain ⟨same, hsame⟩ := hsafe hcmp
        refine ⟨same, hsame, ?_⟩
        cases same with
        | true => exact ⟨_, rfl⟩
        | false =>
          rcases hrest with ⟨-, heq⟩ | hrest
          · exact absurd ((sameNodeIdOf_true_iff hsame).mpr heq) Bool.false_ne_true
          · exact ih.mpr hrest
    · rw [isListed_of_not_compared hcmp]
      constructor
      · rintro ⟨same, hsame, hrest⟩
        cases hsame
        exact ⟨fun h => absurd h hcmp, Or.inr (ih.mp hrest)⟩
      · rintro ⟨-, ⟨h, -⟩ | hrest⟩
        · exact absurd h hcmp
        · exact ⟨false, rfl, ih.mpr hrest⟩
  | case3 operand operands hopd ih =>
    rcases operand with _ | operand
    · exact ih
    · cases operand with
      | literalOperand literal => exact absurd rfl (hopd literal)
      | _ => exact ih

/-- **A list operator** throws without a first operand, or when its list cannot be searched. -/
theorem checkInList_ok_iff (operands : List (Option (FilterOperand U X))) :
    (∃ found, checkInList filterContext operands = .ok found) ↔
      InListSafe filterContext operands := by
  rw [checkInList, InListSafe]
  rcases hfirst : operandAt operands 0 with _ | operand
  · exact iff_of_false nofun fun h => h.1 rfl
  · cases operand with
    | simpleAttributeOperand browsePath =>
      dsimp only
      split_ifs with hvalue
      · refine iff_of_true ⟨_, rfl⟩ ⟨nofun, ?_⟩
        intro browsePath' heq hdata hprimitive
        cases heq
        exact absurd hdata (hvalue.resolve_right hprimitive)
      · rw [not_or, not_not] at hvalue
        rw [checkList_ok_iff]
        constructor
        · intro h
          refine ⟨nofun, fun browsePath' heq _ _ => ?_⟩
          cases heq
          exact h
        · rintro ⟨-, h⟩
          exact h browsePath rfl hvalue.1 hvalue.2
    | _ => exact iff_of_true ⟨_, rfl⟩ ⟨nofun, nofun⟩

/-! ### The evaluation of an element -/

/-- What an operand gives after it is converted, when the results of the elements are given. -/
def operandResult {α : Type} (result : ℤ → Except FilterError Bool)
    (operand : Option (FilterOperand U X)) (coerce : Evaluated U X → Except FilterError α) :
    Except FilterError α :=
  match operand with
  | some (.elementOperand index) => result index >>= fun value => coerce (.boolean value)
  | operand => coerce (operandValue filterContext operand)

end

/-- The result of the element that an operand refers to. -/
def OperandAnswered (result : ℤ → Except FilterError Bool) (operand : Option (FilterOperand U X)) : Prop :=
  ∀ index, operand = some (.elementOperand index) → ∃ value, result index = .ok value

section

variable {filterContext : FilterContext U X} {result : ℤ → Except FilterError Bool}
  {check : ℤ → Evaluation Bool} {α : Type} {operand : Option (FilterOperand U X)}

/-- **The evaluation of an operand**, when the elements are evaluated. -/
lemma evaluateOperand_eq (hcheck : ∀ index, operand = some (.elementOperand index) →
      check index = finished (result index))
    (coerce : Evaluated U X → Except FilterError α) :
    evaluateOperand filterContext check operand coerce =
      finished (operandResult filterContext result operand coerce) := by
  rcases operand with _ | operand
  · rfl
  · cases operand with
    | elementOperand index =>
      rw [evaluateOperand, hcheck index rfl, operandResult]
      cases result index <;> rfl
    | _ => rfl

variable {coerce : Evaluated U X → Except FilterError α}

lemma operandResult_ok_iff
    {P : Evaluated U X → Prop} (hcoerce : ∀ value, (∃ a, coerce value = .ok a) ↔ P value)
    (hboolean : ∀ x y : Bool, P (.boolean x) ↔ P (.boolean y))
    (operand : Option (FilterOperand U X)) :
    (∃ a, operandResult filterContext result operand coerce = .ok a) ↔
      OperandAnswered result operand ∧ P (operandValue filterContext operand) := by
  by_cases hopd : ∃ index, operand = some (.elementOperand index)
  · obtain ⟨index, rfl⟩ := hopd
    rw [operandResult, exists_bind_eq_ok_iff]
    constructor
    · rintro ⟨value, hvalue, ha⟩
      refine ⟨?_, (hboolean value false).mp ((hcoerce _).mp ha)⟩
      intro index' heq
      cases heq
      exact ⟨value, hvalue⟩
    · rintro ⟨hansd, hsafe⟩
      obtain ⟨value, hvalue⟩ := hansd index rfl
      exact ⟨value, hvalue, (hcoerce _).mpr ((hboolean value false).mpr hsafe)⟩
  · have hansd : OperandAnswered result operand := fun index h => absurd ⟨index, h⟩ hopd
    have heq : operandResult filterContext result operand coerce =
        coerce (operandValue filterContext operand) := by
      rcases operand with _ | operand
      · rfl
      · cases operand with
        | elementOperand index => exact absurd ⟨index, rfl⟩ hopd
        | _ => rfl
    rw [heq, hcoerce, and_iff_right hansd]

lemma operandResult_value {value : Evaluated U X}
    (h : operandResult filterContext result operand .ok = .ok value) :
    value = operandValue filterContext operand ∨
      ∃ x y, value = .boolean x ∧ operandValue filterContext operand = .boolean y := by
  rcases operand with _ | operand
  · cases h
    exact Or.inl rfl
  · cases operand with
    | elementOperand index =>
      obtain ⟨x, -, hx⟩ := Except.bind_eq_ok_iff.mp h
      cases hx
      exact Or.inr ⟨x, false, rfl, rfl⟩
    | _ =>
      cases h
      exact Or.inl rfl

variable {operands : List (Option (FilterOperand U X))}

lemma operandAt_mem {i : ℕ} (hi : i < operands.length) : operandAt operands i ∈ operands := by
  rw [operandAt, List.getElem?_eq_getElem hi]
  exact List.getElem_mem hi

lemma check_operandAt (hcheck : ∀ index, some (.elementOperand index) ∈ operands →
      check index = finished (result index)) (i : ℕ) (index : ℤ)
    (h : operandAt operands i = some (.elementOperand index)) :
    check index = finished (result index) := by
  by_cases hi : i < operands.length
  · exact hcheck index (h ▸ operandAt_mem hi)
  · rw [operandAt, List.getElem?_eq_none (by omega)] at h
    cases h

lemma answered_iff (result : ℤ → Except FilterError Bool) :
    (∀ index, some (.elementOperand index) ∈ operands → ∃ value, result index = .ok value) ↔
      ∀ i, i < operands.length → OperandAnswered result (operandAt operands i) := by
  constructor
  · intro h i hi index heq
    exact h index (heq ▸ operandAt_mem hi)
  · intro h index hmem
    obtain ⟨i, hi, heq⟩ := List.getElem_of_mem hmem
    refine h i hi index ?_
    rw [operandAt, List.getElem?_eq_getElem hi, heq]
    rfl

lemma evaluate_two (hcheck : ∀ index, some (.elementOperand index) ∈ operands →
      check index = finished (result index)) (f : α → α → Bool) :
    (do
      let operandA ← evaluateOperand filterContext check (operandAt operands 0) coerce
      let operandB ← evaluateOperand filterContext check (operandAt operands 1) coerce
      return f operandA operandB) =
    finished (do
      let operandA ← operandResult filterContext result (operandAt operands 0) coerce
      let operandB ← operandResult filterContext result (operandAt operands 1) coerce
      return f operandA operandB) := by
  rw [evaluateOperand_eq (check_operandAt hcheck 0), evaluateOperand_eq (check_operandAt hcheck 1)]
  cases operandResult filterContext result (operandAt operands 0) coerce with
  | error e => rfl
  | ok operandA => cases operandResult filterContext result (operandAt operands 1) coerce <;> rfl

lemma two_ok_iff {f : α → α → Bool} :
    (∃ value, (do
      let operandA ← operandResult filterContext result (operandAt operands 0) coerce
      let operandB ← operandResult filterContext result (operandAt operands 1) coerce
      return f operandA operandB : Except FilterError Bool) = .ok value) ↔
    (∃ a, operandResult filterContext result (operandAt operands 0) coerce = .ok a) ∧
      ∃ b, operandResult filterContext result (operandAt operands 1) coerce = .ok b := by
  rw [exists_bind_eq_ok_iff]
  simp only [exists_bind_pure_eq_ok_iff]
  exact exists_and_right

end

lemma answered_two {operands : List (Option (FilterOperand U X))} (h : operands.length = 2)
    (result : ℤ → Except FilterError Bool) :
    (∀ index, some (.elementOperand index) ∈ operands → ∃ value, result index = .ok value) ↔
      OperandAnswered result (operandAt operands 0) ∧ OperandAnswered result (operandAt operands 1) := by
  rw [answered_iff, h]
  constructor
  · intro hall
    exact ⟨hall 0 (by omega), hall 1 (by omega)⟩
  · rintro ⟨h0, h1⟩ i hi
    obtain rfl | rfl : i = 0 ∨ i = 1 := by omega
    · exact h0
    · exact h1

/-- **An evaluation ends** when those of the elements do that the operands refer to; it gives a
boolean under a condition. -/
def Ends (operands : List (Option (FilterOperand U X))) (result : ℤ → Except FilterError Bool)
    (run : (ℤ → Evaluation Bool) → Evaluation Bool) (P : Prop) : Prop :=
  ∃ r, (∀ check : ℤ → Evaluation Bool,
      (∀ index, some (.elementOperand index) ∈ operands → check index = finished (result index)) →
      run check = finished r) ∧
    ((∃ value, r = .ok value) ↔ P)

section

variable (objects : Objects U X) (filterContext : FilterContext U X)
  {operands : List (Option (FilterOperand U X))} (result : ℤ → Except FilterError Bool)

lemma ends_finished {x : Except FilterError Bool} {P : Prop} (h : (∃ value, x = .ok value) ↔ P) :
    Ends operands result (fun _ => finished x) P :=
  ⟨x, fun _ _ => rfl, h⟩

lemma Ends.congr {result : ℤ → Except FilterError Bool} {run : (ℤ → Evaluation Bool) → Evaluation Bool} {P Q : Prop}
    (h : Ends operands result run P) (hPQ : P ↔ Q) : Ends operands result run Q := by
  obtain ⟨r, hrun, hr⟩ := h
  exact ⟨r, hrun, hr.trans hPQ⟩

lemma operandComparable_ok_iff (operand : Option (FilterOperand U X)) :
    (∃ a, operandResult filterContext result operand (coerceToCompareable objects) = .ok a) ↔
      OperandAnswered result operand ∧ ComparableSafe (operandValue filterContext operand) :=
  operandResult_ok_iff (coerceToCompareable_ok_iff objects) (fun _ _ => Iff.rfl) operand

lemma operandBoolean_ok_iff (operand : Option (FilterOperand U X)) :
    (∃ a, operandResult filterContext result operand coerceToBoolean = .ok a) ↔
      OperandAnswered result operand := by
  have hcoerce : ∀ value : Evaluated U X, (∃ a, coerceToBoolean value = .ok a) ↔ True := by
    intro value
    refine iff_of_true ?_ trivial
    cases value with
    | null => exact ⟨_, rfl⟩
    | boolean value => exact ⟨_, rfl⟩
    | variant value =>
      rw [coerceToBoolean]
      cases value.primitive with
      | none => exact ⟨_, rfl⟩
      | some primitive => exact ⟨_, rfl⟩
  exact (operandResult_ok_iff hcoerce (fun _ _ => Iff.rfl) operand).trans (and_iff_left trivial)

lemma checkComparison_ends (compare : Comparable → Comparable → Bool) (h : operands.length = 2) :
    Ends operands result
      (fun check => checkComparison objects filterContext check operands compare)
      ((∀ index, some (.elementOperand index) ∈ operands → ∃ value, result index = .ok value) ∧
        ComparableSafe (operandValue filterContext (operandAt operands 0)) ∧
        ComparableSafe (operandValue filterContext (operandAt operands 1))) := by
  refine ⟨_, fun check hcheck => evaluate_two hcheck compare, ?_⟩
  rw [two_ok_iff, operandComparable_ok_iff, operandComparable_ok_iff, answered_two h]
  tauto

lemma logical_ends (f : Bool → Bool → Bool) (h : operands.length = 2) :
    Ends operands result
      (fun check => do
        let operandA ← evaluateOperand filterContext check (operandAt operands 0) coerceToBoolean
        let operandB ← evaluateOperand filterContext check (operandAt operands 1) coerceToBoolean
        return f operandA operandB)
      (∀ index, some (.elementOperand index) ∈ operands → ∃ value, result index = .ok value) := by
  refine ⟨_, fun check hcheck => evaluate_two hcheck f, ?_⟩
  rw [two_ok_iff, operandBoolean_ok_iff, operandBoolean_ok_iff, answered_two h]

lemma checkNot_ends (h : operands.length = 1) :
    Ends operands result (fun check => checkNot filterContext check operands)
      (∀ index, some (.elementOperand index) ∈ operands → ∃ value, result index = .ok value) := by
  refine ⟨do
    let operandA ← operandResult filterContext result (operandAt operands 0) coerceToBoolean
    return !operandA, fun check hcheck => ?_, ?_⟩
  · show checkNot filterContext check operands = _
    rw [checkNot, evaluateOperand_eq (check_operandAt hcheck 0)]
    cases operandResult filterContext result (operandAt operands 0) coerceToBoolean <;> rfl
  · rw [exists_bind_pure_eq_ok_iff, operandBoolean_ok_iff, answered_iff, h]
    constructor
    · intro h0 i hi
      obtain rfl : i = 0 := by omega
      exact h0
    · intro hall
      exact hall 0 Nat.one_pos

lemma checkBetween_ends (h : operands.length = 3) :
    Ends operands result (fun check => checkBetween objects filterContext check operands)
      ((∀ index, some (.elementOperand index) ∈ operands → ∃ value, result index = .ok value) ∧
        ComparableSafe (operandValue filterContext (operandAt operands 0)) ∧
        ComparableSafe (operandValue filterContext (operandAt operands 1)) ∧
        ComparableSafe (operandValue filterContext (operandAt operands 2))) := by
  refine ⟨do
    let operandA ← operandResult filterContext result (operandAt operands 0)
      (coerceToCompareable objects)
    let operandLow ← operandResult filterContext result (operandAt operands 1)
      (coerceToCompareable objects)
    let operandHigh ← operandResult filterContext result (operandAt operands 2)
      (coerceToCompareable objects)
    return operandLow.lessThanOrEqual operandA && operandA.lessThanOrEqual operandHigh,
    fun check hcheck => ?_, ?_⟩
  · show checkBetween objects filterContext check operands = _
    rw [checkBetween, evaluateOperand_eq (check_operandAt hcheck 0),
      evaluateOperand_eq (check_operandAt hcheck 1), evaluateOperand_eq (check_operandAt hcheck 2)]
    cases operandResult filterContext result (operandAt operands 0)
        (coerceToCompareable objects) with
    | error e => rfl
    | ok operandA =>
      cases operandResult filterContext result (operandAt operands 1)
          (coerceToCompareable objects) with
      | error e => rfl
      | ok operandLow =>
        cases operandResult filterContext result (operandAt operands 2)
          (coerceToCompareable objects) <;> rfl
  · have hok := operandComparable_ok_iff objects filterContext result
    simp only [exists_bind_eq_ok_iff]
    rw [answered_iff, h]
    constructor
    · rintro ⟨a, ha, low, hlow, high, hhigh, -⟩
      obtain ⟨h0, hsafe0⟩ := (hok _).mp ⟨a, ha⟩
      obtain ⟨h1, hsafe1⟩ := (hok _).mp ⟨low, hlow⟩
      obtain ⟨h2, hsafe2⟩ := (hok _).mp ⟨high, hhigh⟩
      refine ⟨fun i hi => ?_, hsafe0, hsafe1, hsafe2⟩
      obtain rfl | rfl | rfl : i = 0 ∨ i = 1 ∨ i = 2 := by omega
      · exact h0
      · exact h1
      · exact h2
    · rintro ⟨hall, hsafe0, hsafe1, hsafe2⟩
      obtain ⟨a, ha⟩ := (hok _).mpr ⟨hall 0 (by omega), hsafe0⟩
      obtain ⟨low, hlow⟩ := (hok _).mpr ⟨hall 1 (by omega), hsafe1⟩
      obtain ⟨high, hhigh⟩ := (hok _).mpr ⟨hall 2 (by omega), hsafe2⟩
      exact ⟨a, ha, low, hlow, high, hhigh, _, rfl⟩

lemma checkEquals_ends (h : operands.length = 2) :
    Ends operands result (fun check => checkEquals objects filterContext check operands)
      ((∀ index, some (.elementOperand index) ∈ operands → ∃ value, result index = .ok value) ∧
        EqualSafe (operandValue filterContext (operandAt operands 0))
          (operandValue filterContext (operandAt operands 1))) := by
  refine ⟨do
    let operandA ← operandResult filterContext result (operandAt operands 0) .ok
    let operandB ← operandResult filterContext result (operandAt operands 1) .ok
    isVariantEqual objects operandA operandB, fun check hcheck => ?_, ?_⟩
  · show checkEquals objects filterContext check operands = _
    rw [checkEquals, evaluateOperand_eq (check_operandAt hcheck 0),
      evaluateOperand_eq (check_operandAt hcheck 1)]
    cases operandResult filterContext result (operandAt operands 0) .ok with
    | error e => rfl
    | ok operandA =>
      cases operandResult filterContext result (operandAt operands 1) .ok <;> rfl
  · have hansd : ∀ operand, (∃ a, operandResult filterContext result operand .ok = .ok a) ↔
        OperandAnswered result operand := by
      intro operand
      have hcoerce : ∀ value : Evaluated U X,
          (∃ a, (Except.ok value : Except FilterError (Evaluated U X)) = .ok a) ↔ True :=
        fun value => iff_of_true ⟨_, rfl⟩ trivial
      exact (operandResult_ok_iff hcoerce (fun _ _ => Iff.rfl) operand).trans
        (and_iff_left trivial)
    have hsafe : ∀ a b, operandResult filterContext result (operandAt operands 0) .ok = .ok a →
        operandResult filterContext result (operandAt operands 1) .ok = .ok b →
        (EqualSafe a b ↔ EqualSafe (operandValue filterContext (operandAt operands 0))
          (operandValue filterContext (operandAt operands 1))) := by
      intro a b ha hb
      rcases operandResult_value ha with heq | ⟨x, y, rfl, heq⟩
      · rw [heq]
        rcases operandResult_value hb with heq' | ⟨x, y, rfl, heq'⟩
        · rw [heq']
        · rw [heq']
          exact equalSafe_boolean _ x y
      · rw [heq]
        exact Iff.rfl
    simp only [exists_bind_eq_ok_iff, isVariantEqual_ok_iff]
    rw [answered_two h, ← hansd, ← hansd]
    constructor
    · rintro ⟨a, ha, b, hb, hab⟩
      exact ⟨⟨⟨a, ha⟩, b, hb⟩, (hsafe a b ha hb).mp hab⟩
    · rintro ⟨⟨⟨a, ha⟩, b, hb⟩, hab⟩
      exact ⟨a, ha, b, hb, (hsafe a b ha hb).mpr hab⟩

/-- **The evaluation of an element** ends when those of the elements it refers to do. It gives a
boolean when these do, as far as they are evaluated, and the element is safe. -/
theorem checkElement_ends {elem : ContentFilterElement U X}
    (hcount : countMatches elem.filterOperator (elem.filterOperands.getD []).length = true) :
    Ends (elem.filterOperands.getD []) result
      (fun check => checkElement objects filterContext check elem)
      ((elem.filterOperator.evaluatesOperands = true →
        ∀ index, some (.elementOperand index) ∈ elem.filterOperands.getD [] →
          ∃ value, result index = .ok value) ∧
        ElementSafe filterContext elem) := by
  obtain ⟨operator, filterOperands⟩ := elem
  have hexact : ∀ n : ℕ, operandCountByOperator operator = some (n, some n) →
      (filterOperands.getD []).length = n := by
    intro n hexp
    rw [countMatches, hexp] at hcount
    simp only [Bool.and_eq_true, decide_eq_true_eq] at hcount
    exact le_antisymm hcount.2 hcount.1
  have hiff : ∀ {P Q : Prop}, P ∧ Q ↔ (true = true → P) ∧ Q :=
    and_congr_left' ⟨fun h _ => h, fun h => h rfl⟩
  have htrue : ∀ {P : Prop}, P ↔ (true = true → P) ∧ True :=
    ⟨fun h => ⟨fun _ => h, trivial⟩, fun h => h.1 rfl⟩
  have hfalse : ∀ {P Q : Prop}, Q ↔ (false = true → P) ∧ Q :=
    ⟨fun h => ⟨nofun, h⟩, fun h => h.2⟩
  have hreturn : ∀ value : Bool, ∀ P : Prop, Ends (filterOperands.getD []) result
      (fun _ => finished (.ok value)) ((false = true → P) ∧ True) :=
    fun value P => ends_finished result (iff_of_true ⟨value, rfl⟩ ⟨nofun, trivial⟩)
  cases operator with
  | Equals => exact (checkEquals_ends objects filterContext result (hexact 2 rfl)).congr hiff
  | LessThan | LessThanOrEqual | GreaterThan | GreaterThanOrEqual =>
    exact (checkComparison_ends objects filterContext result _ (hexact 2 rfl)).congr hiff
  | Between => exact (checkBetween_ends objects filterContext result (hexact 3 rfl)).congr hiff
  | And => exact (logical_ends filterContext result and (hexact 2 rfl)).congr htrue
  | Or => exact (logical_ends filterContext result or (hexact 2 rfl)).congr htrue
  | Not => exact (checkNot_ends filterContext result (hexact 1 rfl)).congr htrue
  | InList => exact (ends_finished result (checkInList_ok_iff filterContext _)).congr hfalse
  | OfType =>
    cases filterOperands with
    | none => cases hexact 1 rfl
    | some filterOperands => exact hreturn (checkOfType filterContext _) _
  | _ => exact hreturn false _

end

/-! ### The evaluation of a filter -/

lemma exists_bound (f : ℕ → ℕ) (targets : List ℕ) : ∃ n, ∀ t ∈ targets, f t ≤ n := by
  induction targets with
  | nil => exact ⟨0, nofun⟩
  | cons t targets ih =>
    obtain ⟨n, hn⟩ := ih
    refine ⟨max (f t) n, fun t' ht' => ?_⟩
    rcases List.mem_cons.mp ht' with rfl | ht'
    · exact le_max_left _ _
    · exact (hn t' ht').trans (le_max_right _ _)

variable {filter : ContentFilter U X}

section

variable (objects : Objects U X) (filterContext : FilterContext U X)

/-- **The evaluation of an explorable element** ends. It gives a boolean when all elements that are
evaluated are safe. -/
theorem checkFilterAtIndex_result
    (hne : filter.elements.getD [] ≠ []) {i : ℕ} (h : Explorable (inspect filter) i) :
    ∃ r n, (∀ calls, n ≤ calls →
        checkFilterAtIndex objects filterContext filter calls i = finished r) ∧
      ((∃ value, r = .ok value) ↔ ∀ j elem, Relation.ReflTransGen filter.Evaluates i j →
        filter.elementAt j = some elem → ElementSafe filterContext elem) := by
  induction h with
  | @intro node targets hinspect _ ih =>
    cases helem : filter.elementAt node with
    | none =>
      refine ⟨.ok true, 1, fun calls hcalls => ?_, iff_of_true ⟨true, rfl⟩ ?_⟩
      · obtain ⟨calls, rfl⟩ : ∃ c, calls = c + 1 := ⟨calls - 1, by omega⟩
        rw [checkFilterAtIndex, if_neg hne, helem]
        rfl
      · intro j elem hreach hj
        rcases Relation.ReflTransGen.cases_head hreach with rfl | ⟨k, ⟨elem', helem', -⟩, -⟩
        · rw [helem] at hj
          cases hj
        · rw [helem] at helem'
          cases helem'
    | some elem =>
      choose! r calls hrun hr using ih
      obtain ⟨n, hn⟩ := exists_bound calls targets
      obtain ⟨hcount, hindices⟩ := (inspect_ok hinspect).2 elem helem
      obtain ⟨x, hx, hxok⟩ := checkElement_ends objects filterContext (fun index => r index.toNat)
        hcount
      refine ⟨x, n + 1, fun c hc => ?_, hxok.trans ?_⟩
      · obtain ⟨c, rfl⟩ : ∃ c', c = c' + 1 := ⟨c - 1, by omega⟩
        rw [checkFilterAtIndex, if_neg hne, helem]
        refine hx _ fun index hindex => ?_
        obtain ⟨t, ht, rfl⟩ := hindices index hindex
        exact hrun t ht c ((hn t ht).trans (by omega))
      · constructor
        · rintro ⟨hresults, hsafe⟩ j elem' hreach hj
          rcases Relation.ReflTransGen.cases_head hreach with
            rfl | ⟨k, ⟨element'', helem'', hevaluates, hindex⟩, hrest⟩
          · rw [helem] at hj
            cases hj
            exact hsafe
          · rw [helem] at helem''
            cases helem''
            obtain ⟨t, ht, rfl⟩ := hindices k hindex
            exact (hr t ht).mp (hresults hevaluates t hindex) j elem' hrest hj
        · intro hall
          refine ⟨fun hevaluates index hindex => ?_, hall node elem .refl helem⟩
          obtain ⟨t, ht, rfl⟩ := hindices index hindex
          refine (hr t ht).mpr fun j elem' hreach hj => ?_
          exact hall j elem' (hreach.head ⟨elem, helem, hevaluates, hindex⟩) hj

/-- **The evaluation of a good filter** ends. It gives a boolean when the filter is safe. -/
theorem checkFilter_result (h : validateContentFilter filter = .Good) :
    ∃ r n, (∀ calls, n ≤ calls → checkFilter objects filterContext filter calls = finished r) ∧
      ((∃ value, r = .ok value) ↔ FilterSafe filterContext filter) := by
  by_cases hne : filter.elements.getD [] = []
  · refine ⟨.ok true, 1, fun calls hcalls => ?_, iff_of_true ⟨true, rfl⟩ ?_⟩
    · obtain ⟨calls, rfl⟩ : ∃ c, calls = c + 1 := ⟨calls - 1, by omega⟩
      rw [checkFilter, if_neg (not_not.mpr h), checkFilterAtIndex, if_pos hne]
      rfl
    · intro i elem _ helem
      rw [elementAt_of_nil hne] at helem
      cases helem
  · obtain ⟨r, n, hrun, hr⟩ := checkFilterAtIndex_result objects filterContext hne
      (explorable_of_good h hne)
    refine ⟨r, n, fun calls hcalls => ?_, hr⟩
    rw [checkFilter, if_neg (not_not.mpr h)]
    exact hrun calls hcalls

end

/-- **The validation and the evaluation.** For every filter: that a good filter is evaluated to a
boolean, with the numbers of operands its operators need, and that a filter with a cycle is not
good, holds exactly if the operators of a good filter can deal with their operands. -/
theorem contentFilter_safe_iff (objects : Objects U X) (filterContext : FilterContext U X)
    (filter : ContentFilter U X) :
    ((validateContentFilter filter = .Good →
        (∃ value n, ∀ calls, n ≤ calls →
          checkFilter objects filterContext filter calls = finished (.ok value)) ∧
        ∀ i element, Relation.ReflTransGen filter.Refers 0 i → filter.elementAt i = some element →
          countMatches element.filterOperator (element.filterOperands.getD []).length = true) ∧
      ((∃ i, Relation.ReflTransGen filter.Refers 0 i ∧ Relation.TransGen filter.Refers i i) →
        validateContentFilter filter ≠ .Good)) ↔
    (validateContentFilter filter = .Good → FilterSafe filterContext filter) := by
  constructor
  · rintro ⟨hgood, -⟩ h
    obtain ⟨⟨value, n, hvalue⟩, -⟩ := hgood h
    obtain ⟨r, n', hrun, hr⟩ := checkFilter_result objects filterContext h
    have heq : finished r = finished (.ok value) :=
      (hrun (max n n') (le_max_right _ _)).symm.trans (hvalue (max n n') (le_max_left _ _))
    exact hr.mp ⟨value, Option.some.inj heq⟩
  · intro hsafe
    refine ⟨fun h => ⟨?_, fun i element hi helem => count_of_good h hi helem⟩, ?_⟩
    · obtain ⟨r, n, hrun, hr⟩ := checkFilter_result objects filterContext h
      obtain ⟨value, rfl⟩ := hr.mpr (hsafe h)
      exact ⟨value, n, hrun⟩
    · rintro ⟨i, hi, hcycle⟩ h
      exact not_cyclic_of_good h hi hcycle

/-- A filter with one element, which compares a byte string with a null one. -/
def nullByteStringFilter : ContentFilter CaseMapping.ascii Unit where
  elements := some [some ⟨.Equals, some [some (.literalOperand (.scalar (.byteString (some [])))),
    some (.literalOperand (.scalar (.byteString none)))]⟩]

/-- A context without nodes. -/
def emptyContext : FilterContext CaseMapping.ascii Unit where
  eventSource := none
  isSubtypeOf _ _ := false
  getTypeDefinition _ := none
  readNodeValue _ := .scalar .null
  getNodeClass _ := none
  getNodeClass_none := rfl
  browsePath _ := none

/-- Some texts. -/
def emptyTexts : Objects CaseMapping.ascii Unit where
  toString _ := ""
  same _ _ := false
  statusCodeName _ := ""
  toLowerCase text := text

/-- **The filter is good, and its evaluation throws**. -/
theorem nullByteStringFilter_throws :
    validateContentFilter nullByteStringFilter = .Good ∧
      ∀ calls, checkFilter emptyTexts emptyContext nullByteStringFilter (calls + 1) =
        finished (.error (.nullRead "toString")) := by
  have hgood : validateContentFilter nullByteStringFilter = .Good := by
    have hinspect : inspect nullByteStringFilter 0 = .ok [] := rfl
    rw [validateContentFilter, if_neg (by decide), search, hinspect]
    dsimp only
    rw [loop, loop]
  refine ⟨hgood, fun calls => ?_⟩
  rw [checkFilter, if_neg (not_not.mpr hgood), checkFilterAtIndex, if_neg (fun h => by cases h)]
  rfl

end NodeOpcua
