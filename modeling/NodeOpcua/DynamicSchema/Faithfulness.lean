import Mathlib.Data.List.ReduceOption
import NodeOpcua.DynamicSchema.ConversionSpec

set_option autoImplicit false

/-!
# What a conversion keeps of a definition

Bits are handed out from the number of the inherited fields on, while the rank of an optional field
counts the optional ones only; and what is converted back has lost the flags of the fields.

## Main definitions

* `RankedBits`.
* `TypeServices.BitsFaithful`, `ValuesFaithful`, `ListsOwnFields`, `ComesBack`.
* `TypeServices.Convertible`.

## Main results

* `TypeServices.convertBack_iff`.
* `TypeServices.conversion_faithful_iff`.
-/

namespace NodeOpcua

variable {N T E : Type}

/-! ### Ranks -/

/-- **The switch bits are the ranks** among the optional fields. -/
def RankedBits (fields : List (FieldType N T)) : Prop :=
  fields.filterMap (·.switchBit) = List.range (fields.filterMap (·.switchBit)).length

instance (fields : List (FieldType N T)) : Decidable (RankedBits fields) :=
  inferInstanceAs (Decidable (_ = _))

lemma append_range'_eq_range_iff {bits : List ℕ} {start count : ℕ} :
    bits ++ List.range' start count = List.range (bits.length + count) ↔
      bits = List.range bits.length ∧ (count = 0 ∨ start = bits.length) := by
  rw [List.range_eq_range', List.range_eq_range', ← List.range'_append_1, Nat.zero_add]
  constructor
  · intro h
    obtain ⟨hbits, hrest⟩ := List.append_inj h (by rw [List.length_range'])
    refine ⟨hbits, ?_⟩
    cases count with
    | zero => exact Or.inl rfl
    | succ count => exact Or.inr (List.cons.inj hrest).1
  · rintro ⟨hbits, rfl | rfl⟩
    · rw [List.range'_zero, List.range'_zero, List.append_nil, List.append_nil]
      exact hbits
    · exact congrArg (· ++ _) hbits

lemma drop_eq_filter_iff {α : Type} {p : α → Bool} {n : ℕ} {l : List α} :
    l.drop n = l.filter p ↔ (∀ x ∈ l.take n, p x = false) ∧ ∀ x ∈ l.drop n, p x = true := by
  constructor
  · intro h
    have hdrop : ∀ x ∈ l.drop n, p x = true := by
      intro x hx
      rw [h] at hx
      exact (List.mem_filter.mp hx).2
    refine ⟨?_, hdrop⟩
    have hsplit : l.filter p = (l.take n).filter p ++ l.drop n := by
      conv_lhs => rw [← List.take_append_drop n l, List.filter_append]
      rw [List.filter_eq_self.mpr hdrop]
    have hnil : (l.take n).filter p = [] := by
      rw [hsplit] at h
      have hlen := congrArg List.length h
      rw [List.length_append] at hlen
      exact List.length_eq_zero_iff.mp (by omega)
    intro x hx
    simpa using List.filter_eq_nil_iff.mp hnil x hx
  · rintro ⟨htake, hdrop⟩
    conv_rhs => rw [← List.take_append_drop n l, List.filter_append]
    rw [List.filter_eq_self.mpr hdrop, List.filter_eq_nil_iff.mpr, List.nil_append]
    intro x hx
    rw [htake x hx]
    exact Bool.false_ne_true

variable [DecidableEq N] (S : TypeServices N T E)

namespace TypeServices

/-! ### What is expected of a schema -/

section

variable (definition : StructureDefinition N)

/-- A field of the definition has the name of a field of a known base type. -/
def isInherited (fieldD : StructureField N) : Bool :=
  fieldD.name ∈ (S.inheritedFields definition).map (·.originalName)

/-- **The fields of the definition that are not inherited.** -/
def ownFields : List (StructureField N) :=
  (definition.fields.getD []).filter fun fieldD => !S.isInherited definition fieldD

/-- The fields of the schema after the switch of a union. -/
def membersOf (schema : StructuredTypeSchema N T) :
    List (FieldType N T) :=
  if definition.structureType = .Union then schema.fields.tail else schema.fields

end

/-- What is kept of a field when the schema is converted back. -/
def fieldKey (fieldD : StructureField N) : Option String × ℤ × Bool :=
  (fieldD.name, fieldD.valueRank, fieldD.isOptional)

/-- The schema lists exactly the fields that are not inherited. -/
def ListsOwnFields (definition : StructureDefinition N) (schema : StructuredTypeSchema N T) :
    Prop :=
  (membersOf definition schema).map (·.originalName) = (S.ownFields definition).map (·.name)

/-- **The optional fields have their ranks as switch bits**, in the whole chain of base types. -/
structure BitsFaithful (definition : StructureDefinition N) (schema : StructuredTypeSchema N T) :
    Prop where
  ranked : RankedBits (S.inheritedFields definition ++ schema.fields)
  optional : (membersOf definition schema).map (·.switchBit.isSome) =
    (S.ownFields definition).map (isSwitched definition.structureType)

section

variable (definition : StructureDefinition N) (schema : StructuredTypeSchema N T)

/-- The members of a union have the values from 1 on. -/
def ValuesFaithful :
    Prop :=
  definition.structureType = .Union ∨ definition.structureType = .UnionWithSubtypedValues →
    (membersOf definition schema).map (·.switchValue) =
      (List.range' 1 (S.ownFields definition).length).map some

/-- **The schema is converted back** to the type of the structure and to the names, ranks and flags
of its fields. -/
def ComesBack : Prop :=
  ∃ fields, S.convertStructureTypeSchemaToStructureDefinition schema =
    .ok (definition.structureType, fields) ∧
      fields.map fieldKey = (S.ownFields definition).map fieldKey

end

/-! ### When it is met -/

/-- The definition lists the inherited fields first, as many as the base types have. -/
structure InheritedFirst (definition : StructureDefinition N) : Prop where
  inherited : ∀ fieldD ∈ (definition.fields.getD []).take (S.inheritedFields definition).length,
    S.isInherited definition fieldD = true
  own : ∀ fieldD ∈ (definition.fields.getD []).drop (S.inheritedFields definition).length,
    S.isInherited definition fieldD = false

/-- **When the bits are the ranks**: those of the base types are, and either no field is added that is
optional or every inherited field is. -/
structure BitsCondition (definition : StructureDefinition N) : Prop where
  inherited : RankedBits (S.inheritedFields definition)
  optional : (∀ fieldD ∈ S.ownFields definition,
      isSwitched definition.structureType fieldD = false) ∨
    ∀ field ∈ S.inheritedFields definition, field.switchBit.isSome = true

/-- The name of a type is resolved when the type is a basic one. -/
def TypeNameResolves (name fieldTypeName : String) (category : FieldCategory) : Prop :=
  S.builtCategory name fieldTypeName category = .basic →
    ∃ nodeId, S.resolveNodeId fieldTypeName = .ok nodeId

/-- The base type of the definition is known under the name of the base of all unions. -/
def BasedOnUnion (definition : StructureDefinition N) : Prop :=
  ∃ a, S.resolveFieldType (S.effectiveBaseDataType definition) = .ok a ∧ a.fieldTypeName = "Union"

/-- **When a schema comes back**: the definition is a union on the base of all unions or a plain
structure, no field is optional, every field is a scalar or has one dimension, no member of a union
has the name of the switch, and the names of the basic types are resolved. -/
structure ReturnCondition (dataTypeNodeId : N) (name : String)
    (definition : StructureDefinition N) : Prop where
  structureType : definition.structureType = .Union ∧ S.BasedOnUnion definition ∨
    definition.structureType = .Structure ∧ ¬ S.BasedOnUnion definition
  fields : ∀ fieldD ∈ S.ownFields definition,
    fieldD.isOptional = false ∧ (fieldD.valueRank = 1 ∨ fieldD.valueRank = -1)
  names : definition.structureType = .Union →
    ∀ fieldD ∈ S.ownFields definition, fieldD.name ≠ some "SwitchField"
  types : ∀ fieldD ∈ S.ownFields definition, ∀ prefetched,
    S.prefetch dataTypeNodeId fieldD = .ok prefetched →
      S.TypeNameResolves name prefetched.fieldTypeName prefetched.category
  switchType : definition.structureType = .Union →
    S.TypeNameResolves name "UInt32" (S.figureOutFieldCategory switchField)

/-! ### The fields that are listed -/

section

variable {S} {dataTypeNodeId : N} {name : String} {definition : StructureDefinition N}
  {schema : StructuredTypeSchema N T} {members : List (FieldType N T)}
  (h : Built S dataTypeNodeId name definition schema members)

include h

lemma Built.membersOf_eq : membersOf definition schema = members := by
  have hflds := h.fields
  unfold membersOf
  split_ifs at hflds ⊢ with hunion
  · obtain ⟨switch, -, hschema⟩ := hflds
    rw [hschema, List.tail_cons]
  · exact hflds

lemma Built.switchBits_eq :
    schema.fields.filterMap (·.switchBit) = members.filterMap (·.switchBit) := by
  have hflds := h.fields
  split_ifs at hflds
  · obtain ⟨switch, hswitch, hschema⟩ := hflds
    have hnone : switch.switchBit = none := (S.buildField_eq_ok hswitch).2.2.1
    rw [hschema, List.filterMap_cons_none hnone]
  · rw [hflds]

/-- **The fields that are not inherited are listed** when the definition lists the inherited ones
first. -/
lemma Built.listsOwnFields_iff : S.ListsOwnFields definition schema ↔ S.InheritedFirst definition := by
  have hnames : (membersOf definition schema).map (·.originalName) =
      ((definition.fields.getD []).map (·.name)).drop (S.inheritedFields definition).length := by
    rw [h.membersOf_eq, ← List.map_drop]
    exact (map_eq_map_of_forall₂ h.describes fun _ _ hdesc => hdesc.name.symm).symm
  have hown : (S.ownFields definition).map (·.name) =
      ((definition.fields.getD []).map (·.name)).filter fun name =>
        !decide (name ∈ (S.inheritedFields definition).map (·.originalName)) := by
    rw [List.filter_map]
    rfl
  unfold ListsOwnFields
  rw [hnames, hown, drop_eq_filter_iff, ← List.map_take, ← List.map_drop]
  simp only [List.forall_mem_map, Bool.not_eq_false', Bool.not_eq_true']
  constructor
  · rintro ⟨hinherited, hrest⟩
    exact ⟨hinherited, hrest⟩
  · intro hfirst
    exact ⟨hfirst.inherited, hfirst.own⟩

section

variable (hfirst : S.InheritedFirst definition)
include hfirst

omit h [DecidableEq N] in
lemma InheritedFirst.ownFields_eq :
    S.ownFields definition =
      (definition.fields.getD []).drop (S.inheritedFields definition).length := by
  refine (drop_eq_filter_iff.mpr ⟨?_, ?_⟩).symm
  · intro fieldD hfield
    rw [hfirst.inherited fieldD hfield]
    rfl
  · intro fieldD hfield
    rw [hfirst.own fieldD hfield]
    rfl

lemma Built.describes_own :
    List.Forall₂ (Describes S dataTypeNodeId name definition) (S.ownFields definition) members := by
  rw [hfirst.ownFields_eq]
  exact h.describes

/-! ### The bits and the values -/

/-- **The bits are the ranks** when those of the base types are and when no optional field is added
after one that is not. -/
lemma Built.bitsFaithful_iff :
    S.BitsFaithful definition schema ↔ S.BitsCondition definition := by
  have hown := hfirst.ownFields_eq
  have hbits : (S.inheritedFields definition ++ schema.fields).filterMap (·.switchBit) =
      (S.inheritedFields definition).filterMap (·.switchBit) ++
        List.range' (S.inheritedFields definition).length
          ((S.ownFields definition).countP (isSwitched definition.structureType)) := by
    rw [List.filterMap_append, h.switchBits_eq, h.switchBits, hown]
  have hranked : RankedBits (S.inheritedFields definition ++ schema.fields) ↔
      RankedBits (S.inheritedFields definition) ∧
        ((S.ownFields definition).countP (isSwitched definition.structureType) = 0 ∨
          (S.inheritedFields definition).length =
            ((S.inheritedFields definition).filterMap (·.switchBit)).length) := by
    unfold RankedBits
    rw [hbits, List.length_append, List.length_range']
    exact append_range'_eq_range_iff
  have hnone : (S.ownFields definition).countP (isSwitched definition.structureType) = 0 ↔
      ∀ fieldD ∈ S.ownFields definition, isSwitched definition.structureType fieldD = false := by
    rw [List.countP_eq_zero]
    simp only [Bool.not_eq_true]
  have hall : (S.inheritedFields definition).length =
      ((S.inheritedFields definition).filterMap (·.switchBit)).length ↔
        ∀ field ∈ S.inheritedFields definition, field.switchBit.isSome = true := by
    rw [eq_comm]
    exact List.filterMap_length_eq_length
  rw [hnone, hall] at hranked
  constructor
  · intro hfaith
    obtain ⟨hinherited, hoptional⟩ := hranked.mp hfaith.ranked
    exact ⟨hinherited, hoptional⟩
  · intro hcond
    refine ⟨hranked.mpr ⟨hcond.inherited, hcond.optional⟩, ?_⟩
    rw [h.membersOf_eq]
    exact (map_eq_map_of_forall₂ (h.describes_own hfirst)
      fun _ _ hdesc => hdesc.switchBit.symm).symm

/-- **The values are those of a union** unless the union allows subtypes and has members. -/
lemma Built.valuesFaithful_iff :
    S.ValuesFaithful definition schema ↔
      (definition.structureType = .UnionWithSubtypedValues → S.ownFields definition = []) := by
  have hdesc := h.describes_own hfirst
  unfold ValuesFaithful
  rw [h.membersOf_eq]
  generalize S.ownFields definition = own at hdesc ⊢
  rw [hdesc.length_eq]
  constructor
  · intro hvals hsub
    have hmap := hvals (Or.inr hsub)
    cases hdesc with
    | nil => rfl
    | @cons fieldD field fields members hfield hrest =>
      have hsome : field.switchValue = some 1 := (List.cons.inj hmap).1
      have hnone := hfield.switchValue
      rw [hsome, hsub] at hnone
      cases hnone
  · rintro hempty (hunion | hsub)
    · exact h.switchValues hunion
    · rw [hempty hsub] at hdesc
      cases hdesc
      rfl

end

end

/-! ### The way back -/

/-- The field is the switch of a union. -/
def isSwitchField (isUnion : Bool) (field : FieldType N T) : Bool :=
  isUnion && field.originalName == some "SwitchField"

/-- What is kept of a field of a schema. -/
def returnedKey (isUnion : Bool) (field : FieldType N T) : Option String × ℤ × Bool :=
  (field.originalName, if field.isArray then 1 else -1,
    if isUnion then false else field.switchValue.isSome)

omit [DecidableEq N] in
lemma getDataType_iff (st : StructuredTypeSchema N T) (field : FieldType N T) :
    (∃ dataType, S.getDataType st field = .ok dataType) ↔
      (field.category = .basic → ∃ nodeId, S.resolveNodeId field.fieldType = .ok nodeId) := by
  unfold getDataType
  cases hcat : field.category with
  | enumeration => simp
  | complex => simp
  | basic => simp

omit [DecidableEq N] in
lemma convertField_keys {st : StructuredTypeSchema N T} {isUnion : Bool}
    {fields : List (FieldType N T)} {converted : List (Option (StructureField N))}
    (h : fields.mapM (S.convertField st isUnion) = .ok converted) :
    converted.reduceOption.map fieldKey =
      (fields.filter fun field => !isSwitchField isUnion field).map (returnedKey isUnion) := by
  have hflds := forall₂_of_mapM_eq_ok h
  clear h
  induction hflds with
  | nil => rfl
  | @cons field result fields converted hfield _ ih =>
    obtain ⟨dataType, -, hres⟩ := Except.bind_eq_ok_iff.mp hfield
    by_cases hswitch : (isUnion && field.originalName == some "SwitchField") = true
    · rw [if_pos hswitch] at hres
      cases hres
      rw [List.reduceOption_cons_of_none,
        List.filter_cons_of_neg (by simpa [isSwitchField] using hswitch), ih]
    · rw [if_neg hswitch] at hres
      cases hres
      have hother : (!isSwitchField isUnion field) = true := by
        rw [isSwitchField, Bool.eq_false_iff.mpr hswitch]
        rfl
      rw [List.reduceOption_cons_of_some, List.filter_cons, if_pos hother, List.map_cons,
        List.map_cons, ih]
      rfl

omit [DecidableEq N] in
lemma exists_convertField_iff (st : StructuredTypeSchema N T) (isUnion : Bool)
    (field : FieldType N T) :
    (∃ result, S.convertField st isUnion field = .ok result) ↔
      ∃ dataType, S.getDataType st field = .ok dataType := by
  unfold convertField
  rw [Except.exists_bind_eq_ok_iff]
  refine exists_congr fun dataType => and_iff_left ?_
  by_cases hswitch : (isUnion && field.originalName == some "SwitchField") = true
  · exact ⟨none, if_pos hswitch⟩
  · exact ⟨_, if_neg hswitch⟩

omit [DecidableEq N] in
/-- **When the conversion gives the keys** that are expected. -/
lemma convertBack_iff (st : StructuredTypeSchema N T) (structureType : StructureType)
    (keys : List (Option String × ℤ × Bool)) :
    (∃ fields, S.convertStructureTypeSchemaToStructureDefinition st = .ok (structureType, fields) ∧
      fields.map fieldKey = keys) ↔
      structureType = (if st.baseType = "Union" then .Union else .Structure) ∧
        (∀ field ∈ st.fields, field.category = .basic →
          ∃ nodeId, S.resolveNodeId field.fieldType = .ok nodeId) ∧
        (st.fields.filter fun field => !isSwitchField (st.baseType == "Union") field).map
          (returnedKey (st.baseType == "Union")) = keys := by
  have hexists : (∃ converted, st.fields.mapM (S.convertField st (st.baseType == "Union")) =
      .ok converted) ↔ ∀ field ∈ st.fields, field.category = .basic →
        ∃ nodeId, S.resolveNodeId field.fieldType = .ok nodeId := by
    rw [Except.exists_mapM_eq_ok_iff]
    simp only [S.exists_convertField_iff, S.getDataType_iff]
  have htype : (if (st.baseType == "Union") = true then StructureType.Union else .Structure) =
      if st.baseType = "Union" then StructureType.Union else .Structure := by
    simp only [beq_iff_eq]
  unfold convertStructureTypeSchemaToStructureDefinition
  dsimp only
  rw [htype]
  constructor
  · rintro ⟨fields, hconvert, hkeys⟩
    obtain ⟨converted, hconv, hpair⟩ := Except.bind_pure_eq_ok_iff.mp hconvert
    obtain ⟨rfl, rfl⟩ := Prod.mk.inj hpair
    rw [S.convertField_keys hconv] at hkeys
    exact ⟨rfl, hexists.mp ⟨converted, hconv⟩, hkeys⟩
  · rintro ⟨rfl, hresol, hkeys⟩
    obtain ⟨converted, hconv⟩ := hexists.mpr hresol
    refine ⟨converted.reduceOption, ?_, ?_⟩
    · rw [hconv]
      rfl
    · rw [S.convertField_keys hconv, hkeys]

section

variable {S} {dataTypeNodeId : N} {name : String} {definition : StructureDefinition N}
  {schema : StructuredTypeSchema N T} {members : List (FieldType N T)}

lemma Built.basedOnUnion_iff (h : Built S dataTypeNodeId name definition schema members) :
    S.BasedOnUnion definition ↔ schema.baseType = "Union" := by
  obtain ⟨a, ha, hbase⟩ := h.base
  rw [hbase]
  constructor
  · rintro ⟨a', ha', hname⟩
    cases ha.symm.trans ha'
    exact hname
  · intro hname
    exact ⟨a, ha, hname⟩

lemma Built.resolves_iff (h : Built S dataTypeNodeId name definition schema members)
    (hfirst : S.InheritedFirst definition) :
    (∀ field ∈ schema.fields, field.category = .basic →
        ∃ nodeId, S.resolveNodeId field.fieldType = .ok nodeId) ↔
      (definition.structureType = .Union →
        S.TypeNameResolves name "UInt32" (S.figureOutFieldCategory switchField)) ∧
      ∀ fieldD ∈ S.ownFields definition, ∀ prefetched,
        S.prefetch dataTypeNodeId fieldD = .ok prefetched →
          S.TypeNameResolves name prefetched.fieldTypeName prefetched.category := by
  have hmembers : (∀ field ∈ members, field.category = .basic →
      ∃ nodeId, S.resolveNodeId field.fieldType = .ok nodeId) ↔
      ∀ fieldD ∈ S.ownFields definition, ∀ prefetched,
        S.prefetch dataTypeNodeId fieldD = .ok prefetched →
          S.TypeNameResolves name prefetched.fieldTypeName prefetched.category := by
    have hdesc := h.describes_own hfirst
    clear h
    generalize S.ownFields definition = own at hdesc ⊢
    induction hdesc with
    | nil => exact iff_of_true (List.forall_mem_nil _) (List.forall_mem_nil _)
    | @cons fieldD field own members hfield _ ih =>
      rw [List.forall_mem_cons, List.forall_mem_cons]
      refine and_congr ?_ ih
      obtain ⟨prefetched, hprefetched, htype, hcat⟩ := hfield.type
      rw [htype, hcat]
      constructor
      · intro hresol prefetched' hprefetched'
        cases hprefetched.symm.trans hprefetched'
        exact hresol
      · intro hresol
        exact hresol prefetched hprefetched
  have hflds := h.fields
  split_ifs at hflds with hunion
  · obtain ⟨switch, hswitch, hschema⟩ := hflds
    obtain ⟨-, -, -, -, htype, hcat⟩ := S.buildField_eq_ok hswitch
    rw [hschema, List.forall_mem_cons, hmembers, htype, hcat]
    refine and_congr_left fun _ => ?_
    exact ⟨fun hresol _ => hresol, fun hresol => hresol hunion⟩
  · rw [hflds, hmembers, and_iff_right]
    exact fun h => absurd h hunion

variable {own : List (StructureField N)}

section

variable (hdesc : List.Forall₂ (Describes S dataTypeNodeId name definition) own members)
include hdesc

lemma keys_members_iff {isUnion : Bool}
    (hunion : isUnion = true ∨ definition.structureType ≠ .Union) :
    members.map (returnedKey isUnion) = own.map fieldKey ↔
      ∀ fieldD ∈ own, fieldD.isOptional = false ∧ (fieldD.valueRank = 1 ∨ fieldD.valueRank = -1) := by
  have hkeys : own.map (fun fieldD => (fieldD.name, if 1 ≤ fieldD.valueRank then (1 : ℤ) else -1,
      false)) = members.map (returnedKey isUnion) := by
    refine map_eq_map_of_forall₂ hdesc fun fieldD field hfield => ?_
    have hvalue : (if isUnion then false else field.switchValue.isSome) = false := by
      rcases hunion with rfl | hunion
      · rfl
      · rw [hfield.switchValue, beq_eq_false_iff_ne.mpr hunion, ite_self]
    rw [returnedKey, hfield.name, hvalue, hfield.isArray]
    simp only [decide_eq_true_eq]
  rw [← hkeys, List.map_inj_left]
  refine forall₂_congr fun fieldD _ => ?_
  unfold fieldKey
  rw [Prod.mk.injEq, Prod.mk.injEq]
  constructor
  · rintro ⟨-, hrank, hoptional⟩
    refine ⟨hoptional.symm, ?_⟩
    split_ifs at hrank <;> omega
  · rintro ⟨hoptional, hrank⟩
    refine ⟨rfl, ?_, hoptional.symm⟩
    rcases hrank with hrank | hrank <;> rw [hrank] <;> rfl

lemma keys_union_iff :
    (members.filter fun field => !isSwitchField true field).map (returnedKey true) =
        own.map fieldKey ↔
      (∀ fieldD ∈ own, fieldD.name ≠ some "SwitchField") ∧
        members.map (returnedKey true) = own.map fieldKey := by
  have hnames : (∀ fieldD ∈ own, fieldD.name ≠ some "SwitchField") ↔
      ∀ field ∈ members, (!isSwitchField true field) = true := by
    induction hdesc with
    | nil => exact iff_of_true (List.forall_mem_nil _) (List.forall_mem_nil _)
    | @cons fieldD field own members hfield _ ih =>
      rw [List.forall_mem_cons, List.forall_mem_cons]
      refine and_congr ?_ ih
      simp [isSwitchField, hfield.name]
  rw [hnames]
  constructor
  · intro hkeys
    have hlen := congrArg List.length hkeys
    rw [List.length_map, List.length_map, hdesc.length_eq,
      List.length_filter_eq_length_iff] at hlen
    refine ⟨hlen, ?_⟩
    rwa [List.filter_eq_self.mpr hlen] at hkeys
  · rintro ⟨hall, hkeys⟩
    rwa [List.filter_eq_self.mpr hall]

end

/-- **When a schema comes back.** -/
lemma Built.comesBack_iff (h : Built S dataTypeNodeId name definition schema members)
    (hfirst : S.InheritedFirst definition) :
    S.ComesBack definition schema ↔ S.ReturnCondition dataTypeNodeId name definition := by
  have hdesc := h.describes_own hfirst
  have hbased := h.basedOnUnion_iff
  have hresol := h.resolves_iff hfirst
  unfold ComesBack
  rw [S.convertBack_iff, hresol]
  have hflds := h.fields
  by_cases hbase : schema.baseType = "Union"
  · -- the schema is one of a union
    have hunion : (schema.baseType == "Union") = true := beq_iff_eq.mpr hbase
    rw [if_pos hbase, hunion]
    constructor
    · rintro ⟨htype, ⟨hswitch, htypes⟩, hkeys⟩
      rw [if_pos htype] at hflds
      obtain ⟨switch, hbuilt, hschema⟩ := hflds
      have hname : isSwitchField true switch = true := by
        rw [isSwitchField, (S.buildField_eq_ok hbuilt).1]
        rfl
      rw [hschema, List.filter_cons, if_neg (by rw [hname]; decide), keys_union_iff hdesc,
        keys_members_iff hdesc (Or.inl rfl)] at hkeys
      exact ⟨Or.inl ⟨htype, hbased.mpr hbase⟩, hkeys.2, fun _ => hkeys.1, htypes, hswitch⟩
    · intro hreturn
      obtain ⟨htype, -⟩ | ⟨-, hother⟩ := hreturn.structureType
      · rw [if_pos htype] at hflds
        obtain ⟨switch, hbuilt, hschema⟩ := hflds
        have hname : isSwitchField true switch = true := by
          rw [isSwitchField, (S.buildField_eq_ok hbuilt).1]
          rfl
        refine ⟨htype, ⟨hreturn.switchType, hreturn.types⟩, ?_⟩
        rw [hschema, List.filter_cons, if_neg (by rw [hname]; decide), keys_union_iff hdesc,
          keys_members_iff hdesc (Or.inl rfl)]
        exact ⟨hreturn.names htype, hreturn.fields⟩
      · exact absurd (hbased.mpr hbase) hother
  · -- the schema is one of a structure
    have hother : (schema.baseType == "Union") = false := beq_eq_false_iff_ne.mpr hbase
    have hkept : (schema.fields.filter fun field => !isSwitchField false field) = schema.fields :=
      List.filter_eq_self.mpr fun _ _ => rfl
    rw [if_neg hbase, hother, hkept]
    constructor
    · rintro ⟨htype, ⟨hswitch, htypes⟩, hkeys⟩
      have hne : definition.structureType ≠ .Union := by rw [htype]; nofun
      rw [if_neg hne] at hflds
      rw [hflds, keys_members_iff hdesc (Or.inr hne)] at hkeys
      exact ⟨Or.inr ⟨htype, fun hunion => hbase (hbased.mp hunion)⟩, hkeys,
        fun hunion => absurd hunion hne, htypes, hswitch⟩
    · intro hreturn
      obtain ⟨-, hunion⟩ | ⟨htype, -⟩ := hreturn.structureType
      · exact absurd (hbased.mp hunion) hbase
      · have hne : definition.structureType ≠ .Union := by rw [htype]; nofun
        rw [if_neg hne] at hflds
        refine ⟨htype, ⟨hreturn.switchType, hreturn.types⟩, ?_⟩
        rw [hflds, keys_members_iff hdesc (Or.inr hne)]
        exact hreturn.fields

end

/-! ### The conversion -/

/-- **What is expected of the schema of a definition.** -/
structure Faithful (definition : StructureDefinition N) (schema : StructuredTypeSchema N T) :
    Prop where
  lists : S.ListsOwnFields definition schema
  bits : S.BitsFaithful definition schema
  values : S.ValuesFaithful definition schema
  comesBack : S.ComesBack definition schema

/-- **The definitions that are converted faithfully.** -/
structure Convertible (dataTypeNodeId : N) (name : String) (definition : StructureDefinition N) :
    Prop where
  lists : S.InheritedFirst definition
  bits : S.BitsCondition definition
  values : definition.structureType = .UnionWithSubtypedValues → S.ownFields definition = []
  comesBack : S.ReturnCondition dataTypeNodeId name definition

/-- **When a definition is converted faithfully.** The schema lists exactly the fields that are not
inherited if and only if the definition lists the inherited ones first, as many as the base types
have; and then the optional fields have their ranks as switch bits if and only if those of the base
types do and no optional field is added after an inherited one that is not optional, the members
of a union have the values from 1 on if and only if it is no union with subtyped values that has
members, and the schema is converted back to the same type, names, ranks and flags if and only if
the definition is a union on the base of all unions or a plain structure, without optional fields,
whose ranks are those of scalars and of arrays of one dimension. -/
theorem conversion_faithful_iff {dataTypeNodeId : N} {name : String}
    {definition : StructureDefinition N} {schema : StructuredTypeSchema N T}
    (h : S.convertDataTypeDefinitionToStructureTypeSchema dataTypeNodeId name definition =
      .ok schema) :
    (S.Faithful definition schema ↔ S.Convertible dataTypeNodeId name definition) ∧
      (S.ListsOwnFields definition schema ↔ S.InheritedFirst definition) ∧
      (S.InheritedFirst definition →
        (S.BitsFaithful definition schema ↔ S.BitsCondition definition) ∧
        (S.ValuesFaithful definition schema ↔
          (definition.structureType = .UnionWithSubtypedValues → S.ownFields definition = [])) ∧
        (S.ComesBack definition schema ↔ S.ReturnCondition dataTypeNodeId name definition)) := by
  obtain ⟨-, members, hbuilt⟩ := S.convert_spec h
  refine ⟨?_, hbuilt.listsOwnFields_iff, fun hfirst => ⟨hbuilt.bitsFaithful_iff hfirst,
    hbuilt.valuesFaithful_iff hfirst, hbuilt.comesBack_iff hfirst⟩⟩
  constructor
  · intro hfaith
    have hfirst := hbuilt.listsOwnFields_iff.mp hfaith.lists
    exact ⟨hfirst, (hbuilt.bitsFaithful_iff hfirst).mp hfaith.bits,
      (hbuilt.valuesFaithful_iff hfirst).mp hfaith.values,
      (hbuilt.comesBack_iff hfirst).mp hfaith.comesBack⟩
  · intro hconv
    have hfirst := hconv.lists
    exact ⟨hbuilt.listsOwnFields_iff.mpr hfirst,
      (hbuilt.bitsFaithful_iff hfirst).mpr hconv.bits,
      (hbuilt.valuesFaithful_iff hfirst).mpr hconv.values,
      (hbuilt.comesBack_iff hfirst).mpr hconv.comesBack⟩

end TypeServices

/-! ### A base type with a field that is not optional -/

/-- The services of a process that knows one structure, number 100, with one field. -/
def pointServices : TypeServices ℕ Unit Unit where
  structureNodeId := 22
  unionNodeId := 12756
  nullNodeId := 0
  getStructureInfoForDataType nodeId :=
    if nodeId = 100 then
      some [{ name := "Base", baseType := "Structure", bitFields := some [],
              fields := [{ originalName := some "Kind", fieldType := "UInt32", category := .basic,
                           schema := some (), isArray := false, switchBit := none,
                           switchValue := none, allowSubTypes := none, dataType := some 7,
                           basicDataType := some 7 }],
              dataTypeNodeId := 100 }]
    else none
  resolveFieldType nodeId :=
    if nodeId = 7 then .ok ⟨"UInt32", (), .basic, none⟩ else .ok ⟨"Base", (), .complex, none⟩
  findBasicDataTypeEx _ := .ok 7
  readBrowseName _ := .ok "Point"
  hasEnumeration _ := false
  hasBuiltInType typeName := typeName == "UInt32"
  hasStructureByTypeName typeName := typeName == "Base"
  findSchema _ _ := .error ()
  dataTypeNodeId _ := none
  resolveNodeId _ := .ok 7

/-- A structure on the known one, with one more field. -/
def pointDefinition (structureType : StructureType) (isOptional : Bool) : StructureDefinition ℕ where
  baseDataType := 100
  structureType
  fields := some [⟨some "Kind", 7, -1, false⟩, ⟨some "X", 7, -1, isOptional⟩]

/-- A structure without optional fields is converted faithfully. -/
theorem conversion_faithful_point :
    ∃ schema, pointServices.convertDataTypeDefinitionToStructureTypeSchema 101 "Point"
        (pointDefinition .Structure false) = .ok schema ∧
      pointServices.Faithful (pointDefinition .Structure false) schema := by
  refine ⟨_, rfl,
    (@TypeServices.conversion_faithful_iff _ _ _ _ pointServices 101 "Point" _ _ rfl).1.mpr ?_⟩
  refine ⟨⟨by decide, by decide⟩, ⟨by decide, Or.inl (by decide)⟩, nofun, ?_⟩
  refine ⟨Or.inr ⟨rfl, ?_⟩, by decide, nofun, fun _ _ _ _ _ => ⟨7, rfl⟩, nofun⟩
  rintro ⟨a, ha, hname⟩
  cases ha
  exact absurd hname (by decide)

/-- **The first optional field has the bit 1**: one field is inherited, which is not optional, and the
bits are handed out from the number of the inherited fields on. The flag is lost on the way back, and
so is the type of the structure. -/
theorem first_optional_not_ranked :
    ∃ schema, pointServices.convertDataTypeDefinitionToStructureTypeSchema 101 "Point"
        (pointDefinition .StructureWithOptionalFields true) = .ok schema ∧
      schema.fields.map (·.switchBit) = [some 1] ∧
      (∃ fields, pointServices.convertStructureTypeSchemaToStructureDefinition schema =
        .ok (.Structure, fields) ∧ fields.map (·.isOptional) = [false]) ∧
      ¬ pointServices.Faithful (pointDefinition .StructureWithOptionalFields true) schema := by
  refine ⟨_, rfl, rfl, ⟨_, rfl, rfl⟩, ?_⟩
  intro h
  exact absurd h.bits.ranked (by decide)

end NodeOpcua
