import Mathlib.Data.List.Forall2
import NodeOpcua.DynamicSchema.Conversion

set_option autoImplicit false

/-!
# The schema of a definition

What the fields of a schema are made from: the switch of a union, and the fields of the definition
that are not ignored, one after the other, with bits and values that are handed out in order.

## Main definitions

* `Creates`, `Describes`, `TypeServices.Built`.

## Main results

* `createFields_switchBits`, `createFields_switchValues`, `TypeServices.convert_spec`.
-/

namespace NodeOpcua

variable {N T E : Type}

/-! ### Lists that are mapped -/

lemma forall₂_of_mapM_eq_ok {α β : Type} {f : α → Except E β} {as : List α} {bs : List β}
    (h : as.mapM f = .ok bs) : List.Forall₂ (fun a b => f a = .ok b) as bs := by
  induction as generalizing bs with
  | nil =>
    cases h
    exact .nil
  | cons a as ih =>
    rw [List.mapM_cons] at h
    obtain ⟨b, hb, hrest⟩ := Except.bind_eq_ok_iff.mp h
    obtain ⟨bs', hbs', rfl⟩ := Except.bind_pure_eq_ok_iff.mp hrest
    exact .cons hb (ih hbs')

lemma map_eq_map_of_forall₂ {α β γ : Type} {R : α → β → Prop} {f : α → γ} {g : β → γ}
    {as : List α} {bs : List β} (h : List.Forall₂ R as bs) (hfg : ∀ a b, R a b → f a = g b) :
    as.map f = bs.map g := by
  induction h with
  | nil => rfl
  | cons hab _ ih => rw [List.map_cons, List.map_cons, hfg _ _ hab, ih]

/-! ### The fields that are created -/

/-- A field of a structure, that may be absent, as the codec sees it. -/
def isSwitched (structureType : StructureType) (fieldD : StructureField N) : Bool :=
  fieldD.isOptional && !definitionAllowSubTypes structureType

/-- The name of the type of a field. -/
def PrefetchedField.fieldTypeName : PrefetchedField N T → String
  | .self fieldTypeName => fieldTypeName
  | .resolved resolvedField _ => resolvedField.fieldTypeName

/-- The category of the type of a field. -/
def PrefetchedField.category : PrefetchedField N T → FieldCategory
  | .self _ => .complex
  | .resolved resolvedField _ => resolvedField.category

/-- **The options of one field.** -/
structure Creates (definition : StructureDefinition N) (r : StructureField N × PrefetchedField N T)
    (field : FieldInterfaceOptions N T) : Prop where
  name : field.name = r.1.name
  isArray : field.isArray = decide (1 ≤ r.1.valueRank)
  switchBit : field.switchBit.isSome = isSwitched definition.structureType r.1
  switchValue : field.switchValue.isSome = (definition.structureType == .Union)
  fieldType : field.fieldType = r.2.fieldTypeName
  category : field.category = some r.2.category

section

variable (definition : StructureDefinition N)
include definition

lemma creates_completeField
    (r : StructureField N × PrefetchedField N T) (counters : FieldCounters) :
    Creates definition r (completeField r.1
      (createField (T := T) definition r.1 (definition.structureType == .Union) counters).2.2
      (createField definition r.1 (definition.structureType == .Union) counters).1 r.2) := by
  obtain ⟨fieldD, prefetched⟩ := r
  cases prefetched <;> refine ⟨rfl, rfl, ?_, ?_, rfl, rfl⟩ <;>
    simp only [completeField, createField, isSwitched] <;> split_ifs with h <;> simp_all

/-- **The loop creates the fields** one after the other. -/
lemma creates_createFields
    (results : List (StructureField N × PrefetchedField N T)) (counters : FieldCounters) :
    List.Forall₂ (Creates definition) results
      (createFields definition (definition.structureType == .Union) results counters).1 := by
  induction results generalizing counters with
  | nil => exact .nil
  | cons r results ih => exact .cons (creates_completeField definition r counters) (ih _)

/-- **The bits are handed out in order** to the optional fields. -/
lemma createFields_switchBits (isUnion : Bool)
    (results : List (StructureField N × PrefetchedField N T)) (counters : FieldCounters) :
    (createFields definition isUnion results counters).1.filterMap (·.switchBit) =
      List.range' counters.switchBit
        (results.countP fun r => isSwitched definition.structureType r.1) := by
  induction results generalizing counters with
  | nil => rfl
  | cons r results ih =>
    obtain ⟨fieldD, prefetched⟩ := r
    rw [List.countP_cons]
    have hfield : (completeField fieldD
        (createField (T := T) definition fieldD isUnion counters).2.2
        (createField definition fieldD isUnion counters).1 prefetched).switchBit =
        if isSwitched definition.structureType fieldD then some counters.switchBit else none := by
      cases prefetched <;> rfl
    simp only [createFields, List.filterMap_cons, hfield, ih]
    cases hswitched : isSwitched definition.structureType fieldD with
    | true =>
      simp only [isSwitched] at hswitched
      simp only [createField, hswitched, if_true, List.range'_succ]
    | false =>
      simp only [isSwitched] at hswitched
      simp only [createField, hswitched, Bool.false_eq_true, if_false, Nat.add_zero]

/-- **The values of a union are counted** from the first member on. -/
lemma createFields_switchValues
    (results : List (StructureField N × PrefetchedField N T)) (counters : FieldCounters) :
    (createFields definition true results counters).1.map (·.switchValue) =
      (List.range' counters.switchValue results.length).map some := by
  induction results generalizing counters with
  | nil => rfl
  | cons r results ih =>
    obtain ⟨fieldD, prefetched⟩ := r
    have hfield : (completeField fieldD
        (createField (T := T) definition fieldD true counters).2.2
        (createField definition fieldD true counters).1 prefetched).switchValue =
        some counters.switchValue := by
      cases prefetched <;> rfl
    simp only [createFields, List.map_cons, hfield, ih]
    simp only [createField, if_true, List.length_cons, List.range'_succ, List.map_cons]

end

/-! ### The fields of the schema -/

variable [DecidableEq N] (S : TypeServices N T E)

namespace TypeServices

/-- The category that a field of a type has in the structure with the name. -/
def builtCategory (name fieldTypeName : String) (category : FieldCategory) : FieldCategory :=
  if fieldTypeName = name then if S.hasBuiltInType name then .basic else .complex else category

/-- The fields that are inherited from the known base types. -/
def inheritedFields (definition : StructureDefinition N) : List (FieldType N T) :=
  extractAllPossibleFields (S.baseSchemas definition)

end TypeServices

/-- **A field of a schema is made from a field** of the definition. -/
structure Describes (dataTypeNodeId : N) (typeName : String) (definition : StructureDefinition N)
    (fieldD : StructureField N) (field : FieldType N T) : Prop where
  name : field.originalName = fieldD.name
  isArray : field.isArray = decide (1 ≤ fieldD.valueRank)
  switchBit : field.switchBit.isSome = isSwitched definition.structureType fieldD
  switchValue : field.switchValue.isSome = (definition.structureType == .Union)
  type : ∃ prefetched, S.prefetch dataTypeNodeId fieldD = .ok prefetched ∧
    field.fieldType = prefetched.fieldTypeName ∧
    field.category = S.builtCategory typeName prefetched.fieldTypeName prefetched.category

namespace TypeServices

variable {options : FieldInterfaceOptions N T} {name : String}

omit [DecidableEq N] in
lemma buildField_eq_ok {field : FieldType N T} (h : S.buildField name options = .ok field) :
    field.originalName = options.name ∧ field.isArray = options.isArray ∧
      field.switchBit = options.switchBit ∧ field.switchValue = options.switchValue ∧
      field.fieldType = options.fieldType ∧
      field.category = S.builtCategory name options.fieldType (S.figureOutFieldCategory options) := by
  obtain ⟨schema, -, rfl⟩ := Except.bind_pure_eq_ok_iff.mp h
  exact ⟨rfl, rfl, rfl, rfl, rfl, rfl⟩

/-- The switch of a union. -/
def switchField : FieldInterfaceOptions N T := { name := some "SwitchField", fieldType := "UInt32" }

/-- **The fields of a schema**: the switch of a union, and the fields that are made from those of
the definition that are not ignored. -/
structure Built (dataTypeNodeId : N) (name : String) (definition : StructureDefinition N)
    (schema : StructuredTypeSchema N T) (members : List (FieldType N T)) : Prop where
  base : ∃ a, S.resolveFieldType (S.effectiveBaseDataType definition) = .ok a ∧
    schema.baseType = a.fieldTypeName
  fields : if definition.structureType = .Union
    then ∃ switch, S.buildField name switchField = .ok switch ∧ schema.fields = switch :: members
    else schema.fields = members
  describes : List.Forall₂ (Describes S dataTypeNodeId name definition)
    ((definition.fields.getD []).drop (S.inheritedFields definition).length) members
  switchBits : members.filterMap (·.switchBit) = List.range' (S.inheritedFields definition).length
    (((definition.fields.getD []).drop (S.inheritedFields definition).length).countP
      (isSwitched definition.structureType))
  switchValues : definition.structureType = .Union →
    members.map (·.switchValue) = (List.range' 1 members.length).map some

variable {definition : StructureDefinition N} {dataTypeNodeId : N}

lemma prefetchFields_forall₂ {results : List (StructureField N × PrefetchedField N T)}
    (h : S.prefetchFields dataTypeNodeId definition = .ok results) :
    List.Forall₂ (fun fieldD r => r.1 = fieldD ∧ S.prefetch dataTypeNodeId fieldD = .ok r.2)
      ((definition.fields.getD []).drop (S.inheritedFields definition).length) results := by
  refine (forall₂_of_mapM_eq_ok h).imp ?_
  intro fieldD r hr
  obtain ⟨prefetched, hprefetched, rfl⟩ := Except.bind_pure_eq_ok_iff.mp hr
  exact ⟨rfl, hprefetched⟩

lemma describes_of_creates {fieldD : StructureField N} {r : StructureField N × PrefetchedField N T}
    {field : FieldType N T} (hr : r.1 = fieldD ∧ S.prefetch dataTypeNodeId fieldD = .ok r.2)
    (hcreates : Creates definition r options) (hbuild : S.buildField name options = .ok field) :
    Describes S dataTypeNodeId name definition fieldD field := by
  obtain ⟨rfl, hprefetch⟩ := hr
  obtain ⟨hname, hisArray, hbit, hvalue, htype, hcat⟩ := S.buildField_eq_ok hbuild
  have hfigure : S.figureOutFieldCategory options = r.2.category := by
    rw [figureOutFieldCategory, hcreates.category]
  refine ⟨hname.trans hcreates.name, hisArray.trans hcreates.isArray, ?_, ?_, r.2, hprefetch,
    htype.trans hcreates.fieldType, ?_⟩
  · rw [hbit, hcreates.switchBit]
  · rw [hvalue, hcreates.switchValue]
  · rw [hcat, hfigure, hcreates.fieldType]

lemma forall₂_comp {α β γ : Type} {R : α → β → Prop} {Q : β → γ → Prop} {P : α → γ → Prop}
    {as : List α} {bs : List β} {cs : List γ} (hR : List.Forall₂ R as bs)
    (hQ : List.Forall₂ Q bs cs) (hP : ∀ a b c, R a b → Q b c → P a c) :
    List.Forall₂ P as cs := by
  induction hR generalizing cs with
  | nil =>
    cases hQ
    exact .nil
  | cons hab _ ih =>
    cases hQ with
    | cons hbc hrest => exact .cons (hP _ _ _ hab hbc) (ih hrest)

/-- The options of the fields, with the counters that the conversion starts from. -/
def createdFields (definition : StructureDefinition N)
    (results : List (StructureField N × PrefetchedField N T)) : List (FieldInterfaceOptions N T) :=
  (createFields definition (definition.structureType == .Union) results
    { switchBit := (S.inheritedFields definition).length, switchValue := 1,
      bitFields := if definition.structureType == .Union then none else some [] }).1

section

variable {S} {dataTypeNodeId : N} {name : String} {definition : StructureDefinition N}
  {results : List (StructureField N × PrefetchedField N T)} {members : List (FieldType N T)}
  (hresults : S.prefetchFields dataTypeNodeId definition = .ok results)
  (hmembers : List.Forall₂ (fun options field => S.buildField name options = .ok field)
    (S.createdFields definition results) members)

include hresults hmembers

lemma describes_members : List.Forall₂ (Describes S dataTypeNodeId name definition)
    ((definition.fields.getD []).drop (S.inheritedFields definition).length) members := by
  have hcreates := creates_createFields definition results
    { switchBit := (S.inheritedFields definition).length, switchValue := 1,
      bitFields := if definition.structureType == .Union then none else some [] }
  have hbuilt : List.Forall₂ (fun r field => ∃ opts, Creates definition r opts ∧
      S.buildField name opts = .ok field) results members :=
    forall₂_comp hcreates hmembers fun _ opts _ hcreates hbuild => ⟨opts, hcreates, hbuild⟩
  refine forall₂_comp (S.prefetchFields_forall₂ hresults) hbuilt ?_
  rintro fieldD r field hr ⟨opts, hcreates, hbuild⟩
  exact S.describes_of_creates hr hcreates hbuild

lemma switchBits_members :
    members.filterMap (·.switchBit) = List.range' (S.inheritedFields definition).length
      (((definition.fields.getD []).drop (S.inheritedFields definition).length).countP
        (isSwitched definition.structureType)) := by
  have hbits : (S.createdFields definition results).map (·.switchBit) =
      members.map (·.switchBit) :=
    map_eq_map_of_forall₂ hmembers fun _ _ hbuild => (S.buildField_eq_ok hbuild).2.2.1.symm
  have hflds : ((definition.fields.getD []).drop (S.inheritedFields definition).length) =
      results.map (·.1) := by
    have h := map_eq_map_of_forall₂ (f := id) (g := Prod.fst) (S.prefetchFields_forall₂ hresults)
      fun _ _ hr => hr.1.symm
    rwa [List.map_id] at h
  have hcre := createFields_switchBits definition (definition.structureType == .Union) results
    { switchBit := (S.inheritedFields definition).length, switchValue := 1,
      bitFields := if definition.structureType == .Union then none else some [] }
  calc members.filterMap (·.switchBit)
      = (members.map (·.switchBit)).filterMap id := by rw [List.filterMap_map]; rfl
    _ = (S.createdFields definition results).filterMap (·.switchBit) := by
        rw [← hbits, List.filterMap_map]; rfl
    _ = _ := hcre
    _ = _ := by rw [hflds, List.countP_map]; rfl

lemma switchValues_members (hunion : definition.structureType = .Union) :
    members.map (·.switchValue) = (List.range' 1 members.length).map some := by
  have hvals : (S.createdFields definition results).map (·.switchValue) =
      members.map (·.switchValue) :=
    map_eq_map_of_forall₂ hmembers fun _ _ hbuild => (S.buildField_eq_ok hbuild).2.2.2.1.symm
  have hlen : results.length = members.length := by
    rw [← (describes_members hresults hmembers).length_eq,
      ← (S.prefetchFields_forall₂ hresults).length_eq]
  rw [← hvals, ← hlen, createdFields, hunion]
  exact createFields_switchValues definition results _

end

/-- **The schema of a definition.** -/
theorem convert_spec {schema : StructuredTypeSchema N T}
    (h : S.convertDataTypeDefinitionToStructureTypeSchema dataTypeNodeId name definition =
      .ok schema) :
    schema.dataTypeNodeId = dataTypeNodeId ∧
      ∃ members, Built S dataTypeNodeId name definition schema members := by
  obtain ⟨results, hresults, h⟩ := Except.bind_eq_ok_iff.mp h
  obtain ⟨a, ha, h⟩ := Except.bind_eq_ok_iff.mp h
  obtain ⟨fields, hflds, rfl⟩ := Except.bind_pure_eq_ok_iff.mp h
  refine ⟨rfl, ?_⟩
  have hbuilt := forall₂_of_mapM_eq_ok hflds
  by_cases hunion : definition.structureType = .Union
  · rw [if_pos (by rw [hunion]; rfl)] at hbuilt
    cases hbuilt with
    | @cons _ switch _ members hswitch hmembers =>
      refine ⟨members, ⟨a, ha, rfl⟩, ?_, describes_members hresults hmembers,
        switchBits_members hresults hmembers, switchValues_members hresults hmembers⟩
      rw [if_pos hunion]
      exact ⟨switch, hswitch, rfl⟩
  · have hfalse : (definition.structureType == .Union) = false := beq_eq_false_iff_ne.mpr hunion
    rw [if_neg (by rw [hfalse]; exact Bool.false_ne_true)] at hbuilt
    have hmembers : List.Forall₂ (fun opts field => S.buildField name opts = .ok field)
        (S.createdFields definition results) fields := hbuilt
    refine ⟨fields, ⟨a, ha, rfl⟩, ?_, describes_members hresults hmembers,
      switchBits_members hresults hmembers, fun h => absurd h hunion⟩
    rw [if_neg hunion]

end TypeServices

end NodeOpcua
