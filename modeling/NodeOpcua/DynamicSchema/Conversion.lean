import Mathlib.Data.List.Basic
import Mathlib.Data.Int.Notation
import NodeOpcua.Library.Except

set_option autoImplicit false

/-!
# Structure definitions and schemas

The definition of a structure, as a server exposes it, is converted to the schema that the dynamic
codec works with, and a schema is converted back to a definition.

## Main definitions

* `StructureDefinition`, `StructuredTypeSchema`,
  `TypeServices.convertDataTypeDefinitionToStructureTypeSchema`,
  `TypeServices.convertStructureTypeSchemaToStructureDefinition`.

## Design

* Node identifiers and the definitions of types are of any type. What the session, the manager and
  the factories answer is given, and may be an error. Their caches, which do not change an answer,
  are left out.
* A known type is the list of its schema and of the schemas that it is based on.
* Descriptions and encodings are left out, and so are the names with a lower first letter, of which
  only the number is used here.
-/

namespace NodeOpcua

/-! ### Definitions -/

/-- `StructureType`. -/
inductive StructureType
  | Structure
  | StructureWithOptionalFields
  | Union
  | StructureWithSubtypedValues
  | UnionWithSubtypedValues
  | Invalid
  deriving DecidableEq, Repr

/-- `StructureField`. -/
structure StructureField (N : Type) where
  name : Option String
  dataType : N
  valueRank : ℤ
  isOptional : Bool
  deriving DecidableEq, Repr

/-- **A definition**, whose fields may be null. -/
structure StructureDefinition (N : Type) where
  baseDataType : N
  structureType : StructureType
  fields : Option (List (StructureField N))

/-! ### Schemas -/

/-- `FieldCategory`. -/
inductive FieldCategory
  | enumeration
  | complex
  | basic
  deriving DecidableEq, Repr

/-- `FieldInterfaceOptions`: the options that a field of a schema is built from. -/
structure FieldInterfaceOptions (N T : Type) where
  name : Option String
  fieldType : String
  category : Option FieldCategory := none
  schema : Option T := none
  isArray : Bool := false
  valueRank : Option ℤ := none
  switchBit : Option ℕ := none
  switchValue : Option ℕ := none
  allowSubTypes : Option Bool := none
  dataType : Option N := none
  basicDataType : Option ℕ := none

/-- **A field of a schema.** The schema of its type is none when this is the schema that the field
belongs to. -/
structure FieldType (N T : Type) where
  originalName : Option String
  fieldType : String
  category : FieldCategory
  schema : Option T
  isArray : Bool
  switchBit : Option ℕ
  switchValue : Option ℕ
  allowSubTypes : Option Bool
  dataType : Option N
  basicDataType : Option ℕ

/-- `BitField`. -/
structure BitField where
  name : String
  length : ℕ
  deriving DecidableEq, Repr

/-- **A schema**, with the fields that it adds to those of its base type. -/
structure StructuredTypeSchema (N T : Type) where
  name : String
  baseType : String
  bitFields : Option (List BitField)
  fields : List (FieldType N T)
  dataTypeNodeId : N

/-- `extractAllPossibleFields`: the fields of the base types, and then its own. -/
def extractAllPossibleFields {N T : Type} :
    List (StructuredTypeSchema N T) → List (FieldType N T)
  | [] => []
  | schema :: baseSchemas => extractAllPossibleFields baseSchemas ++ schema.fields

/-- `CacheForFieldResolution`: what is known of the type of a field. -/
structure FieldResolution (N T : Type) where
  fieldTypeName : String
  schema : T
  category : FieldCategory
  dataType : Option N

/-- **What the conversions ask** of the session, of the manager of the types and of the factories.
`findSchema` is what `figureOutSchema` finds for the name of a type. -/
structure TypeServices (N T E : Type) where
  structureNodeId : N
  unionNodeId : N
  nullNodeId : N
  getStructureInfoForDataType : N → Option (List (StructuredTypeSchema N T))
  resolveFieldType : N → Except E (FieldResolution N T)
  findBasicDataTypeEx : N → Except E ℕ
  readBrowseName : N → Except E String
  hasEnumeration : String → Bool
  hasBuiltInType : String → Bool
  hasStructureByTypeName : String → Bool
  findSchema : FieldCategory → String → Except E T
  dataTypeNodeId : T → Option N
  resolveNodeId : String → Except E N

/-! ### From a definition to a schema -/

section

variable {N T E : Type} [DecidableEq N]

/-- The types whose optional fields are those that allow subtypes. -/
def definitionAllowSubTypes (structureType : StructureType) : Bool :=
  structureType == .StructureWithSubtypedValues || structureType == .UnionWithSubtypedValues

/-- The counters of the loop over the fields, and the bit fields so far. -/
structure FieldCounters where
  switchBit : ℕ
  switchValue : ℕ
  bitFields : Option (List BitField)

/-- `createField`: the options for a field, and the counters after it. -/
def createField (definition : StructureDefinition N) (fieldD : StructureField N) (isUnion : Bool)
    (counters : FieldCounters) : FieldInterfaceOptions N T × FieldCounters × Bool :=
  let allow := definitionAllowSubTypes definition.structureType
  let isSwitched := fieldD.isOptional && !allow
  let field : FieldInterfaceOptions N T :=
    { name := fieldD.name
      fieldType := ""
      switchBit := if isSwitched then some counters.switchBit else none
      switchValue := if isUnion then some counters.switchValue else none
      valueRank := if 1 ≤ fieldD.valueRank then some fieldD.valueRank else none
      isArray := 1 ≤ fieldD.valueRank }
  let bitField : BitField := { name := fieldD.name.getD "null" ++ "Specified", length := 1 }
  (field,
    { switchBit := if isSwitched then counters.switchBit + 1 else counters.switchBit
      switchValue := if isUnion then counters.switchValue + 1 else counters.switchValue
      bitFields :=
        if isSwitched then counters.bitFields.map (· ++ [bitField]) else counters.bitFields },
    allow && fieldD.isOptional)

/-- What is prefetched for a field: the name of its type when it is the type of the structure, and
else what is known of it with its basic type. -/
inductive PrefetchedField (N T : Type)
  | self (fieldTypeName : String)
  | resolved (resolvedField : FieldResolution N T) (basicDataType : ℕ)

/-- The options of a field, completed with what is known of its type. -/
def completeField (fieldD : StructureField N) (allowSubTypes : Bool)
    (field : FieldInterfaceOptions N T) : PrefetchedField N T → FieldInterfaceOptions N T
  | .self fieldTypeName => { field with fieldType := fieldTypeName, category := some .complex }
  | .resolved resolvedField basicDataType =>
    { field with
      fieldType := resolvedField.fieldTypeName
      category := some resolvedField.category
      schema := some resolvedField.schema
      dataType := some (resolvedField.dataType.getD fieldD.dataType)
      allowSubTypes := some allowSubTypes
      basicDataType := some basicDataType }

/-- The loop over the fields. -/
def createFields (definition : StructureDefinition N) (isUnion : Bool) :
    List (StructureField N × PrefetchedField N T) → FieldCounters →
      List (FieldInterfaceOptions N T) × FieldCounters
  | [], counters => ([], counters)
  | (fieldD, prefetched) :: results, counters =>
    let (field, counters', allowSubTypes) := createField definition fieldD isUnion counters
    let (fields, counters'') := createFields definition isUnion results counters'
    (completeField fieldD allowSubTypes field prefetched :: fields, counters'')

end

namespace TypeServices

variable {N T E : Type} [DecidableEq N] (S : TypeServices N T E)

/-- `figureOutFieldCategory`. -/
def figureOutFieldCategory (field : FieldInterfaceOptions N T) : FieldCategory :=
  match field.category with
  | some category => category
  | none =>
    if S.hasEnumeration field.fieldType then .enumeration
    else if S.hasBuiltInType field.fieldType then .basic
    else if S.hasStructureByTypeName field.fieldType then .complex
    else .basic

/-- `figureOutSchema`. -/
def figureOutSchema (name : String) (field : FieldInterfaceOptions N T) (category : FieldCategory) :
    Except E (Option T) :=
  match field.schema with
  | some schema => .ok (some schema)
  | none =>
    if name = field.fieldType then .ok none
    else some <$> S.findSchema category field.fieldType

/-- `buildField`, for a field of the structure with the name. -/
def buildField (name : String) (field : FieldInterfaceOptions N T) : Except E (FieldType N T) := do
  let category :=
    if field.fieldType = name then
      if S.hasBuiltInType name then FieldCategory.basic else FieldCategory.complex
    else S.figureOutFieldCategory field
  let schema ← S.figureOutSchema name field category
  return {
    originalName := field.name
    fieldType := field.fieldType
    category
    schema
    isArray := field.isArray
    switchBit := field.switchBit
    switchValue := field.switchValue
    allowSubTypes := field.allowSubTypes
    dataType := field.dataType
    basicDataType := field.basicDataType }

/-- What is prefetched for a field. -/
def prefetch (dataTypeNodeId : N) (fieldD : StructureField N) : Except E (PrefetchedField N T) :=
  if fieldD.dataType = dataTypeNodeId then .self <$> S.readBrowseName dataTypeNodeId
  else do
    let rt ← S.resolveFieldType fieldD.dataType
    return .resolved rt (← S.findBasicDataTypeEx (rt.dataType.getD fieldD.dataType))

/-- The known schemas of the base type. -/
def baseSchemas (definition : StructureDefinition N) : List (StructuredTypeSchema N T) :=
  (S.getStructureInfoForDataType definition.baseDataType).getD []

/-- The fields of the definition that are not ignored, with what is prefetched for them. -/
def prefetchFields (dataTypeNodeId : N) (definition : StructureDefinition N) :
    Except E (List (StructureField N × PrefetchedField N T)) :=
  ((definition.fields.getD []).drop (extractAllPossibleFields (S.baseSchemas definition)).length).mapM
    fun fieldD => do return (fieldD, ← S.prefetch dataTypeNodeId fieldD)

/-- The base type: for a union, some servers give the type of all structures. -/
def effectiveBaseDataType (definition : StructureDefinition N) : N :=
  if definition.structureType = .Union ∧ definition.baseDataType = S.structureNodeId then
    S.unionNodeId
  else definition.baseDataType

/-- `convertDataTypeDefinitionToStructureTypeSchema`, for a structure definition. -/
def convertDataTypeDefinitionToStructureTypeSchema (dataTypeNodeId : N) (name : String)
    (definition : StructureDefinition N) : Except E (StructuredTypeSchema N T) := do
  let fieldCountToIgnore := (extractAllPossibleFields (S.baseSchemas definition)).length
  let isUnion := definition.structureType == .Union
  let switchField : List (FieldInterfaceOptions N T) :=
    if isUnion then [{ name := some "SwitchField", fieldType := "UInt32" }] else []
  let results ← S.prefetchFields dataTypeNodeId definition
  -- bits are handed out from the number of the inherited fields on
  let (fields, counters) := createFields definition isUnion results
    { switchBit := fieldCountToIgnore, switchValue := 1,
      bitFields := if isUnion then none else some [] }
  let a ← S.resolveFieldType (S.effectiveBaseDataType definition)
  let fields ← (switchField ++ fields).mapM (S.buildField name)
  return { name, baseType := a.fieldTypeName, bitFields := counters.bitFields, fields,
           dataTypeNodeId }

/-! ### From a schema to a definition -/

variable (st : StructuredTypeSchema N T)

/-- `_getDataType`, for a field of the schema. -/
def getDataType (field : FieldType N T) : Except E N :=
  match field.category with
  | .complex =>
    .ok <| match field.schema with
      | some schema => (S.dataTypeNodeId schema).getD S.nullNodeId
      | none => st.dataTypeNodeId
  | .basic => S.resolveNodeId field.fieldType
  | .enumeration => .ok (field.dataType.getD S.nullNodeId)

/-- The field of a definition for a field of the schema, none for the switch of a union. The
constructor of a field makes an undefined flag false. -/
def convertField (isUnion : Bool) (f : FieldType N T) :
    Except E (Option (StructureField N)) := do
  let dataType ← S.getDataType st f
  if isUnion && f.originalName == some "SwitchField" then return none
  else
    return some {
      name := f.originalName
      dataType
      valueRank := if f.isArray then 1 else -1
      isOptional := if isUnion then false else f.switchValue.isSome }

/-- `convertStructureTypeSchemaToStructureDefinition`, with the type and the fields that are
defined. -/
def convertStructureTypeSchemaToStructureDefinition :
    Except E (StructureType × List (StructureField N)) := do
  let isUnion := st.baseType == "Union"
  let structureType := if isUnion then StructureType.Union else .Structure
  let fields ← st.fields.mapM (S.convertField st isUnion)
  return (structureType, fields.reduceOption)

end TypeServices

end NodeOpcua
