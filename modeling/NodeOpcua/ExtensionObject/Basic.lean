import NodeOpcua.NodeId.Binary

set_option autoImplicit false

/-!
# Extension objects in a binary stream

A structure in a message is framed: the identifier of its encoding, an encoding byte, the length of
the body and the body. A structure whose type is not known keeps the bytes of its body.

## Main definitions

* `ExtensionObject`.
* `DataTypeFactory.constructObject`.
* `DataTypes.encodeExtensionObject`, `DataTypes.decodeExtensionObject`.

## Design

* The objects are of any type, and so are their schemas, their encoders and the decoders of their
  classes. A decoder leaves an object and a position, whether it returns or throws, since what it
  throws is swallowed.
* A factory constructs an object or throws, so that the branch of the decoder for a factory that
  gives null is left out. So are the warnings.
-/

namespace NodeOpcua

variable {U : CaseMapping} {O : Type}

/-! ### The factory -/

/-- A class of objects: what `decode` makes of a new object, and the position at which it stops. -/
structure ObjectClass (O : Type) where
  decode : BinaryStream → O × ℕ

/-- **A factory**: the structures that are registered under the text of the identifier of an
encoding, with their constructors, and the factories that it is based on. -/
inductive DataTypeFactory (O : Type)
  | mk (structureInfoByEncodingMap : List Char → Option (Option (ObjectClass O)))
      (baseDataFactories : List (DataTypeFactory O))

namespace DataTypeFactory

mutual

/-- `getConstructor`, for the text of the identifier. -/
def getConstructor (expandedNodeIdKey : List Char) : DataTypeFactory O → Option (ObjectClass O)
  | .mk structureInfoByEncodingMap baseDataFactories =>
    match structureInfoByEncodingMap expandedNodeIdKey with
    | none => none
    | some (some constructor) => some constructor
    | some none => getBaseConstructor expandedNodeIdKey baseDataFactories

/-- The first of the factories that has a constructor. -/
def getBaseConstructor (expandedNodeIdKey : List Char) :
    List (DataTypeFactory O) → Option (ObjectClass O)
  | [] => none
  | factory :: factories =>
    match getConstructor expandedNodeIdKey factory with
    | some constructor => some constructor
    | none => getBaseConstructor expandedNodeIdKey factories

end

/-- What `constructObject` throws. -/
inductive ConstructError
  | opaqueNodeId
  | cannotFindConstructor (binaryEncodingNodeId : List Char)
  deriving DecidableEq, Repr

/-- `constructObject`. -/
def constructObject (factory : DataTypeFactory O) (binaryEncodingNodeId : NodeId U) :
    Except ConstructError (ObjectClass O) :=
  match binaryEncodingNodeId.value with
  | .byteString (some _) => .error .opaqueNodeId
  | _ =>
    match factory.getConstructor (binaryEncodingNodeId.toString none) with
    | none => .error (.cannotFindConstructor (binaryEncodingNodeId.toString none))
    | some constructor => .ok constructor

end DataTypeFactory

/-! ### Objects -/

/-- **What the codec works on.** The decoder also gives an object without fields, and undefined. -/
inductive ExtensionObject (U : CaseMapping) (O : Type)
  | null
  | undefined
  | withoutFields
  | opaqueStructure (nodeId : NodeId U) (buffer : Option Buffer)
  | object (object : O)
  deriving DecidableEq

/-- The part of the schema of an object that is used here. -/
structure ObjectSchema (U : CaseMapping) where
  encodingDefaultBinary : Option (ExpandedNodeId U)

/-- **The types of a process**: what is used of the objects, and the standard factory. A text that is
compared with a number is made a number by the language first. -/
structure DataTypes (U : CaseMapping) (O : Type) where
  schema : O → Option (ObjectSchema U)
  binaryStoreSize : O → ℕ
  encode : O → Except EncodeError Buffer
  standardDataTypeFactory : DataTypeFactory O
  isInternalText : String → Bool

/-- `NodeId.isEmpty`. -/
def Identifier.isEmpty : Identifier U → Bool
  | .numeric value => value == 0
  | .string value => value == ""
  | .guid value => value.text == emptyGuid
  | .byteString value => value.getD [] == []

/-- `_FIRST_INTERNAL_ID`. -/
def FIRST_INTERNAL_ID : ℕ := 0xfffe0000

/-- What `encodeExtensionObject` throws. -/
inductive ExtensionObjectError
  | expectingExtensionObject
  | noSchema
  | cannotFindEncodingDefaultBinary
  | cannotFindValidEncodingDefaultBinary
  | encode (error : EncodeError)
  deriving DecidableEq, Repr

namespace DataTypes

variable (T : DataTypes U O)

/-- `is_internal_id`, on the value of an identifier. A GUID is no number. -/
def is_internal_id : Identifier U → Bool
  | .numeric value => FIRST_INTERNAL_ID ≤ value.toNat
  | .string value => T.isInternalText value
  | .guid _ => false
  | .byteString none => false
  | .byteString (some value) => T.isInternalText (BinaryStream.toUtf8String value)

/-! ### The codec -/

/-- The identifier, the encoding byte and a body with its length. -/
def encodeFrame (nodeId : ExpandedNodeId U) (body : Except EncodeError Buffer) :
    Except ExtensionObjectError Buffer :=
  (do return (← encodeNodeId nodeId) ++ [0x01] ++ (← body)).mapError .encode

/-- The size that an object states, and its encoding. -/
def encodeBody (object : O) : Except EncodeError Buffer :=
  if 0xffffffff < T.binaryStoreSize object then .error (.outOfRange (T.binaryStoreSize object))
  else do return uint32Bytes (T.binaryStoreSize object) ++ (← T.encode object)

/-- The identifier of no type. -/
def nullNodeId (U : CaseMapping) : NodeId U := ⟨0, .numeric 0⟩

/-- `encodeExtensionObject`. -/
def encodeExtensionObject : ExtensionObject U O → Except ExtensionObjectError Buffer
  | .null | .undefined =>
    (do return (← encodeNodeId (nullNodeId U).toExpanded) ++ [0x00]).mapError .encode
  | .opaqueStructure nodeId buffer => encodeFrame nodeId.toExpanded (encodeByteString buffer)
  | .withoutFields => .error .expectingExtensionObject
  | .object object =>
    match T.schema object with
    | none => .error .noSchema
    | some schema =>
      match schema.encodingDefaultBinary with
      | none => .error .cannotFindEncodingDefaultBinary
      | some encodingDefaultBinary =>
        if encodingDefaultBinary.value.isEmpty then .error .cannotFindEncodingDefaultBinary
        else if T.is_internal_id encodingDefaultBinary.value then
          .error .cannotFindValidEncodingDefaultBinary
        else encodeFrame encodingDefaultBinary (T.encodeBody object)

/-- The body: bytes for a type of another namespace, and an object of the class otherwise. Nothing
can be decoded when no object is constructed. -/
def decodeBody (nodeId : NodeId U) : Reader (ExtensionObject U O) :=
  if nodeId.namespaceIndex ≠ 0 then do
    -- rewinds before the length, which is a part of the byte string
    modify fun s => { s with length := s.length - 4 }
    return .opaqueStructure nodeId (← BinaryStream.readByteStream)
  else
    match T.standardDataTypeFactory.constructObject nodeId with
    | .error _ => return .undefined
    | .ok constructor => fun s =>
      let (object, position) := constructor.decode s
      .ok (.object object, { s with length := position })

/-- The body, from the position after its length; what was read of it is set to the length. -/
def decodeFramed (nodeId : NodeId U) (length : ℕ) : Reader (ExtensionObject U O) := fun s => do
  let (object, stream) ← T.decodeBody nodeId s
  return (object, { stream with length := s.length + length })

/-- `decodeExtensionObject`. -/
def decodeExtensionObject : Reader (Except NodeIdError (ExtensionObject U O)) := do
  match ← decodeNodeId U with
  | .error e => return .error e
  | .ok nodeId =>
    let encodingType ← BinaryStream.readUInt8
    if encodingType = 0 then return .ok .null
    else
      let length ← BinaryStream.readUInt32
      if nodeId.value = .numeric 0 then return .ok .withoutFields
      else return .ok (← T.decodeFramed nodeId length)

end DataTypes

end NodeOpcua
