import NodeOpcua.Library.Number
import NodeOpcua.NodeId.Basic
import NodeOpcua.StatusCode

set_option autoImplicit false

/-!
# Variants and data values

A variant holds one value of a built-in type, an array or a matrix of such values. Variants and data
values may hold each other.

## Main definitions

* `BuiltIn.DataType`.
* `BuiltIn.Element`, `BuiltIn.Variant`, `BuiltIn.DataValue`.

## Design

* Values are typed: the constructor of a variant converts or refuses what is not of its data type.
  Where it lets `null` through, the value is an `Option`.
* The constructor turns arrays of numbers into typed arrays. An array is the list of its values.
* The classes of extension objects are a parameter.
-/

namespace NodeOpcua.BuiltIn

/-- `DataType`. -/
inductive DataType
  | null
  | boolean
  | sByte
  | byte
  | int16
  | uint16
  | int32
  | uint32
  | int64
  | uint64
  | float
  | double
  | string
  | dateTime
  | guid
  | byteString
  | xmlElement
  | nodeId
  | expandedNodeId
  | statusCode
  | qualifiedName
  | localizedText
  | extensionObject
  | dataValue
  | variant
  | diagnosticInfo
  deriving DecidableEq, Repr

/-- `LocalizedText`. -/
structure LocalizedText where
  locale : Option String
  text : Option String
  deriving DecidableEq, Repr

/-- `QualifiedName`. -/
structure QualifiedName where
  namespaceIndex : UInt16
  name : Option String
  deriving DecidableEq, Repr

/-- `DiagnosticInfo`. The numbers are indices into a table of strings, and -1 without one. -/
inductive DiagnosticInfo
  | mk (symbolicId namespaceURI locale localizedText : BitVec 32) (additionalInfo : Option String)
      (innerStatusCode : StatusCode) (innerDiagnosticInfo : Option DiagnosticInfo)

section

variable (U : CaseMapping) (X : Type)

mutual

/-- **A value of a built-in type**. A 64-bit number is the pair of its halves. -/
inductive Element
  | null
  | boolean (value : Bool)
  | sByte (value : BitVec 8)
  | byte (value : BitVec 8)
  | int16 (value : BitVec 16)
  | uint16 (value : BitVec 16)
  | int32 (value : BitVec 32)
  | uint32 (value : BitVec 32)
  | int64 (high low : BitVec 32)
  | uint64 (high low : BitVec 32)
  | float (value : Number)
  | double (value : Number)
  | string (value : Option String)
  | dateTime (value : Option Date)
  | guid (value : Option String)
  | byteString (value : Option Buffer)
  | xmlElement (value : Option String)
  | nodeId (value : Option (NodeId U))
  | expandedNodeId (value : Option (ExpandedNodeId U))
  | statusCode (value : Option StatusCode)
  | qualifiedName (value : Option QualifiedName)
  | localizedText (value : Option LocalizedText)
  | extensionObject (value : Option X)
  | dataValue (value : Option DataValue)
  | variant (value : Option Variant)
  | diagnosticInfo (value : Option DiagnosticInfo)

/-- **A variant**: a scalar, an array, which may be null, or a matrix. -/
inductive Variant
  | scalar (value : Element)
  | array (dataType : DataType) (value : Option (List Element))
  | matrix (dataType : DataType) (value : List Element) (dimensions : List (BitVec 32))

/-- **A data value**. -/
inductive DataValue
  | mk (value : Option Variant) (statusCode : StatusCode) (sourceTimestamp : Option Date)
      (sourcePicoseconds : ℕ) (serverTimestamp : Option Date) (serverPicoseconds : ℕ)

end

end

variable {U : CaseMapping} {X : Type}

/-- The type of a value. -/
def Element.dataType : Element U X → DataType
  | .null => .null
  | .boolean _ => .boolean
  | .sByte _ => .sByte
  | .byte _ => .byte
  | .int16 _ => .int16
  | .uint16 _ => .uint16
  | .int32 _ => .int32
  | .uint32 _ => .uint32
  | .int64 _ _ => .int64
  | .uint64 _ _ => .uint64
  | .float _ => .float
  | .double _ => .double
  | .string _ => .string
  | .dateTime _ => .dateTime
  | .guid _ => .guid
  | .byteString _ => .byteString
  | .xmlElement _ => .xmlElement
  | .nodeId _ => .nodeId
  | .expandedNodeId _ => .expandedNodeId
  | .statusCode _ => .statusCode
  | .qualifiedName _ => .qualifiedName
  | .localizedText _ => .localizedText
  | .extensionObject _ => .extensionObject
  | .dataValue _ => .dataValue
  | .variant _ => .variant
  | .diagnosticInfo _ => .diagnosticInfo

/-- The type of the values of a variant. -/
def Variant.dataType : Variant U X → DataType
  | .scalar value => value.dataType
  | .array dataType _ => dataType
  | .matrix dataType _ _ => dataType

namespace DataValue

/-- The value of a data value. -/
def value : DataValue U X → Option (Variant U X)
  | .mk value _ _ _ _ _ => value

/-- The status of a data value. -/
def statusCode : DataValue U X → StatusCode
  | .mk _ statusCode _ _ _ _ => statusCode

/-- The time that the source gives a data value. -/
def sourceTimestamp : DataValue U X → Option Date
  | .mk _ _ sourceTimestamp _ _ _ => sourceTimestamp

/-- What the source adds to this time. -/
def sourcePicoseconds : DataValue U X → ℕ
  | .mk _ _ _ sourcePicoseconds _ _ => sourcePicoseconds

end DataValue

end NodeOpcua.BuiltIn
