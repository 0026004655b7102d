import NodeOpcua.BinaryStream
import NodeOpcua.Library.Number

set_option autoImplicit false

/-!
# Numeric ranges

The `NumericRange` class of `node-opcua-numeric-range`: how a range is built from a string, from
numbers or from arrays of bounds, whether it is valid, and how it is written to a stream and read
back.

## Main definitions

* `NumericRange`, `construct_numeric_range_from_string`, `NumericRange.new`, `NumericRange.isValid`,
  `toEncodeableString`, `overlap`, `encodeNumericRange`, `decodeNumericRange`.

## Design

A string is the list of its characters. The type and the value of a range are one inductive type,
whose constructors are the types.
-/

namespace NodeOpcua

open Number (parseInt lt ge strictEq isFinite toChars)

/-- The rows and columns of a matrix. A refused range that is used as a row leaves its value, the
empty string, in the place of the bounds. -/
inductive MatrixBounds
  | bounds (low high : Number)
  | refused
  deriving DecidableEq

/-- `NumericRange`: the `NumericRangeType` and the value. -/
inductive NumericRange
  | empty
  | singleValue (value : Number)
  | arrayRange (low high : Number)
  | matrixRange (row : MatrixBounds) (col : Number × Number)
  | invalidRange (value : List Char)
  deriving DecidableEq

/-! ### The parser -/

/-- The characters of `/^[0-9:,]*$/`. -/
def regexNumericRange (str : List Char) : Bool :=
  str.all fun c => c.isDigit || c = ':' || c = ','

/-- `_valid_range`. -/
def _valid_range (low high : Number) : Bool :=
  !(ge low high || lt low (.ofNat 0) || lt high (.ofNat 0))

/-- `construct_numeric_range_bit_from_string`: one dimension. -/
def construct_numeric_range_bit_from_string (str : List Char) : NumericRange :=
  match str.splitOn ':' with
  | [value] => .singleValue (parseInt value)
  | [low, high] =>
    if !_valid_range (parseInt low) (parseInt high) then .invalidRange str
    else .arrayRange (parseInt low) (parseInt high)
  | _ => .invalidRange str

/-- `_normalize`: the bounds of a dimension, none for a range that has no bounds. -/
def _normalize : NumericRange → Option (Number × Number)
  | .singleValue value => some (value, value)
  | .arrayRange low high => some (low, high)
  | _ => none

/-- `construct_numeric_range_from_string`. -/
def construct_numeric_range_from_string (str : List Char) : NumericRange :=
  if !regexNumericRange str then .invalidRange str
  else
    match str.splitOn ',' with
    | [value] => construct_numeric_range_bit_from_string value
    | [row, col] =>
      match _normalize (construct_numeric_range_bit_from_string row),
        _normalize (construct_numeric_range_bit_from_string col) with
      | some rowRange, some colRange => .matrixRange (.bounds rowRange.1 rowRange.2) colRange
      | _, _ => .invalidRange str
    -- not supported yet
    | _ => .invalidRange str

/-! ### The constructor -/

/-- `_set_single_value`, for a number. -/
def _set_single_value (value : Number) : NumericRange :=
  if lt value (.ofNat 0) || !isFinite value then .invalidRange (toChars value)
  else .singleValue value

/-- `_set_range_value`. -/
def _set_range_value (low high : Number) : NumericRange :=
  if strictEq low high then .singleValue low
  else if !_valid_range low high then .invalidRange []
  else .arrayRange low high

/-- The second argument of the constructor: none, a number, or an array. -/
inductive SecondValue
  | undefined
  | number (value : Number)
  | array (value : List Number)
  deriving DecidableEq

/-- The first argument of the constructor: none or null, a string, a number, or an array. -/
inductive FirstValue
  | null
  | string (value : List Char)
  | number (value : Number)
  | array (value : List Number)
  deriving DecidableEq

/-- The text of an array of two numbers. -/
def arrayToChars (low high : Number) : List Char := toChars low ++ ',' :: toChars high

/-- A range built from a number and a second number, if there is one: `construct_from_values` where
the numbers are finite. -/
def construct_from_number (value : Number) (secondValue : SecondValue) : NumericRange :=
  match secondValue with
  | .undefined => if isFinite value then _set_single_value value else .empty
  | .number second =>
    if isFinite value && isFinite second then _set_range_value value second else .empty
  | .array _ => .empty

/-- `_construct_from_array` without a second value: none when the array has not two elements. -/
def construct_from_bounds : List Number → Option NumericRange
  | [low, high] =>
    if !isFinite low || !isFinite high then some (.invalidRange (arrayToChars low high))
    else some (_set_range_value low high)
  | _ => none

/-- The bounds that a range has as a row of a matrix. -/
def matrixRow : NumericRange → MatrixBounds
  | .singleValue value => .bounds value value
  | .arrayRange low high => .bounds low high
  | _ => .refused

/-- A second value that JavaScript takes for true. -/
def SecondValue.truthy : SecondValue → Bool
  | .undefined => false
  | .number value => value ≠ .nan && value ≠ .ofNat 0
  | .array _ => true

/-- The range of a second value by itself. -/
def SecondValue.range : SecondValue → Option NumericRange
  | .undefined => some .empty
  | .number value => some (construct_from_number value .undefined)
  | .array value => construct_from_bounds value

/-- `_construct_from_array`: a range, or a matrix when there is a second value. -/
def _construct_from_array (value : List Number) (value2 : SecondValue) : Option NumericRange :=
  match value with
  | [low, high] =>
    if !isFinite low || !isFinite high then some (.invalidRange (arrayToChars low high))
    else if !value2.truthy then some (_set_range_value low high)
    else
      value2.range.map fun nr2 =>
        match _normalize nr2 with
        | none => .invalidRange (arrayToChars low high)
        | some col => .matrixRange (matrixRow (_set_range_value low high)) col
  | _ => none

/-- **The constructor** `new NumericRange(value, secondValue)`. -/
def NumericRange.new (value : FirstValue) (secondValue : SecondValue) : Option NumericRange :=
  match value with
  | .null => some .empty
  | .string value => some (construct_numeric_range_from_string value)
  | .number value => some (construct_from_number value secondValue)
  | .array value => _construct_from_array value secondValue

/-! ### Methods -/

namespace NumericRange

/-- `isValid`. -/
def isValid : NumericRange → Bool
  | .arrayRange low high => !(lt low (.ofNat 0) || lt high (.ofNat 0))
  | .singleValue value => !lt value (.ofNat 0)
  | .invalidRange _ => false
  | _ => true

/-- `array_range_to_string`. -/
def array_range_to_string (low high : Number) : List Char :=
  if strictEq low high then toChars low else toChars low ++ ':' :: toChars high

/-- The text of a row of a matrix. -/
def row_to_string : MatrixBounds → List Char
  | .bounds low high => array_range_to_string low high
  | .refused => []

/-- `toEncodeableString`: null for an empty range, and for an invalid one its value. -/
def toEncodeableString : NumericRange → Option (List Char)
  | .empty => none
  | .singleValue value => some (toChars value)
  | .arrayRange low high => some (array_range_to_string low high)
  | .matrixRange row col => some (row_to_string row ++ ',' :: array_range_to_string col.1 col.2)
  | .invalidRange value => some value

/-- `isEmpty`. -/
def isEmpty : NumericRange → Bool
  | .empty => true
  | _ => false

/-- `_overlap`. -/
def _overlap (l1 h1 l2 h2 : Number) : Bool := ge (.minimum h1 h2) (.maximum l1 l2)

/-- `NumericRange.overlap`; `none` is the assertion that fails for the kinds of ranges that are not
compared yet. -/
def overlap (nr1 nr2 : NumericRange) : Option Bool :=
  match nr1, nr2 with
  | .empty, _ | _, .empty => some true
  | .singleValue value1, .singleValue value2 => some (strictEq value1 value2)
  | .arrayRange l1 h1, .arrayRange l2 h2 => some (_overlap l1 h1 l2 h2)
  | _, _ => none

end NumericRange

/-! ### The codec -/

/-- `calculateByteLength`: the UTF-8 length of a string. -/
def calculateByteLength (str : List Char) : ℕ := (String.ofList str).toUTF8.data.toList.length

/-- `encodeNumericRange`: the bytes that are written. `writeInt32LE` throws for a string that is
too long, and there are none. -/
def encodeNumericRange (numericRange : NumericRange) : Option Buffer :=
  match numericRange.toEncodeableString with
  | none => some (BinaryStream.writeString none)
  | some str =>
    if calculateByteLength str ≤ 0x7fffffff then
      some (BinaryStream.writeString (some (String.ofList str)))
    else none

/-- `decodeNumericRange`: a null string is an empty range. -/
def decodeNumericRange : Reader NumericRange := do
  match ← BinaryStream.readString with
  | none => return .empty
  | some str => return construct_numeric_range_from_string str.toList

end NodeOpcua
