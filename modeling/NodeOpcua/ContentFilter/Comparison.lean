import NodeOpcua.Variant.Basic

set_option autoImplicit false

/-!
# Comparisons of values

The operators of a filter compare the values of variants with `===`, and with `<`, `<=`, `>` and
`>=` after a conversion that depends on the data type.

## Main definitions

* `Primitive`, `Comparable`, `Objects`.

## Design

* The text and the identity of objects, and the mapping to lower case, are a parameter.
-/

namespace NodeOpcua

open BuiltIn
open Char (isDigit)
open Number (nan ofNat ofInt)

variable {U : CaseMapping} {X : Type}

/-! ### Values that are not objects -/

/-- A value that is not an object. -/
inductive Primitive
  | null
  | boolean (value : Bool)
  | number (value : Number)
  | text (value : String)
  deriving DecidableEq

/-- `!!value`. -/
def Primitive.truthy : Primitive → Bool
  | .null => false
  | .boolean value => value
  | .number value => value ≠ nan && value ≠ ofNat 0
  | .text value => value ≠ ""

/-- `===`. -/
def Primitive.strictEqual : Primitive → Primitive → Bool
  | .number x, .number y => Number.strictEq x y
  | x, y => x == y

/-- A value that may be null: a text. -/
def textOrNull : Option String → Primitive
  | none => .null
  | some value => .text value

/-- A value that may be null: an object. -/
def objectOrNull {α : Type} : Option α → Option Primitive
  | none => some .null
  | some _ => none

/-- A value that is not an object, or `none` for an object. -/
def BuiltIn.Element.primitive : Element U X → Option Primitive
  | .null => some .null
  | .boolean value => some (.boolean value)
  | .sByte value => some (.number (ofInt value.toInt))
  | .byte value => some (.number (ofNat value.toNat))
  | .int16 value => some (.number (ofInt value.toInt))
  | .uint16 value => some (.number (ofNat value.toNat))
  | .int32 value => some (.number (ofInt value.toInt))
  | .uint32 value => some (.number (ofNat value.toNat))
  | .int64 _ _ => none
  | .uint64 _ _ => none
  | .float value => some (.number value)
  | .double value => some (.number value)
  | .string value => some (textOrNull value)
  | .dateTime value => objectOrNull value
  | .guid value => some (textOrNull value)
  | .byteString value => objectOrNull value
  | .xmlElement value => some (textOrNull value)
  | .nodeId value => objectOrNull value
  | .expandedNodeId value => objectOrNull value
  | .statusCode value => objectOrNull value
  | .qualifiedName value => objectOrNull value
  | .localizedText value => objectOrNull value
  | .extensionObject value => objectOrNull value
  | .dataValue value => objectOrNull value
  | .variant value => objectOrNull value
  | .diagnosticInfo value => objectOrNull value

/-- `variant.value`, when it is not an object. Arrays are objects. -/
def BuiltIn.Variant.primitive : Variant U X → Option Primitive
  | .scalar value => value.primitive
  | .array _ none => some .null
  | .array _ (some _) => none
  | .matrix _ _ _ => none

/-- **What is left open**: the text of `variant.value` and whether the values of two variants are
the same object, when they are objects, the names of the status codes, and the mapping of a text to
lower case. -/
structure Objects (U : CaseMapping) (X : Type) where
  toString : Variant U X → String
  same : Variant U X → Variant U X → Bool
  statusCodeName : StatusCode → String
  toLowerCase : String → String

variable (objects : Objects U X)

/-- `a.value === b.value`. -/
def strictEqual (a b : Variant U X) : Bool :=
  match a.primitive, b.primitive with
  | some x, some y => x.strictEqual y
  | none, none => objects.same a b
  | _, _ => false

/-! ### Order -/

/-- What `_coerceToCompareable` gives. -/
inductive Comparable
  | undefined
  | null
  | number (value : Number)
  | text (value : String)

/-- The value of a variant; an object is compared by its text. -/
def Comparable.ofValue (a : Variant U X) : Comparable :=
  match a.primitive with
  | none => .text (objects.toString a)
  | some .null => .null
  | some (.boolean value) => .number (ofNat value.toNat)
  | some (.number value) => .number value
  | some (.text value) => .text value

/-- The UTF-16 code units of a text. -/
def codeUnits (s : String) : List ℕ :=
  s.toList.flatMap fun c =>
    if c.toNat < 0x10000 then [c.toNat]
    else [0xd800 + (c.toNat - 0x10000) / 0x400, 0xdc00 + (c.toNat - 0x10000) % 0x400]

/-- A text without the white space at both ends. -/
def trim (cs : List Char) : List Char :=
  (((cs.dropWhile isWhiteSpace).reverse).dropWhile isWhiteSpace).reverse

lemma trim_eq_self {cs : List Char} (hhead : ∀ c ∈ cs.head?, isWhiteSpace c = false)
    (hlast : ∀ c ∈ cs.getLast?, isWhiteSpace c = false) : trim cs = cs := by
  have hdrop {l : List Char} (hl : ∀ c ∈ l.head?, isWhiteSpace c = false) :
      l.dropWhile isWhiteSpace = l := by
    cases l with
    | nil => rfl
    | cons c l => simp [hl c rfl]
  unfold trim
  rw [hdrop hhead, hdrop (by simpa using hlast), List.reverse_reverse]

/-- The value of a digit. -/
def digitValue (c : Char) : Option ℕ :=
  if '0' ≤ c ∧ c ≤ '9' then some (c.toNat - '0'.toNat)
  else if 'a' ≤ c ∧ c ≤ 'f' then some (c.toNat - 'a'.toNat + 10)
  else if 'A' ≤ c ∧ c ≤ 'F' then some (c.toNat - 'A'.toNat + 10)
  else none

/-- An integer to a base, without a sign. -/
def readDigits (base : ℕ) (cs : List Char) : Number :=
  let digits := cs.map digitValue
  if cs ≠ [] ∧ digits.all (fun d => (d.getD base) < base) then
    ofNat (digits.foldl (fun v d => v * base + d.getD 0) 0)
  else nan

/-- The exponent of a decimal number, at the end of a text. -/
def readExponent : List Char → Option ℤ
  | [] => some 0
  | c :: cs =>
    if c = 'e' ∨ c = 'E' then
      let (negative, ds) : Bool × List Char :=
        match cs with
        | '-' :: ds => (true, ds)
        | '+' :: ds => (false, ds)
        | ds => (false, ds)
      if ds ≠ [] ∧ ds.all isDigit then
        let n : ℤ := Nat.ofDigitChars 10 ds 0
        some (if negative then -n else n)
      else none
    else none

/-- A decimal number without a sign. -/
def readDecimal (cs : List Char) : Number :=
  if cs = "Infinity".toList then .infinity false
  else
    let whole := cs.takeWhile isDigit
    let rest := cs.dropWhile isDigit
    let (fraction, rest) : List Char × List Char :=
      match rest with
      | '.' :: rest => (rest.takeWhile isDigit, rest.dropWhile isDigit)
      | rest => ([], rest)
    if whole ++ fraction = [] then nan
    else
      match readExponent rest with
      | none => nan
      | some e =>
        Number.ofRat (Nat.ofDigitChars 10 (whole ++ fraction) 0 * 10 ^ (e - fraction.length))

/-- `Number(s)`. -/
def stringToNumber (s : String) : Number :=
  match trim s.toList with
  | [] => ofNat 0
  | '0' :: 'x' :: cs => readDigits 16 cs
  | '0' :: 'X' :: cs => readDigits 16 cs
  | '0' :: 'o' :: cs => readDigits 8 cs
  | '0' :: 'O' :: cs => readDigits 8 cs
  | '0' :: 'b' :: cs => readDigits 2 cs
  | '0' :: 'B' :: cs => readDigits 2 cs
  | '-' :: cs => Number.neg (readDecimal cs)
  | '+' :: cs => readDecimal cs
  | cs => readDecimal cs

/-- `Number(x)`. -/
def Comparable.toNumber : Comparable → Number
  | .undefined => nan
  | .null => ofNat 0
  | .number value => value
  | .text value => stringToNumber value

/-- `x < y`: two texts are compared by their code units, other values as numbers. -/
def Comparable.lessThan : Comparable → Comparable → Bool
  | .text x, .text y => decide (codeUnits x < codeUnits y)
  | x, y => Number.lt x.toNumber y.toNumber

/-- `x <= y`. -/
def Comparable.lessThanOrEqual : Comparable → Comparable → Bool
  | .text x, .text y => !decide (codeUnits y < codeUnits x)
  | x, y => Number.ge y.toNumber x.toNumber

end NodeOpcua
