import Mathlib.Algebra.Group.Int.Defs
import Mathlib.Data.List.Induction
import NodeOpcua.Codec
import NodeOpcua.StatusCode

set_option autoImplicit false

/-!
# The bits of status codes

A status code that can be modified has a base and extra bits, which are set and unset by number, by
name or by a list of names. A code on the wire is decoded to the base that the table has for its
high word, and to its low word as extra bits.

## Main definitions

* `ModifiableStatusCode`, with `set`, `unset` and `value`.
* `getStatusCodeFromCode`, `encodeStatusCode`, `decodeStatusCode`.
* `currentlySet`.

## Design

* A number is given as the 32 bits that the bit operators take of it.
-/

namespace NodeOpcua

/-! ### The source -/

/-- The numbers of the constant `StatusCodes`. -/
def constantStatusCodes : List ℕ :=
  [0x0, 0x40000000, 0x80000000, 0x80010000, 0x80020000, 0x80030000, 0x80040000, 0x80050000,
   0x80060000, 0x80070000, 0x80080000, 0x80b80000, 0x80b90000, 0x80090000, 0x800a0000, 0x800b0000,
   0x800c0000, 0x800d0000, 0x800e0000, 0x800f0000, 0x80100000, 0x80db0000, 0x80110000, 0x80120000,
   0x80130000, 0x81140000, 0x80140000, 0x80150000, 0x80160000, 0x80170000, 0x80180000, 0x80190000,
   0x801a0000, 0x801b0000, 0x801c0000, 0x801d0000, 0x801e0000, 0x810d0000, 0x801f0000, 0x80200000,
   0x80210000, 0x80220000, 0x80230000, 0x80240000, 0x80250000, 0x80260000, 0x80270000, 0x80280000,
   0x802a0000, 0x802b0000, 0x802c0000, 0x80e50000, 0x810e0000, 0x810f0000, 0x81100000, 0x80ee0000,
   0xef0000, 0x2d0000, 0x2e0000, 0x2f0000, 0x300000, 0x80310000, 0x80320000, 0x80330000,
   0x80340000, 0x80350000, 0x80360000, 0x80370000, 0x80ea0000, 0x80380000, 0x80390000, 0x803a0000,
   0x803b0000, 0x803c0000, 0x40f20000, 0x40f30000, 0x803d0000, 0x803e0000, 0x803f0000, 0x80400000,
   0x80410000, 0x80420000, 0x80430000, 0x80440000, 0x80450000, 0x80460000, 0x80470000, 0x80480000,
   0x80c10000, 0x80c20000, 0x80c30000, 0x80490000, 0x80c40000, 0x80c50000, 0x804a0000, 0x804b0000,
   0x804c0000, 0x804d0000, 0x804e0000, 0x81120000, 0x80ed0000, 0x80f00000, 0x804f0000, 0x80500000,
   0x80510000, 0x80520000, 0x80530000, 0x80540000, 0x80550000, 0x80560000, 0x80570000, 0x80580000,
   0x80590000, 0x80c60000, 0x805a0000, 0x805b0000, 0x805c0000, 0x805d0000, 0x805e0000, 0x805f0000,
   0x80600000, 0x80610000, 0x80620000, 0x80630000, 0x80640000, 0x80650000, 0x80660000, 0x80670000,
   0x80680000, 0x80690000, 0x40bc0000, 0x806a0000, 0x806b0000, 0x80c90000, 0x80ca0000, 0x80cb0000,
   0x40c00000, 0xba0000, 0x80c80000, 0x406c0000, 0x806d0000, 0x806e0000, 0x806f0000, 0x80700000,
   0x80e60000, 0x80710000, 0x80720000, 0x80bd0000, 0x80730000, 0x80740000, 0x80750000, 0x80760000,
   0x81110000, 0x80770000, 0x80780000, 0x80790000, 0x807a0000, 0xdf0000, 0x807b0000, 0x807c0000,
   0x80bf0000, 0x81150000, 0x807d0000, 0x807e0000, 0x807f0000, 0x80800000, 0x80810000, 0x80820000,
   0x80830000, 0x80840000, 0x80850000, 0x80860000, 0x80870000, 0x80880000, 0x80be0000, 0x80890000,
   0x808a0000, 0x808b0000, 0x808c0000, 0x808d0000, 0x808e0000, 0x408f0000, 0x40900000, 0x40910000,
   0x40920000, 0x40930000, 0x40940000, 0x40950000, 0x960000, 0xeb0000, 0x80970000, 0x80980000,
   0x80cc0000, 0x80990000, 0x809a0000, 0x80bb0000, 0x80cd0000, 0x80ce0000, 0x80cf0000, 0x80d00000,
   0x80d10000, 0x80d20000, 0x80d30000, 0x809b0000, 0x80d70000, 0x80d80000, 0x809d0000, 0x809e0000,
   0x809f0000, 0x80a00000, 0x80a10000, 0xa20000, 0xa30000, 0x40a40000, 0xa50000, 0xa60000,
   0x80d40000, 0x80d50000, 0x80d60000, 0x80da0000, 0xd90000, 0x80e40000, 0x81130000, 0x80e80000,
   0x80f10000, 0x811f0000, 0x81200000, 0x80e90000, 0x80ec0000, 0xdc0000, 0xdd0000, 0x40de0000,
   0xe00000, 0x80e10000, 0x40e20000, 0x80e30000, 0x1160000, 0x1170000, 0x1180000, 0x81190000,
   0x811a0000, 0x811b0000, 0x811c0000, 0x811d0000, 0x811e0000, 0xa70000, 0xa80000, 0xa90000,
   0xaa0000, 0x80ab0000, 0x80ac0000, 0x80ad0000, 0x80ae0000, 0x80af0000, 0x80b00000, 0x80b10000,
   0x80b20000, 0x80b30000, 0x80b40000, 0x80b50000, 0x80b60000, 0x80b70000, 0x42080000, 0x42090000,
   0x420a0000, 0x420f0000, 0x4010000, 0x4020000, 0x4030000, 0x4040000, 0x4070000, 0x4080000,
   0x4090000, 0x80e70000]

/-- `extraStatusCodeBits`. -/
def extraStatusCodeBits : List (String × BitVec 32) :=
  [("StructureChanged", 0x1 <<< 15), ("SemanticChanged", 0x1 <<< 14),
   ("InfoTypeDataValue", 0x1 <<< 10), ("LimitLow", 0x1 <<< 8), ("LimitHigh", 0x2 <<< 8),
   ("LimitConstant", 0x3 <<< 8), ("Overflow", 0x1 <<< 7), ("HistorianCalculated", 0x1 <<< 0),
   ("HistorianInterpolated", 0x2 <<< 0), ("HistorianPartial", 0x1 <<< 2),
   ("HistorianExtraData", 0x1 <<< 3), ("HistorianMultiValue", 0x1 <<< 4)]

/-- What a table without an entry for them has for these names. -/
def inheritedProperties : List String :=
  ["constructor", "hasOwnProperty", "isPrototypeOf", "propertyIsEnumerable", "toString", "valueOf",
   "toLocaleString", "__proto__", "__defineGetter__", "__defineSetter__", "__lookupGetter__",
   "__lookupSetter__"]

/-- `extraStatusCodeBits[bit]`, as the bit operators take it. A function or an object has no bits. -/
def extraBits (bit : List Char) : Option (BitVec 32) :=
  match extraStatusCodeBits.find? (fun entry => entry.1.toList = bit) with
  | some (_, tmp) => some tmp
  | none => if inheritedProperties.any (·.toList = bit) then some 0 else none

/-- `bit.split(" | ")`. -/
def splitNames : List Char → List (List Char)
  | [] => [[]]
  | ' ' :: '|' :: ' ' :: rest => [] :: splitNames rest
  | c :: rest =>
    match splitNames rest with
    | [] => [[c]]
    | name :: names => (c :: name) :: names

/-- The argument of `set` and `unset`. -/
inductive StatusBits
  | text (bit : List Char)
  | number (bit : BitVec 32)

/-- `ModifiableStatusCode`; its base is no other one. -/
@[ext]
structure ModifiableStatusCode where
  _base : StatusCode
  _extraBits : BitVec 32
  deriving DecidableEq

/-- A status code of either class. -/
inductive AnyStatusCode
  | constant (statusCode : StatusCode)
  | modifiable (statusCode : ModifiableStatusCode)

namespace ModifiableStatusCode

/-- `new ModifiableStatusCode`. -/
def new : AnyStatusCode → ModifiableStatusCode
  | .constant _base => ⟨_base, 0⟩
  | .modifiable _base => ⟨_base._base, _base._extraBits⟩

variable (f : BitVec 32 → BitVec 32 → BitVec 32) (s : ModifiableStatusCode)

/-- `value`; the extra bits are a signed number. -/
def value : ℤ := s._base.value + s._extraBits.toInt

/-- The loop over the names of a list. What comes before an unknown name has been done when the
error is thrown. -/
def changeNames : ModifiableStatusCode → List (List Char) → ModifiableStatusCode × Option String
  | s, [] => (s, none)
  | s, bit :: bits =>
    match extraBits bit with
    | none => (s, some ("Invalid StatusCode Bit " ++ String.ofList bit))
    | some tmp => changeNames { s with _extraBits := f s._extraBits tmp } bits

/-- What `set` and `unset` have in common: the status code afterwards, and the error. -/
def change : StatusBits → ModifiableStatusCode × Option String
  | .text bit => changeNames f s (splitNames bit)
  | .number bit => ({ s with _extraBits := f s._extraBits bit }, none)

/-- `set`. -/
def set (bit : StatusBits) : ModifiableStatusCode × Option String := s.change (· ||| ·) bit

/-- `unset`. -/
def unset (bit : StatusBits) : ModifiableStatusCode × Option String :=
  s.change (fun bits bit => bits &&& ~~~bit) bit

end ModifiableStatusCode

/-- `value`. -/
def AnyStatusCode.value : AnyStatusCode → ℤ
  | .constant statusCode => statusCode.value
  | .modifiable statusCode => statusCode.value

/-- `makeStatusCode`, for a status code. -/
def AnyStatusCode.makeStatusCode (statusCode : AnyStatusCode) (optionalBits : Option StatusBits) :
    Except String ModifiableStatusCode :=
  match optionalBits with
  | none | some (.text []) => .ok (.new statusCode)
  | some bits =>
    match (ModifiableStatusCode.new statusCode).set bits with
    | (tmp, none) => .ok tmp
    | (_, some error) => .error error

/-- `encodeStatusCode`, where a number that is no `UInt32` is refused. -/
def encodeStatusCode (statusCode : AnyStatusCode) : Option Buffer :=
  if 0 ≤ statusCode.value ∧ statusCode.value < 2 ^ 32 then some (uint32Bytes statusCode.value.toNat)
  else none

/-- `getStatusCodeFromCode`, for a `UInt32`. -/
def getStatusCodeFromCode (code : ℕ) : AnyStatusCode :=
  let codeWithoutInfoBits := code &&& 0xffff0000
  let infoBits := code &&& 0x0000ffff
  let sc : StatusCode :=
    if codeWithoutInfoBits ∈ constantStatusCodes then ⟨codeWithoutInfoBits⟩ else .Bad
  if infoBits ≠ 0 then
    .modifiable ((ModifiableStatusCode.new (.constant sc)).set (.number (.ofNat 32 infoBits))).1
  else .constant sc

/-- `decodeStatusCode`. -/
def decodeStatusCode : Reader AnyStatusCode := getStatusCodeFromCode <$> BinaryStream.readUInt32

/-! ### The bits that are set -/

/-- The bits that the names stand for. -/
def maskOfNames : List (List Char) → Option (BitVec 32)
  | [] => some 0
  | bit :: bits => return (← extraBits bit) ||| (← maskOfNames bits)

/-- The bits that an argument stands for. -/
def StatusBits.mask : StatusBits → Option (BitVec 32)
  | .text bit => maskOfNames (splitNames bit)
  | .number bit => some bit

/-- **Info bits**: known names, or a number, in the low word. -/
def StatusBits.IsInfo (bit : StatusBits) : Prop := ∃ mask, bit.mask = some mask ∧ mask.toNat < 2 ^ 16

/-- An argument stands for a bit. -/
def StatusBits.has (bit : StatusBits) (i : ℕ) : Bool := (bit.mask.getD 0).getLsbD i

/-- An operation on a status code. -/
inductive BitOperation
  | set (bit : StatusBits)
  | unset (bit : StatusBits)

/-- The argument of an operation. -/
def BitOperation.bits : BitOperation → StatusBits
  | .set bit | .unset bit => bit

/-- An operation is done. -/
def ModifiableStatusCode.apply (s : ModifiableStatusCode) : BitOperation → ModifiableStatusCode
  | .set bit => (s.set bit).1
  | .unset bit => (s.unset bit).1

/-- A bit is set after an operation. -/
def setAfter (i : ℕ) (was : Bool) : BitOperation → Bool
  | .set bit => was || bit.has i
  | .unset bit => was && !bit.has i

/-- **The bits that are currently set**, after operations on a status code without extra bits. -/
def currentlySet (operations : List BitOperation) (i : ℕ) : Bool :=
  operations.foldl (setAfter i) false

/-- The status code after operations. -/
def afterOperations (base : StatusCode) (operations : List BitOperation) : ModifiableStatusCode :=
  operations.foldl .apply (.new (.constant base))

/-! ### Operations -/

section

variable {f : BitVec 32 → BitVec 32 → BitVec 32} {bit : StatusBits} {mask : BitVec 32}

/-- The names of a list are taken one after the other, or at once. -/
lemma changeNames_mask (hzero : ∀ x, f x 0 = x) (hor : ∀ x a b, f (f x a) b = f x (a ||| b))
    (s : ModifiableStatusCode) {names : List (List Char)} (h : maskOfNames names = some mask) :
    s.changeNames f names = ({ s with _extraBits := f s._extraBits mask }, none) := by
  induction names generalizing s mask with
  | nil =>
    obtain rfl : (0 : BitVec 32) = mask := Option.some.inj h
    rw [ModifiableStatusCode.changeNames, hzero]
  | cons name names ih =>
    simp only [maskOfNames, Option.bind_eq_bind, Option.bind_eq_some_iff] at h
    obtain ⟨first, hfirst, others, hothers, hmask⟩ := h
    obtain rfl : first ||| others = mask := Option.some.inj hmask
    rw [ModifiableStatusCode.changeNames, hfirst]
    simp only [ih _ hothers, hor]

lemma change_mask (hzero : ∀ x, f x 0 = x) (hor : ∀ x a b, f (f x a) b = f x (a ||| b))
    (s : ModifiableStatusCode) (h : bit.mask = some mask) :
    s.change f bit = ({ s with _extraBits := f s._extraBits mask }, none) := by
  cases bit with
  | text names => exact changeNames_mask hzero hor s h
  | number n =>
    obtain rfl : n = mask := Option.some.inj h
    rfl

/-- `set` **adds the bits**. -/
lemma set_mask (s : ModifiableStatusCode) (h : bit.mask = some mask) :
    s.set bit = ({ s with _extraBits := s._extraBits ||| mask }, none) :=
  change_mask (fun _ => BitVec.or_zero) (fun x a b => BitVec.or_assoc x a b) s h

/-- `unset` **removes the bits**. -/
lemma unset_mask (s : ModifiableStatusCode) (h : bit.mask = some mask) :
    s.unset bit = ({ s with _extraBits := s._extraBits &&& ~~~mask }, none) :=
  change_mask (fun _ => BitVec.and_allOnes) (fun x a b => by rw [BitVec.not_or, BitVec.and_assoc]) s h

end

/-- What an operation with info bits does to the extra bits. -/
lemma apply_extraBits {operation : BitOperation} (h : operation.bits.IsInfo)
    (s : ModifiableStatusCode) :
    (s.apply operation)._base = s._base ∧ ∀ i < 32,
      (s.apply operation)._extraBits.getLsbD i = setAfter i (s._extraBits.getLsbD i) operation := by
  obtain ⟨mask, hmask, -⟩ := h
  cases operation with
  | set bit =>
    have hbit : bit.mask = some mask := hmask
    rw [ModifiableStatusCode.apply, set_mask s hbit]
    refine ⟨rfl, fun i _ => ?_⟩
    simp [setAfter, StatusBits.has, hbit]
  | unset bit =>
    have hbit : bit.mask = some mask := hmask
    rw [ModifiableStatusCode.apply, unset_mask s hbit]
    refine ⟨rfl, fun i hi => ?_⟩
    simp [setAfter, StatusBits.has, hbit, hi]

lemma has_high {bit : StatusBits} (h : bit.IsInfo) {i : ℕ} (hi : 16 ≤ i) : bit.has i = false := by
  obtain ⟨mask, hmask, hlt⟩ := h
  rw [StatusBits.has, hmask, Option.getD_some, ← BitVec.testBit_toNat]
  exact Nat.testBit_lt_two_pow (Nat.lt_of_lt_of_le hlt (Nat.pow_le_pow_right (by omega) hi))

variable {base : StatusCode} {operations : List BitOperation}

lemma afterOperations_concat (operation : BitOperation) :
    afterOperations base (operations ++ [operation]) =
      (afterOperations base operations).apply operation := List.foldl_concat _ _ _ _

lemma currentlySet_concat (operation : BitOperation) (i : ℕ) :
    currentlySet (operations ++ [operation]) i = setAfter i (currentlySet operations i) operation :=
  List.foldl_concat _ _ _ _

variable (base) in
/-- **The extra bits** are those that are currently set, and info bits. -/
lemma extraBits_afterOperations (h : ∀ operation ∈ operations, operation.bits.IsInfo) :
    (afterOperations base operations)._base = base ∧
      (∀ i < 32, (afterOperations base operations)._extraBits.getLsbD i = currentlySet operations i) ∧
      ∀ i, 16 ≤ i → currentlySet operations i = false := by
  induction operations using List.reverseRecOn with
  | nil => exact ⟨rfl, fun i _ => BitVec.getLsbD_zero, fun _ _ => rfl⟩
  | append_singleton operations operation ih =>
    obtain ⟨hbase, hbits, hhigh⟩ := ih fun o ho => h o (List.mem_append_left _ ho)
    have hinfo := h operation (by simp)
    obtain ⟨hsame, hchange⟩ := apply_extraBits hinfo (afterOperations base operations)
    refine ⟨by rw [afterOperations_concat, hsame, hbase], fun i hi => ?_, fun i hi => ?_⟩
    · rw [afterOperations_concat, currentlySet_concat, hchange i hi, hbits i hi]
    · rw [currentlySet_concat, hhigh i hi]
      cases operation with
      | set bit => exact has_high hinfo hi
      | unset bit => rfl

variable (base) in
/-- The extra bits fit in the low word. -/
lemma extraBits_lt (h : ∀ operation ∈ operations, operation.bits.IsInfo) :
    (afterOperations base operations)._extraBits.toNat < 2 ^ 16 := by
  obtain ⟨-, hbits, hhigh⟩ := extraBits_afterOperations base h
  refine Nat.lt_pow_two_of_testBit _ fun i hi => ?_
  rw [BitVec.testBit_toNat]
  by_cases hlt : i < 32
  · rw [hbits i hlt, hhigh i hi]
  · exact BitVec.getLsbD_of_ge _ _ (by omega)

/-! ### The codes of the table -/

lemma constantStatusCodes_high :
    ∀ value ∈ constantStatusCodes, value % 2 ^ 16 = 0 ∧ value < 2 ^ 32 := by
  decide +kernel

/-- The high word of a code, as the mask takes it. -/
lemma and_high {code : ℕ} (h : code < 2 ^ 32) :
    code &&& 0xffff0000 = 2 ^ 16 * (code / 2 ^ 16) := by
  have hmask : 0xffff0000 = 2 ^ 16 * (2 ^ 16 - 1) := by decide
  rw [hmask]
  refine Nat.eq_of_testBit_eq fun i => ?_
  rw [Nat.testBit_and, Nat.testBit_two_pow_mul, Nat.testBit_two_pow_mul,
    Nat.testBit_two_pow_sub_one, Nat.testBit_div_two_pow]
  by_cases hi : 16 ≤ i
  · rw [Nat.sub_add_cancel hi]
    by_cases hlt : i < 32
    · simp [hi, show i - 16 < 16 by omega]
    · rw [Nat.testBit_lt_two_pow (Nat.lt_of_lt_of_le h (Nat.pow_le_pow_right (by omega) (by omega)))]
      simp
  · simp [hi]

lemma and_low (code : ℕ) : code &&& 0x0000ffff = code % 2 ^ 16 :=
  Nat.and_two_pow_sub_one_eq_mod code 16

/-- A number below `2 ^ 31` is not taken for a negative one. -/
lemma toInt_low {x : BitVec 32} (h : x.toNat < 2 ^ 16) : x.toInt = x.toNat := by
  rw [BitVec.toInt_eq_toNat_cond, if_pos (by omega)]

/-- Info bits on a code of the table. -/
lemma value_withInfoBits (sc : StatusCode) {infoBits : ℕ} (h : infoBits < 2 ^ 16) :
    (if infoBits ≠ 0 then AnyStatusCode.modifiable
        ((ModifiableStatusCode.new (.constant sc)).set (.number (.ofNat 32 infoBits))).1
      else .constant sc).value = sc.value + infoBits := by
  have hlow : (BitVec.ofNat 32 infoBits).toNat = infoBits := by
    rw [BitVec.toNat_ofNat]
    omega
  split_ifs with hinfo
  · rw [set_mask _ rfl]
    show (sc.value : ℤ) + (0#32 ||| BitVec.ofNat 32 infoBits).toInt = _
    rw [BitVec.zero_or, toInt_low (by rwa [hlow]), hlow]
  · rw [AnyStatusCode.value, Decidable.not_not.mp hinfo]
    rfl

/-- **A decoded code** has the base that the table has for the high word, and the low word. -/
lemma value_getStatusCodeFromCode {code : ℕ} (h : code < 2 ^ 32) :
    (getStatusCodeFromCode code).value =
      (if 2 ^ 16 * (code / 2 ^ 16) ∈ constantStatusCodes then 2 ^ 16 * (code / 2 ^ 16)
        else StatusCode.Bad.value : ℕ) + (code % 2 ^ 16 : ℕ) := by
  unfold getStatusCodeFromCode
  simp only [and_high h, and_low]
  rw [value_withInfoBits _ (Nat.mod_lt _ (by decide))]
  split_ifs <;> rfl

/-- A code of the table with info bits is decoded to itself. -/
lemma getStatusCodeFromCode_known {code : ℕ} (h : code < 2 ^ 32)
    (hknown : 2 ^ 16 * (code / 2 ^ 16) ∈ constantStatusCodes) :
    (getStatusCodeFromCode code).value = code := by
  rw [value_getStatusCodeFromCode h, if_pos hknown]
  omega

/-! ### The laws -/

/-- **The value** is the base or the bits that are currently set. -/
lemma value_afterOperations (hbase : base.value ∈ constantStatusCodes)
    (h : ∀ operation ∈ operations, operation.bits.IsInfo) :
    ∃ value : ℕ, (afterOperations base operations).value = value ∧ value < 2 ^ 32 ∧
      2 ^ 16 * (value / 2 ^ 16) = base.value ∧
      ∀ i, value.testBit i = (base.value.testBit i || currentlySet operations i) := by
  obtain ⟨hsame, hbits, hhigh⟩ := extraBits_afterOperations base h
  have hlow := extraBits_lt base h
  obtain ⟨hmod, hlt⟩ := constantStatusCodes_high _ hbase
  refine ⟨base.value + (afterOperations base operations)._extraBits.toNat, ?_, by omega, by omega,
    fun i => ?_⟩
  · rw [ModifiableStatusCode.value, hsame, toInt_low hlow]
    rfl
  · have hor := Nat.two_pow_add_eq_or_of_lt hlow (base.value / 2 ^ 16)
    rw [show 2 ^ 16 * (base.value / 2 ^ 16) = base.value by omega] at hor
    rw [hor, Nat.testBit_or, BitVec.testBit_toNat]
    by_cases hi : i < 32
    · rw [hbits i hi]
    · rw [BitVec.getLsbD_of_ge _ _ (by omega), hhigh i (by omega)]

/-- **Setting and unsetting** bits that were not set changes nothing. -/
lemma unset_set {bit : StatusBits} (h : ∀ operation ∈ operations, operation.bits.IsInfo)
    (hbit : bit.IsInfo) (hnot : ∀ i, bit.has i = true → currentlySet operations i = false) :
    afterOperations base (operations ++ [.set bit, .unset bit]) = afterOperations base operations := by
  obtain ⟨hsame, hbits, -⟩ := extraBits_afterOperations base h
  have hsplit : operations ++ [.set bit, .unset bit] =
      operations ++ [.set bit] ++ [.unset bit] := by simp
  have hall : ∀ operation ∈ operations ++ [.set bit] ++ [.unset bit], operation.bits.IsInfo := by
    simp only [List.mem_append, List.mem_singleton]
    rintro operation ((ho | rfl) | rfl)
    · exact h operation ho
    · exact hbit
    · exact hbit
  obtain ⟨hsame', hbits', -⟩ := extraBits_afterOperations base hall
  rw [hsplit]
  refine ModifiableStatusCode.ext (hsame'.trans hsame.symm) (BitVec.eq_of_getLsbD_eq fun i hi => ?_)
  rw [hbits' i hi, hbits i hi, currentlySet_concat, currentlySet_concat, setAfter, setAfter]
  cases hhas : bit.has i with
  | false => simp
  | true => simp [hnot i hhas]

variable (base operations) in
/-- **The bits of status codes.** After any operations with info bits the value is the base or the bits
that are currently set; it is written as four bytes and read back. Unsetting undoes setting, and a
status code made from another one keeps its bits. A decoded code keeps its info bits, and all of it
when the table has its high word; otherwise it is bad. -/
theorem statusCode_bits (hbase : base.value ∈ constantStatusCodes)
    (h : ∀ operation ∈ operations, operation.bits.IsInfo) (bit : StatusBits) (hbit : bit.IsInfo)
    (code : ℕ) (hcode : code < 2 ^ 32) :
    let s := afterOperations base operations
    (∃ value : ℕ, s.value = value ∧ value < 2 ^ 32 ∧
      (∀ i, value.testBit i = (base.value.testBit i || currentlySet operations i)) ∧
      ∃ bytes decoded, encodeStatusCode (.modifiable s) = some bytes ∧
        decodeStatusCode.Reads bytes decoded ∧ decoded.value = value) ∧
    ((s.set bit).2 = none ∧ (s.unset bit).2 = none ∧
      ((∀ i, bit.has i = true → currentlySet operations i = false) →
        afterOperations base (operations ++ [.set bit, .unset bit]) = s)) ∧
    ((AnyStatusCode.modifiable s).makeStatusCode none = .ok s ∧
      (AnyStatusCode.modifiable s).makeStatusCode (some bit) =
        .ok (afterOperations base (operations ++ [.set bit]))) ∧
    ∃ decoded : ℕ, (getStatusCodeFromCode code).value = decoded ∧
      decoded % 2 ^ 16 = code % 2 ^ 16 ∧
      (2 ^ 16 * (code / 2 ^ 16) ∈ constantStatusCodes → decoded = code) ∧
      (2 ^ 16 * (code / 2 ^ 16) ∉ constantStatusCodes →
        2 ^ 16 * (decoded / 2 ^ 16) = StatusCode.Bad.value) := by
  intro s
  obtain ⟨mask, hmask, -⟩ := id hbit
  obtain ⟨value, hvalue, hlt, hhigh, htest⟩ := value_afterOperations hbase h
  refine ⟨⟨value, hvalue, hlt, htest, uint32Bytes value, getStatusCodeFromCode value, ?_, ?_, ?_⟩,
    ⟨by rw [set_mask s hmask], by rw [unset_mask s hmask], unset_set h hbit⟩,
    ⟨rfl, ?_⟩, ?_⟩
  · have hs : (AnyStatusCode.modifiable s).value = value := hvalue
    rw [encodeStatusCode, hs, if_pos ⟨by omega, by omega⟩]
    rfl
  · exact (BinaryStream.readUInt32_reads hlt).map _
  · exact getStatusCodeFromCode_known hlt (hhigh ▸ hbase)
  · have hset := set_mask s hmask
    rw [afterOperations_concat, ModifiableStatusCode.apply, hset]
    unfold AnyStatusCode.makeStatusCode
    split
    · cases ‹some bit = none›
    · cases Option.some.inj ‹some bit = some _›
      cases hmask
    · cases Option.some.inj ‹some bit = some _›
      rw [show (ModifiableStatusCode.new (.modifiable s)).set bit = s.set bit from rfl, hset]
  · have hval := value_getStatusCodeFromCode hcode
    split_ifs at hval with hknown
    · exact ⟨_, hval, by omega, fun _ => by omega, fun hnot => absurd hknown hnot⟩
    · refine ⟨_, hval, ?_, fun hknown' => absurd hknown' hknown, fun _ => ?_⟩
      all_goals simp only [StatusCode.Bad]
      all_goals omega

theorem statusCode_bits_uncertain :
    StatusCode.UncertainDataSubNormal.value ∈ constantStatusCodes ∧
    ((afterOperations .UncertainDataSubNormal
        [.set (.text "Overflow | SemanticChanged".toList), .unset (.text "Overflow".toList)]).set
      (.number 0x400)).2 = none := by
  refine ⟨by decide, (statusCode_bits .UncertainDataSubNormal
    [.set (.text "Overflow | SemanticChanged".toList), .unset (.text "Overflow".toList)] (by decide) ?_
    (.number 0x400) ⟨0x400, rfl, by decide⟩ 0x40920480 (by decide)).2.1.1⟩
  intro operation ho
  rcases List.mem_pair.mp ho with rfl | rfl
  · exact ⟨0x4080, by rfl, by decide⟩
  · exact ⟨0x80, by rfl, by decide⟩

/-- A good code that the table does not have is decoded to a bad one. -/
theorem statusCode_severity_lost :
    ¬ ∀ code < 2 ^ 32, (getStatusCodeFromCode code).value / 2 ^ 30 = (code / 2 ^ 30 : ℕ) := by
  intro h
  exact absurd (h 0x00010000 (by decide)) (by decide +kernel)

end NodeOpcua
