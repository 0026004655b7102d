import NodeOpcua.Library.Base64
import NodeOpcua.Library.LeftmostMatch
import NodeOpcua.NodeId.Guid

set_option autoImplicit false

/-!
# Node identifiers

A node identifier is a namespace index and a number, a string, a GUID or an opaque byte string. The
constructor checks its arguments; here the types of the fields carry what it checks.

## Main definitions

* `NodeId`, `ExpandedNodeId`.
* `NodeId.new`, `NodeId.toString`, `coerceNodeId`, `resolveNodeId`.
* `sameNodeId`.

## Design

* Texts are lists of characters; a regular expression is a function that matches at the beginning
  of a text, and `LeftmostMatch.exec` tries it at one position after the other.
* A byte string identifier may be null, which is what the constructor makes of a missing value.
-/

namespace NodeOpcua

open LeftmostMatch
open Base64 (decode)
open Char (ofNat isDigit)
open String (ofList)
open UInt16 (ofNat_toNat)

/-! ### The types -/

section

variable (U : CaseMapping)

/-- The identifier type with its value. -/
inductive Identifier
  | numeric (value : UInt32)
  | string (value : String)
  | guid (value : Guid U)
  | byteString (value : Option Buffer)
  deriving DecidableEq

/-- **A node identifier**: `namespace` and `value`. -/
@[ext] structure NodeId where
  namespaceIndex : UInt16
  value : Identifier U
  deriving DecidableEq

/-- **An expanded node identifier**. The constructor makes the empty URI null. -/
@[ext] structure ExpandedNodeId extends NodeId U where
  namespaceUri : Option String
  serverIndex : UInt32
  namespaceUri_ne : namespaceUri ≠ some ""
  deriving DecidableEq

end

variable {U : CaseMapping}

/-- A node identifier has no URI and no server index. -/
def NodeId.toExpanded (n : NodeId U) : ExpandedNodeId U :=
  { n with namespaceUri := none, serverIndex := 0, namespaceUri_ne := nofun }

/-- The arguments of the constructor. A number may be missing or out of range. -/
inductive IdentifierArgument
  | numeric (value : Option ℤ)
  | string (value : String)
  | guid (value : List Char)
  | byteString (value : Option Buffer)

/-- What the constructor, the decoder and the conversion of a text throw. -/
inductive NodeIdError
  | unknownEncodingByte (encodingByte : ℕ)
  | invalidNamespace
  | invalidNumber
  | invalidGuid
  | namespaceNotFound (namespaceUri : List Char)
  | cannotCoerce (value : List Char)
  deriving DecidableEq, Repr

/-- `new NodeId`: missing values are replaced by defaults, and the fields are checked. -/
def NodeId.new (U : CaseMapping) (value : IdentifierArgument) (namespaceIndex : ℕ) :
    Except NodeIdError (NodeId U) :=
  if 0xffff < namespaceIndex then .error .invalidNamespace
  else
    match value with
    | .numeric value =>
      let value := value.getD 0
      if 0 ≤ value ∧ value ≤ 0xffffffff then
        .ok ⟨UInt16.ofNat namespaceIndex, .numeric (UInt32.ofNat value.toNat)⟩
      else .error .invalidNumber
    | .string value => .ok ⟨UInt16.ofNat namespaceIndex, .string value⟩
    | .guid value =>
      let value := if value = [] then emptyGuid else value
      if h : isValidGuid value = true then
        .ok ⟨UInt16.ofNat namespaceIndex,
          .guid ⟨U.toUpperCase value, isValidGuid_toUpperCase U h, U.toUpperCase_idem value⟩⟩
      else .error .invalidGuid
    | .byteString value => .ok ⟨UInt16.ofNat namespaceIndex, .byteString value⟩

/-- **The constructor accepts** a number that fits. -/
lemma new_numeric (ns : UInt16) (value : UInt32) :
    NodeId.new U (.numeric (some (value.toNat : ℤ))) ns.toNat = .ok ⟨ns, .numeric value⟩ := by
  have hns := ns.toNat_lt
  have hvalue := value.toNat_lt
  rw [NodeId.new, if_neg (by omega)]
  simp only [Option.getD_some, Int.toNat_natCast, ofNat_toNat, UInt32.ofNat_toNat]
  rw [if_pos (by omega)]

lemma new_guid (ns : UInt16) (value : Guid U) :
    NodeId.new U (.guid value.text) ns.toNat = .ok ⟨ns, .guid value⟩ := by
  have hns := ns.toNat_lt
  rw [NodeId.new, if_neg (by omega)]
  simp only [if_neg value.text_ne_nil, value.valid, dif_pos, ofNat_toNat, Except.ok.injEq, NodeId.mk.injEq,
    Identifier.guid.injEq, true_and]
  exact Guid.text_inj.mp value.normal

lemma new_string (ns : UInt16) (value : String) :
    NodeId.new U (.string value) ns.toNat = .ok ⟨ns, .string value⟩ := by
  have hns := ns.toNat_lt
  rw [NodeId.new, if_neg (by omega)]
  simp only [ofNat_toNat]

lemma new_byteString (ns : UInt16) (value : Option Buffer) :
    NodeId.new U (.byteString value) ns.toNat = .ok ⟨ns, .byteString value⟩ := by
  have hns := ns.toNat_lt
  rw [NodeId.new, if_neg (by omega)]
  simp only [ofNat_toNat]

/-! ### The text of an identifier -/

/-- The decimal digits of a number. -/
def decimal (n : ℕ) : List Char := Nat.toDigits 10 n

/-- What stands before the identifier: the namespace index, or its URI when an array of them is
given. -/
def namespacePart (namespaceArray : Option (List String)) (namespaceIndex : UInt16) : List Char :=
  match namespaceArray with
  | none => "ns=".toList ++ decimal namespaceIndex.toNat ++ ";".toList
  | some uris =>
    if namespaceIndex = 0 then []
    else
      let uri := uris.getD namespaceIndex.toNat ""
      let uri := if uri = "" then
        "<unknown namespace with index ".toList ++ decimal namespaceIndex.toNat ++ ">".toList
        else uri.toList
      "nsu=".toList ++ uri ++ ";".toList

/-- The letter of the identifier type and the value. -/
def Identifier.toString : Identifier U → List Char
  | .numeric value => "i=".toList ++ decimal value.toNat
  | .string value => "s=".toList ++ value.toList
  | .guid value => "g=".toList ++ normalizeGuid U value.text
  | .byteString (some value) => "b=".toList ++ Base64.encode value
  | .byteString none => "b=".toList ++ "<null>".toList

/-- `NodeId.toString`. The decoration with browse names is left out. -/
def NodeId.toString (n : NodeId U) (namespaceArray : Option (List String)) : List Char :=
  namespacePart namespaceArray n.namespaceIndex ++ n.value.toString

/-! ### The identifier of a text -/

/-- What `.` does not match. -/
def isLineTerminator (c : Char) : Bool :=
  c == '\n' || c == '\r' || c == ofNat 0x2028 || c == ofNat 0x2029

/-- `.*` at the beginning of a text. -/
def restOfLine (cs : List Char) : List Char := cs.takeWhile (!isLineTerminator ·)

/-- `ns=([0-9]+);` and the letter of an identifier type with `=`: the digits, and what follows. -/
def matchNamespace (letter : Char) : List Char → Option (List Char × List Char)
  | 'n' :: 's' :: '=' :: rest =>
    match rest.takeWhile isDigit, rest.dropWhile isDigit with
    | d :: ds, ';' :: c :: '=' :: value => if c = letter then some (d :: ds, value) else none
    | _, _ => none
  | _ => none

/-- `regexNamespaceI`. -/
def regexNamespaceI (cs : List Char) : Option (List Char × List Char) := do
  let (digits, value) ← matchNamespace 'i' cs
  match value.takeWhile isDigit with
  | [] => none
  | ds => some (digits, ds)

/-- `regexNamespaceS`. -/
def regexNamespaceS (cs : List Char) : Option (List Char × List Char) := do
  let (digits, value) ← matchNamespace 's' cs
  return (digits, restOfLine value)

/-- `regexNamespaceB`. -/
def regexNamespaceB (cs : List Char) : Option (List Char × List Char) := do
  let (digits, value) ← matchNamespace 'b' cs
  return (digits, restOfLine value)

/-- `regexNamespaceG`. -/
def regexNamespaceG (cs : List Char) : Option (List Char × List Char) := do
  let (digits, value) ← matchNamespace 'g' cs
  if isValidGuid value then some (digits, value.take 36) else none

/-- `regexNSU`: the line up to its last semicolon, and what follows. -/
def regexNSU : List Char → Option (List Char × List Char)
  | 'n' :: 's' :: 'u' :: '=' :: rest =>
    let line := restOfLine rest
    let value := (line.reverse.takeWhile (· != ';')).reverse
    if ';' ∈ line then some (line.take (line.length - value.length - 1), value) else none
  | _ => none

/-- `parseInt(s, 10)` of digits. -/
def ofDecimal (ds : List Char) : ℕ := Nat.ofDigitChars 10 ds 0

/-- White space, as `parseInt` skips it. -/
def isWhiteSpace (c : Char) : Bool :=
  isLineTerminator c || c == '\t' || c == ofNat 0x0b || c == ofNat 0x0c || c == ' ' ||
    c == ofNat 0xa0 || c == ofNat 0x1680 ||
    (ofNat 0x2000 ≤ c && c ≤ ofNat 0x200a) || c == ofNat 0x202f ||
    c == ofNat 0x205f || c == ofNat 0x3000 || c == ofNat 0xfeff

/-- `parseInt(s, 10)`: white space and a sign before the digits, `none` for `NaN`. -/
def parseInt (cs : List Char) : Option ℤ :=
  let digitsOf (cs : List Char) : Option ℤ :=
    match cs.takeWhile isDigit with
    | [] => none
    | ds => some (ofDecimal ds)
  match cs.dropWhile isWhiteSpace with
  | '-' :: cs => (digitsOf cs).map (- ·)
  | '+' :: cs => digitsOf cs
  | cs => digitsOf cs

section

variable (U : CaseMapping) (value : List Char) (namespaceIndex : ℕ)

/-- `coerceNodeId` without a namespace array, for a string. The empty string is the number 0, and
`namespaceIndex` is the default. -/
def coerceText :
    Except NodeIdError (NodeId U) :=
  match value with
  | [] => NodeId.new U (.numeric none) namespaceIndex
  | 'i' :: '=' :: rest => NodeId.new U (.numeric (parseInt rest)) namespaceIndex
  | 's' :: '=' :: rest => NodeId.new U (.string (ofList rest)) namespaceIndex
  | 'b' :: '=' :: rest => NodeId.new U (.byteString (some (decode rest))) namespaceIndex
  | 'g' :: '=' :: rest => NodeId.new U (.guid (normalizeGuid U rest)) namespaceIndex
  | value =>
    if isValidGuid value then NodeId.new U (.guid (normalizeGuid U value)) namespaceIndex
    else
      match exec regexNamespaceI value with
      | some (ns, digits) => NodeId.new U (.numeric (some (ofDecimal digits))) (ofDecimal ns)
      | none =>
        match exec regexNamespaceS value with
        | some (ns, text) => NodeId.new U (.string (ofList text)) (ofDecimal ns)
        | none =>
          match exec regexNamespaceB value with
          | some (ns, text) =>
            NodeId.new U (.byteString (some (decode text))) (ofDecimal ns)
          | none =>
            match exec regexNamespaceG value with
            | some (ns, guid) => NodeId.new U (.guid (normalizeGuid U guid)) (ofDecimal ns)
            | none => .error (.cannotCoerce value)

/-- `coerceNodeId`, for a string. With a namespace array, a text that has no other form may name the
namespace by its URI. -/
def coerceNodeId (namespaceArray : Option (List String)) : Except NodeIdError (NodeId U) :=
  match coerceText U value namespaceIndex, namespaceArray with
  | .error (.cannotCoerce text), some uris =>
    match exec regexNSU value with
    | none => .error (.cannotCoerce text)
    | some (namespaceUri, rest) =>
      match uris.idxOf? (ofList namespaceUri) with
      | none => .error (.namespaceNotFound namespaceUri)
      | some index => do
        let nid ← coerceText U rest namespaceIndex
        return { nid with namespaceIndex := UInt16.ofNat index }
  | result, _ => result

end

/-- `_nameToNodeIdIndex`: the standard names, none of which has the form of a node identifier. -/
structure NameIndex (U : CaseMapping) where
  find : List Char → Option (NodeId U)
  find_ns : ∀ rest, find ('n' :: 's' :: '=' :: rest) = none

/-- `resolveNodeId`, for a string. -/
def resolveNodeId (names : NameIndex U) (value : List Char) (namespaceIndex : ℕ)
    (namespaceArray : Option (List String)) : Except NodeIdError (NodeId U) :=
  match names.find value with
  | some nodeId => .ok nodeId
  | none => coerceNodeId U value namespaceIndex namespaceArray

/-! ### The comparison -/

/-- `Buffer.toString("hex")`, which throws on null. -/
def hexOf : Option Buffer → Except String (List Char)
  | some bytes => .ok (Hexadecimal.hexString bytes)
  | none => .error "Cannot read properties of null (reading 'toString')"

/-- `sameNodeId`. -/
def sameNodeId (n1 n2 : NodeId U) : Except String Bool :=
  match n1.value, n2.value with
  | .numeric v1, .numeric v2 => .ok (n1.namespaceIndex = n2.namespaceIndex ∧ v1 = v2)
  | .string v1, .string v2 => .ok (n1.namespaceIndex = n2.namespaceIndex ∧ v1 = v2)
  | .guid v1, .guid v2 => .ok (n1.namespaceIndex = n2.namespaceIndex ∧ v1.text = v2.text)
  | .byteString v1, .byteString v2 =>
    if n1.namespaceIndex ≠ n2.namespaceIndex then .ok false
    else do
      let h1 ← hexOf v1
      let h2 ← hexOf v2
      return h1 = h2
  | _, _ => .ok false

/-- Both are byte strings of one namespace, and one of them is null. -/
def NullCompared (n1 n2 : NodeId U) : Prop :=
  n1.namespaceIndex = n2.namespaceIndex ∧
    ∃ v1 v2, n1.value = .byteString v1 ∧ n2.value = .byteString v2 ∧ (v1 = none ∨ v2 = none)

lemma sameNodeId_of_not_byteString {n1 n2 : NodeId U}
    (h : ∀ v1 v2, ¬ (n1.value = .byteString v1 ∧ n2.value = .byteString v2)) :
    sameNodeId n1 n2 = .ok (decide (n1 = n2)) := by
  obtain ⟨ns1, v1⟩ := n1
  obtain ⟨ns2, v2⟩ := n2
  unfold sameNodeId
  cases v1 <;> cases v2 <;> simp only [NodeId.mk.injEq, Identifier.numeric.injEq,
    Identifier.string.injEq, Identifier.guid.injEq, Guid.text_inj, reduceCtorEq, and_false,
    decide_false, Bool.decide_and]
  exact absurd ⟨rfl, rfl⟩ (h _ _)

/-- **The comparison throws** when it meets a null byte string. -/
lemma sameNodeId_of_nullCompared {n1 n2 : NodeId U} (h : NullCompared n1 n2) :
    ∃ e, sameNodeId n1 n2 = .error e := by
  obtain ⟨ns1, v1⟩ := n1
  obtain ⟨ns2, v2⟩ := n2
  obtain ⟨hns, v1, v2, rfl, rfl, hnull⟩ := h
  refine ⟨"Cannot read properties of null (reading 'toString')", ?_⟩
  cases v1 <;> cases v2 <;> simp_all [sameNodeId, hexOf, bind, Except.bind]

/-- **The comparison** answers whether two identifiers are equal, unless it meets a null byte
string. -/
theorem sameNodeId_eq_ok_iff (n1 n2 : NodeId U) :
    sameNodeId n1 n2 = .ok (decide (n1 = n2)) ↔ ¬ NullCompared n1 n2 := by
  constructor
  · intro h hnull
    obtain ⟨e, he⟩ := sameNodeId_of_nullCompared hnull
    cases h.symm.trans he
  · intro hnull
    by_cases hbytes : ∃ v1 v2, n1.value = .byteString v1 ∧ n2.value = .byteString v2
    · obtain ⟨ns1, v1⟩ := n1
      obtain ⟨ns2, v2⟩ := n2
      obtain ⟨v1, v2, rfl, rfl⟩ := hbytes
      by_cases hns : ns1 = ns2
      · cases v1 with
        | none => exact absurd ⟨hns, none, v2, rfl, rfl, Or.inl rfl⟩ hnull
        | some b1 =>
          cases v2 with
          | none => exact absurd ⟨hns, some b1, none, rfl, rfl, Or.inr rfl⟩ hnull
          | some b2 =>
            simp [sameNodeId, hexOf, hns, bind, Except.bind, pure, Except.pure,
              Hexadecimal.hexString_injective.eq_iff]
      · simp [sameNodeId, hns]
    · push Not at hbytes
      exact sameNodeId_of_not_byteString fun v1 v2 hv => hbytes v1 v2 hv.1 hv.2

lemma sameNodeId_eq_true_iff (n1 n2 : NodeId U) :
    sameNodeId n1 n2 = .ok true ↔ n1 = n2 ∧ n2.value ≠ .byteString none := by
  by_cases hnull : NullCompared n1 n2
  · obtain ⟨e, he⟩ := sameNodeId_of_nullCompared hnull
    rw [he]
    refine iff_of_false nofun ?_
    rintro ⟨rfl, hne⟩
    obtain ⟨-, v1, v2, hv1, hv2, rfl | rfl⟩ := hnull
    · exact hne hv1
    · exact hne hv2
  · rw [(sameNodeId_eq_ok_iff n1 n2).mpr hnull]
    simp only [Except.ok.injEq, decide_eq_true_eq]
    refine ⟨fun h => ⟨h, fun hv => hnull ?_⟩, fun h => h.1⟩
    subst h
    exact ⟨rfl, none, none, hv, hv, Or.inl rfl⟩

end NodeOpcua
