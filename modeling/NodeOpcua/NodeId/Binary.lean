import NodeOpcua.NodeId.Basic

set_option autoImplicit false

/-!
# Node identifiers in a binary stream

The encoder picks the shortest of several forms, by the type of the identifier and the range of its
number, and the decoder tells them apart by the first byte. An expanded identifier sets two flags
in this byte for the parts it adds.

## Main definitions

* `encodeNodeId`, `decodeNodeId`.
* `encodeExpandedNodeId`, `decodeExpandedNodeId`.
* `Identifier.Storable`.

## Design

What is read back is described by `Identifier.stored`: a GUID keeps its first 36 characters. An
identifier survives when it is the same as what is stored of it, and when its length is within the
limit of the reader.
-/

namespace NodeOpcua

open BinaryStream (uint16Bytes readUInt8 readUInt16 readUInt32 maxStringLength readUInt16_reads
  readUInt32_reads)

variable {U : CaseMapping}

/-! ### The encoding byte -/

namespace EnumNodeIdEncoding

def TwoBytes : ℕ := 0x00
def FourBytes : ℕ := 0x01
def Numeric : ℕ := 0x02
def String : ℕ := 0x03
def Guid : ℕ := 0x04
def ByteString : ℕ := 0x05
def NamespaceUriFlag : ℕ := 0x80
def ServerIndexFlag : ℕ := 0x40

end EnumNodeIdEncoding

/-- `isUInt8`. -/
def isUInt8 (value : ℕ) : Bool := value ≤ 0xff

/-- `isUInt16`. -/
def isUInt16 (value : ℕ) : Bool := value ≤ 0xffff

/-- The encoding of the identifier. The compact forms of a number have no room for a URI or a
server index. -/
def identifierEncoding (nodeId : ExpandedNodeId U) : ℕ :=
  match nodeId.value with
  | .numeric value =>
    if isUInt8 value.toNat && nodeId.namespaceIndex == 0 && nodeId.namespaceUri.isNone &&
        nodeId.serverIndex == 0 then
      EnumNodeIdEncoding.TwoBytes
    else if isUInt16 value.toNat && isUInt8 nodeId.namespaceIndex.toNat &&
        nodeId.namespaceUri.isNone && nodeId.serverIndex == 0 then
      EnumNodeIdEncoding.FourBytes
    else EnumNodeIdEncoding.Numeric
  | .string _ => EnumNodeIdEncoding.String
  | .byteString _ => EnumNodeIdEncoding.ByteString
  | .guid _ => EnumNodeIdEncoding.Guid

/-- `nodeID_encodingByte`. -/
def nodeID_encodingByte (nodeId : ExpandedNodeId U) : ℕ :=
  let encodingByte := identifierEncoding nodeId
  let encodingByte :=
    if nodeId.namespaceUri.isSome then encodingByte ||| EnumNodeIdEncoding.NamespaceUriFlag
    else encodingByte
  if nodeId.serverIndex ≠ 0 then encodingByte ||| EnumNodeIdEncoding.ServerIndexFlag
  else encodingByte

/-! ### The codec -/

/-- `_encodeNodeId`, for an encoding byte that fits the type of the identifier. -/
def encodeNodeIdAs (encodingByte : ℕ) (nodeId : NodeId U) : Except EncodeError Buffer :=
  let form := encodingByte &&& 0x3f
  let ns := uint16Bytes nodeId.namespaceIndex.toNat
  let body : Except EncodeError Buffer :=
    match nodeId.value with
    | .numeric value =>
      if form = EnumNodeIdEncoding.TwoBytes then .ok [UInt8.ofNat value.toNat]
      else if form = EnumNodeIdEncoding.FourBytes then
        .ok (UInt8.ofNat nodeId.namespaceIndex.toNat :: uint16Bytes value.toNat)
      else .ok (ns ++ uint32Bytes value.toNat)
    | .string value => (ns ++ ·) <$> encodeString (some value)
    | .byteString value => (ns ++ ·) <$> encodeByteString value
    | .guid value => (ns ++ ·) <$> encodeGuid value.text
  ([UInt8.ofNat encodingByte] ++ ·) <$> body

/-- `encodeNodeId`. An expanded identifier loses what it adds. -/
def encodeNodeId (nodeId : ExpandedNodeId U) : Except EncodeError Buffer :=
  encodeNodeIdAs (nodeID_encodingByte nodeId &&& 0x3f) nodeId.toNodeId

/-- The URI, when its flag is set. -/
def encodeNamespaceUri (encodingByte : ℕ) (namespaceUri : Option String) :
    Except EncodeError Buffer :=
  if encodingByte &&& EnumNodeIdEncoding.NamespaceUriFlag ≠ 0 then encodeString namespaceUri
  else .ok []

/-- The server index, when its flag is set. -/
def encodeServerIndex (encodingByte : ℕ) (serverIndex : UInt32) : Buffer :=
  if encodingByte &&& EnumNodeIdEncoding.ServerIndexFlag ≠ 0 then uint32Bytes serverIndex.toNat
  else []

/-- `encodeExpandedNodeId`. -/
def encodeExpandedNodeId (nodeId : ExpandedNodeId U) : Except EncodeError Buffer := do
  let encodingByte := nodeID_encodingByte nodeId
  let node ← encodeNodeIdAs encodingByte nodeId.toNodeId
  let uri ← encodeNamespaceUri encodingByte nodeId.namespaceUri
  return node ++ (uri ++ encodeServerIndex encodingByte nodeId.serverIndex)

/-- `_decodeNodeId`, which constructs a new identifier. -/
def decodeNodeIdAs (U : CaseMapping) (encodingByte : ℕ) :
    Reader (Except NodeIdError (NodeId U)) :=
  let form := encodingByte &&& 0x3f
  if form = EnumNodeIdEncoding.TwoBytes then do
    let value ← readUInt8
    return NodeId.new U (.numeric (some value)) 0
  else if form = EnumNodeIdEncoding.FourBytes then do
    let ns ← readUInt8
    let value ← readUInt16
    return NodeId.new U (.numeric (some value)) ns
  else if form = EnumNodeIdEncoding.Numeric then do
    let ns ← readUInt16
    let value ← readUInt32
    return NodeId.new U (.numeric (some value)) ns
  else if form = EnumNodeIdEncoding.String then do
    let ns ← readUInt16
    let value ← decodeString
    return NodeId.new U (.string (value.getD "")) ns
  else if form = EnumNodeIdEncoding.ByteString then do
    let ns ← readUInt16
    let value ← decodeByteString
    return NodeId.new U (.byteString value) ns
  else if form ≠ EnumNodeIdEncoding.Guid then return .error (.unknownEncodingByte form)
  else do
    let ns ← readUInt16
    let value ← decodeGuid U
    return NodeId.new U (.guid value) ns

/-- `decodeNodeId`. -/
def decodeNodeId (U : CaseMapping) : Reader (Except NodeIdError (NodeId U)) := do
  let encodingByte ← readUInt8
  decodeNodeIdAs U encodingByte

/-- `new ExpandedNodeId`, from the parts of a node identifier: the empty URI is made null. -/
def ExpandedNodeId.new (nodeId : NodeId U) (namespaceUri : Option String) (serverIndex : ℕ) :
    ExpandedNodeId U :=
  if h : namespaceUri = some "" then
    { nodeId.toExpanded with serverIndex := UInt32.ofNat serverIndex }
  else
    { nodeId with namespaceUri, serverIndex := UInt32.ofNat serverIndex, namespaceUri_ne := h }

/-- The URI, null when its flag is not set. -/
def decodeNamespaceUri (encodingByte : ℕ) : Reader (Option String) :=
  if encodingByte &&& EnumNodeIdEncoding.NamespaceUriFlag ≠ 0 then decodeString else pure none

/-- The server index, 0 when its flag is not set. -/
def decodeServerIndex (encodingByte : ℕ) : Reader ℕ :=
  if encodingByte &&& EnumNodeIdEncoding.ServerIndexFlag ≠ 0 then readUInt32 else pure 0

/-- `decodeExpandedNodeId`. -/
def decodeExpandedNodeId (U : CaseMapping) : Reader (Except NodeIdError (ExpandedNodeId U)) := do
  let encodingByte ← readUInt8
  match ← decodeNodeIdAs U encodingByte with
  | .error e => return .error e
  | .ok nodeId =>
    let namespaceUri ← decodeNamespaceUri encodingByte
    let serverIndex ← decodeServerIndex encodingByte
    return .ok (ExpandedNodeId.new nodeId namespaceUri serverIndex)

/-! ### What is stored -/

/-- The strings that the reader does not refuse. -/
def FitsString (s : String) : Prop :=
  (BinaryStream.utf8Bytes s).length ≤ maxStringLength

/-- The identifiers that the reader does not refuse. -/
def Identifier.Fits : Identifier U → Prop
  | .string value => FitsString value
  | .byteString (some value) => value.length ≤ maxStringLength
  | _ => True

/-- **The identifiers that are read back**: within the limit, no null byte string, and no GUID with
more than its 36 characters. -/
def Identifier.Storable : Identifier U → Prop
  | .numeric _ => True
  | .string value => FitsString value
  | .guid value => value.text.length = 36
  | .byteString value => ∃ bytes, value = some bytes ∧ bytes.length ≤ maxStringLength

/-- **What is read back** of an identifier: the first 36 characters of a GUID. -/
def Identifier.stored : Identifier U → Identifier U
  | .guid value => .guid value.head
  | value => value

lemma Identifier.storable_iff (value : Identifier U) :
    value.Storable ↔ value.Fits ∧ value.stored = value ∧ value ≠ .byteString none := by
  cases value with
  | numeric value | string value => simp [Storable, Fits, stored]
  | guid value => simp [Storable, Fits, stored, value.head_eq_self_iff]
  | byteString value =>
    cases value with
    | none => simp [Storable]
    | some bytes => simp [Storable, Fits, stored]

/-! ### The flags -/

lemma identifierEncoding_le (nodeId : ExpandedNodeId U) : identifierEncoding nodeId ≤ 5 := by
  unfold identifierEncoding
  split
  · split_ifs <;> decide
  · decide
  · decide
  · decide

/-- **The encoding byte** carries the form and the two flags. -/
lemma nodeID_encodingByte_spec (nodeId : ExpandedNodeId U) :
    nodeID_encodingByte nodeId < 256 ∧
      nodeID_encodingByte nodeId &&& 0x3f = identifierEncoding nodeId ∧
      (nodeID_encodingByte nodeId &&& EnumNodeIdEncoding.NamespaceUriFlag ≠ 0 ↔
        nodeId.namespaceUri.isSome = true) ∧
      (nodeID_encodingByte nodeId &&& EnumNodeIdEncoding.ServerIndexFlag ≠ 0 ↔
        nodeId.serverIndex ≠ 0) := by
  have hform := identifierEncoding_le nodeId
  unfold nodeID_encodingByte EnumNodeIdEncoding.NamespaceUriFlag EnumNodeIdEncoding.ServerIndexFlag
  generalize identifierEncoding nodeId = form at hform
  have hcases : form = 0 ∨ form = 1 ∨ form = 2 ∨ form = 3 ∨ form = 4 ∨ form = 5 := by omega
  by_cases huri : nodeId.namespaceUri.isSome = true <;> by_cases hindex : nodeId.serverIndex = 0 <;>
    rcases hcases with rfl | rfl | rfl | rfl | rfl | rfl <;> simp [huri, hindex]

/-! ### The identifier -/

lemma readNamespace_reads (ns : UInt16) :
    BinaryStream.readUInt16.Reads (uint16Bytes ns.toNat) ns.toNat :=
  readUInt16_reads ns.toNat_lt

lemma readUInt8_reads_ofNat {n : ℕ} (hn : n < 256) :
    BinaryStream.readUInt8.Reads [UInt8.ofNat n] n := by
  have h := BinaryStream.readUInt8_reads (UInt8.ofNat n)
  rwa [UInt8.toNat_ofNat', Nat.mod_eq_of_lt (by omega)] at h

variable {encoded : Except EncodeError Buffer}

lemma namespace_recovers {α β : Type} {r : Reader α} {a : α}
    (h : r.Recovers encoded a) (first : UInt8) (ns : UInt16) (construct : α → ℕ → β) :
    ∃ bytes, (([first] ++ ·) <$> ((uint16Bytes ns.toNat ++ ·) <$> encoded) :
        Except EncodeError Buffer) = .ok (first :: bytes) ∧
      (readUInt16 >>= fun ns => r >>= fun v => pure (construct v ns)).Reads bytes
        (construct a ns.toNat) := by
  obtain ⟨bytes, rfl, hreads⟩ := h
  exact ⟨_, rfl, (readNamespace_reads ns).bind (hreads.bind_pure _)⟩

lemma namespace_refuses {α β : Type} {r : Reader α}
    (h : r.Refuses encoded) (first : UInt8) (ns : UInt16) (construct : α → ℕ → β) (whole : Buffer)
    (hwhole : (([first] ++ ·) <$> ((uint16Bytes ns.toNat ++ ·) <$> encoded) :
        Except EncodeError Buffer) = .ok whole) :
    ∃ bytes err, whole = first :: bytes ∧
      (readUInt16 >>= fun ns => r >>= fun v => pure (construct v ns)).Fails bytes
        err := by
  cases encoded with
  | error err => cases hwhole
  | ok bytes =>
    cases hwhole
    obtain ⟨err, hfails⟩ := h bytes rfl
    have hvalue : (r >>= fun v => pure (construct v ns.toNat)).Fails (bytes ++ []) err :=
      hfails.bind
    rw [List.append_nil] at hvalue
    exact ⟨_, err, rfl, (readNamespace_reads ns).bind_fails hvalue⟩

section

variable {e : ℕ} {n : ExpandedNodeId U} (he : e &&& 0x3f = identifierEncoding n)

include he

/-- **A number is read back**, whichever form is chosen. -/
lemma decodeNodeIdAs_numeric {value : UInt32} (hvalue : n.value = .numeric value) :
    ∃ bytes, encodeNodeIdAs e n.toNodeId = .ok (UInt8.ofNat e :: bytes) ∧
      (decodeNodeIdAs U e).Reads bytes (.ok n.toNodeId) := by
  have hnew := new_numeric (U := U) n.namespaceIndex value
  have hnode : n.toNodeId = ⟨n.namespaceIndex, .numeric value⟩ := by rw [← hvalue]
  have hlt := value.toNat_lt
  rw [identifierEncoding, hvalue] at he
  dsimp only at he
  unfold encodeNodeIdAs decodeNodeIdAs
  rw [hvalue]
  dsimp only
  split_ifs at he with htwo hfour
  · -- the value is below 256, and the namespace is 0
    simp only [isUInt8, Bool.and_eq_true, decide_eq_true_eq, beq_iff_eq] at htwo
    obtain ⟨⟨⟨hle, hns⟩, -⟩, -⟩ := htwo
    rw [he, if_pos rfl, if_pos rfl]
    refine ⟨_, rfl, ?_⟩
    rw [hns] at hnew
    rw [hnode, hns, ← hnew]
    exact (readUInt8_reads_ofNat (n := value.toNat) (by omega)).bind_pure _
  · -- the value is below 65536, and the namespace is below 256
    simp only [isUInt8, isUInt16, Bool.and_eq_true, decide_eq_true_eq] at hfour
    rw [he, if_neg (by decide), if_pos rfl, if_neg (by decide), if_pos rfl]
    refine ⟨_, rfl, ?_⟩
    rw [hnode, ← hnew]
    exact (readUInt8_reads_ofNat (n := n.namespaceIndex.toNat) (by omega)).bind
      ((readUInt16_reads (n := value.toNat) (by omega)).bind_pure _)
  · rw [he, if_neg (by decide), if_neg (by decide), if_neg (by decide), if_neg (by decide),
      if_pos rfl]
    refine ⟨_, rfl, ?_⟩
    rw [hnode, ← hnew]
    exact (readNamespace_reads n.namespaceIndex).bind
      ((readUInt32_reads hlt).bind_pure _)

/-- **What is stored is read back** when the identifier fits. -/
lemma decodeNodeIdAs_stored (hfits : n.value.Fits) :
    ∃ bytes, encodeNodeIdAs e n.toNodeId = .ok (UInt8.ofNat e :: bytes) ∧
      (decodeNodeIdAs U e).Reads bytes (.ok ⟨n.namespaceIndex, n.value.stored⟩) := by
  cases hvalue : n.value with
  | numeric value =>
    obtain ⟨bytes, hbytes, hreads⟩ := decodeNodeIdAs_numeric he hvalue
    have hnode : n.toNodeId = ⟨n.namespaceIndex, .numeric value⟩ := by rw [← hvalue]
    rw [hnode] at hreads
    exact ⟨bytes, hbytes, hreads⟩
  | string value =>
    rw [hvalue] at hfits
    have hrecovers : decodeString.Recovers (encodeString (some value)) (some value) := by
      apply decodeString_recovers
      intro s hs
      cases hs
      exact hfits
    have hread := namespace_recovers hrecovers (UInt8.ofNat e) n.namespaceIndex
      fun value ns => NodeId.new U (.string (value.getD "")) ns
    simp only [Option.getD_some, new_string] at hread
    unfold encodeNodeIdAs decodeNodeIdAs
    rw [identifierEncoding, hvalue] at he
    dsimp only at he ⊢
    rw [hvalue, he, if_neg (by decide), if_neg (by decide), if_neg (by decide), if_pos rfl]
    exact hread
  | guid value =>
    have hread := namespace_recovers value.decodeGuid_recovers (UInt8.ofNat e) n.namespaceIndex
      fun value ns => NodeId.new U (.guid value) ns
    rw [← value.head_text] at hread
    simp only [new_guid] at hread
    unfold encodeNodeIdAs decodeNodeIdAs
    rw [identifierEncoding, hvalue] at he
    dsimp only at he ⊢
    rw [hvalue, he, if_neg (by decide), if_neg (by decide), if_neg (by decide), if_neg (by decide),
      if_neg (by decide), if_neg (by decide)]
    exact hread
  | byteString value =>
    rw [hvalue] at hfits
    have hrecovers : decodeByteString.Recovers (encodeByteString value) value := by
      apply decodeByteString_recovers
      intro bytes hbytes
      cases hbytes
      exact hfits
    have hread := namespace_recovers hrecovers (UInt8.ofNat e) n.namespaceIndex
      fun value ns => NodeId.new U (.byteString value) ns
    simp only [new_byteString] at hread
    unfold encodeNodeIdAs decodeNodeIdAs
    rw [identifierEncoding, hvalue] at he
    dsimp only at he ⊢
    rw [hvalue, he, if_neg (by decide), if_neg (by decide), if_neg (by decide), if_neg (by decide),
      if_pos rfl]
    exact hread

/-- **What does not fit** is refused, by the encoder or the decoder. -/
lemma decodeNodeIdAs_refuses (hfits : ¬ n.value.Fits) {whole : Buffer}
    (hwhole : encodeNodeIdAs e n.toNodeId = .ok whole) :
    ∃ bytes err, whole = UInt8.ofNat e :: bytes ∧ (decodeNodeIdAs U e).Fails bytes err := by
  cases hvalue : n.value with
  | numeric value | guid value => exact absurd (by rw [hvalue]; trivial) hfits
  | string value =>
    rw [hvalue] at hfits
    unfold encodeNodeIdAs at hwhole
    unfold decodeNodeIdAs
    rw [identifierEncoding, hvalue] at he
    dsimp only at he hwhole ⊢
    rw [hvalue] at hwhole
    rw [he, if_neg (by decide), if_neg (by decide), if_neg (by decide), if_pos rfl]
    exact namespace_refuses (decodeString_refuses (Nat.lt_of_not_le hfits)) _ _ _ whole hwhole
  | byteString value =>
    cases value with
    | none => exact absurd (by rw [hvalue]; trivial) hfits
    | some buf =>
      rw [hvalue] at hfits
      unfold encodeNodeIdAs at hwhole
      unfold decodeNodeIdAs
      rw [identifierEncoding, hvalue] at he
      dsimp only at he hwhole ⊢
      rw [hvalue] at hwhole
      rw [he, if_neg (by decide), if_neg (by decide), if_neg (by decide), if_neg (by decide),
        if_pos rfl]
      exact namespace_refuses (decodeByteString_refuses (Nat.lt_of_not_le hfits)) _ _ _ whole hwhole

end

lemma masked_encodingByte (n : ExpandedNodeId U) :
    (nodeID_encodingByte n &&& 0x3f) &&& 0x3f = identifierEncoding n := by
  rw [Nat.and_assoc, Nat.and_self]
  exact (nodeID_encodingByte_spec n).2.1

variable {n : ExpandedNodeId U}

/-- **A node identifier that fits** is read back as what is stored of it. -/
theorem decodeNodeId_recovers (hfits : n.value.Fits) :
    (decodeNodeId U).Recovers (encodeNodeId n) (.ok ⟨n.namespaceIndex, n.value.stored⟩) := by
  obtain ⟨bytes, hbytes, hreads⟩ := decodeNodeIdAs_stored (masked_encodingByte n) hfits
  have hlt : nodeID_encodingByte n &&& 0x3f < 256 :=
    Nat.lt_of_le_of_lt Nat.and_le_right (by decide)
  exact ⟨_, hbytes, (readUInt8_reads_ofNat hlt).bind hreads⟩

/-- A node identifier that does not fit is refused. -/
theorem decodeNodeId_refuses (hfits : ¬ n.value.Fits) :
    (decodeNodeId U).Refuses (encodeNodeId n) := by
  intro whole hwhole
  obtain ⟨bytes, err, rfl, hfails⟩ := decodeNodeIdAs_refuses (masked_encodingByte n) hfits hwhole
  have hlt : nodeID_encodingByte n &&& 0x3f < 256 :=
    Nat.lt_of_le_of_lt Nat.and_le_right (by decide)
  exact ⟨err, (readUInt8_reads_ofNat hlt).bind_fails hfails⟩

/-! ### Expanded identifiers -/

/-- The URI that the reader does not refuse. -/
def ExpandedNodeId.UriFits (n : ExpandedNodeId U) : Prop :=
  ∀ uri ∈ n.namespaceUri, FitsString uri

lemma new_expanded (node : NodeId U) (n : ExpandedNodeId U) :
    ExpandedNodeId.new node n.namespaceUri n.serverIndex.toNat =
      { n with toNodeId := node } := by
  rw [ExpandedNodeId.new, dif_neg n.namespaceUri_ne, UInt32.ofNat_toNat]

lemma serverIndex_reads (n : ExpandedNodeId U) :
    (decodeServerIndex (nodeID_encodingByte n)).Reads
      (encodeServerIndex (nodeID_encodingByte n) n.serverIndex) n.serverIndex.toNat := by
  have hflag := (nodeID_encodingByte_spec n).2.2.2
  unfold decodeServerIndex encodeServerIndex
  by_cases hindex : n.serverIndex = 0
  · rw [if_neg fun h => hflag.mp h hindex, if_neg fun h => hflag.mp h hindex, hindex]
    exact Reader.Reads.pure 0
  · rw [if_pos (hflag.mpr hindex), if_pos (hflag.mpr hindex)]
    exact readUInt32_reads n.serverIndex.toNat_lt

lemma namespaceUri_recovers (huri : n.UriFits) :
    (decodeNamespaceUri (nodeID_encodingByte n)).Recovers
      (encodeNamespaceUri (nodeID_encodingByte n) n.namespaceUri) n.namespaceUri := by
  have hflag := (nodeID_encodingByte_spec n).2.2.1
  unfold decodeNamespaceUri encodeNamespaceUri
  by_cases hsome : n.namespaceUri.isSome = true
  · rw [if_pos (hflag.mpr hsome), if_pos (hflag.mpr hsome)]
    exact decodeString_recovers huri
  · rw [if_neg fun h => hsome (hflag.mp h), if_neg fun h => hsome (hflag.mp h),
      Option.not_isSome_iff_eq_none.mp hsome]
    exact ⟨[], rfl, Reader.Reads.pure none⟩

lemma namespaceUri_refuses (huri : ¬ n.UriFits) :
    (decodeNamespaceUri (nodeID_encodingByte n)).Refuses
      (encodeNamespaceUri (nodeID_encodingByte n) n.namespaceUri) := by
  have hflag := (nodeID_encodingByte_spec n).2.2.1
  unfold decodeNamespaceUri encodeNamespaceUri
  unfold ExpandedNodeId.UriFits at huri
  push Not at huri
  obtain ⟨uri, hmem, hlong⟩ := huri
  have hsome : n.namespaceUri.isSome = true := by rw [hmem]; rfl
  rw [if_pos (hflag.mpr hsome), if_pos (hflag.mpr hsome), hmem]
  exact decodeString_refuses (Nat.lt_of_not_le hlong)

/-- **An expanded identifier that fits** is read back, with its URI and server index. -/
theorem decodeExpandedNodeId_recovers (hfits : n.value.Fits) (huri : n.UriFits) :
    (decodeExpandedNodeId U).Recovers (encodeExpandedNodeId n)
      (.ok { n with value := n.value.stored }) := by
  obtain ⟨hlt, hform, -⟩ := nodeID_encodingByte_spec n
  obtain ⟨bytes, hbytes, hreads⟩ := decodeNodeIdAs_stored hform hfits
  obtain ⟨uri, huriBytes, huriReads⟩ := namespaceUri_recovers huri
  have hindex := serverIndex_reads n
  have hnew := new_expanded ⟨n.namespaceIndex, n.value.stored⟩ n
  refine ⟨_, by rw [encodeExpandedNodeId, hbytes, huriBytes]; rfl, ?_⟩
  refine (readUInt8_reads_ofNat hlt).bind (hreads.bind ?_)
  rw [← hnew]
  exact huriReads.bind (hindex.bind_pure _)

/-- An expanded identifier that does not fit is refused. -/
theorem decodeExpandedNodeId_refuses (hfits : ¬ (n.value.Fits ∧ n.UriFits)) :
    (decodeExpandedNodeId U).Refuses (encodeExpandedNodeId n) := by
  obtain ⟨hlt, hform, -⟩ := nodeID_encodingByte_spec n
  intro whole hwhole
  obtain ⟨node, hnode, hrest⟩ := Except.bind_eq_ok_iff.mp hwhole
  obtain ⟨uri, huri, hpure⟩ := Except.bind_eq_ok_iff.mp hrest
  cases hpure
  by_cases hvalue : n.value.Fits
  · obtain ⟨bytes, hbytes, hreads⟩ := decodeNodeIdAs_stored hform hvalue
    obtain ⟨err, hfails⟩ := namespaceUri_refuses (fun huri => hfits ⟨hvalue, huri⟩) uri huri
    rw [hbytes] at hnode
    cases hnode
    refine ⟨err, ?_⟩
    exact (readUInt8_reads_ofNat hlt).bind_fails (hreads.bind_fails hfails.bind)
  · obtain ⟨bytes, err, rfl, hfails⟩ := decodeNodeIdAs_refuses hform hvalue hnode
    refine ⟨err, ?_⟩
    exact (readUInt8_reads_ofNat hlt).bind_fails hfails.bind

/-! ### The round trip -/

/-- A node identifier is decoded from its encoding as the same one. -/
def ReadBack (n : ExpandedNodeId U) : Prop :=
  ∃ m : NodeId U, (decodeNodeId U).Recovers (encodeNodeId n) (.ok m) ∧
    sameNodeId m n.toNodeId = .ok true

/-- An expanded node identifier is decoded from its encoding as the same one, with its URI and
server index. -/
def ReadBackExpanded (n : ExpandedNodeId U) : Prop :=
  ∃ m : ExpandedNodeId U, (decodeExpandedNodeId U).Recovers (encodeExpandedNodeId n) (.ok m) ∧
    sameNodeId m.toNodeId n.toNodeId = .ok true ∧ m.namespaceUri = n.namespaceUri ∧
    m.serverIndex = n.serverIndex

lemma same_stored_iff (hfits : n.value.Fits) :
    sameNodeId ⟨n.namespaceIndex, n.value.stored⟩ n.toNodeId = .ok true ↔ n.value.Storable := by
  rw [sameNodeId_eq_true_iff, n.value.storable_iff, NodeId.ext_iff]
  simp only [hfits, true_and]

lemma readBack_iff (n : ExpandedNodeId U) : ReadBack n ↔ n.value.Storable := by
  by_cases hfits : n.value.Fits
  · rw [← same_stored_iff hfits]
    constructor
    · rintro ⟨m, hm, hsame⟩
      cases hm.unique (decodeNodeId_recovers hfits)
      exact hsame
    · intro hsame
      exact ⟨_, decodeNodeId_recovers hfits, hsame⟩
  · refine iff_of_false ?_ fun h => hfits (n.value.storable_iff.mp h).1
    rintro ⟨m, hm, -⟩
    exact (decodeNodeId_refuses hfits).not_recovers _ hm

lemma readBackExpanded_iff (n : ExpandedNodeId U) :
    ReadBackExpanded n ↔ n.value.Storable ∧ n.UriFits := by
  by_cases hfits : n.value.Fits ∧ n.UriFits
  · rw [← same_stored_iff hfits.1, and_iff_left hfits.2]
    constructor
    · rintro ⟨m, hm, hsame, -⟩
      cases hm.unique (decodeExpandedNodeId_recovers hfits.1 hfits.2)
      exact hsame
    · intro hsame
      exact ⟨_, decodeExpandedNodeId_recovers hfits.1 hfits.2, hsame, rfl, rfl⟩
  · refine iff_of_false ?_ fun h => hfits ⟨(n.value.storable_iff.mp h.1).1, h.2⟩
    rintro ⟨m, hm, -⟩
    exact (decodeExpandedNodeId_refuses hfits).not_recovers _ hm

end NodeOpcua
