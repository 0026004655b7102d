import NodeOpcua.ExtensionObject.Basic

set_option autoImplicit false

/-!
# The framing of extension objects

The decoder sets the position to the end of the body, whatever the decoder of a class has read. What
a stream holds is described as a frame, and an encoder gives frames.

## Main definitions

* `Frame`, `Holds`, `DataTypes.Restorable`.

## Design

A type that is number 0 of a namespace is left out, and so are the values of a type of namespace 0
that has no class: the decoder does not consume the body of the one, and gives no value for the
other.
-/

namespace NodeOpcua

open BinaryStream
open List (append_assoc length_append length_singleton)

variable {U : CaseMapping} {O : Type}

/-! ### Frames -/

/-- **An extension object with a body**: its type, the position after it, the encoding byte and the
bytes of the body. -/
structure Frame (U : CaseMapping) where
  nodeId : NodeId U
  typeEnd : ℕ
  encodingType : UInt8
  body : Buffer

/-- The position after the body. -/
def Frame.finish (x : Frame U) : ℕ := x.typeEnd + 5 + x.body.length

/-- **The stream holds an extension object** at its position, with a body of the length that is
declared. -/
structure Holds (s : BinaryStream) (x : Frame U) : Prop where
  typeId : decodeNodeId U s = .ok (.ok x.nodeId, { s with length := x.typeEnd })
  rest : ∃ before after, before.length = x.typeEnd ∧
    s.buffer = before ++ ([x.encodingType] ++ (uint32Bytes x.body.length ++ (x.body ++ after)))
  encodingType_ne : x.encodingType ≠ 0
  length_lt : x.body.length < 2 ^ 32

namespace Holds

variable {s : BinaryStream} {x : Frame U} (h : Holds s x)

include h

lemma readUInt8_eq : readUInt8 { s with length := x.typeEnd } =
    .ok (x.encodingType.toNat, { s with length := x.typeEnd + 1 }) := by
  obtain ⟨before, after, hlen, hbuf⟩ := h.rest
  have hread := readUInt8_reads x.encodingType before
    (uint32Bytes x.body.length ++ (x.body ++ after))
  rw [append_assoc, ← hbuf, hlen] at hread
  exact hread

lemma readUInt32_eq : readUInt32 { s with length := x.typeEnd + 1 } =
    .ok (x.body.length, { s with length := x.typeEnd + 5 }) := by
  obtain ⟨before, after, hlen, hbuf⟩ := h.rest
  have hread := readUInt32_reads h.length_lt (before ++ [x.encodingType]) (x.body ++ after)
  simp only [append_assoc, length_append, length_singleton, length_uint32Bytes,
    ← hbuf, hlen, Nat.add_assoc] at hread
  exact hread

lemma readByteStream_eq (hmax : x.body.length ≤ maxStringLength) :
    readByteStream { s with length := x.typeEnd + 1 } =
      .ok (some x.body, { s with length := x.finish }) := by
  obtain ⟨before, after, hlen, hbuf⟩ := h.rest
  have hread := @readByteStream_reads (some x.body) (by rintro _ ⟨⟩; exact hmax)
    (before ++ [x.encodingType]) after
  simp only [writeByteStream, append_assoc, length_append, length_singleton,
    length_uint32Bytes, ← hbuf, hlen] at hread
  rw [hread, Frame.finish]
  congr 3
  omega

lemma extract_eq (hle : s.length ≤ x.typeEnd) :
    s.buffer.extract s.length x.finish = s.buffer.extract s.length x.typeEnd ++
      ([x.encodingType] ++ writeByteStream (some x.body)) := by
  obtain ⟨before, after, hlen, hbuf⟩ := h.rest
  have hdrop : s.buffer.drop s.length = before.drop s.length ++
      ([x.encodingType] ++ writeByteStream (some x.body)) ++ after := by
    rw [hbuf, List.drop_append_of_le_length (by omega), writeByteStream]
    simp only [append_assoc]
  have htype : (before.drop s.length).length = x.typeEnd - s.length := by
    rw [List.length_drop, hlen]
  have hwhole : (before.drop s.length ++
      ([x.encodingType] ++ writeByteStream (some x.body))).length = x.finish - s.length := by
    simp only [Frame.finish, writeByteStream, length_append, length_singleton,
      length_uint32Bytes, htype]
    omega
  rw [List.extract_eq_take_drop, List.extract_eq_take_drop, hdrop, ← hwhole, List.take_left,
    append_assoc, ← htype, List.take_left]

end Holds

namespace DataTypes

variable (T : DataTypes U O) {s : BinaryStream} {x : Frame U}

/-- **The decoder on a frame** whose type is not number 0. -/
lemma decodeExtensionObject_eq (h : Holds s x) (hvalue : x.nodeId.value ≠ .numeric 0) :
    T.decodeExtensionObject s =
      (T.decodeFramed x.nodeId x.body.length { s with length := x.typeEnd + 5 }).map
        fun r => (.ok r.1, r.2) := by
  have hne : x.encodingType.toNat ≠ 0 := by
    intro hzero
    exact h.encodingType_ne (UInt8.toNat_inj.mp hzero)
  unfold decodeExtensionObject
  simp only [bind, StateT.bind, Except.bind, h.typeId, h.readUInt8_eq, if_neg hne,
    h.readUInt32_eq, if_neg hvalue]
  cases T.decodeFramed x.nodeId x.body.length { s with length := x.typeEnd + 5 } <;> rfl

lemma decodeBody_other {nodeId : NodeId U} (hns : nodeId.namespaceIndex ≠ 0) (s : BinaryStream)
    {buffer : Option Buffer} {s' : BinaryStream}
    (hread : readByteStream { s with length := s.length - 4 } = .ok (buffer, s')) :
    T.decodeBody nodeId s = .ok (.opaqueStructure nodeId buffer, s') := by
  unfold decodeBody
  rw [if_pos hns]
  show (readByteStream { s with length := s.length - 4 } >>= fun r =>
    Except.ok (ExtensionObject.opaqueStructure nodeId r.1, r.2)) = _
  rw [hread]
  rfl

/-- **A type of another namespace** gives the bytes of the body. -/
lemma decodeFramed_other (h : Holds s x) (hns : x.nodeId.namespaceIndex ≠ 0)
    (hmax : x.body.length ≤ maxStringLength) :
    T.decodeFramed x.nodeId x.body.length { s with length := x.typeEnd + 5 } =
      .ok (.opaqueStructure x.nodeId (some x.body), { s with length := x.finish }) := by
  have hbody := T.decodeBody_other hns { s with length := x.typeEnd + 5 } (h.readByteStream_eq hmax)
  unfold decodeFramed
  rw [hbody]
  rfl

lemma decodeFramed_standard (hns : x.nodeId.namespaceIndex = 0) :
    ∃ value, T.decodeFramed x.nodeId x.body.length { s with length := x.typeEnd + 5 } =
      .ok (value, { s with length := x.finish }) := by
  unfold decodeFramed decodeBody
  rw [if_neg fun hne => hne hns]
  cases T.standardDataTypeFactory.constructObject x.nodeId with
  | error e => exact ⟨.undefined, rfl⟩
  | ok constructor => exact ⟨_, rfl⟩

lemma decodeFramed_constructor (hns : x.nodeId.namespaceIndex = 0) {constructor : ObjectClass O}
    (hcons : T.standardDataTypeFactory.constructObject x.nodeId = .ok constructor) :
    T.decodeFramed x.nodeId x.body.length { s with length := x.typeEnd + 5 } =
      .ok (.object (constructor.decode { s with length := x.typeEnd + 5 }).1,
        { s with length := x.finish }) := by
  unfold decodeFramed decodeBody
  rw [if_neg fun hne => hne hns, hcons]
  rfl

/-! ### The encoder gives frames -/

variable {nodeId : ExpandedNodeId U}

lemma encodeNodeId_ne_nil {bytes : Buffer} (h : encodeNodeId nodeId = .ok bytes) : bytes ≠ [] := by
  unfold encodeNodeId encodeNodeIdAs at h
  dsimp only at h
  split at h
  · split_ifs at h <;> cases h <;> exact List.cons_ne_nil _ _
  all_goals
    obtain ⟨_, -, rfl⟩ := Except.map_eq_ok_iff.mp h
    exact List.cons_ne_nil _ _

variable {body whole : Buffer}

/-- **An encoding holds a frame**, wherever it stands. -/
lemma holds_of_encodeFrame (hstor : nodeId.value.Storable) (hlt : body.length < 2 ^ 32)
    (hencode : encodeFrame nodeId (.ok (uint32Bytes body.length ++ body)) = .ok whole)
    (before after : Buffer) :
    ∃ x : Frame U, Holds { buffer := before ++ whole ++ after, length := before.length } x ∧
      x.nodeId = nodeId.toNodeId ∧ x.body = body ∧
      x.finish = before.length + whole.length := by
  obtain ⟨hfits, hstored, -⟩ := nodeId.value.storable_iff.mp hstor
  obtain ⟨bytes, hbytes, hreads⟩ := decodeNodeId_recovers hfits
  rw [hstored] at hreads
  unfold encodeFrame at hencode
  rw [hbytes] at hencode
  cases hencode
  have hread := hreads before ([1] ++ (uint32Bytes body.length ++ body) ++ after)
  refine ⟨⟨nodeId.toNodeId, before.length + bytes.length, 1, body⟩, ⟨?_, ?_,
    (by decide : (1 : UInt8) ≠ 0), hlt⟩, rfl, rfl, ?_⟩
  · simp only [append_assoc] at hread ⊢
    exact hread
  · exact ⟨before ++ bytes, after, length_append, by simp only [append_assoc]⟩
  · simp only [Frame.finish, length_append, length_singleton, length_uint32Bytes]
    omega

/-- **A value is read back** from the frame that its encoding holds. -/
lemma reads_of_holds {nodeId : ExpandedNodeId U} {body whole : Buffer}
    (hstor : nodeId.value.Storable) (hvalue : nodeId.value ≠ .numeric 0)
    (hlt : body.length < 2 ^ 32)
    (hencode : encodeFrame nodeId (.ok (uint32Bytes body.length ++ body)) = .ok whole)
    {value : ExtensionObject U O}
    (hdec : ∀ s (x : Frame U), Holds s x → x.nodeId = nodeId.toNodeId → x.body = body →
      T.decodeFramed x.nodeId x.body.length { s with length := x.typeEnd + 5 } =
        .ok (value, { s with length := x.finish })) :
    T.decodeExtensionObject.Reads whole (.ok value) := by
  intro before after
  obtain ⟨x, hx, hnode, hbody, hfinish⟩ :=
    holds_of_encodeFrame hstor hlt hencode before after
  have hne : x.nodeId.value ≠ .numeric 0 := by rw [hnode]; exact hvalue
  rw [T.decodeExtensionObject_eq hx hne, hdec _ x hx hnode hbody, ← hfinish]
  rfl

/-! ### What is restored -/

/-- **An object with its encoding**: the identifier under which its schema says that it is encoded,
and the bytes that it gives, of the size that it states. -/
structure EncodedAs (object : O) (nodeId : ExpandedNodeId U) (body : Buffer) : Prop where
  schema : ∃ schema, T.schema object = some schema ∧ schema.encodingDefaultBinary = some nodeId
  storable : nodeId.value.Storable
  encode : T.encode object = .ok body
  size : T.binaryStoreSize object = body.length

/-- **The values that are decoded from their encoding**: null, bytes of a type of another namespace,
and the objects of a class that is registered in namespace 0 and decodes them. -/
def Restorable : ExtensionObject U O → Prop
  | .null => True
  | .undefined => False
  | .withoutFields => False
  | .opaqueStructure nodeId buffer => nodeId.namespaceIndex ≠ 0 ∧ nodeId.value ≠ .numeric 0 ∧
      nodeId.value.Storable ∧ ∃ body, buffer = some body ∧ body.length ≤ maxStringLength
  | .object object => ∃ nodeId body constructor, T.EncodedAs object nodeId body ∧
      nodeId.namespaceIndex = 0 ∧
      T.standardDataTypeFactory.constructObject nodeId.toNodeId = .ok constructor ∧
      ∀ before after : Buffer, (constructor.decode
        { buffer := before ++ body ++ after, length := before.length }).1 = object

variable {object : O}

lemma EncodedAs.encodeExtensionObject (h : T.EncodedAs object nodeId body)
    (hencode : T.encodeExtensionObject (.object object) = .ok whole) :
    nodeId.value ≠ .numeric 0 ∧ body.length < 2 ^ 32 ∧
      encodeFrame nodeId (.ok (uint32Bytes body.length ++ body)) = .ok whole := by
  obtain ⟨schema, hschema, hnode⟩ := h.schema
  unfold DataTypes.encodeExtensionObject at hencode
  simp only [hschema, hnode] at hencode
  split_ifs at hencode with hempty hinternal
  have hvalue : nodeId.value ≠ .numeric 0 := by
    intro hzero
    rw [hzero] at hempty
    exact hempty rfl
  by_cases hlong : 0xffffffff < body.length
  · have hthrows : T.encodeBody object = .error (.outOfRange body.length) := by
      rw [encodeBody, h.size, if_pos hlong]
    rw [hthrows, encodeFrame] at hencode
    cases hid : encodeNodeId nodeId <;> rw [hid] at hencode <;> cases hencode
  · have hbody : T.encodeBody object = .ok (uint32Bytes body.length ++ body) := by
      rw [encodeBody, h.size, if_neg hlong, h.encode]
      rfl
    rw [hbody] at hencode
    exact ⟨hvalue, by omega, hencode⟩

lemma null_reads {whole : Buffer} (hencode : T.encodeExtensionObject .null = .ok whole) :
    T.decodeExtensionObject.Reads whole (.ok .null) := by
  have hfits : (nullNodeId U).toExpanded.value.Fits := trivial
  obtain ⟨bytes, hbytes, hreads⟩ := decodeNodeId_recovers hfits
  unfold encodeExtensionObject at hencode
  rw [hbytes] at hencode
  cases hencode
  refine hreads.bind ?_
  intro before after
  simp only [bind, StateT.bind, readUInt8_reads 0 before after, Except.bind]
  rfl

lemma encodeExtensionObject_opaqueStructure {nodeId : NodeId U} {bytes body : Buffer}
    (htype : encodeNodeId nodeId.toExpanded = .ok bytes) (hmax : body.length ≤ maxStringLength) :
    T.encodeExtensionObject (.opaqueStructure nodeId (some body)) =
      .ok (bytes ++ ([0x01] ++ writeByteStream (some body))) := by
  show encodeFrame nodeId.toExpanded (encodeByteString (some body)) = _
  rw [encodeByteString_ok (by rintro _ ⟨⟩; exact hmax), encodeFrame, htype]
  exact congrArg Except.ok (append_assoc _ _ _)

/-- **Bytes of a type of another namespace** are read back. -/
lemma opaqueStructure_reads {nodeId : NodeId U}
    (hns : nodeId.namespaceIndex ≠ 0) (hvalue : nodeId.value ≠ .numeric 0)
    (hstor : nodeId.value.Storable) (hmax : body.length ≤ maxStringLength)
    (hencode : T.encodeExtensionObject (.opaqueStructure nodeId (some body)) = .ok whole) :
    T.decodeExtensionObject.Reads whole (.ok (.opaqueStructure nodeId (some body))) := by
  have hlimit : maxStringLength = 16777216 := rfl
  have hframe : encodeFrame nodeId.toExpanded (encodeByteString (some body)) = .ok whole := hencode
  rw [encodeByteString_ok (by rintro _ ⟨⟩; exact hmax)] at hframe
  refine @reads_of_holds U O T nodeId.toExpanded body whole hstor hvalue (by omega) hframe _ ?_
  intro s x hx hnode hbody
  have hnode : x.nodeId = nodeId := hnode
  rw [← hnode] at hns ⊢
  rw [← hbody] at hmax ⊢
  exact T.decodeFramed_other hx hns hmax

/-- **An object of another namespace** is read back as its bytes. -/
lemma object_reads_opaqueStructure
    (h : T.EncodedAs object nodeId body) (hns : nodeId.namespaceIndex ≠ 0)
    (hmax : body.length ≤ maxStringLength)
    (hencode : T.encodeExtensionObject (.object object) = .ok whole) :
    T.decodeExtensionObject.Reads whole (.ok (.opaqueStructure nodeId.toNodeId (some body))) := by
  obtain ⟨hvalue, hlt, hframe⟩ := h.encodeExtensionObject T hencode
  refine T.reads_of_holds h.storable hvalue hlt hframe ?_
  intro s x hx hnode hbody
  rw [← hnode, ← hbody]
  refine T.decodeFramed_other hx ?_ ?_
  · rw [hnode]
    exact hns
  · rw [hbody]
    exact hmax

/-- **An object of a class of namespace 0** is read back. -/
lemma object_reads {whole : Buffer} (h : T.Restorable (.object object))
    (hencode : T.encodeExtensionObject (.object object) = .ok whole) :
    T.decodeExtensionObject.Reads whole (.ok (.object object)) := by
  obtain ⟨nodeId, body, constructor, hencoded, hns, hcons, hdec⟩ := h
  obtain ⟨hvalue, hlt, hframe⟩ := hencoded.encodeExtensionObject T hencode
  refine T.reads_of_holds hencoded.storable hvalue hlt hframe ?_
  intro s x hx hnode hbody
  rw [← hnode] at hcons
  have hzero : x.nodeId.namespaceIndex = 0 := by rw [hnode]; exact hns
  obtain ⟨before, after, hlen, hbuf⟩ := hx.rest
  have hobj := hdec (before ++ [x.encodingType] ++ uint32Bytes x.body.length) after
  simp only [append_assoc, length_append, length_singleton, length_uint32Bytes,
    ← hbody, ← hbuf, hlen] at hobj
  rw [T.decodeFramed_constructor hzero hcons, hobj]

/-! ### The framing -/

/-- **The framing of extension objects.** After an extension object whose type is not number 0 the
stream is at the end of the body, whatever its bytes and the encoding byte are, when the type is in
namespace 0 or the body is within the limit of byte strings. A type of another namespace gives its
identifier and the bytes of the body, and encoding these gives back the original bytes when the
body is a byte string and the identifier has the form that the encoder chooses. Null, the bytes of a
type of another namespace and the objects of a class of namespace 0 that decodes them are read back;
an object of a class of another namespace is read back as its bytes. -/
theorem extensionObject_framing (T : DataTypes U O) :
    (∀ (s : BinaryStream) (x : Frame U), Holds s x → x.nodeId.value ≠ .numeric 0 →
      (x.nodeId.namespaceIndex = 0 ∨ x.body.length ≤ maxStringLength) →
      ∃ value, T.decodeExtensionObject s = .ok (.ok value, { s with length := x.finish })) ∧
    (∀ (s : BinaryStream) (x : Frame U), Holds s x → x.nodeId.value ≠ .numeric 0 →
      x.nodeId.namespaceIndex ≠ 0 → x.body.length ≤ maxStringLength →
      T.decodeExtensionObject s =
        .ok (.ok (.opaqueStructure x.nodeId (some x.body)), { s with length := x.finish }) ∧
      (x.encodingType = 0x01 →
        encodeNodeId x.nodeId.toExpanded = .ok (s.buffer.extract s.length x.typeEnd) →
        T.encodeExtensionObject (.opaqueStructure x.nodeId (some x.body)) =
          .ok (s.buffer.extract s.length x.finish))) ∧
    (∀ value bytes, T.Restorable value → T.encodeExtensionObject value = .ok bytes →
      T.decodeExtensionObject.Reads bytes (.ok value)) ∧
    (∀ object nodeId body bytes, T.EncodedAs object nodeId body → nodeId.namespaceIndex ≠ 0 →
      body.length ≤ maxStringLength → T.encodeExtensionObject (.object object) = .ok bytes →
      T.decodeExtensionObject.Reads bytes
        (.ok (.opaqueStructure nodeId.toNodeId (some body)))) := by
  refine ⟨?_, ?_, ?_, ?_⟩
  · intro s x h hvalue hlimit
    by_cases hns : x.nodeId.namespaceIndex = 0
    · obtain ⟨value, hdec⟩ := T.decodeFramed_standard (s := s) hns
      exact ⟨value, by rw [T.decodeExtensionObject_eq h hvalue, hdec]; rfl⟩
    · have hdec := T.decodeFramed_other h hns (hlimit.resolve_left hns)
      exact ⟨_, by rw [T.decodeExtensionObject_eq h hvalue, hdec]; rfl⟩
  · intro s x h hvalue hns hmax
    refine ⟨?_, ?_⟩
    · rw [T.decodeExtensionObject_eq h hvalue, T.decodeFramed_other h hns hmax]
      rfl
    · intro hbyte htype
      have hle : s.length ≤ x.typeEnd := by
        by_contra hlt
        refine encodeNodeId_ne_nil htype ?_
        rw [List.extract_eq_take_drop, Nat.sub_eq_zero_of_le (by omega), List.take_zero]
      rw [h.extract_eq hle, hbyte]
      exact T.encodeExtensionObject_opaqueStructure htype hmax
  · intro value bytes h hencode
    cases value with
    | null => exact T.null_reads hencode
    | undefined => exact h.elim
    | withoutFields => exact h.elim
    | opaqueStructure nodeId buffer =>
      obtain ⟨hns, hvalue, hstor, body, rfl, hmax⟩ := h
      exact T.opaqueStructure_reads hns hvalue hstor hmax hencode
    | object object => exact T.object_reads h hencode
  · intro object nodeId body bytes h hns hmax hencode
    exact T.object_reads_opaqueStructure h hns hmax hencode

end DataTypes

/-- The types of a process with one class of the namespace 1, whose objects have no fields; the
standard factory gives this class for every identifier. -/
def fieldlessTypes : DataTypes CaseMapping.ascii Unit where
  schema _ := some ⟨some (NodeId.toExpanded ⟨1, .numeric 5⟩)⟩
  binaryStoreSize _ := 0
  encode _ := .ok []
  standardDataTypeFactory := .mk (fun _ => some (some ⟨fun s => ((), s.length)⟩)) []
  isInternalText _ := false

/-- The framing, where bytes of a type of another namespace are read back. -/
theorem extensionObject_framing_fieldless :
    let value : ExtensionObject CaseMapping.ascii Unit :=
      .opaqueStructure ⟨1, .numeric 5⟩ (some [0x07])
    fieldlessTypes.decodeExtensionObject.Reads
      [0x01, 0x01, 0x05, 0x00, 0x01, 0x01, 0x00, 0x00, 0x00, 0x07] (.ok value) :=
  (fieldlessTypes.extensionObject_framing).2.2.1 _ _
    ⟨by decide, by decide, trivial, [0x07], rfl, by decide⟩ rfl

/-- **Not every object is read back**: the object of a class of another namespace comes back as its
bytes, although the class decodes these as the object. -/
theorem object_read_as_opaqueStructure :
    let bytes : Buffer := [0x01, 0x01, 0x05, 0x00, 0x01, 0x00, 0x00, 0x00, 0x00]
    fieldlessTypes.encodeExtensionObject (.object ()) = .ok bytes ∧
      fieldlessTypes.decodeExtensionObject { buffer := bytes } =
        .ok (.ok (.opaqueStructure ⟨1, .numeric 5⟩ (some [])), { buffer := bytes, length := 9 }) ∧
      ¬ ∀ value bytes, fieldlessTypes.encodeExtensionObject value = .ok bytes →
        fieldlessTypes.decodeExtensionObject.Reads bytes (.ok value) := by
  refine ⟨rfl, rfl, ?_⟩
  intro h
  have hreads := h (.object ()) _ rfl [] []
  cases hreads

end NodeOpcua
