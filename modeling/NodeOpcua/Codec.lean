import NodeOpcua.Utf8

set_option autoImplicit false

/-!
# Encoding and decoding

An encoder gives the bytes of a value, a decoder is a `Reader`. The two fit together when the
decoder reads exactly these bytes, wherever they stand in a buffer, as the value. Said so, the facts
about the parts of a structure compose to one about the structure.

## Main definitions

* `Reader.Reads`, `Reader.Fails`, `Reader.Recovers`, `encodeString`, `encodeByteString`.

## Main results

* `Reader.Reads.bind`, `BinaryStream.readByteStream_reads`, `readString_reads`,
  `BinaryStream.readByteStream_fails`, `readString_fails`.
* `decodeString_recovers`, `decodeString_refuses`, and the same for byte strings.
-/

namespace NodeOpcua

namespace Reader

variable {α β : Type}

/-- The reader consumes exactly the bytes, wherever they stand, and gives the value. -/
def Reads (r : Reader α) (bytes : Buffer) (a : α) : Prop :=
  ∀ before after, r { buffer := before ++ bytes ++ after, length := before.length } =
    .ok (a, { buffer := before ++ bytes ++ after, length := before.length + bytes.length })

/-- The reader throws on the bytes, wherever they stand. -/
def Fails (r : Reader α) (bytes : Buffer) (e : StreamError) : Prop :=
  ∀ before after, r { buffer := before ++ bytes ++ after, length := before.length } = .error e

lemma Reads.pure (a : α) : Reads (Pure.pure a) [] a := by
  intro before after
  rfl

variable {r : Reader α} {bytes bytes' : Buffer} {f : α → Reader β} {a : α}

/-- **Readers one after the other** read the bytes one after the other. -/
theorem Reads.bind {b : β}
    (hr : r.Reads bytes a) (hf : (f a).Reads bytes' b) : (r >>= f).Reads (bytes ++ bytes') b := by
  intro before after
  have h := hr before (bytes' ++ after)
  have h' := hf (before ++ bytes) after
  simp only [List.length_append, List.append_assoc] at h h' ⊢
  simp only [Bind.bind, StateT.bind, h, Except.bind, h']
  rw [Nat.add_assoc]

variable {bytes : Buffer}

lemma Reads.map (hr : r.Reads bytes a) (f : α → β) :
    (f <$> r).Reads bytes (f a) := by
  intro before after
  show (StateT.map f r : Reader β) _ = _
  unfold StateT.map
  rw [hr before after]
  rfl

lemma Reads.bind_pure (hr : r.Reads bytes a) (f : α → β) :
    (r >>= fun x => Pure.pure (f x)).Reads bytes (f a) := by
  rw [← List.append_nil bytes]
  exact hr.bind (Reads.pure (f a))

lemma Reads.unique {a b : α} (h : r.Reads bytes a) (h' : r.Reads bytes b) : a = b := by
  have heq := (h [] []).symm.trans (h' [] [])
  injection heq with heq
  exact (Prod.mk.inj heq).1

variable {e : StreamError}

lemma Fails.not_reads (h : r.Fails bytes e) (a : α) : ¬ r.Reads bytes a := by
  intro h'
  have heq := (h [] []).symm.trans (h' [] [])
  cases heq

lemma Reads.bind_fails (hr : r.Reads bytes a) (hf : (f a).Fails bytes' e) :
    (r >>= f).Fails (bytes ++ bytes') e := by
  intro before after
  have h := hr before (bytes' ++ after)
  have h' := hf (before ++ bytes) after
  simp only [List.length_append, List.append_assoc] at h h' ⊢
  simp only [Bind.bind, StateT.bind, h, Except.bind, h']

lemma Fails.bind (hr : r.Fails bytes e) : (r >>= f).Fails (bytes ++ bytes') e := by
  intro before after
  have h := hr before (bytes' ++ after)
  rw [← List.append_assoc, List.append_assoc before] at h
  simp only [Bind.bind, StateT.bind, h, Except.bind]

lemma Fails.map (hr : r.Fails bytes e) (f : α → β) : (f <$> r).Fails bytes e := by
  intro before after
  show (StateT.map f r : Reader β) _ = _
  unfold StateT.map
  rw [hr before after]
  rfl

end Reader

namespace BinaryStream

/-! ### Numbers -/

/-- `Buffer.readUInt16LE` at the cursor. -/
def readUInt16 : Reader ℕ := fun s =>
  match s.buffer.drop s.length with
  | b0 :: b1 :: _ => .ok (b0.toNat + 256 * b1.toNat, { s with length := s.length + 2 })
  | _ => .error (.outOfRange (s.buffer.length - 2) s.length)

/-- The two little-endian bytes of a word. -/
def uint16Bytes (n : ℕ) : Buffer := [UInt8.ofNat n, UInt8.ofNat (n / 256)]

lemma drop_before (before bytes after : Buffer) :
    (before ++ bytes ++ after).drop before.length = bytes ++ after := by
  rw [List.append_assoc, List.drop_left]

lemma readUInt8_reads (b : UInt8) : readUInt8.Reads [b] b.toNat := by
  intro before after
  have h : (before ++ [b] ++ after)[before.length]? = some b := by simp
  simp only [readUInt8, h, List.length_singleton]

lemma readUInt16_reads {n : ℕ} (hn : n < 2 ^ 16) : readUInt16.Reads (uint16Bytes n) n := by
  intro before after
  unfold readUInt16
  rw [drop_before]
  simp only [uint16Bytes, List.cons_append, List.length_cons, List.length_nil,
    UInt8.toNat_ofNat']
  congr 2
  omega

lemma readUInt32_reads {n : ℕ} (hn : n < 2 ^ 32) : readUInt32.Reads (uint32Bytes n) n := by
  intro before after
  rw [readUInt32_eq_ok_iff]
  refine ⟨by simp, ?_⟩
  rw [drop_before, leUInt32_uint32Bytes hn]
  rfl

/-! ### Strings and byte strings -/

lemma readBytes_reads (bytes : Buffer) : (readBytes bytes.length).Reads bytes (some bytes) := by
  intro before after
  unfold readBytes
  rw [drop_before, List.take_left, if_neg]
  simp only [List.length_append]
  omega

/-- **Bytes with their length** are read back up to the limit. -/
lemma readPrefixed_reads (reader : String) {value : Option Buffer}
    (h : ∀ bytes ∈ value, bytes.length ≤ maxStringLength) :
    (readPrefixed reader).Reads (writeByteStream value) value := by
  have hmax : maxStringLength = 16777216 := rfl
  cases value with
  | none =>
    exact (readUInt32_reads (by decide)).bind (Reader.Reads.pure none)
  | some bytes =>
    have hle := h bytes rfl
    refine (readUInt32_reads (by omega)).bind ?_
    rw [if_neg (by omega)]
    split_ifs with h0 h1
    · rw [List.length_eq_zero_iff.mp h0]
      exact Reader.Reads.pure _
    · omega
    · exact readBytes_reads bytes

/-- **Bytes beyond the limit** are refused, as far as their length can be written. -/
lemma readPrefixed_fails (reader : String) {bytes : Buffer} (h : maxStringLength < bytes.length)
    (hlt : bytes.length < 0xffffffff) :
    (readPrefixed reader).Fails (writeByteStream (some bytes))
      (.maxLengthExceeded reader maxStringLength bytes.length) := by
  refine (readUInt32_reads (by omega)).bind_fails ?_
  rw [if_neg (by omega), if_neg (by omega), if_pos h]
  intro before after
  rfl

/-- Byte strings are read back up to the limit. -/
theorem readByteStream_reads {value : Option Buffer}
    (h : ∀ bytes ∈ value, bytes.length ≤ maxStringLength) :
    readByteStream.Reads (writeByteStream value) value := readPrefixed_reads _ h

/-- Byte strings beyond the limit are refused. -/
theorem readByteStream_fails {bytes : Buffer} (h : maxStringLength < bytes.length)
    (hlt : bytes.length < 0xffffffff) :
    readByteStream.Fails (writeByteStream (some bytes))
      (.maxLengthExceeded "readArrayBuffer" maxStringLength bytes.length) :=
  readPrefixed_fails _ h hlt

/-- The bytes of a string. -/
def utf8Bytes (s : String) : Buffer := s.toUTF8.data.toList

/-- **Strings are read back** when their bytes are within the limit. -/
theorem readString_reads {value : Option String}
    (h : ∀ s ∈ value, (utf8Bytes s).length ≤ maxStringLength) :
    readString.Reads (writeString value) value := by
  have hbytes : ∀ bytes ∈ value.map utf8Bytes, bytes.length ≤ maxStringLength := by
    intro bytes hmem
    obtain ⟨s, hs, rfl⟩ := Option.map_eq_some_iff.mp hmem
    exact h s hs
  have hread := (readPrefixed_reads "readString" hbytes).map (Option.map toUtf8String)
  have hvalue : (value.map utf8Bytes).map toUtf8String = value := by
    cases value with
    | none => rfl
    | some s => exact congrArg some (toUtf8String_toUTF8 s)
  rw [hvalue] at hread
  exact hread

/-- Strings whose bytes are beyond the limit are refused. -/
theorem readString_fails {s : String} (h : maxStringLength < (utf8Bytes s).length)
    (hlt : (utf8Bytes s).length < 0xffffffff) :
    readString.Fails (writeString (some s))
      (.maxLengthExceeded "readString" maxStringLength (utf8Bytes s).length) :=
  (readPrefixed_fails "readString" h hlt).map (Option.map toUtf8String)

end BinaryStream

/-! ### Encoders -/

/-- What an encoder throws: a number is out of range for its field, or a text is no GUID. -/
inductive EncodeError
  | outOfRange (value : ℕ)
  | invalidGuid (guid : List Char)
  deriving DecidableEq, Repr

namespace Reader

variable {α : Type}

section

variable (r : Reader α) (encoded : Except EncodeError Buffer)

/-- **The encoded value is read back**: the encoder gives bytes, and the reader consumes exactly
these as the value. -/
def Recovers (a : α) : Prop :=
  ∃ bytes, encoded = .ok bytes ∧ r.Reads bytes a

/-- The encoder throws, or the reader does on what the encoder gives. -/
def Refuses : Prop :=
  ∀ bytes, encoded = .ok bytes → ∃ e, r.Fails bytes e

end

variable {encoded : Except EncodeError Buffer}

lemma Refuses.not_recovers {r : Reader α}
    (h : r.Refuses encoded) (a : α) : ¬ r.Recovers encoded a := by
  rintro ⟨bytes, hbytes, hreads⟩
  obtain ⟨e, hfails⟩ := h bytes hbytes
  exact hfails.not_reads a hreads

lemma Recovers.unique {r : Reader α} {a b : α}
    (h : r.Recovers encoded a) (h' : r.Recovers encoded b) : a = b := by
  obtain ⟨bytes, hbytes, hreads⟩ := h
  obtain ⟨bytes', hbytes', hreads'⟩ := h'
  cases hbytes.symm.trans hbytes'
  exact hreads.unique hreads'

end Reader

/-- `encodeByteString`. The length is written as a signed number of 32 bits, which throws for a
larger one. -/
def encodeByteString (value : Option Buffer) : Except EncodeError Buffer :=
  match value with
  | some buf =>
    if 0x7fffffff < buf.length then .error (.outOfRange buf.length)
    else .ok (BinaryStream.writeByteStream (some buf))
  | none => .ok (BinaryStream.writeByteStream none)

/-- `encodeString`, for the UTF-8 bytes of the string. -/
def encodeString (value : Option String) : Except EncodeError Buffer :=
  encodeByteString (value.map BinaryStream.utf8Bytes)

/-- `decodeByteString`. -/
def decodeByteString : Reader (Option Buffer) := BinaryStream.readByteStream

/-- `decodeString`. -/
def decodeString : Reader (Option String) := BinaryStream.readString

section

variable {value : Option Buffer} (h : ∀ bytes ∈ value, bytes.length ≤ BinaryStream.maxStringLength)
include h

lemma encodeByteString_ok :
    encodeByteString value = .ok (BinaryStream.writeByteStream value) := by
  have hmax : BinaryStream.maxStringLength = 16777216 := rfl
  cases value with
  | none => rfl
  | some bytes =>
    have hle := h bytes rfl
    exact if_neg (by omega)

/-- **A byte string** within the limit is read back. -/
theorem decodeByteString_recovers :
    decodeByteString.Recovers (encodeByteString value) value :=
  ⟨_, encodeByteString_ok h, BinaryStream.readByteStream_reads h⟩

end

/-- A byte string beyond the limit is refused. -/
theorem decodeByteString_refuses {buf : Buffer} (h : BinaryStream.maxStringLength < buf.length) :
    decodeByteString.Refuses (encodeByteString (some buf)) := by
  intro bytes hbytes
  rw [encodeByteString] at hbytes
  split_ifs at hbytes with hlong
  cases hbytes
  exact ⟨_, BinaryStream.readByteStream_fails h (by omega)⟩

/-- **A string** whose bytes are within the limit is read back. -/
theorem decodeString_recovers {value : Option String}
    (h : ∀ s ∈ value, (BinaryStream.utf8Bytes s).length ≤ BinaryStream.maxStringLength) :
    decodeString.Recovers (encodeString value) value := by
  refine ⟨BinaryStream.writeString value, ?_, BinaryStream.readString_reads h⟩
  apply encodeByteString_ok
  intro bytes hbytes
  obtain ⟨s, hs, rfl⟩ := Option.map_eq_some_iff.mp hbytes
  exact h s hs

/-- A string whose bytes are beyond the limit is refused. -/
theorem decodeString_refuses {s : String}
    (h : BinaryStream.maxStringLength < (BinaryStream.utf8Bytes s).length) :
    decodeString.Refuses (encodeString (some s)) := by
  intro bytes hbytes
  rw [encodeString, Option.map_some, encodeByteString] at hbytes
  split_ifs at hbytes with hlong
  cases hbytes
  exact ⟨_, BinaryStream.readString_fails h (by omega)⟩

end NodeOpcua
