import Mathlib.Algebra.GroupWithZero.Nat
import Mathlib.Data.Int.Notation
import Mathlib.Data.List.Basic
import NodeOpcua.Library.Except

set_option autoImplicit false

/-!
# Buffers and binary streams

The part of `node-opcua-binary-stream` that the readers of this development use: a buffer of
bytes with a cursor, read little-endian. A read past the end of the buffer throws, and so do the
length checks of strings and byte strings; a throw is the `error` case of `Except`.

## Main definitions

* `BinaryStream`, `Reader`.
* `BinaryStream.readUInt8`, `readUInt32`, `readString`, `readByteStream`.

## Main results

* `leUInt32_append`, `BinaryStream.readUInt32_eq_ok_iff`, `Reader.Advances.bind`.
-/

namespace NodeOpcua

/-- A Node `Buffer`. -/
abbrev Buffer := List UInt8

/-- What a read of a stream throws. -/
inductive StreamError
  | outOfRange (limit : ℤ) (offset : ℕ)
  | maxLengthExceeded (reader : String) (maxLength bufLen : ℕ)
  | notEnoughBytes (bufLen remainingBytes : ℕ)
  deriving DecidableEq, Repr

/-- The text of the thrown error. -/
def StreamError.message : StreamError → String
  | .outOfRange limit offset =>
    if limit < 0 then "Attempt to access memory outside buffer bounds"
    else s!"The value of \"offset\" is out of range. It must be >= 0 and <= {limit}. Received {offset}"
  | .maxLengthExceeded reader maxLength bufLen =>
    s!"maxStringLength({maxLength}) has been exceeded in BinaryStream.{reader} len={bufLen}"
  | .notEnoughBytes bufLen remainingBytes =>
    s!"BinaryStream.readByteStream error : not enough bytes left in buffer :  bufferLength is {bufLen} but only {remainingBytes} left"

/-- A buffer being read; `length` is the position of the next read, as in the source. -/
structure BinaryStream where
  buffer : Buffer
  length : ℕ := 0
  deriving DecidableEq, Repr

/-- A function that reads a stream: it gives a value and moves the cursor, or throws. -/
abbrev Reader (α : Type) := StateT BinaryStream (Except StreamError) α

/-- The little-endian value of the first four bytes of a buffer. -/
def leUInt32 : Buffer → ℕ
  | b0 :: b1 :: b2 :: b3 :: _ =>
    b0.toNat + 256 * b1.toNat + 65536 * b2.toNat + 16777216 * b3.toNat
  | _ => 0

/-- The four little-endian bytes of a word. -/
def uint32Bytes (n : ℕ) : Buffer :=
  [UInt8.ofNat n, UInt8.ofNat (n / 256), UInt8.ofNat (n / 65536), UInt8.ofNat (n / 16777216)]

@[simp] lemma length_uint32Bytes (n : ℕ) : (uint32Bytes n).length = 4 := rfl

lemma leUInt32_uint32Bytes {n : ℕ} (h : n < 2 ^ 32) (c : Buffer) :
    leUInt32 (uint32Bytes n ++ c) = n := by
  simp only [uint32Bytes, List.cons_append, leUInt32, UInt8.toNat_ofNat']
  omega

namespace BinaryStream

/-- `Buffer.readUInt8` at the cursor. -/
def readUInt8 : Reader ℕ := fun s =>
  match s.buffer[s.length]? with
  | some b => .ok (b.toNat, { s with length := s.length + 1 })
  | none => .error (.outOfRange (s.buffer.length - 1) s.length)

/-- `Buffer.readUInt32LE` at the cursor. -/
def readUInt32 : Reader ℕ := fun s =>
  if s.length + 4 ≤ s.buffer.length then
    .ok (leUInt32 (s.buffer.drop s.length), { s with length := s.length + 4 })
  else .error (.outOfRange (s.buffer.length - 4) s.length)

lemma readUInt32_eq_ok_iff {s : BinaryStream} {r : ℕ × BinaryStream} :
    readUInt32 s = .ok r ↔ s.length + 4 ≤ s.buffer.length ∧
      r = (leUInt32 (s.buffer.drop s.length), { s with length := s.length + 4 }) := by
  unfold readUInt32
  split_ifs with h
  · simp [h, eq_comm]
  · simp [h]

/-! ### Strings -/

/-- The state of a UTF-8 decoder in the middle of a character: how many bytes are still needed,
the bits read so far, and the range the next byte must lie in. -/
structure Utf8State where
  needed : ℕ := 0
  codePoint : ℕ := 0
  lower : ℕ := 0x80
  upper : ℕ := 0xbf

/-- The first byte of a character. A byte that cannot start one decodes to U+FFFD. -/
def utf8Start (b : ℕ) : Utf8State × List Char :=
  if b ≤ 0x7f then ({}, [Char.ofNat b])
  else if 0xc2 ≤ b ∧ b ≤ 0xdf then ({ needed := 1, codePoint := b % 0x20 }, [])
  else if 0xe0 ≤ b ∧ b ≤ 0xef then
    ({ needed := 2, codePoint := b % 0x10, lower := if b = 0xe0 then 0xa0 else 0x80,
       upper := if b = 0xed then 0x9f else 0xbf }, [])
  else if 0xf0 ≤ b ∧ b ≤ 0xf4 then
    ({ needed := 3, codePoint := b % 0x8, lower := if b = 0xf0 then 0x90 else 0x80,
       upper := if b = 0xf4 then 0x8f else 0xbf }, [])
  else ({}, [Char.ofNat 0xfffd])

/-- One byte of the decoder. A byte that does not continue the character in progress replaces
what was read of it by U+FFFD and is decoded as a first byte. -/
def utf8Step (s : Utf8State) (b : ℕ) : Utf8State × List Char :=
  if s.needed = 0 then utf8Start b
  else if s.lower ≤ b ∧ b ≤ s.upper then
    let codePoint := s.codePoint * 0x40 + b % 0x40
    if s.needed = 1 then ({}, [Char.ofNat codePoint])
    else ({ needed := s.needed - 1, codePoint }, [])
  else ((utf8Start b).1, Char.ofNat 0xfffd :: (utf8Start b).2)

/-- The characters of a byte sequence, read from a decoder state. -/
def utf8Decode : Utf8State → Buffer → List Char
  | s, [] => if s.needed = 0 then [] else [Char.ofNat 0xfffd]
  | s, b :: bs => (utf8Step s b.toNat).2 ++ utf8Decode (utf8Step s b.toNat).1 bs

/-- `Buffer.toString("utf-8")`. -/
def toUtf8String (b : Buffer) : String := String.ofList (utf8Decode {} b)

/-- The limit on the length of strings and byte strings, `16 * 1024 * 1024`. -/
def maxStringLength : ℕ := 16 * 1024 * 1024

/-- The next `bufLen` bytes. -/
def readBytes (bufLen : ℕ) : Reader (Option Buffer) := fun s =>
  let remainingBytes := s.buffer.length - s.length
  if remainingBytes < bufLen then .error (.notEnoughBytes bufLen remainingBytes)
  else .ok (some ((s.buffer.drop s.length).take bufLen), { s with length := s.length + bufLen })

/-- The length-prefixed bytes at the cursor: `none` for the null value. Strings and byte strings
are read alike; only the name in the text of one error tells them apart. -/
def readPrefixed (reader : String) : Reader (Option Buffer) := do
  let bufLen ← readUInt32
  if bufLen = 0xffffffff then return none
  else if bufLen = 0 then return some []
  else if bufLen > maxStringLength then throw (.maxLengthExceeded reader maxStringLength bufLen)
  else readBytes bufLen

/-- A byte string at the cursor. -/
def readByteStream : Reader (Option Buffer) := readPrefixed "readArrayBuffer"

/-- A string at the cursor. -/
def readString : Reader (Option String) := do
  return (← readPrefixed "readString").map toUtf8String

/-- `writeByteStream`: the bytes with their length before them, or -1 for null. -/
def writeByteStream : Option Buffer → Buffer
  | none => uint32Bytes 0xffffffff
  | some buf => uint32Bytes buf.length ++ buf

/-- `writeString`: the same, for the UTF-8 bytes of a string. -/
def writeString (value : Option String) : Buffer :=
  writeByteStream (value.map fun s => s.toUTF8.data.toList)

end BinaryStream

/-! ### Readers move forward -/

/-- A reader leaves the buffer as it is and does not move the cursor back. -/
def Reader.Advances {α : Type} (r : Reader α) : Prop :=
  ∀ s x s', r s = .ok (x, s') → s'.buffer = s.buffer ∧ s.length ≤ s'.length

namespace Reader.Advances

variable {α β : Type}

lemma pure (a : α) : Reader.Advances (Pure.pure a) := by
  rintro s x s' ⟨⟩
  exact ⟨rfl, Nat.le_refl _⟩

lemma throw (e : StreamError) : Reader.Advances (throwThe StreamError e : Reader α) := by
  intro s x s' h
  cases h

lemma bind {r : Reader α} {f : α → Reader β} (hr : r.Advances) (hf : ∀ a, (f a).Advances) :
    Reader.Advances (r >>= f) := by
  intro s y s'' h
  obtain ⟨⟨a, s'⟩, ha, hb⟩ := Except.bind_eq_ok_iff.mp h
  obtain ⟨hbuf, hlen⟩ := hr s a s' ha
  obtain ⟨hbuf', hlen'⟩ := hf a s' y s'' hb
  exact ⟨hbuf'.trans hbuf, Nat.le_trans hlen hlen'⟩

end Reader.Advances

namespace BinaryStream

lemma readUInt32_advances : readUInt32.Advances := by
  intro s x s' h
  obtain ⟨-, h⟩ := readUInt32_eq_ok_iff.mp h
  obtain ⟨rfl, rfl⟩ := Prod.mk.inj h
  exact ⟨rfl, Nat.le_add_right _ _⟩

lemma readBytes_advances (bufLen : ℕ) : (readBytes bufLen).Advances := by
  intro s x s' h
  unfold readBytes at h
  dsimp only at h
  split_ifs at h
  cases h
  exact ⟨rfl, Nat.le_add_right _ _⟩

lemma readPrefixed_advances (reader : String) : (readPrefixed reader).Advances := by
  refine Reader.Advances.bind readUInt32_advances fun bufLen => ?_
  split_ifs
  · exact Reader.Advances.pure _
  · exact Reader.Advances.pure _
  · exact Reader.Advances.throw _
  · exact readBytes_advances bufLen

lemma readByteStream_advances : readByteStream.Advances := readPrefixed_advances _

lemma readString_advances : readString.Advances :=
  Reader.Advances.bind (readPrefixed_advances _) fun _ => Reader.Advances.pure _

end BinaryStream

example : BinaryStream.toUtf8String [0x4f, 0x50, 0xc3, 0xa9, 0xff] = "OPé\uFFFD" := by decide

end NodeOpcua
