import NodeOpcua.BinaryStream

set_option autoImplicit false

/-!
# Message and sequence headers

The first eight bytes of every chunk (message type, final flag, length) and the eight bytes of
the sequence header, with their readers.

## Main definitions

* `readMessageHeader`, `readRawMessageHeader`, `SequenceHeader.decode`.
-/

namespace NodeOpcua

open BinaryStream

/-- `MessageHeader` of the source: type, final flag and total length of a chunk. -/
structure MessageHeader where
  msgType : String
  isFinal : String
  length : ℕ
  deriving DecidableEq, Repr

/-- `String.fromCharCode` of one byte. -/
def fromCharCode (b : ℕ) : String := String.ofList [Char.ofNat b]

/-- `readMessageHeader` of `read_message_header.ts`. -/
def readMessageHeader : Reader MessageHeader := do
  let b0 ← readUInt8
  let b1 ← readUInt8
  let b2 ← readUInt8
  let b3 ← readUInt8
  let length ← readUInt32
  return { msgType := fromCharCode b0 ++ fromCharCode b1 ++ fromCharCode b2,
           isFinal := fromCharCode b3, length }

/-- `PacketInfo` of the packet assembler. -/
structure PacketInfo where
  length : ℕ
  messageHeader : MessageHeader
  extra : String
  deriving DecidableEq, Repr

/-- `readRawMessageHeader` of `message_builder_base.ts`: the header at the start of a buffer. -/
def readRawMessageHeader (data : Buffer) : Except StreamError PacketInfo := do
  let (messageHeader, _) ← readMessageHeader { buffer := data }
  return { extra := "", length := messageHeader.length, messageHeader }

lemma readMessageHeader_cons (b0 b1 b2 b3 b4 b5 b6 b7 : UInt8) (c : Buffer) :
    readMessageHeader { buffer := b0 :: b1 :: b2 :: b3 :: b4 :: b5 :: b6 :: b7 :: c } =
      .ok ({ msgType := fromCharCode b0.toNat ++ fromCharCode b1.toNat ++ fromCharCode b2.toNat,
             isFinal := fromCharCode b3.toNat,
             length := leUInt32 [b4, b5, b6, b7] },
           { buffer := b0 :: b1 :: b2 :: b3 :: b4 :: b5 :: b6 :: b7 :: c, length := 8 }) := by
  rfl

lemma readMessageHeader_ok {chunk : Buffer} {r : MessageHeader × BinaryStream}
    (h : readMessageHeader { buffer := chunk } = .ok r) :
    8 ≤ chunk.length ∧ r.2 = { buffer := chunk, length := 8 } := by
  match chunk, h with
  | b0 :: b1 :: b2 :: b3 :: b4 :: b5 :: b6 :: b7 :: c, h =>
    cases h
    exact ⟨by simp, rfl⟩
  | [], h | [_], h | [_, _], h | [_, _, _], h | [_, _, _, _], h | [_, _, _, _, _], h
  | [_, _, _, _, _, _], h | [_, _, _, _, _, _, _], h => cases h

/-- **The header of a chunk** depends on the first eight bytes only. -/
theorem readRawMessageHeader_append {b : Buffer} (h : 8 ≤ b.length) (c : Buffer) :
    readRawMessageHeader (b ++ c) = readRawMessageHeader b := by
  match b, h with
  | b0 :: b1 :: b2 :: b3 :: b4 :: b5 :: b6 :: b7 :: r, _ =>
    rfl

/-- `SequenceHeader` of the source. -/
structure SequenceHeader where
  sequenceNumber : ℕ
  requestId : ℕ
  deriving DecidableEq, Repr

/-- `SequenceHeader.decode`. -/
def SequenceHeader.decode : Reader SequenceHeader := do
  let sequenceNumber ← readUInt32
  let requestId ← readUInt32
  return { sequenceNumber, requestId }

/-- `SequenceHeader.encode`. -/
def SequenceHeader.encode (h : SequenceHeader) : Buffer :=
  uint32Bytes h.sequenceNumber ++ uint32Bytes h.requestId

end NodeOpcua
