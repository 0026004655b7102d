import NodeOpcua.Library.Patch
import NodeOpcua.BinaryStream
import NodeOpcua.SecurityMode

set_option autoImplicit false

/-!
# The chunk manager

`ChunkManager` of `node-opcua-chunkmanager`: the bytes of a message go in, in pieces, and chunks
come out, each with its header, its sequence header, a part of the body, padding and signature,
encrypted or not.

## Main definitions

* `ChunkManager.construct`, `ChunkManager.write`, `ChunkManager.end_`, `ChunkManager.run`.

## Design

The four functions given to a chunk manager write headers, sign and encrypt. They may have a state
of their own (a counter of sequence numbers, the randomness of an encryption), the type `τ`. The
two that write into a view of the chunk cannot change its length, which their type says. A failed
assertion and a write out of the bounds of a buffer are the `error` cases of `Except`.
-/

namespace NodeOpcua

/-- What the methods of a chunk manager throw. -/
inductive ChunkManagerError
  | assertion (message : String)
  | outOfRange
  | typeError
  deriving DecidableEq, Repr

namespace ChunkManager

/-- `assert`. -/
def assert (cond : Prop) [Decidable cond] (message : String) : Except ChunkManagerError Unit :=
  if cond then .ok () else .error (.assertion message)

@[simp] lemma assert_eq_ok_iff {cond : Prop} [Decidable cond] {message : String} {u : Unit} :
    assert cond message = .ok u ↔ cond := by
  unfold assert
  split_ifs with h <;> simp [h]

/-- `WriteHeaderFunc`: it writes into a view of the chunk, given whether the chunk is the last one
and its length. -/
abbrev WriteHeaderFunc (τ : Type) :=
  { f : τ → Buffer → Bool → ℕ → Buffer × τ // ∀ t b isLast n, (f t b isLast n).1.length = b.length }

/-- `WriteSequenceHeaderFunc`. -/
abbrev WriteSequenceHeaderFunc (τ : Type) :=
  { f : τ → Buffer → Buffer × τ // ∀ t b, (f t b).1.length = b.length }

/-- `SignBufferFunc` and `EncryptBufferFunc`. -/
abbrev BufferFunc (τ : Type) := τ → Buffer → Buffer × τ

/-- `IChunkManagerOptions`. -/
structure IChunkManagerOptions (τ : Type) where
  chunkSize : ℕ
  signatureLength : ℕ := 0
  sequenceHeaderSize : ℕ := 8
  cipherBlockSize : ℕ := 0
  plainBlockSize : ℕ := 0
  headerSize : ℕ := 0
  signBufferFunc : Option (BufferFunc τ) := none
  encryptBufferFunc : Option (BufferFunc τ) := none
  writeSequenceHeaderFunc : Option (WriteSequenceHeaderFunc τ) := none
  writeHeaderFunc : Option (WriteHeaderFunc τ) := none

end ChunkManager

/-- The fields of a `ChunkManager` that its constructor sets for good. -/
structure ChunkManager (τ : Type) where
  securityMode : MessageSecurityMode
  chunkSize : ℕ
  headerSize : ℕ
  maxBodySize : ℕ
  signatureLength : ℕ
  sequenceHeaderSize : ℕ
  cipherBlockSize : ℕ
  plainBlockSize : ℕ
  _signBufferFunc : Option (ChunkManager.BufferFunc τ)
  _encryptBufferFunc : Option (ChunkManager.BufferFunc τ)
  _writeSequenceHeaderFunc : Option (ChunkManager.WriteSequenceHeaderFunc τ)
  _writeHeaderFunc : Option (ChunkManager.WriteHeaderFunc τ)

namespace ChunkManager

variable {τ : Type}

section

variable (securityMode : MessageSecurityMode) (options : IChunkManagerOptions τ)

/-- `maxBodySize` as the constructor computes it, before the assertion that it is positive. -/
def computeMaxBodySize :
    Except ChunkManagerError ℤ :=
  if options.cipherBlockSize = 0 then do
    assert (securityMode = .None ∨ securityMode = .Sign) ""
    -- no encryption: sign at most
    assert (options.plainBlockSize = 0) ""
    return (options.chunkSize : ℤ) - options.headerSize - options.signatureLength -
      options.sequenceHeaderSize
  else do
    assert (securityMode = .SignAndEncrypt ∨ securityMode = .Sign) ""
    assert (options.plainBlockSize ≠ 0) ""
    assert (options.encryptBufferFunc.isSome = true) "an encryptBufferFunc is required"
    let maxBlock : ℤ := ((options.chunkSize : ℤ) - options.headerSize) / options.cipherBlockSize
    let maxBodySize : ℤ := options.plainBlockSize * maxBlock - options.sequenceHeaderSize -
      options.signatureLength - 1
    return if options.plainBlockSize > 256 then maxBodySize - 1 else maxBodySize

/-- The constructor. -/
def construct :
    Except ChunkManagerError (ChunkManager τ) := do
  assert (options.headerSize ≠ 0 → options.writeHeaderFunc.isSome = true) ""
  assert (options.sequenceHeaderSize > 0 → options.writeSequenceHeaderFunc.isSome = true) ""
  let maxBodySize ← computeMaxBodySize securityMode options
  assert (maxBodySize > 0) ""
  return {
    securityMode
    chunkSize := options.chunkSize
    headerSize := options.headerSize
    maxBodySize := maxBodySize.toNat
    signatureLength := options.signatureLength
    sequenceHeaderSize := options.sequenceHeaderSize
    cipherBlockSize := options.cipherBlockSize
    plainBlockSize := options.plainBlockSize
    _signBufferFunc := options.signBufferFunc
    _encryptBufferFunc := if options.cipherBlockSize = 0 then none else options.encryptBufferFunc
    _writeSequenceHeaderFunc := options.writeSequenceHeaderFunc
    _writeHeaderFunc := options.writeHeaderFunc }

end

/-- The fields of a `ChunkManager` that change, and the state of the functions it was given. -/
structure State (τ : Type) where
  _chunk : Option Buffer := none
  _cursor : ℕ := 0
  _pendingChunk : Option Buffer := none
  _dataEnd : ℕ := 0
  context : τ

/-- The "chunk" event. -/
structure Event where
  chunk : Buffer
  isLast : Bool
  deriving DecidableEq, Repr

variable (m : ChunkManager τ)

/-- `#dataOffset`: where the data starts in the block. -/
def _dataOffset : ℕ := m.headerSize + m.sequenceHeaderSize

/-- `evaluateTotalLengthAndChunks`: the total length and the number of chunks. -/
def evaluateTotalLengthAndChunks (bodySize : ℕ) : ℕ × ℕ :=
  let chunkCount := (bodySize + m.maxBodySize - 1) / m.maxBodySize
  (m.chunkSize * chunkCount, chunkCount)

/-- `createFastUninitializedBuffer`; the content is not specified. -/
def createFastUninitializedBuffer (n : ℕ) : Buffer := List.replicate n 0

/-- `Buffer.writeUInt8`. -/
def writeUInt8 (b : Buffer) (value offset : ℕ) : Except ChunkManagerError Buffer :=
  if value < 256 ∧ offset < b.length then .ok (Patch.copy b [UInt8.ofNat value] offset)
  else .error .outOfRange

/-- `Buffer.fill`. -/
def fill (b : Buffer) (value start stop : ℕ) : Except ChunkManagerError Buffer :=
  if stop ≤ b.length then
    .ok (Patch.copy b (List.replicate (stop - start) (UInt8.ofNat value)) start)
  else .error .outOfRange

/-! ### Finishing a chunk -/

/-- `#_write_signature`. -/
def _write_signature (context : τ) (dataEnd : ℕ) (chunk : Buffer) :
    Except ChunkManagerError (Buffer × τ) :=
  if m.securityMode = .None then do
    assert (m.signatureLength = 0) "expecting NO SIGN"
    return (chunk, context)
  else
    match m._signBufferFunc with
    | some signBufferFunc => do
      assert (m.signatureLength ≠ 0) ""
      let (signature, context) := signBufferFunc context (chunk.take dataEnd)
      assert (signature.length = m.signatureLength) "expecting signature length to match"
      return (Patch.copy chunk signature dataEnd, context)
    | none => do
      assert (m.signatureLength = 0) "expecting NO SIGN"
      return (chunk, context)

/-- `#_encrypt`. -/
def _encrypt (context : τ) (dataEnd : ℕ) (chunk : Buffer) :
    Except ChunkManagerError (Buffer × τ) :=
  if m.securityMode = .None then return (chunk, context)
  else
    match m._encryptBufferFunc with
    | some encryptBufferFunc =>
      if m.plainBlockSize > 0 then do
        let areaToEncrypt := (chunk.take (dataEnd + m.signatureLength)).drop m.headerSize
        -- padding should have been applied
        assert (areaToEncrypt.length % m.plainBlockSize = 0) ""
        let nbBlock := areaToEncrypt.length / m.plainBlockSize
        let (encryptedBuffer, context) := encryptBufferFunc context areaToEncrypt
        assert (encryptedBuffer.length % m.cipherBlockSize = 0) ""
        assert (encryptedBuffer.length = nbBlock * m.cipherBlockSize) ""
        return (Patch.copy chunk encryptedBuffer m.headerSize, context)
      else return (chunk, context)
    | none => return (chunk, context)

/-- The header part of `#_push_pending_chunk`. The constructor has checked that the function is
there. -/
def writeHeader (context : τ) (isLast : Bool) (chunk : Buffer) : Buffer × τ :=
  match m._writeHeaderFunc with
  | some writeHeaderFunc =>
    if m.headerSize > 0 then
      let r := writeHeaderFunc.1 context (chunk.take m.headerSize) isLast chunk.length
      (Patch.copy chunk r.1 0, r.2)
    else (chunk, context)
  | none => (chunk, context)

/-- The sequence header part of `#_push_pending_chunk`. -/
def writeSequenceHeader (context : τ) (chunk : Buffer) : Buffer × τ :=
  match m._writeSequenceHeaderFunc with
  | some writeSequenceHeaderFunc =>
    if m.sequenceHeaderSize > 0 then
      let r := writeSequenceHeaderFunc.1 context
        ((chunk.drop m.headerSize).take m.sequenceHeaderSize)
      (Patch.copy chunk r.1 m.headerSize, r.2)
    else (chunk, context)
  | none => (chunk, context)

/-- `#_push_pending_chunk`. -/
def _push_pending_chunk (s : State τ) (isLast : Bool) :
    Except ChunkManagerError (State τ × List Event) :=
  match s._pendingChunk with
  | none => return (s, [])
  | some pendingChunk => do
    let (pendingChunk, context) := m.writeHeader s.context isLast pendingChunk
    let (pendingChunk, context) := m.writeSequenceHeader context pendingChunk
    let (pendingChunk, context) ← m._write_signature context s._dataEnd pendingChunk
    let (pendingChunk, context) ← m._encrypt context s._dataEnd pendingChunk
    return ({ s with _pendingChunk := none, context }, [{ chunk := pendingChunk, isLast }])

/-- `#_write_padding_bytes`: the chunk and the cursor after the padding. -/
def _write_padding_bytes (chunk : Buffer) (cursor nbPaddingByteTotal : ℕ) :
    Except ChunkManagerError (Buffer × ℕ) := do
  let nbPaddingByte := nbPaddingByteTotal % 256
  let extraNbPaddingByte := nbPaddingByteTotal / 256
  assert (extraNbPaddingByte = 0 ∨ m.plainBlockSize > 256)
    "extraNbPaddingByte only requested when key size > 2048"
  let chunk ← writeUInt8 chunk nbPaddingByte (cursor + m._dataOffset)
  let cursor := cursor + 1
  let chunk ←
    (if nbPaddingByteTotal > 0 then
      fill chunk nbPaddingByte (cursor + m._dataOffset)
        (cursor + m._dataOffset + nbPaddingByteTotal)
    else pure chunk)
  let cursor := cursor + nbPaddingByteTotal
  if m.plainBlockSize > 256 then
    let chunk ← writeUInt8 chunk extraNbPaddingByte (cursor + m._dataOffset)
    return (chunk, cursor + 1)
  else return (chunk, cursor)

/-- The padding part of `#_post_process_current_chunk`: the chunk, the cursor, and how much the
encryption will lengthen the chunk. -/
def padCurrentChunk (chunk : Buffer) (cursor : ℕ) :
    Except ChunkManagerError (Buffer × ℕ × ℤ) :=
  if m.plainBlockSize > 0 then do
    let curLength := m.sequenceHeaderSize + cursor + m.signatureLength +
      if m.plainBlockSize > 256 then 2 else 1
    let n := curLength % m.plainBlockSize
    let nbPaddingByteTotal := (m.plainBlockSize - n) % m.plainBlockSize
    let (chunk, cursor) ← m._write_padding_bytes chunk cursor nbPaddingByteTotal
    let adjustedLength := m.sequenceHeaderSize + cursor + m.signatureLength
    assert (adjustedLength % m.plainBlockSize = 0) ""
    let nbBlock := adjustedLength / m.plainBlockSize
    return (chunk, cursor, nbBlock * ((m.cipherBlockSize : ℤ) - m.plainBlockSize))
  else return (chunk, cursor, 0)

/-- `#_post_process_current_chunk`: the current chunk becomes the pending one. -/
def _post_process_current_chunk (s : State τ) : Except ChunkManagerError (State τ) :=
  match s._chunk with
  | none => .error .typeError
  | some chunk => do
    let (chunk, cursor, extraEncryptionBytes) ← m.padCurrentChunk chunk s._cursor
    let dataEnd := m._dataOffset + cursor
    -- the length of the chunk once it is signed and encrypted
    let expectedLength := (dataEnd + m.signatureLength + extraEncryptionBytes).toNat
    return { s with
      _dataEnd := dataEnd
      _pendingChunk := some (chunk.take expectedLength)
      _chunk := none
      _cursor := 0 }

/-! ### The entry points -/

/-- The first `nbToWrite` bytes of the data go after what the current chunk holds. -/
def copyIntoChunk (s : State τ) (data : Buffer) (nbToWrite : ℕ) : State τ :=
  let chunk := s._chunk.getD (createFastUninitializedBuffer m.chunkSize)
  { s with
    _chunk := some (Patch.copy chunk (data.take nbToWrite) (s._cursor + m._dataOffset))
    _cursor := s._cursor + nbToWrite }

/-- The loop of `write`, on what is left of the data; the fuel bounds the number of turns. -/
def writeLoop : ℕ → State τ → Buffer → Except ChunkManagerError (State τ × List Event)
  | 0, s, _ => return (s, [])
  | fuel + 1, s, rest =>
    if rest.length > 0 then do
      let (s, events) ←
        (if s._cursor = 0 then m._push_pending_chunk s false else pure (s, []))
      let spaceLeft := m.maxBodySize - s._cursor
      let nbToWrite := min rest.length spaceLeft
      let s := m.copyIntoChunk s rest nbToWrite
      let s ← (if s._cursor ≥ m.maxBodySize then m._post_process_current_chunk s else pure s)
      let (s, events') ← writeLoop fuel s (rest.drop nbToWrite)
      return (s, events ++ events')
    else return (s, [])

/-- `write`. -/
def write (s : State τ) (buffer : Buffer) : Except ChunkManagerError (State τ × List Event) := do
  assert (buffer.length > 0) ""
  m.writeLoop buffer.length s buffer

/-- `end`. -/
def end_ (s : State τ) : Except ChunkManagerError (State τ × List Event) := do
  let s ← (if s._cursor > 0 then m._post_process_current_chunk s else pure s)
  m._push_pending_chunk s true

/-- The calls of `write` on the pieces of a body. -/
def writeAll : State τ → List Buffer → Except ChunkManagerError (State τ × List Event)
  | s, [] => return (s, [])
  | s, piece :: pieces => do
    let (s, events) ← m.write s piece
    let (s, events') ← writeAll s pieces
    return (s, events ++ events')

/-- The calls for one message: `write` on each piece of the body, then `end`. -/
def run (context : τ) (pieces : List Buffer) :
    Except ChunkManagerError (State τ × List Event) := do
  let (s, events) ← m.writeAll { context } pieces
  let (s, events') ← m.end_ s
  return (s, events ++ events')

end ChunkManager

end NodeOpcua
