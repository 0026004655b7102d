import NodeOpcua.ChunkManager.RoundTrip
import NodeOpcua.SecureChannel.SecurityHeader
import NodeOpcua.SecureChannel.SequenceNumber
import NodeOpcua.StatusCode

set_option autoImplicit false

/-!
# The message chunker

`MessageChunker` and `SecureMessageChunkManager` of `node-opcua-secure-channel`: what both sides of
a channel use to cut a message into chunks. The security of the chunks is what the caller gives as
options; null means that nothing is signed and nothing is encrypted.

## Main definitions

* `getOptionsForSymmetricSignAndEncrypt`.
* `SecureMessageChunkManager.construct`.
* `MessageChunker.chunkSecureMessage`.

## Design

The primitives of `node-opcua-crypto` are parameters. Those of derived keys are functions; those of
certificates may use randomness, whose state is the type `ω`. The functions of a chunk manager
share as their state the sequence numbers and this randomness.
-/

namespace NodeOpcua

open ChunkManager

/-- The primitives for derived keys `κ`, on the side that sends. -/
structure SymmetricCrypto (κ : Type) where
  signatureLength : κ → ℕ
  encryptingBlockSize : κ → ℕ
  makeMessageChunkSignatureWithDerivedKeys : Buffer → κ → Buffer
  encryptBufferWithDerivedKeys : Buffer → κ → Buffer

/-- What is documented of the primitives: a signature has the length that the keys say, and a block
cipher without padding keeps the length of whole blocks. -/
structure SymmetricCrypto.Lawful {κ : Type} (crypto : SymmetricCrypto κ) : Prop where
  signatureLength_pos : ∀ keys, 0 < crypto.signatureLength keys
  encryptingBlockSize_pos : ∀ keys, 0 < crypto.encryptingBlockSize keys
  encryptingBlockSize_le : ∀ keys, crypto.encryptingBlockSize keys ≤ 256
  length_signature : ∀ chunk keys,
    (crypto.makeMessageChunkSignatureWithDerivedKeys chunk keys).length =
      crypto.signatureLength keys
  length_encrypt : ∀ chunk keys, chunk.length % crypto.encryptingBlockSize keys = 0 →
    (crypto.encryptBufferWithDerivedKeys chunk keys).length = chunk.length

variable {κ ω : Type}

/-- `SecureMessageData`. -/
structure SecureMessageData (ω : Type) where
  cipherBlockSize : ℕ
  encryptBufferFunc : BufferFunc ω
  plainBlockSize : ℕ
  signBufferFunc : BufferFunc ω
  signatureLength : ℕ

/-- `getOptionsForSymmetricSignAndEncrypt`. -/
def getOptionsForSymmetricSignAndEncrypt (crypto : SymmetricCrypto κ)
    (securityMode : MessageSecurityMode) (derivedKeys : κ) :
    Except ChunkManagerError (SecureMessageData ω) := do
  assert (securityMode ≠ .None ∧ securityMode ≠ .Invalid) ""
  let blockSize :=
    if securityMode = .Sign then 0  -- we don't want to encrypt
    else crypto.encryptingBlockSize derivedKeys
  return {
    signatureLength := crypto.signatureLength derivedKeys
    signBufferFunc := fun random chunk =>
      (crypto.makeMessageChunkSignatureWithDerivedKeys chunk derivedKeys, random)
    cipherBlockSize := blockSize
    plainBlockSize := blockSize
    encryptBufferFunc := fun random chunk =>
      (crypto.encryptBufferWithDerivedKeys chunk derivedKeys, random) }

/-- `SecureMessageChunkManagerOptions`. -/
structure SecureMessageChunkManagerOptions (ω : Type) where
  chunkSize : ℕ
  requestId : ℕ
  signatureLength : ℕ := 0
  plainBlockSize : ℕ := 0
  cipherBlockSize : ℕ := 0
  encryptBufferFunc : Option (BufferFunc ω) := none
  signBufferFunc : Option (BufferFunc ω) := none

/-- The object literal by which both sides give the options of a message: without security unless
`securityOptions` says otherwise. -/
def SecureMessageChunkManagerOptions.ofSecurityOptions (chunkSize requestId : ℕ) :
    Option (SecureMessageData ω) → SecureMessageChunkManagerOptions ω
  | none => { chunkSize, requestId }
  | some data => {
      chunkSize, requestId
      signatureLength := data.signatureLength
      plainBlockSize := data.plainBlockSize
      cipherBlockSize := data.cipherBlockSize
      encryptBufferFunc := some data.encryptBufferFunc
      signBufferFunc := some data.signBufferFunc }

/-! ### The chunk manager of a message -/

namespace SecureMessageChunkManager

/-- The state that the functions of a chunk manager share. -/
abbrev Context (ω : Type) := SequenceNumberGenerator × ω

/-- A function that uses the randomness only. -/
def withRandom (f : BufferFunc ω) : BufferFunc (Context ω) := fun context chunk =>
  let r := f context.2 chunk
  (r.1, context.1, r.2)

/-- The three bytes of the message type; a missing character is written as zero. -/
def msgTypeBytes (msgType : String) : Buffer :=
  (msgType.toList.map (fun char : Char => UInt8.ofNat char.toNat) ++ [0, 0, 0]).take 3

section

variable (msgType : String) (channelId : ℕ) (securityHeader : SecurityHeader)

/-- The message header and the security header of a chunk. -/
def headerBytes (isLast : Bool) (length : ℕ) : Buffer :=
  msgTypeBytes msgType ++ [if isLast then 70 else 67] ++ uint32Bytes length ++
    uint32Bytes channelId ++ securityHeader.encode

/-- `write_header`, for a message that is not aborted. -/
def write_header :
    WriteHeaderFunc (Context ω) :=
  ⟨fun context buffer isLast length =>
    (Patch.copy buffer (headerBytes msgType channelId securityHeader isLast length) 0, context),
    fun _ _ _ _ => Patch.length_copy _ _ _⟩

end

/-- `writeSequenceHeader`. -/
def writeSequenceHeader (requestId : ℕ) : WriteSequenceHeaderFunc (Context ω) :=
  ⟨fun context buffer =>
    (Patch.copy buffer
        (SequenceHeader.encode { sequenceNumber := context.1.next.1, requestId }) 0,
      context.1.next.2, context.2),
    fun _ _ => Patch.length_copy _ _ _⟩

/-- The constructor. -/
def construct (mode : MessageSecurityMode) (msgType : String) (channelId : ℕ)
    (options : SecureMessageChunkManagerOptions ω) (securityHeader : SecurityHeader) :
    Except ChunkManagerError (ChunkManager (Context ω)) := do
  let msgType := if msgType = "" then "OPN" else msgType
  assert (options.requestId > 0) "expecting a valid request ID"
  ChunkManager.construct mode {
    chunkSize := if options.chunkSize = 0 then 8192 else options.chunkSize
    headerSize := 12 + securityHeader.binaryStoreSize
    writeHeaderFunc := some (write_header msgType channelId securityHeader)
    sequenceHeaderSize := 8
    writeSequenceHeaderFunc := some (writeSequenceHeader options.requestId)
    signBufferFunc := options.signBufferFunc.map withRandom
    signatureLength := options.signatureLength
    cipherBlockSize := options.cipherBlockSize
    encryptBufferFunc := options.encryptBufferFunc.map withRandom
    plainBlockSize := options.plainBlockSize }

end SecureMessageChunkManager

open SecureMessageChunkManager (Context)

/-! ### The chunker -/

/-- `ChunkMessageParameters`. -/
structure ChunkMessageParameters (ω : Type) where
  channelId : ℕ
  securityOptions : SecureMessageChunkManagerOptions ω
  securityHeader : SecurityHeader

/-- `MessageChunker`, with the randomness that encryption uses. -/
structure MessageChunker (ω : Type) where
  maxMessageSize : ℕ
  maxChunkCount : ℕ
  securityMode : MessageSecurityMode
  context : Context ω

namespace MessageChunker

variable (c : MessageChunker ω) (msgType : String) (params : ChunkMessageParameters ω)

/-- `#_build_chunk_manager`. -/
def _build_chunk_manager : Except ChunkManagerError (ChunkManager (Context ω)) := do
  assert (msgType = "OPN" → params.securityHeader.isSymmetric = false) ""
  assert (msgType = "MSG" → params.securityHeader.isSymmetric = true) ""
  SecureMessageChunkManager.construct c.securityMode msgType params.channelId
    params.securityOptions params.securityHeader

/-- `prepareChunk`: whatever is thrown in it becomes a status code. -/
def prepareChunk (messageLength : ℕ) : Except StatusCode (ChunkManager (Context ω)) :=
  match c._build_chunk_manager msgType params with
  | .error _ => .error .BadTcpInternalError
  | .ok chunkManager =>
    let (totalLength, chunkCount) := chunkManager.evaluateTotalLengthAndChunks messageLength
    if c.maxChunkCount > 0 ∧ chunkCount > c.maxChunkCount then .error .BadTcpMessageTooLarge
    else if c.maxMessageSize > 0 ∧ totalLength > c.maxMessageSize then
      .error .BadTcpMessageTooLarge
    else .ok chunkManager

/-- `chunkSecureMessage`, for an encoded message: the chunks given to the callback, or the status
code of a message that is refused. What is thrown while the chunks are made is the outer error. -/
def chunkSecureMessage (message : Buffer) :
    Except ChunkManagerError (Except StatusCode (List Buffer) × MessageChunker ω) :=
  match c.prepareChunk msgType params message.length with
  | .error statusCode => .ok (.error statusCode, c)
  | .ok chunkManager => do
    let (s, events) ← chunkManager.run c.context [message]
    return (.ok (events.map (·.chunk)), { c with context := s.context })

end MessageChunker

end NodeOpcua
