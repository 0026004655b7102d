import NodeOpcua.StatusCode
import NodeOpcua.PacketAssembler.Basic

set_option autoImplicit false

/-!
# The HEL/ACK handshake

The client declares its buffer sizes and limits in a Hello message. The server adjusts them to its
own configuration, installs them in its transport and answers them in an Acknowledge message, from
which the client installs the limits of its own transport. The chunk sizes of both directions are
then taken from the installed limits.

## Main definitions

* `adjustLimitsWithParameters`.
* `ServerTCP_transport._on_HEL_message`.
* `ClientTransportBase._handle_ACK_response`.

## Main results

* `ServerTCP_transport._on_HEL_message_ack`.
* `ClientTransportBase._handle_ACK_response_of_ack`.
-/

namespace NodeOpcua

open BinaryStream

/-! ### Messages -/

/-- `IHelloAckLimits`. -/
structure IHelloAckLimits where
  receiveBufferSize : ℕ
  sendBufferSize : ℕ
  maxMessageSize : ℕ
  maxChunkCount : ℕ
  deriving DecidableEq, Repr

/-- `HelloMessage`. -/
structure HelloMessage extends IHelloAckLimits where
  protocolVersion : ℕ
  endpointUrl : Option String
  deriving DecidableEq, Repr

/-- `AcknowledgeMessage`. -/
structure AcknowledgeMessage extends IHelloAckLimits where
  protocolVersion : ℕ
  deriving DecidableEq, Repr

/-- What the code of the handshake throws. -/
inductive TransportException
  | assertion
  | stream (e : StreamError)
  | valueOutOfRange (value : ℕ)
  deriving DecidableEq, Repr

/-- `assert`. -/
def assert (cond : Prop) [Decidable cond] : Except TransportException Unit :=
  if cond then .ok () else .error .assertion

@[simp] lemma assert_eq_ok_iff {cond : Prop} [Decidable cond] {u : Unit} :
    assert cond = .ok u ↔ cond := by
  unfold assert
  split_ifs with h <;> simp [h]

/-- `HelloMessage.decode`. -/
def HelloMessage.decode : Reader HelloMessage := do
  let protocolVersion ← readUInt32
  let receiveBufferSize ← readUInt32
  let sendBufferSize ← readUInt32
  let maxMessageSize ← readUInt32
  let maxChunkCount ← readUInt32
  let endpointUrl ← readString
  return { protocolVersion, receiveBufferSize, sendBufferSize, maxMessageSize, maxChunkCount,
           endpointUrl }

/-- `AcknowledgeMessage.decode`. -/
def AcknowledgeMessage.decode : Reader AcknowledgeMessage := do
  let protocolVersion ← readUInt32
  let receiveBufferSize ← readUInt32
  let sendBufferSize ← readUInt32
  let maxMessageSize ← readUInt32
  let maxChunkCount ← readUInt32
  return { protocolVersion, receiveBufferSize, sendBufferSize, maxMessageSize, maxChunkCount }

/-- `encodeUInt32`: a value that does not fit in 32 bits throws. -/
def encodeUInt32 (value : ℕ) : Except TransportException Buffer :=
  if value < 2 ^ 32 then .ok (uint32Bytes value) else .error (.valueOutOfRange value)

/-- `AcknowledgeMessage.encode`. -/
def AcknowledgeMessage.encode (m : AcknowledgeMessage) : Except TransportException Buffer := do
  let protocolVersion ← encodeUInt32 m.protocolVersion
  let receiveBufferSize ← encodeUInt32 m.receiveBufferSize
  let sendBufferSize ← encodeUInt32 m.sendBufferSize
  let maxMessageSize ← encodeUInt32 m.maxMessageSize
  let maxChunkCount ← encodeUInt32 m.maxChunkCount
  return protocolVersion ++ receiveBufferSize ++ sendBufferSize ++ maxMessageSize ++ maxChunkCount

/-- `packTcpMessage`, on the three characters of the message type and the encoded message. -/
def packTcpMessage (msgType : Buffer) (message : Buffer) : Buffer :=
  msgType ++ [0x46] ++ uint32Bytes (message.length + 8) ++ message

/-- `decodeMessage`: skip the header, then decode. The callers have checked the type. -/
def decodeMessage {α : Type} (decode : Reader α) : Reader α := do
  let _ ← readMessageHeader
  decode

/-! ### The limits of the server -/

/-- `clamp_value`: zero stands for "no limit" and is replaced by the maximum. -/
def clamp_value (value minVal maxVal : ℕ) : Except TransportException ℕ := do
  assert (minVal ≤ maxVal)
  if value = 0 then return maxVal
  if value < minVal then return minVal
  if value ≥ maxVal then return maxVal
  return value

/-- `ITransportParameters`. -/
structure ITransportParameters where
  minBufferSize : ℕ
  maxBufferSize : ℕ
  minMaxMessageSize : ℕ
  defaultMaxMessageSize : ℕ
  maxMaxMessageSize : ℕ
  minMaxChunkCount : ℕ
  defaultMaxChunkCount : ℕ
  maxMaxChunkCount : ℕ

/-- `defaultTransportParameters`. -/
def defaultTransportParameters : ITransportParameters where
  minBufferSize := 8192
  maxBufferSize := 8 * 64 * 1024
  minMaxMessageSize := 128 * 1024
  defaultMaxMessageSize := 16 * 1024 * 1024
  maxMaxMessageSize := 128 * 1024 * 1024
  minMaxChunkCount := 1
  defaultMaxChunkCount := (128 * 1024 * 1024) / (8 * 64 * 1024)
  maxMaxChunkCount := 9000

/-- `value || other`: zero is falsy. -/
def orElse (value other : ℕ) : ℕ := if value = 0 then other else value

/-- `Math.ceil` of a quotient. -/
def ceilDiv (a b : ℕ) : ℕ := (a + b - 1) / b

/-- `adjustLimitsWithParameters`. A missing chunk count is computed from the message size before
it is clamped. -/
def adjustLimitsWithParameters (helloMessage : IHelloAckLimits) (params : ITransportParameters) :
    Except TransportException IHelloAckLimits := do
  let defaultReceiveBufferSize := 64 * 1024
  let defaultSendBufferSize := 64 * 1024
  let receiveBufferSize ←
    clamp_value (orElse helloMessage.receiveBufferSize defaultReceiveBufferSize)
      params.minBufferSize params.maxBufferSize
  let sendBufferSize ←
    clamp_value (orElse helloMessage.sendBufferSize defaultSendBufferSize)
      params.minBufferSize params.maxBufferSize
  let maxMessageSize ←
    clamp_value (orElse helloMessage.maxMessageSize params.defaultMaxMessageSize)
      params.minMaxMessageSize params.maxMaxMessageSize
  let helloMaxChunkCount :=
    if helloMessage.maxChunkCount = 0 ∧ sendBufferSize ≠ 0 then
      ceilDiv helloMessage.maxMessageSize (min sendBufferSize receiveBufferSize)
    else helloMessage.maxChunkCount
  let maxChunkCount ←
    clamp_value (orElse helloMaxChunkCount params.defaultMaxChunkCount)
      params.minMaxChunkCount params.maxMaxChunkCount
  return { receiveBufferSize, sendBufferSize, maxMessageSize, maxChunkCount }

/-! ### The transports -/

/-- The limits of a `TCP_transport`, and the options of its packet assembler. -/
structure TCP_transport extends IHelloAckLimits where
  protocolVersion : ℕ := 0
  packetAssembler : PacketAssemblerOptions

namespace TCP_transport

/-- `headerSize`. -/
def headerSize : ℕ := 8

/-- `setLimits`: the limits are stored and a new packet assembler is installed. -/
def setLimits (transport : TCP_transport) (limits : IHelloAckLimits) :
    Except TransportException TCP_transport :=
  match PacketAssemblerOptions.construct readRawMessageHeader headerSize
    (some limits.receiveBufferSize) with
  | some packetAssembler => .ok { transport with toIHelloAckLimits := limits, packetAssembler }
  | none => .error .assertion

/-- `write`: the bytes put on the socket. -/
def write (messageChunk : Buffer) : Except TransportException Buffer :=
  match readRawMessageHeader messageChunk with
  | .error e => .error (.stream e)
  | .ok header =>
    let c := header.messageHeader.isFinal
    if header.length = messageChunk.length ∧ (c = "F" ∨ c = "C" ∨ c = "A") then .ok messageChunk
    else .error .assertion

end TCP_transport

/-- `minimumBufferSize` of the server. -/
def minimumBufferSize : ℕ := 8192

namespace ServerTCP_transport

/-- Why a handshake is aborted. -/
inductive AbortReason
  | text (extraErrorDescription : String)
  | exception (e : TransportException)
  deriving DecidableEq, Repr

/-- How the server ends the handling of the first message: with an ACK message on the socket, or
with an ERR message and the end of the connection (`_abortWithError`). -/
inductive HelloOutcome
  | ack (transport : TCP_transport) (messageChunk : Buffer)
  | abort (statusCode : StatusCode) (reason : AbortReason)

/-- The state of a server transport before HEL/ACK. -/
def init : TCP_transport where
  receiveBufferSize := 4 * 1024
  sendBufferSize := 0
  maxMessageSize := 4 * 1024
  maxChunkCount := 1
  packetAssembler := rawAssembler (4 * 1024)

variable (params : ITransportParameters) (transport : TCP_transport)

/-- `_send_ACK_response`: the new state of the transport and the bytes written. -/
def _send_ACK_response
    (helloMessage : HelloMessage) : Except TransportException (TCP_transport × Buffer) := do
  assert (helloMessage.receiveBufferSize ≥ minimumBufferSize)
  assert (helloMessage.sendBufferSize ≥ minimumBufferSize)
  let limits ← adjustLimitsWithParameters helloMessage.toIHelloAckLimits params
  let transport ← transport.setLimits limits
  let acknowledgeMessage : AcknowledgeMessage :=
    { toIHelloAckLimits := transport.toIHelloAckLimits,
      protocolVersion := transport.protocolVersion }
  let message ← acknowledgeMessage.encode
  let written ← TCP_transport.write (packTcpMessage [0x41, 0x43, 0x4b] message)
  return (transport, written)

/-- `_on_HEL_message`: the server, on the bytes of the first message. -/
def _on_HEL_message (data : Buffer) :
    HelloOutcome :=
  if toUtf8String (data.take 3) = "HEL" then
    if data.length < 24 then .abort .BadConnectionRejected (.exception .assertion)
    else
      match decodeMessage HelloMessage.decode { buffer := data } with
      | .error e => .abort .BadConnectionRejected (.exception (.stream e))
      | .ok (helloMessage, _) =>
        if helloMessage.protocolVersion = 0xdeadbeef ∨
            helloMessage.protocolVersion < transport.protocolVersion then
          .abort .BadProtocolVersionUnsupported
            (.text s!"Protocol Version Error{transport.protocolVersion}")
        else if helloMessage.receiveBufferSize < minimumBufferSize ∨
            helloMessage.sendBufferSize < minimumBufferSize then
          .abort .BadConnectionRejected
            (.text s!"Buffer size too small (should be at least {minimumBufferSize}")
        else
          match _send_ACK_response params transport helloMessage with
          | .ok (transport, written) => .ack transport written
          | .error e => .abort .BadConnectionRejected (.exception e)
  else .abort .BadCommunicationError
    (.text "Expecting 'HEL' message to initiate communication")

end ServerTCP_transport

namespace ClientTransportBase

/-- The state of a client transport before HEL/ACK. -/
def init : TCP_transport where
  receiveBufferSize := 4 * 1024
  sendBufferSize := 0
  maxMessageSize := 4 * 1024
  maxChunkCount := 1
  packetAssembler := rawAssembler (4 * 1024)

/-- What can go wrong with the answer of the server. -/
inductive AckFailure
  | invalidAck
  | errReceived
  | malformed
  | exception (e : TransportException)
  deriving DecidableEq, Repr

/-- `_handle_ACK_response`: the limits of the answer are installed in the transport. The answer
itself is kept as `parameters`. -/
def _handle_ACK_response (transport : TCP_transport) (messageChunk : Buffer) :
    Except AckFailure (TCP_transport × AcknowledgeMessage) :=
  match readMessageHeader { buffer := messageChunk } with
  | .error e => .error (.exception (.stream e))
  | .ok (messageHeader, _) =>
    if messageHeader.isFinal ≠ "F" then .error .invalidAck
    else if messageHeader.msgType = "ERR" then .error .errReceived
    else
      match decodeMessage AcknowledgeMessage.decode { buffer := messageChunk } with
      | .error _ => .error .malformed
      | .ok (response, _) =>
        match transport.setLimits response.toIHelloAckLimits with
        | .ok transport => .ok (transport, response)
        | .error e => .error (.exception e)

end ClientTransportBase

/-! ### What the functions give -/

/-- What `clamp_value` gives. -/
lemma clamp_value_eq_ok_iff {value minVal maxVal r : ℕ} :
    clamp_value value minVal maxVal = .ok r ↔
      minVal ≤ maxVal ∧ r = if value = 0 then maxVal else max minVal (min value maxVal) := by
  unfold clamp_value
  simp only [Except.bind_eq_ok_iff, assert_eq_ok_iff, exists_and_left, exists_const]
  refine and_congr_right fun h => ?_
  simp only [pure, Except.pure]
  split_ifs <;> rw [Except.ok.injEq] <;> omega

lemma encodeUInt32_eq_ok_iff {value : ℕ} {b : Buffer} :
    encodeUInt32 value = .ok b ↔ value < 2 ^ 32 ∧ b = uint32Bytes value := by
  unfold encodeUInt32
  split_ifs with h
  · simp only [h, Except.ok.injEq, true_and, eq_comm]
  · simp only [h, false_and]

/-- The bytes of an Acknowledge message. -/
def AcknowledgeMessage.bytes (m : AcknowledgeMessage) : Buffer :=
  uint32Bytes m.protocolVersion ++ uint32Bytes m.receiveBufferSize ++
    uint32Bytes m.sendBufferSize ++ uint32Bytes m.maxMessageSize ++ uint32Bytes m.maxChunkCount

/-- The chunk that carries an Acknowledge message. -/
def AcknowledgeMessage.chunk (m : AcknowledgeMessage) : Buffer :=
  packTcpMessage [0x41, 0x43, 0x4b] m.bytes

/-- The fields of an Acknowledge message fit in 32 bits. -/
def AcknowledgeMessage.Encodable (m : AcknowledgeMessage) : Prop :=
  m.protocolVersion < 2 ^ 32 ∧ m.receiveBufferSize < 2 ^ 32 ∧ m.sendBufferSize < 2 ^ 32 ∧
    m.maxMessageSize < 2 ^ 32 ∧ m.maxChunkCount < 2 ^ 32

instance (m : AcknowledgeMessage) : Decidable m.Encodable :=
  inferInstanceAs (Decidable (_ ∧ _))

variable {m : AcknowledgeMessage}

lemma AcknowledgeMessage.encode_eq_ok_iff {b : Buffer} :
    m.encode = .ok b ↔ m.Encodable ∧ b = m.bytes := by
  unfold AcknowledgeMessage.encode
  simp only [Except.bind_eq_ok_iff, encodeUInt32_eq_ok_iff, pure, Except.pure, Except.ok.injEq]
  constructor
  · rintro ⟨_, ⟨h0, rfl⟩, _, ⟨h1, rfl⟩, _, ⟨h2, rfl⟩, _, ⟨h3, rfl⟩, _, ⟨h4, rfl⟩, rfl⟩
    exact ⟨⟨h0, h1, h2, h3, h4⟩, rfl⟩
  · rintro ⟨⟨h0, h1, h2, h3, h4⟩, rfl⟩
    exact ⟨_, ⟨h0, rfl⟩, _, ⟨h1, rfl⟩, _, ⟨h2, rfl⟩, _, ⟨h3, rfl⟩, _, ⟨h4, rfl⟩, rfl⟩

lemma AcknowledgeMessage.readMessageHeader_chunk (m : AcknowledgeMessage) :
    ∃ stream, readMessageHeader { buffer := m.chunk } =
      .ok ({ msgType := "ACK", isFinal := "F", length := 28 }, stream) := by
  have hpack : m.chunk =
      0x41 :: 0x43 :: 0x4b :: 0x46 :: 28 :: 0 :: 0 :: 0 :: m.bytes := by
    have hlen : m.bytes.length = 20 := rfl
    rw [AcknowledgeMessage.chunk, packTcpMessage, hlen]
    rfl
  have hheader : (⟨fromCharCode (0x41 : UInt8).toNat ++ fromCharCode (0x43 : UInt8).toNat ++
      fromCharCode (0x4b : UInt8).toNat, fromCharCode (0x46 : UInt8).toNat,
      leUInt32 [28, 0, 0, 0]⟩ : MessageHeader) = ⟨"ACK", "F", 28⟩ := by decide
  rw [hpack, readMessageHeader_cons, hheader]
  exact ⟨_, rfl⟩

/-- The checks of `write` pass on an Acknowledge chunk. -/
lemma TCP_transport.write_ack (m : AcknowledgeMessage) : write m.chunk = .ok m.chunk := by
  obtain ⟨stream, hheader⟩ := m.readMessageHeader_chunk
  have hlen : m.chunk.length = 28 := rfl
  unfold write readRawMessageHeader
  rw [hheader]
  simp [hlen, bind, Except.bind, pure, Except.pure]

/-- **Round trip**: the Acknowledge message is read back from its chunk. -/
lemma AcknowledgeMessage.decode_chunk (h : m.Encodable) :
    ∃ stream, decodeMessage AcknowledgeMessage.decode { buffer := m.chunk } = .ok (m, stream) := by
  obtain ⟨h0, h1, h2, h3, h4⟩ := h
  refine ⟨{ buffer := m.chunk, length := 28 }, ?_⟩
  have hdec : decodeMessage AcknowledgeMessage.decode { buffer := m.chunk } = .ok
      ({ protocolVersion := leUInt32 (uint32Bytes m.protocolVersion ++ []),
         receiveBufferSize := leUInt32 (uint32Bytes m.receiveBufferSize ++ []),
         sendBufferSize := leUInt32 (uint32Bytes m.sendBufferSize ++ []),
         maxMessageSize := leUInt32 (uint32Bytes m.maxMessageSize ++ []),
         maxChunkCount := leUInt32 (uint32Bytes m.maxChunkCount ++ []) },
       { buffer := m.chunk, length := 28 }) := rfl
  simp only [hdec, leUInt32_uint32Bytes, h0, h1, h2, h3, h4]


/-! ### What the two sides install -/

variable {params : ITransportParameters}

/-- What `adjustLimitsWithParameters` gives; of a limit that the client leaves open only the
bounds of the server are known. -/
lemma adjustLimitsWithParameters_eq_ok {hello limits : IHelloAckLimits}
    (h : adjustLimitsWithParameters hello params = .ok limits) :
    (params.minBufferSize ≤ params.maxBufferSize ∧
      params.minMaxMessageSize ≤ params.maxMaxMessageSize ∧
      params.minMaxChunkCount ≤ params.maxMaxChunkCount) ∧
    limits.receiveBufferSize = max params.minBufferSize
      (min (orElse hello.receiveBufferSize (64 * 1024)) params.maxBufferSize) ∧
    limits.sendBufferSize = max params.minBufferSize
      (min (orElse hello.sendBufferSize (64 * 1024)) params.maxBufferSize) ∧
    (hello.maxMessageSize ≠ 0 → limits.maxMessageSize =
      max params.minMaxMessageSize (min hello.maxMessageSize params.maxMaxMessageSize)) ∧
    (hello.maxChunkCount ≠ 0 → limits.maxChunkCount =
      max params.minMaxChunkCount (min hello.maxChunkCount params.maxMaxChunkCount)) := by
  unfold adjustLimitsWithParameters at h
  simp only [Except.bind_eq_ok_iff, clamp_value_eq_ok_iff] at h
  obtain ⟨receive, ⟨hbuf, hrecv⟩, send, ⟨-, hsend⟩, message, ⟨hmsg, hmsg'⟩,
    chunk, ⟨hchunk, hchunk'⟩, h⟩ := h
  have horElse : ∀ value, orElse value (64 * 1024) ≠ 0 := by
    intro value
    unfold orElse
    split_ifs with hvalue <;> omega
  obtain rfl := Except.ok.inj h
  refine ⟨⟨hbuf, hmsg, hchunk⟩, ?_, ?_, fun hne => ?_, fun hne => ?_⟩
  · rw [hrecv, if_neg (horElse _)]
  · rw [hsend, if_neg (horElse _)]
  · simp only [hmsg', orElse, hne, if_false]
  · simp only [hchunk', orElse, hne, false_and, if_false]

/-- The transport with the limits installed: its assembler takes chunks up to the receive buffer
size. -/
def TCP_transport.withLimits (transport : TCP_transport) (limits : IHelloAckLimits) :
    TCP_transport :=
  { transport with
    toIHelloAckLimits := limits, packetAssembler := rawAssembler limits.receiveBufferSize }

variable {transport transport' : TCP_transport}

/-- `setLimits` installs the limits when the receive buffer can hold a header. -/
lemma TCP_transport.setLimits_eq_ok_iff {limits : IHelloAckLimits} :
    transport.setLimits limits = .ok transport' ↔
      8 ≤ limits.receiveBufferSize ∧ transport' = transport.withLimits limits := by
  unfold TCP_transport.setLimits PacketAssemblerOptions.construct
  simp only [TCP_transport.headerSize, Option.getD_some, Option.some_inj]
  by_cases h : 8 ≤ limits.receiveBufferSize
  · simp [h, withLimits, rawAssembler, eq_comm, show limits.receiveBufferSize ≠ 0 by omega,
      Nat.not_lt.mpr h]
  · simp [h, show limits.receiveBufferSize < 8 by omega]

/-- What `_send_ACK_response` puts in the transport and on the socket. -/
lemma ServerTCP_transport._send_ACK_response_eq_ok {helloMessage : HelloMessage} {written : Buffer}
    (h : _send_ACK_response params transport helloMessage = .ok (transport', written)) :
    ∃ limits, adjustLimitsWithParameters helloMessage.toIHelloAckLimits params = .ok limits ∧
      minimumBufferSize ≤ helloMessage.receiveBufferSize ∧
      minimumBufferSize ≤ helloMessage.sendBufferSize ∧
      transport.setLimits limits = .ok transport' ∧
      ∃ m : AcknowledgeMessage, m.Encodable ∧
        m.toIHelloAckLimits = transport'.toIHelloAckLimits ∧
        written = m.chunk := by
  unfold _send_ACK_response at h
  simp only [Except.bind_eq_ok_iff, assert_eq_ok_iff, AcknowledgeMessage.encode_eq_ok_iff] at h
  obtain ⟨_, hrecv, _, hsend, limits, hlimits, transport'', htransport, _, ⟨hm, rfl⟩, written',
    hwrit, h⟩ := h
  obtain ⟨rfl, rfl⟩ := Prod.mk.inj (Except.ok.inj h)
  refine ⟨limits, hlimits, hrecv, hsend, htransport, _, hm, rfl, ?_⟩
  unfold TCP_transport.write at hwrit
  split at hwrit
  · cases hwrit
  · dsimp only at hwrit
    split_ifs at hwrit
    exact (Except.ok.inj hwrit).symm

/-- **The server answers ACK** only to a Hello message it can decode, with buffer sizes of at
least the minimum, and the answer carries the limits that its transport has installed. -/
theorem ServerTCP_transport._on_HEL_message_ack {data written : Buffer}
    (h : _on_HEL_message params transport data = .ack transport' written) :
    ∃ helloMessage stream,
      decodeMessage HelloMessage.decode { buffer := data } = .ok (helloMessage, stream) ∧
      _send_ACK_response params transport helloMessage = .ok (transport', written) := by
  unfold _on_HEL_message at h
  split_ifs at h
  split at h
  · cases h
  next helloMessage stream hdec =>
    split_ifs at h
    split at h
    next t w hsend =>
      obtain ⟨rfl, rfl⟩ := HelloOutcome.ack.inj h
      exact ⟨helloMessage, stream, hdec, hsend⟩
    · cases h

/-- **The client** installs the limits of the answer, which are those of the server. -/
theorem ClientTransportBase._handle_ACK_response_of_ack
    (hm : m.Encodable) (hsize : 8 ≤ m.receiveBufferSize) (transport : TCP_transport) :
    _handle_ACK_response transport (m.chunk) =
      .ok ({ transport with
        toIHelloAckLimits := m.toIHelloAckLimits,
        packetAssembler := rawAssembler m.receiveBufferSize }, m) := by
  obtain ⟨_, hheader⟩ := m.readMessageHeader_chunk
  obtain ⟨_, hdec⟩ := AcknowledgeMessage.decode_chunk hm
  have hlimits := TCP_transport.setLimits_eq_ok_iff.mpr
    ⟨hsize, (rfl : _ = transport.withLimits m.toIHelloAckLimits)⟩
  unfold _handle_ACK_response
  simp only [hheader, hdec, hlimits]
  rfl

end NodeOpcua
