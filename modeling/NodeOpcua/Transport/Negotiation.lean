import NodeOpcua.Transport.HelloAck

set_option autoImplicit false

/-!
# What the HEL/ACK handshake agrees on

After the handshake the client cuts its requests into chunks of the `sendBufferSize` it read in the
answer, and the server cuts its responses into chunks of its own `receiveBufferSize`; each side
refuses chunks longer than its `receiveBufferSize`. This file has the exact condition on the Hello
message and the configuration of the server under which the two sides agree.

## Main definitions

* `NegotiationAgreement`.
* `HelloFits`.

## Main results

* `negotiation_agreement_iff`, `_on_HEL_message_eq_ack`.

## Design

The two buffer sizes of the Hello message are those of the client; the server adjusts each on its
own and sends them back as they are, without exchanging the roles. So the size the client sends
with comes from its own `sendBufferSize`, while the size the server accepts comes from the
client's `receiveBufferSize`.
-/

namespace NodeOpcua

open ClientTransportBase (_handle_ACK_response _handle_ACK_response_of_ack init)
open HelloMessage (decode)
open ServerTCP_transport (_on_HEL_message _send_ACK_response)

/-- The chunk size of `SecureMessageChunkManager`: `options.chunkSize || 8192`. -/
def SecureMessageChunkManager.chunkSize (chunkSize : ℕ) : ℕ := orElse chunkSize 8192

/-- The chunk size of the client, from the parameters of its transport (`evaluateChunkSize`). -/
def clientChunkSize (parameters : AcknowledgeMessage) : ℕ :=
  SecureMessageChunkManager.chunkSize (orElse parameters.sendBufferSize 0)

/-- The chunk size of the server (`send_response`). -/
def serverChunkSize (transport : TCP_transport) : ℕ :=
  SecureMessageChunkManager.chunkSize transport.receiveBufferSize

/-- The limit adopted for responses respects the limit declared by the client. Zero means no
limit on both sides. -/
def LimitRespected (adopted declared : ℕ) : Prop :=
  declared ≠ 0 → adopted ≠ 0 ∧ adopted ≤ declared

/-- What the two sides should agree on: the chunks of the client are accepted by the server, the
chunks of the server fit in the receive buffer of the client and are accepted by its assembler,
and the server adopts the limits of the client for its responses. -/
structure NegotiationAgreement (helloMessage : HelloMessage) (server client : TCP_transport)
    (parameters : AcknowledgeMessage) : Prop where
  request : ∀ chunk : Buffer, chunk.length ≤ clientChunkSize parameters →
    chunk.length ≤ server.packetAssembler.maxChunkSize
  response : ∀ chunk : Buffer, chunk.length ≤ serverChunkSize server →
    chunk.length ≤ helloMessage.receiveBufferSize ∧
    chunk.length ≤ client.packetAssembler.maxChunkSize
  limits : LimitRespected server.maxMessageSize helloMessage.maxMessageSize ∧
    LimitRespected server.maxChunkCount helloMessage.maxChunkCount

/-- **The condition on the Hello message**: the client does not send more than it can receive, or
can receive the largest buffer of the server; it can receive the smallest buffer of the server;
and the limits it declares are not below the minima of the server. -/
structure HelloFits (params : ITransportParameters) (helloMessage : HelloMessage) : Prop where
  request : helloMessage.sendBufferSize ≤ helloMessage.receiveBufferSize ∨
    params.maxBufferSize ≤ helloMessage.receiveBufferSize
  response : params.minBufferSize ≤ helloMessage.receiveBufferSize
  maxMessageSize : helloMessage.maxMessageSize = 0 ∨
    params.minMaxMessageSize ≤ helloMessage.maxMessageSize ∧ params.maxMaxMessageSize ≠ 0
  maxChunkCount : helloMessage.maxChunkCount = 0 ∨
    params.minMaxChunkCount ≤ helloMessage.maxChunkCount ∧ params.maxMaxChunkCount ≠ 0

lemma forall_length_le_iff {m n : ℕ} :
    (∀ chunk : Buffer, chunk.length ≤ m → chunk.length ≤ n) ↔ m ≤ n := by
  constructor
  · intro h
    simpa using h (List.replicate m 0) (by simp)
  · exact fun h chunk hchunk => Nat.le_trans hchunk h

lemma limitRespected_iff {adopted declared lo hi : ℕ} (hbounds : lo ≤ hi)
    (h : declared ≠ 0 → adopted = max lo (min declared hi)) :
    LimitRespected adopted declared ↔ declared = 0 ∨ lo ≤ declared ∧ hi ≠ 0 := by
  unfold LimitRespected
  by_cases hdecl : declared = 0
  · simp [hdecl]
  · rw [h hdecl]
    omega

lemma clamp_le_self_iff {r lo hi : ℕ} : max lo (min r hi) ≤ r ↔ lo ≤ r := by
  omega

lemma clamp_le_clamp_iff {s r lo hi : ℕ} (h : lo ≤ r) :
    max lo (min s hi) ≤ max lo (min r hi) ↔ s ≤ r ∨ hi ≤ r := by
  omega

/-- **The handshake, exactly**: for every first message that the server answers with ACK, the
client installs the answer, and the two sides agree if and only if the Hello message fits the
configuration of the server.

**Proof sketch.** The assembler of the server takes chunks up to the clamped `receiveBufferSize`
and the client sends chunks of the clamped `sendBufferSize`; clamping is monotone, and strictly so
between the bounds. -/
theorem negotiation_agreement_iff (params : ITransportParameters)
    (server client server' : TCP_transport) (data written : Buffer)
    (h : _on_HEL_message params server data = .ack server' written) :
    ∃ helloMessage stream client' parameters,
      decodeMessage decode { buffer := data } = .ok (helloMessage, stream) ∧
      _handle_ACK_response client written = .ok (client', parameters) ∧
      (NegotiationAgreement helloMessage server' client' parameters ↔
        HelloFits params helloMessage) := by
  obtain ⟨helloMessage, stream, hdec, hsend⟩ := ServerTCP_transport._on_HEL_message_ack h
  obtain ⟨limits, hlimits, hrecv8192, hsend8192, hserver, m, hm, hack, rfl⟩ :=
    ServerTCP_transport._send_ACK_response_eq_ok hsend
  obtain ⟨hsize, rfl⟩ := TCP_transport.setLimits_eq_ok_iff.mp hserver
  obtain ⟨⟨hbuf, hmsg, hchunk⟩, hrecv, hsendsize, hmaxMessage, hmaxChunk⟩ :=
    adjustLimitsWithParameters_eq_ok hlimits
  replace hack : m.toIHelloAckLimits = limits := hack
  refine ⟨helloMessage, stream, _, m, hdec,
    _handle_ACK_response_of_ack hm (by rw [hack]; exact hsize) client, ?_⟩
  -- the Hello message has nonzero buffer sizes, which are clamped as they are
  have hne : helloMessage.receiveBufferSize ≠ 0 ∧ helloMessage.sendBufferSize ≠ 0 := by
    simp only [minimumBufferSize] at hrecv8192 hsend8192
    omega
  rw [orElse, if_neg hne.1] at hrecv
  rw [orElse, if_neg hne.2] at hsendsize
  have hcli : clientChunkSize m = limits.sendBufferSize := by
    simp only [clientChunkSize, SecureMessageChunkManager.chunkSize, orElse, hack]
    split_ifs <;> omega
  have hserverChunk : serverChunkSize (server.withLimits limits) = limits.receiveBufferSize := by
    exact if_neg (by show limits.receiveBufferSize ≠ 0; omega)
  have hmsg' := limitRespected_iff hmsg hmaxMessage
  have hchunk' := limitRespected_iff hchunk hmaxChunk
  constructor
  · rintro ⟨hreq, hresp, hlimit, hlimit'⟩
    have hreq : clientChunkSize m ≤ limits.receiveBufferSize :=
      forall_length_le_iff.mp hreq
    have hresp := forall_length_le_iff.mp fun chunk hle => (hresp chunk hle).1
    rw [hserverChunk, hrecv, clamp_le_self_iff] at hresp
    rw [hcli, hsendsize, hrecv, clamp_le_clamp_iff hresp] at hreq
    exact ⟨hreq, hresp, hmsg'.mp hlimit, hchunk'.mp hlimit'⟩
  · rintro ⟨hreq, hresp, hlimit, hlimit'⟩
    have hfits : limits.receiveBufferSize ≤ helloMessage.receiveBufferSize := by
      rw [hrecv, clamp_le_self_iff]
      exact hresp
    refine ⟨forall_length_le_iff.mpr ?_, fun chunk hle => ?_, hmsg'.mpr hlimit,
      hchunk'.mpr hlimit'⟩
    · show clientChunkSize m ≤ limits.receiveBufferSize
      rw [hcli, hsendsize, hrecv, clamp_le_clamp_iff hresp]
      exact hreq
    · rw [hserverChunk] at hle
      refine ⟨Nat.le_trans hle hfits, ?_⟩
      rw [hack]
      exact hle

/-- **When the server answers ACK**: the converse of `ServerTCP_transport._on_HEL_message_ack`. -/
theorem _on_HEL_message_eq_ack {params : ITransportParameters} {server : TCP_transport}
    {data : Buffer} {helloMessage : HelloMessage} {stream : BinaryStream}
    {limits : IHelloAckLimits} (htype : BinaryStream.toUtf8String (data.take 3) = "HEL")
    (hlen : 24 ≤ data.length)
    (hdec : decodeMessage decode { buffer := data } = .ok (helloMessage, stream))
    (hversion : helloMessage.protocolVersion ≠ 0xdeadbeef ∧
      server.protocolVersion ≤ helloMessage.protocolVersion)
    (hbuffers : minimumBufferSize ≤ helloMessage.receiveBufferSize ∧
      minimumBufferSize ≤ helloMessage.sendBufferSize)
    (hlimits : adjustLimitsWithParameters helloMessage.toIHelloAckLimits params = .ok limits)
    (hsize : 8 ≤ limits.receiveBufferSize)
    (hm : AcknowledgeMessage.Encodable ⟨limits, server.protocolVersion⟩) :
    _on_HEL_message params server data =
      .ack (server.withLimits limits)
        (AcknowledgeMessage.chunk ⟨limits, server.protocolVersion⟩) := by
  have hserver : server.setLimits limits = .ok (server.withLimits limits) :=
    TCP_transport.setLimits_eq_ok_iff.mpr ⟨hsize, rfl⟩
  have hencode := AcknowledgeMessage.encode_eq_ok_iff.mpr ⟨hm, rfl⟩
  have hsend : _send_ACK_response params server helloMessage =
      .ok (server.withLimits limits,
        AcknowledgeMessage.chunk ⟨limits, server.protocolVersion⟩) := by
    unfold _send_ACK_response
    simp only [Except.bind_eq_ok_iff, assert_eq_ok_iff]
    exact ⟨(), hbuffers.1, (), hbuffers.2, limits, hlimits, _, hserver, _, hencode, _,
      TCP_transport.write_ack _, rfl⟩
  unfold _on_HEL_message
  rw [if_pos htype, if_neg (Nat.not_lt.mpr hlen)]
  simp only [hdec]
  rw [if_neg (by omega), if_neg (by omega)]
  simp only [hsend]

/-! ### A client that sends more than it receives -/

/-- A Hello message with a receive buffer of 8192 bytes and a send buffer of 65536 bytes, without
limits and endpoint url. -/
def asymmetricHello : Buffer :=
  packTcpMessage [0x48, 0x45, 0x4c]
    (uint32Bytes 0 ++ uint32Bytes 8192 ++ uint32Bytes 65536 ++ uint32Bytes 0 ++ uint32Bytes 0 ++
      uint32Bytes 0xffffffff)

lemma decode_asymmetricHello :
    decodeMessage decode { buffer := asymmetricHello } =
      .ok (⟨⟨8192, 65536, 0, 0⟩, 0, none⟩, ⟨asymmetricHello, 32⟩) := by
  decide +kernel

/-- The answer to the message above, of a server with the default configuration. -/
def asymmetricAck : AcknowledgeMessage := ⟨⟨8192, 65536, 16777216, 256⟩, 0⟩

lemma asymmetricHello_ack :
    _on_HEL_message defaultTransportParameters ServerTCP_transport.init
        asymmetricHello =
      .ack (ServerTCP_transport.init.withLimits asymmetricAck.toIHelloAckLimits)
        asymmetricAck.chunk :=
  _on_HEL_message_eq_ack (by decide +kernel) (by decide) decode_asymmetricHello (by decide)
    (by decide) (by decide) (by decide) (by decide)

/-- The theorem at this message. -/
theorem negotiation_agreement_iff_asymmetric :
    ∃ helloMessage stream client' parameters,
      decodeMessage decode { buffer := asymmetricHello } =
        .ok (helloMessage, stream) ∧
      _handle_ACK_response init asymmetricAck.chunk =
        .ok (client', parameters) ∧
      (NegotiationAgreement helloMessage
          (ServerTCP_transport.init.withLimits asymmetricAck.toIHelloAckLimits) client'
          parameters ↔
        HelloFits defaultTransportParameters helloMessage) :=
  negotiation_agreement_iff _ _ init _ _ _ asymmetricHello_ack

/-- After this message the client sends chunks of 65536 bytes to a server that refuses chunks of
more than 8192 bytes. -/
theorem negotiation_disagreement :
    ¬ ∀ (params : ITransportParameters) (server client server' client' : TCP_transport)
      (data written : Buffer) (helloMessage : HelloMessage) (stream : BinaryStream)
      (parameters : AcknowledgeMessage),
      _on_HEL_message params server data = .ack server' written →
      decodeMessage decode { buffer := data } = .ok (helloMessage, stream) →
      _handle_ACK_response client written = .ok (client', parameters) →
      NegotiationAgreement helloMessage server' client' parameters := by
  intro h
  have hagree := h _ _ init _ _ _ _ _ _ _ asymmetricHello_ack
    decode_asymmetricHello
    (_handle_ACK_response_of_ack (by decide) (by decide) _)
  have hchunk := hagree.request (List.replicate 65536 0) (by rw [List.length_replicate]; decide)
  rw [List.length_replicate] at hchunk
  exact absurd hchunk (by decide)

end NodeOpcua
