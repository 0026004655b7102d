import NodeOpcua.SecureChannel.ChunkSecurity
import NodeOpcua.Transport.MessageReassembly

set_option autoImplicit false

/-!
# Reassembly by both message builders

`MessageBuilderBase` and `MessageBuilder` deliver the bodies of messages as they were cut into
chunks, as long as an abort chunk meets a builder with nothing to forget. An abort chunk changes
neither the chunks collected so far nor the sequence number expected next, so that the former stay
in front of the next message, and the latter makes its first chunk an error.
-/

namespace NodeOpcua

open MessageBuilderBase
open MessageBuilder (overrides)

variable {κ ρ ι ο : Type}

/-- The number is the one that a builder expects next. -/
def MessageBuilder.Expects (mb : MessageBuilder κ ρ) (sequenceNumber : ℕ) : Prop :=
  _validateSequenceNumber mb._previousSequenceNumber sequenceNumber = .ok sequenceNumber

lemma MessageBuilder.expects_of_unknown (mb : MessageBuilder κ ρ) (n : ℕ)
    (h : mb._previousSequenceNumber = -1) : mb.Expects n :=
  _validateSequenceNumber_eq_ok_iff.mpr ⟨.inl h, rfl⟩

/-- **Reassembly** by a new `MessageBuilderBase` and by a new `MessageBuilder`, whatever bytes and
errors they meet: when an abort chunk arrives, no error has been reported, no chunk of a message is
held and, in the second case, no sequence number is known yet. -/
theorem messageReassembly (getStatusCodeFromCode : ℕ → StatusCode)
    (maxMessageSize maxChunkCount : ℕ) :
    (∀ inputs,
      Mealy.Along (step (baseClass getStatusCodeFromCode)) (AbortsIdle fun _ => True)
        (construct maxMessageSize maxChunkCount ()) inputs →
      Reassembles (baseClass getStatusCodeFromCode) (fun _ _ => True)
        (construct maxMessageSize maxChunkCount ()) inputs) ∧
    ∀ (crypto : Crypto κ ρ) (factory : ObjectFactory ι ο) (mb : MessageBuilder κ ρ) (inputs),
      Mealy.Along (step (overrides crypto factory getStatusCodeFromCode))
        (AbortsIdle fun mb => mb._previousSequenceNumber = -1)
        (construct maxMessageSize maxChunkCount mb) inputs →
      Reassembles (overrides crypto factory getStatusCodeFromCode)
        MessageBuilder.Expects (construct maxMessageSize maxChunkCount mb) inputs := by
  refine ⟨fun inputs ha => ?_, fun crypto factory mb inputs ha => ?_⟩
  · exact reassembles (fun _ _ _ => trivial) rfl (fun _ => ⟨rfl, rfl, rfl⟩) ha
  · exact reassembles MessageBuilder.expects_of_unknown rfl (fun _ => ⟨rfl, rfl, rfl⟩) ha

/-- A MSG chunk of channel 1, without security: the flag and what follows the channel id. -/
def plainChunk (isFinal : UInt8) (rest : Buffer) : Buffer :=
  [77, 83, 71, isFinal] ++ uint32Bytes (12 + rest.length) ++ uint32Bytes 1 ++ rest

/-- A MSG chunk with a symmetric security header and a sequence header. -/
def numberedChunk (isFinal : UInt8) (sequenceNumber : ℕ) (body : Buffer) : Buffer :=
  plainChunk isFinal
    (uint32Bytes 1 ++ SequenceHeader.encode { sequenceNumber, requestId := 1 } ++ body)

/-- Primitives of a channel without security: nothing is ever decrypted or verified. -/
def noCrypto : Crypto Unit Unit where
  signatureLength _ := 0
  decryptBufferWithDerivedKeys _ _ := .error ""
  verifyChunkSignatureWithDerivedKeys _ _ := .ok false
  asymmetricDecrypt _ _ _ := .error ""
  publicKeyLength _ := .error ""
  asymmetricVerify _ _ _ _ := .ok false

/-- A factory whose objects are the bytes of the body. -/
def rawFactory : ObjectFactory Unit Buffer where
  decodeExpandedNodeId stream := .ok ((), stream)
  toString _ := ""
  hasConstructor _ := true
  constructObject _ := some []
  decode _ stream := some stream.buffer
  closeSecureChannelRequest := []

/-- An abort chunk before the first message, and a message in two chunks. -/
theorem messageReassembly_two :
    (Mealy.run (step (baseClass StatusCode.mk)) (construct 0 0 ())
      [.feed, .packet (.chunk (numberedChunk 65 1 [])),
        .packet (.chunk (plainChunk 67 [1])), .packet (.chunk (plainChunk 70 [2]))]).2.filterMap
        deliveredBody = [[1, 2]] ∧
    (Mealy.run (step (overrides noCrypto rawFactory StatusCode.mk))
      (construct 0 0 { securityPolicy := .None, securityMode := .None })
      [.feed, .packet (.chunk (numberedChunk 65 1 [])),
        .packet (.chunk (numberedChunk 67 2 [1])),
        .packet (.chunk (numberedChunk 70 3 [2]))]).2.filterMap deliveredBody = [[1, 2]] := by
  obtain ⟨hbase, hbuilder⟩ := @messageReassembly Unit Unit Unit Buffer StatusCode.mk 0 0
  constructor
  · refine (hbase _ ?_).bodies.trans (by decide +kernel)
    refine ⟨nofun, ?_, ?_, ?_, trivial⟩
    · exact fun chunk _ => ⟨rfl, rfl, trivial⟩
    · rintro chunk ⟨⟨⟩, -, hkind⟩
      exact absurd hkind (by decide)
    · rintro chunk ⟨⟨⟩, -, hkind⟩
      exact absurd hkind (by decide)
  · refine (hbuilder noCrypto rawFactory _ _ ?_).bodies.trans (by decide +kernel)
    refine ⟨nofun, ?_, ?_, ?_, trivial⟩
    · exact fun chunk _ => ⟨rfl, rfl, rfl⟩
    · rintro chunk ⟨⟨⟩, -, hkind⟩
      exact absurd hkind (by decide)
    · rintro chunk ⟨⟨⟩, -, hkind⟩
      exact absurd hkind (by decide)

/-- **What an abort chunk leaves behind**: in front of the last chunk of the next message, a chunk
of the message given up; a sequence number that the next chunk does not have; and, after a chunk
with a wrong length, no error. -/
theorem messageReassembly_abort :
    ¬ Reassembles (baseClass StatusCode.mk) (fun _ _ => True) (construct 0 0 ())
      [.feed, .packet (.chunk (plainChunk 67 [1])), .packet (.chunk (numberedChunk 65 2 [])),
        .packet (.chunk (plainChunk 70 [2]))] ∧
    ¬ Reassembles (overrides noCrypto rawFactory StatusCode.mk)
      MessageBuilder.Expects (construct 0 0 { securityPolicy := .None, securityMode := .None })
      [.feed, .packet (.chunk (numberedChunk 70 1 [1])), .packet (.chunk (numberedChunk 65 2 []))] ∧
    ¬ Reassembles (baseClass StatusCode.mk) (fun _ _ => True) (construct 0 0 ())
      [.feed, .packet (.chunk (plainChunk 67 [1] ++ [0])),
        .packet (.chunk (numberedChunk 65 2 []))] := by
  refine ⟨fun h => ?_, fun h => ?_, fun h => ?_⟩
  · exact absurd h.bodies (by decide +kernel)
  · have hready := h.aborts _ (List.mem_of_getElem? (i := 2) rfl) (numberedChunk 65 2 [])
      ⟨rfl, by decide +kernel, by decide +kernel⟩ 1 1 { sequenceNumber := 2, requestId := 1 }
      _ (by rfl)
    obtain ⟨hexpects, -⟩ := _validateSequenceNumber_eq_ok_iff.mp hready.expected
    exact absurd hexpects (by decide +kernel)
  · have herror := h.errors _ (List.mem_of_getElem? (i := 2) rfl) (by decide +kernel)
    exact absurd herror (by decide +kernel)

end NodeOpcua
