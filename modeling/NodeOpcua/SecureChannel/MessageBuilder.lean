import NodeOpcua.Library.Patch
import NodeOpcua.SecurityMode
import NodeOpcua.SecureChannel.SecurityHeader
import NodeOpcua.SecureChannel.SequenceNumber
import NodeOpcua.Transport.MessageBuilderBase

set_option autoImplicit false

/-!
# The secure message builder

`MessageBuilder` of `node-opcua-secure-channel`: a message builder that takes the security of its
chunks off, checks their sequence numbers, and decodes the bodies of messages.

## Main definitions

* `MessageBuilder`.
* `MessageBuilder._read_headers`, `MessageBuilder._decodeMessageBody`.
* `MessageBuilder.overrides`.

## Design

The cryptographic primitives and the factory of message objects are parameters. A method that
throws, or that reports an error and returns false, ends in the `error` case; the `try` block of
`_read_headers` turns the former into the latter. The keys that the provider gives for a token
change with time: they are a field that is assigned from outside.
-/

namespace NodeOpcua

open MessageBuilderBase

/-- The cryptographic primitives; `κ` are derived keys, `ρ` private keys. A primitive may throw. -/
structure Crypto (κ ρ : Type) where
  signatureLength : κ → ℕ
  decryptBufferWithDerivedKeys : Buffer → κ → Except String Buffer
  verifyChunkSignatureWithDerivedKeys : Buffer → κ → Except String Bool
  asymmetricDecrypt : SecurityPolicy → Buffer → ρ → Except String Buffer
  publicKeyLength : Option Buffer → Except String ℕ
  asymmetricVerify : SecurityPolicy → Buffer → Buffer → Option Buffer → Except String Bool

/-- The object factory, with the reader of the type of an object; `ι` are the ids of types, `ο` the
objects. Reading the fields of an object may throw, which is `none`. -/
structure ObjectFactory (ι ο : Type) where
  decodeExpandedNodeId : BinaryStream → Except String (ι × BinaryStream)
  toString : ι → String
  hasConstructor : ι → Bool
  constructObject : ι → Option ο
  decode : ο → BinaryStream → Option ο
  closeSecureChannelRequest : ο

/-- The fields of a `MessageBuilder`. -/
structure MessageBuilder (κ ρ : Type) where
  securityPolicy : SecurityPolicy := .Invalid
  securityMode : MessageSecurityMode := .Invalid
  securityHeader : Option SecurityHeader := none
  _previousSequenceNumber : ℤ := -1
  _derivedKeyProvider : ℕ → Option κ := fun _ => none
  _privateKey : Option ρ := none

namespace MessageBuilder

/-- The events that a `MessageBuilder` adds. -/
inductive Event (ο : Type)
  | message (objMessage : ο) (msgType : String) (securityHeader : SecurityHeader)
      (requestId channelId : ℕ)
  | invalid_message (objMessage : ο)
  | invalid_sequence_number (expectedSequenceNumber : ℤ) (sequenceNumber : ℕ)
  deriving DecidableEq, Repr

/-- How a method ends when it does not succeed: with an exception, with a reported error, or with
the event and the report of a wrong sequence number. -/
inductive Failure
  | thrown (message : String)
  | reported (statusCode : StatusCode) (errorMessage : String)
  | invalidSequenceNumber (expectedSequenceNumber : ℤ) (sequenceNumber : ℕ) (errorMessage : String)
  deriving DecidableEq, Repr

/-- What other code assigns: the keys known now, and the mode a server takes from a request. -/
inductive Assignment (κ : Type)
  | derivedKeyProvider (getDerivedKey : ℕ → Option κ)
  | securityMode (securityMode : MessageSecurityMode)

variable {κ ρ ι ο : Type}

/-- `assert`. -/
def assert (cond : Prop) [Decidable cond] (message : String) : Except Failure Unit :=
  if cond then .ok () else .error (.thrown message)

@[simp] lemma assert_eq_ok_iff {cond : Prop} [Decidable cond] {message : String} {u : Unit} :
    assert cond message = .ok u ↔ cond := by
  unfold assert
  split_ifs with h <;> simp [h]

/-- A call that may throw. -/
def try_ {α : Type} (x : Except String α) : Except Failure α := x.mapError .thrown

/-- `return this._report_error(...)`. -/
def fail {α : Type} (statusCode : StatusCode) (errorMessage : String) : Except Failure α :=
  .error (.reported statusCode errorMessage)

/-- `Buffer.subarray(0, length - n)`: a negative end counts from the end of the buffer. -/
def reduceLength (buffer : Buffer) (byteToRemove : ℕ) : Buffer :=
  if byteToRemove ≤ buffer.length then buffer.take (buffer.length - byteToRemove)
  else buffer.take (2 * buffer.length - byteToRemove)

/-- `Buffer.subarray(length - n)`: a negative start counts from the end of the buffer. -/
def lastBytes (buffer : Buffer) (n : ℕ) : Buffer :=
  if n ≤ buffer.length then buffer.drop (buffer.length - n)
  else buffer.drop (2 * buffer.length - n)

/-- `removePadding`. -/
def removePadding (buffer : Buffer) : Except String Buffer :=
  match buffer.getLast? with
  | some b => .ok (reduceLength buffer (b.toNat + 1))
  | none => .error "Attempt to access memory outside buffer bounds"

/-- The decrypted bytes replace, in place, what is left of a stream. -/
def replaceRest (stream : BinaryStream) (decrypted : Buffer) : BinaryStream :=
  { stream with
    buffer := (Patch.copy stream.buffer decrypted stream.length).take
      (stream.length + decrypted.length) }

variable (crypto : Crypto κ ρ) (mb : MessageBuilder κ ρ)

/-- `asymmetricVerifyChunk`: whether the signature is right, and its length. -/
def asymmetricVerifyChunk (securityPolicy : SecurityPolicy) (chunk : Buffer)
    (certificate : Option Buffer) : Except String (Bool × ℕ) := do
  let signatureLength ← crypto.publicKeyLength certificate
  if signatureLength = 128 ∨ signatureLength = 256 ∨ signatureLength = 384 ∨
      signatureLength = 512 then
    let blockToVerify := reduceLength chunk signatureLength
    let signature := lastBytes chunk signatureLength
    let signatureIsOK ← crypto.asymmetricVerify securityPolicy blockToVerify signature certificate
    return (signatureIsOK, signatureLength)
  else return (false, 0)

/-- The decryption part of `#_decrypt_OPN`. -/
def decryptAsymmetric (header : AsymmetricAlgorithmSecurityHeader) (stream : BinaryStream) :
    Except Failure BinaryStream :=
  if header.receiverCertificateThumbprint.isSome then
    match mb._privateKey with
    | none => .error (.thrown "expecting a valid private key")
    | some privateKey =>
      match crypto.asymmetricDecrypt mb.securityPolicy (stream.buffer.drop stream.length)
          privateKey with
      | .ok decrypted => .ok (replaceRest stream decrypted)
      | .error e => fail .BadTcpInternalError s!"Cannot decrypt OPN package {e}"
  else if mb.securityMode ≠ .None then
    fail .BadTcpInternalError
      "Expecting a encrypted OpenSecureChannel message as securityMode is not None"
  else .ok stream

/-- `#_decrypt_OPN`. -/
def _decrypt_OPN (stream : BinaryStream) : Except Failure BinaryStream := do
  assert (mb.securityPolicy ≠ .None) ""
  assert (mb.securityPolicy ≠ .Invalid) ""
  assert (mb.securityMode ≠ .None) ""
  match mb.securityHeader with
  | some (.asymmetric header) =>
    if mb.securityPolicy.hasCryptoFactory then
      let stream ← decryptAsymmetric crypto mb header stream
      let (signatureIsOK, signatureLength) ←
        try_ (asymmetricVerifyChunk crypto mb.securityPolicy stream.buffer header.senderCertificate)
      if signatureIsOK then
        let buffer := reduceLength stream.buffer signatureLength
        let buffer ←
          (if header.receiverCertificateThumbprint.isSome then try_ (removePadding buffer)
          else pure buffer)
        return { stream with buffer }
      else fail .BadTcpInternalError "Sign and Encrypt asymmetricVerify : Invalid packet signature"
    else
      fail .BadTcpInternalError s!" Security Policy {mb.securityPolicy.value} is not implemented yet"
  | _ => .error (.thrown "")

/-- The decryption part of `#_decrypt_MSG`. -/
def decryptSymmetric (derivedKeys : κ) (stream : BinaryStream) :
    Except Failure BinaryStream :=
  if mb.securityMode = .SignAndEncrypt then do
    let decrypted ← try_
      (crypto.decryptBufferWithDerivedKeys (stream.buffer.drop stream.length) derivedKeys)
    return replaceRest stream decrypted
  else return stream

/-- `#_decrypt_MSG`. -/
def _decrypt_MSG (stream : BinaryStream) : Except Failure BinaryStream :=
  match mb.securityHeader with
  | some (.symmetric header) => do
    assert (mb.securityMode ≠ .None) ""
    assert (mb.securityMode ≠ .Invalid) ""
    assert (mb.securityPolicy ≠ .None) ""
    assert (mb.securityPolicy ≠ .Invalid) ""
    match mb._derivedKeyProvider header.tokenId with
    | some derivedKeys =>
      if crypto.signatureLength derivedKeys = 0 then
        fail .BadSecureChannelTokenUnknown
          s!"Security token data for token {header.tokenId} doesn't exist"
      else
        let stream ← decryptSymmetric crypto mb derivedKeys stream
        let signatureIsOK ←
          try_ (crypto.verifyChunkSignatureWithDerivedKeys stream.buffer derivedKeys)
        if signatureIsOK then
          let buffer := reduceLength stream.buffer (crypto.signatureLength derivedKeys)
          let buffer ←
            (if mb.securityMode = .SignAndEncrypt then try_ (removePadding buffer) else pure buffer)
          return { stream with buffer }
        else
          fail .BadTcpInternalError
            "_decrypt_MSG : Sign and Encrypt (derived keys) : Invalid packet signature"
    | none =>
      fail .BadSecureChannelTokenUnknown
        s!"Security token data for token {header.tokenId} doesn't exist"
  | _ => .error (.thrown "Internal error : expecting a SymmetricAlgorithmSecurityHeader")

/-- `#_decrypt`. -/
def _decrypt (msgType : String) (stream : BinaryStream) :
    MessageBuilder κ ρ × Except Failure BinaryStream :=
  if msgType ≠ "OPN" ∧ mb.securityPolicy = .Invalid then
    (mb, .error (.thrown s!"internal error : invalid securityPolicy{mb.securityPolicy.value}"))
  else if mb.securityPolicy = .None then ({ mb with securityMode := .None }, .ok stream)
  else if msgType = "OPN" then (mb, mb._decrypt_OPN crypto stream)
  else (mb, mb._decrypt_MSG crypto stream)

/-- The check of the policy of an OPN chunk: the first one is adopted, the others must agree. -/
def checkSecurityPolicy : MessageBuilder κ ρ × Except Failure Unit :=
  match mb.securityHeader with
  | some (.asymmetric header) =>
    let securityPolicyFromResponse := coerceSecurityPolicy header.securityPolicyUri
    if securityPolicyFromResponse = .Invalid then
      (mb, fail .BadSecurityChecksFailed "Invalid Security Policy (1)")
    else
      let mb := if mb.securityPolicy = .Invalid then
          { mb with securityPolicy := securityPolicyFromResponse }
        else mb
      if securityPolicyFromResponse ≠ mb.securityPolicy then
        (mb, fail .BadSecurityChecksFailed "Invalid Security Policy (2)")
      else (mb, .ok ())
  | _ => (mb, .ok ())

/-- The sequence header at the cursor. When it cannot be read, what has been read of it stays. -/
def readSequenceHeader (stream : BinaryStream) :
    SequenceHeader × Except StreamError BinaryStream :=
  match stream.readUInt32 with
  | .error e => ({ sequenceNumber := 0, requestId := 0 }, .error e)
  | .ok (sequenceNumber, stream) =>
    match stream.readUInt32 with
    | .error e => ({ sequenceNumber, requestId := 0 }, .error e)
    | .ok (requestId, stream) => ({ sequenceNumber, requestId }, .ok stream)

/-- The end of `_read_headers`: the sequence header and its number. -/
def readSequence (h : Headers (MessageBuilder κ ρ)) (stream : BinaryStream) :
    Headers (MessageBuilder κ ρ) × Except Failure BinaryStream :=
  let (sequenceHeader, result) := readSequenceHeader stream
  let h := { h with sequenceHeader := some sequenceHeader }
  match result with
  | .error e => (h, .error (.thrown e.message))
  | .ok stream =>
    let previous := h.derived._previousSequenceNumber
    match _validateSequenceNumber previous sequenceHeader.sequenceNumber with
    | .ok n => ({ h with derived := { h.derived with _previousSequenceNumber := n } }, .ok stream)
    | .error errMessage =>
      (h, .error (.invalidSequenceNumber (previous + 1) sequenceHeader.sequenceNumber errMessage))

/-- The headers of a chunk that is not HEL, ACK or ERR. A security header that cannot be read is
left as new: nothing reads it before the next chunk replaces it. -/
def readSecured (h : Headers (MessageBuilder κ ρ)) (msgType : String) (stream : BinaryStream) :
    Headers (MessageBuilder κ ρ) × Except Failure BinaryStream :=
  let new := chooseSecurityHeader msgType
  match new.decode stream with
  | .error e =>
    ({ h with derived := { h.derived with securityHeader := some new } },
      .error (.thrown e.message))
  | .ok (securityHeader, stream) =>
    let mb := { h.derived with securityHeader := some securityHeader }
    match mb.checkSecurityPolicy with
    | (mb, .error e) => ({ h with derived := mb }, .error e)
    | (mb, .ok _) =>
      match mb._decrypt crypto msgType stream with
      | (mb, .error e) => ({ h with derived := mb }, .error e)
      | (mb, .ok stream) => readSequence { h with derived := mb } stream

/-- The status code and the text of an ERR chunk, which are only logged here. -/
def readErrorMessage (stream : BinaryStream) : Except StreamError BinaryStream :=
  match BinaryStream.readUInt32 { stream with length := 8 } with
  | .error e => .error e
  | .ok (_, stream) =>
    match stream.readString with
    | .error e => .error e
    | .ok (_, stream) => .ok stream

/-- The `try` block of `_read_headers`. -/
def readHeadersOf (h : Headers (MessageBuilder κ ρ)) (msgType : String) (stream : BinaryStream) :
    Headers (MessageBuilder κ ρ) × Except Failure BinaryStream :=
  if msgType = "HEL" ∨ msgType = "ACK" then
    ({ h with derived := { h.derived with securityPolicy := .None } }, .ok stream)
  else if msgType = "ERR" then
    (h, (readErrorMessage stream).mapError fun e => .thrown e.message)
  else readSecured crypto h msgType stream

/-- The `catch` of `_read_headers`. -/
def Failure.report : Failure → Report (Event ο)
  | .thrown message => ⟨.BadTcpInternalError, s!"Internal Error {message}", []⟩
  | .reported statusCode errorMessage => ⟨statusCode, errorMessage, []⟩
  | .invalidSequenceNumber expectedSequenceNumber sequenceNumber errorMessage =>
    ⟨.BadTcpInternalError, errorMessage,
      [.invalid_sequence_number expectedSequenceNumber sequenceNumber]⟩

/-- `_read_headers`. -/
def _read_headers (h : Headers (MessageBuilder κ ρ)) (stream : BinaryStream) :
    Headers (MessageBuilder κ ρ) × Except (Report (Event ο)) BinaryStream :=
  match MessageBuilderBase._read_headers h stream with
  | (h, .error report) => (h, .error report)
  | (h, .ok stream) =>
    match h.messageHeader with
    | none => (h, .error ⟨.BadTcpInternalError, "internal error", []⟩)
    | some messageHeader =>
      let r := readHeadersOf crypto h messageHeader.msgType stream
      (r.1, r.2.mapError Failure.report)

/-- `_decodeMessageBody`. -/
def _decodeMessageBody (factory : ObjectFactory ι ο) (h : Headers (MessageBuilder κ ρ))
    (fullMessageBody : Buffer) : Except (Report (Event ο)) (List (Event ο)) :=
  match h.messageHeader, h.derived.securityHeader with
  | some messageHeader, some securityHeader =>
    let msgType := messageHeader.msgType
    if msgType = "HEL" ∨ msgType = "ACK" ∨ msgType = "ERR" then
      .error ⟨.BadTcpMessageTypeInvalid, "Invalid message type ( HEL/ACK/ERR )", []⟩
    else
      let message objMessage : List (Event ο) :=
        match h.sequenceHeader with
        | some sequenceHeader =>
          [.message objMessage msgType securityHeader sequenceHeader.requestId h.channelId]
        | none => []
      if msgType = "CLO" ∧ fullMessageBody.length = 0 ∧ h.sequenceHeader.isSome then
        .ok (message factory.closeSecureChannelRequest)
      else
        match factory.decodeExpandedNodeId { buffer := fullMessageBody } with
        | .error e => .error ⟨.BadTcpInternalError, s!"decodeExpandedNodeId {e}", []⟩
        | .ok (id, stream) =>
          if factory.hasConstructor id then
            match factory.constructObject id with
            | none =>
              .error ⟨.BadNotSupported,
                s!"cannot construct object with nodeID {factory.toString id}", []⟩
            | some objMessage =>
              match factory.decode objMessage stream with
              | some objMessage => .ok (message objMessage)
              | none => .ok [.invalid_message objMessage]
          else
            .error ⟨.BadNotSupported,
              s!"cannot construct object with nodeID {factory.toString id}", []⟩
  | _, _ => .error ⟨.BadTcpInternalError, "internal error", []⟩

/-- The effect of an assignment. -/
def assign : Assignment κ → MessageBuilder κ ρ
  | .derivedKeyProvider getDerivedKey => { mb with _derivedKeyProvider := getDerivedKey }
  | .securityMode securityMode => { mb with securityMode }

end MessageBuilder

end NodeOpcua
