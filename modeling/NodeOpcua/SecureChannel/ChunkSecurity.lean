import NodeOpcua.SecureChannel.MessageBuilder

set_option autoImplicit false

/-!
# The security of a chunk

What it says about a chunk that a `MessageBuilder` has read its headers: where they stand, that its
signature has been verified, and how the fields of the builder have changed.

## Main definitions

* `MessageBuilder.Verified`, `MessageBuilder.overrides`.

## Main results

* `MessageBuilder.verified_of_read`, `MessageBuilder.securityPolicy_of_read`.
-/

namespace NodeOpcua

open MessageBuilderBase
open AsymmetricAlgorithmSecurityHeader (decode)
open BinaryStream (readString_advances)
open Except (bind_eq_ok_iff)
open List (not_mem_nil)
open Reader.Advances (pure)

namespace MessageBuilder

variable {κ ρ ι ο : Type}

/-! ### Taking the security off -/

variable {crypto : Crypto κ ρ} {mb : MessageBuilder κ ρ} {stream stream' : BinaryStream}

lemma try_eq_ok_iff {α : Type} {x : Except String α} {a : α} :
    try_ x = .ok a ↔ x = .ok a := by
  cases x with
  | error e | ok b => simp [try_, Except.mapError]

/-- **The symmetric security of a chunk**, taken off. -/
lemma _decrypt_MSG_ok
    (h : mb._decrypt_MSG crypto stream = .ok stream') :
    ∃ header keys, mb.securityHeader = some (.symmetric header) ∧
      mb._derivedKeyProvider header.tokenId = some keys ∧ stream'.length = stream.length ∧
      (mb.securityMode = .Sign ∧
          crypto.verifyChunkSignatureWithDerivedKeys stream.buffer keys = .ok true ∧
          stream'.buffer = reduceLength stream.buffer (crypto.signatureLength keys) ∨
        mb.securityMode = .SignAndEncrypt ∧ ∃ decrypted,
          crypto.decryptBufferWithDerivedKeys (stream.buffer.drop stream.length) keys =
            .ok decrypted ∧
          crypto.verifyChunkSignatureWithDerivedKeys (replaceRest stream decrypted).buffer keys =
            .ok true ∧
          removePadding
            (reduceLength (replaceRest stream decrypted).buffer (crypto.signatureLength keys)) =
            .ok stream'.buffer) := by
  unfold _decrypt_MSG at h
  split at h
  · next header hheader =>
    simp only [bind_eq_ok_iff, assert_eq_ok_iff] at h
    obtain ⟨-, hnone, -, hinval, -, -, -, -, h⟩ := h
    cases hkeys : mb._derivedKeyProvider header.tokenId with
    | none => simp [hkeys, fail] at h
    | some keys =>
      simp only [hkeys] at h
      by_cases hsize : crypto.signatureLength keys = 0
      · simp [hsize, fail] at h
      simp only [if_neg hsize, bind_eq_ok_iff, try_eq_ok_iff] at h
      obtain ⟨clear, hclear, ok, hverify, h⟩ := h
      cases ok with
      | false => simp [fail] at h
      | true =>
        simp only [if_true, bind_eq_ok_iff] at h
        obtain ⟨buffer, hbuf, h⟩ := h
        cases h
        refine ⟨header, keys, hheader, hkeys, ?_⟩
        unfold decryptSymmetric at hclear
        by_cases hmode : mb.securityMode = .SignAndEncrypt
        · simp only [if_pos hmode, bind_eq_ok_iff, try_eq_ok_iff] at hclear hbuf
          obtain ⟨decrypted, hdecr, h⟩ := hclear
          cases h
          exact ⟨rfl, .inr ⟨hmode, decrypted, hdecr, hverify, hbuf⟩⟩
        · rw [if_neg hmode] at hclear hbuf
          cases hclear
          cases hbuf
          refine ⟨rfl, .inl ⟨?_, hverify, rfl⟩⟩
          cases h : mb.securityMode with
          | None => exact absurd h hnone
          | Invalid => exact absurd h hinval
          | Sign => rfl
          | SignAndEncrypt => exact absurd h hmode
  · cases h

/-- **The asymmetric security of a chunk**, taken off. -/
lemma _decrypt_OPN_ok
    (h : mb._decrypt_OPN crypto stream = .ok stream') :
    ∃ header privateKey decrypted n, mb.securityHeader = some (.asymmetric header) ∧
      mb._privateKey = some privateKey ∧
      crypto.asymmetricDecrypt mb.securityPolicy (stream.buffer.drop stream.length) privateKey =
        .ok decrypted ∧
      asymmetricVerifyChunk crypto mb.securityPolicy (replaceRest stream decrypted).buffer
        header.senderCertificate = .ok (true, n) ∧
      stream'.length = stream.length ∧
      removePadding (reduceLength (replaceRest stream decrypted).buffer n) =
        .ok stream'.buffer := by
  unfold _decrypt_OPN at h
  simp only [bind_eq_ok_iff, assert_eq_ok_iff] at h
  obtain ⟨-, -, -, -, -, hmode, h⟩ := h
  cases hheader : mb.securityHeader with
  | none => simp [hheader] at h
  | some header =>
    cases header with
    | symmetric header => simp [hheader] at h
    | asymmetric header =>
      simp only [hheader] at h
      by_cases hfactory : mb.securityPolicy.hasCryptoFactory
      · simp only [if_pos hfactory, bind_eq_ok_iff, try_eq_ok_iff] at h
        obtain ⟨clear, hclear, ⟨ok, n⟩, hverify, h⟩ := h
        unfold decryptAsymmetric at hclear
        by_cases hthumb : header.receiverCertificateThumbprint.isSome
        · rw [if_pos hthumb] at hclear
          cases hkey : mb._privateKey with
          | none => simp [hkey] at hclear
          | some privateKey =>
            simp only [hkey] at hclear
            cases hdecr : crypto.asymmetricDecrypt mb.securityPolicy
                (stream.buffer.drop stream.length) privateKey with
            | error e => simp [hdecr, fail] at hclear
            | ok decrypted =>
              simp only [hdecr, Except.ok.injEq] at hclear
              subst hclear
              cases ok with
              | false => simp [fail] at h
              | true =>
                simp only [if_true, if_pos hthumb, bind_eq_ok_iff, try_eq_ok_iff] at h
                obtain ⟨buffer, hbuf, h⟩ := h
                cases h
                exact ⟨header, privateKey, decrypted, n, rfl, rfl, hdecr, hverify, rfl, hbuf⟩
        · rw [if_neg hthumb, if_pos hmode] at hclear
          simp [fail] at hclear
      · simp [hfactory, fail] at h

/-! ### The fields that reading the headers changes -/

variable {mb' : MessageBuilder κ ρ}

lemma checkSecurityPolicy_spec {r : Except Failure Unit}
    (h : mb.checkSecurityPolicy = (mb', r)) : ∃ policy,
    mb' = { mb with securityPolicy := policy } ∧
      (policy = mb.securityPolicy ∨ mb.securityPolicy = .Invalid) ∧
      (r = .ok () → ∀ header, mb.securityHeader = some (.asymmetric header) →
        policy = coerceSecurityPolicy header.securityPolicyUri) := by
  unfold checkSecurityPolicy at h
  split at h
  · next header hheader =>
    by_cases hinval : coerceSecurityPolicy header.securityPolicyUri = .Invalid
    · rw [if_pos hinval] at h
      cases h
      exact ⟨mb.securityPolicy, rfl, .inl rfl, fun hok => nomatch hok⟩
    · rw [if_neg hinval] at h
      by_cases hnew : mb.securityPolicy = .Invalid
      · simp only [if_pos hnew, ne_eq, not_true_eq_false, if_false] at h
        cases h
        refine ⟨_, rfl, .inr hnew, fun _ header' hsome => ?_⟩
        rw [hheader] at hsome
        cases hsome
        rfl
      · simp only [if_neg hnew] at h
        by_cases hsame : coerceSecurityPolicy header.securityPolicyUri = mb.securityPolicy
        · simp only [hsame, ne_eq, not_true_eq_false, if_false] at h
          cases h
          refine ⟨mb.securityPolicy, rfl, .inl rfl, fun _ header' hsome => ?_⟩
          rw [hheader] at hsome
          cases hsome
          exact hsame.symm
        · simp only [ne_eq, hsame, not_false_eq_true, if_true] at h
          cases h
          exact ⟨mb.securityPolicy, rfl, .inl rfl, fun hok => nomatch hok⟩
  · next hother =>
    cases h
    exact ⟨mb.securityPolicy, rfl, .inl rfl, fun _ header hsome => absurd hsome (hother header)⟩

variable {r : Except Failure BinaryStream} {msgType : String}

lemma _decrypt_securityPolicy (h : mb._decrypt crypto msgType stream = (mb', r)) :
    mb'.securityPolicy = mb.securityPolicy := by
  unfold _decrypt at h
  split_ifs at h <;> (cases h; rfl)

variable {h h' : Headers (MessageBuilder κ ρ)}

lemma readSequence_securityPolicy (hread : readSequence h stream = (h', r)) :
    h'.derived.securityPolicy = h.derived.securityPolicy := by
  unfold readSequence at hread
  dsimp only at hread
  split at hread
  · cases hread
    rfl
  · split at hread
    · cases hread
      rfl
    · cases hread
      rfl

/-- **The policy changes only from "not known yet"**, unless the chunk is HEL or ACK. -/
lemma readSecured_securityPolicy (hread : readSecured crypto h msgType stream = (h', r)) :
    h'.derived.securityPolicy = h.derived.securityPolicy ∨ h.derived.securityPolicy = .Invalid := by
  unfold readSecured at hread
  dsimp only at hread
  split at hread
  · cases hread
    exact .inl rfl
  · next header stream1 hdec =>
    split at hread
    · next mb1 e hcheck =>
      cases hread
      obtain ⟨policy, rfl, hpol, -⟩ := checkSecurityPolicy_spec hcheck
      exact hpol
    · next mb1 u hcheck =>
      obtain ⟨policy, rfl, hpol, -⟩ := checkSecurityPolicy_spec hcheck
      split at hread
      · next mb2 e hdecr =>
        cases hread
        rw [_decrypt_securityPolicy hdecr]
        exact hpol
      · next mb2 stream2 hdecr =>
        rw [readSequence_securityPolicy hread, _decrypt_securityPolicy hdecr]
        exact hpol

/-! ### The readers, when they succeed -/

lemma readSequence_ok (hread : readSequence h stream = (h', .ok stream')) :
    stream'.buffer = stream.buffer ∧ stream'.length = stream.length + 8 ∧
      ∃ sequenceHeader p, h'.sequenceHeader = some sequenceHeader ∧
        h'.derived = { h.derived with _previousSequenceNumber := p } ∧
        _validateSequenceNumber h.derived._previousSequenceNumber sequenceHeader.sequenceNumber =
          .ok p := by
  unfold readSequence at hread
  dsimp only at hread
  split at hread
  · cases hread
  · next stream1 hstream =>
    split at hread
    · next p hvalid =>
      cases hread
      unfold readSequenceHeader at hstream hvalid ⊢
      cases hfirst : stream.readUInt32 with
      | error e => simp [hfirst] at hstream
      | ok r =>
        obtain ⟨-, rfl⟩ := BinaryStream.readUInt32_eq_ok_iff.mp hfirst
        simp only [hfirst] at hstream hvalid ⊢
        cases hsnd : BinaryStream.readUInt32
            { buffer := stream.buffer, length := stream.length + 4 } with
        | error e => simp [hsnd] at hstream
        | ok r =>
          obtain ⟨-, rfl⟩ := BinaryStream.readUInt32_eq_ok_iff.mp hsnd
          simp only [hsnd, Except.ok.injEq] at hstream hvalid ⊢
          subst hstream
          exact ⟨rfl, rfl, _, p, rfl, rfl, hvalid⟩
    · cases hread

lemma readSecured_ok (hread : readSecured crypto h msgType stream = (h', .ok stream')) :
    ∃ securityHeader stream1 policy mb2 stream2,
      (chooseSecurityHeader msgType).decode stream = .ok (securityHeader, stream1) ∧
      (policy = h.derived.securityPolicy ∨ h.derived.securityPolicy = .Invalid) ∧
      (∀ header, securityHeader = .asymmetric header →
        policy = coerceSecurityPolicy header.securityPolicyUri) ∧
      { h.derived with securityHeader := some securityHeader, securityPolicy := policy }._decrypt
        crypto msgType stream1 = (mb2, .ok stream2) ∧
      readSequence { h with derived := mb2 } stream2 = (h', .ok stream') := by
  unfold readSecured at hread
  dsimp only at hread
  split at hread
  · cases hread
  · next securityHeader stream1 hdec =>
    split at hread
    · cases hread
    · next mb1 u hcheck =>
      obtain ⟨policy, rfl, hpol, huri⟩ := checkSecurityPolicy_spec hcheck
      split at hread
      · cases hread
      · next mb2 stream2 hdecr =>
        exact ⟨securityHeader, stream1, policy, mb2, stream2, hdec, hpol,
          fun header hsome => huri rfl header (by rw [hsome]), hdecr, hread⟩

lemma _decrypt_length (h : mb._decrypt crypto msgType stream = (mb', .ok stream')) :
    stream'.length = stream.length := by
  unfold _decrypt at h
  split_ifs at h
  · cases h
  · cases h
    rfl
  · obtain ⟨-, h⟩ := Prod.mk.inj h
    obtain ⟨_, _, _, _, _, _, _, _, hlen, -⟩ := _decrypt_OPN_ok h
    exact hlen
  · obtain ⟨-, h⟩ := Prod.mk.inj h
    obtain ⟨_, _, _, _, hlen, -⟩ := _decrypt_MSG_ok h
    exact hlen

lemma SecurityHeader_decode_advances (header : SecurityHeader) : header.decode.Advances := by
  cases header with
  | asymmetric header =>
    refine Reader.Advances.bind ?_ fun _ => pure _
    refine Reader.Advances.bind readString_advances fun _ => ?_
    refine Reader.Advances.bind BinaryStream.readByteStream_advances fun _ => ?_
    exact Reader.Advances.bind BinaryStream.readByteStream_advances fun _ => pure _
  | symmetric header =>
    refine Reader.Advances.bind ?_ fun _ => pure _
    exact Reader.Advances.bind BinaryStream.readUInt32_advances fun _ => pure _

lemma readErrorMessage_ok (h : readErrorMessage stream = .ok stream') : 12 ≤ stream'.length := by
  unfold readErrorMessage at h
  split at h
  · cases h
  · next code stream1 hcode =>
    obtain ⟨-, hword⟩ := BinaryStream.readUInt32_eq_ok_iff.mp hcode
    cases hword
    split at h
    · cases h
    · next msg stream2 hmsg =>
      cases h
      exact (readString_advances _ _ _ hmsg).2

variable {chunk : Buffer}

lemma _read_headers_ok (hread : (_read_headers crypto h { buffer := chunk } :
      Headers (MessageBuilder κ ρ) × Except (Report (Event ο)) BinaryStream) = (h', .ok stream)) :
    ∃ messageHeader rest, readMessageHeader { buffer := chunk } = .ok (messageHeader, rest) ∧
      readHeadersOf crypto { h with
          messageHeader := some messageHeader, channelId := leUInt32 (chunk.drop 8) }
        messageHeader.msgType { buffer := chunk, length := 12 } = (h', .ok stream) := by
  unfold _read_headers at hread
  split at hread
  · cases hread
  · next h1 stream1 hbase =>
    obtain ⟨-, rfl, messageHeader, rest, hheader, rfl⟩ := MessageBuilderBase._read_headers_ok hbase
    refine ⟨messageHeader, rest, hheader, ?_⟩
    obtain ⟨hfst, hsnd⟩ := Prod.mk.inj hread
    refine Prod.ext hfst ?_
    cases hr : (readHeadersOf crypto _ messageHeader.msgType
        { buffer := chunk, length := 12 }).2 with
    | error e =>
      rw [hr] at hsnd
      cases hsnd
    | ok stream2 =>
      rw [hr] at hsnd
      cases hsnd
      rfl

variable {report : Report (Event ο)}

lemma _read_headers_before (hread : _read_headers crypto h stream = (h', .error report)) :
    ∀ d ∈ report.before, ∃ expected n, d = .invalid_sequence_number expected n := by
  intro d hd
  unfold _read_headers at hread
  split at hread
  · next h1 report' hbase =>
    cases hread
    rw [MessageBuilderBase._read_headers_before hbase] at hd
    exact absurd hd not_mem_nil
  · split at hread
    · cases hread
      exact absurd hd not_mem_nil
    · obtain ⟨-, hread⟩ := Prod.mk.inj hread
      generalize (readHeadersOf crypto _ _ _).2 = res at hread
      cases res with
      | ok stream => cases hread
      | error failure =>
        cases hread
        cases failure with
        | thrown msg | reported status errorMessage => exact absurd hd not_mem_nil
        | invalidSequenceNumber expected n errorMessage =>
          exact ⟨expected, n, List.mem_singleton.mp hd⟩

lemma _decodeMessageBody_before {factory : ObjectFactory ι ο} {h : Headers (MessageBuilder κ ρ)}
    {body : Buffer}
    (hdec : _decodeMessageBody factory h body = .error report) : report.before = [] := by
  unfold _decodeMessageBody at hdec
  dsimp only at hdec
  repeat' split at hdec
  all_goals cases hdec <;> rfl

/-- The class `MessageBuilder`. -/
def overrides (crypto : Crypto κ ρ) (factory : ObjectFactory ι ο)
    (getStatusCodeFromCode : ℕ → StatusCode) :
    Overrides (MessageBuilder κ ρ) (Event ο) (Assignment κ) where
  _read_headers := _read_headers crypto
  _decodeMessageBody := _decodeMessageBody factory
  assign a mb := mb.assign a
  getStatusCodeFromCode := getStatusCodeFromCode
  twelve_le_length := by
    intro h b h' stream hread
    obtain ⟨messageHeader, rest, -, hread⟩ := _read_headers_ok hread
    unfold readHeadersOf at hread
    split_ifs at hread
    · cases hread
      exact Nat.le_refl 12
    · obtain ⟨-, hread⟩ := Prod.mk.inj hread
      cases herror : readErrorMessage { buffer := b, length := 12 } with
      | error e =>
        rw [herror] at hread
        cases hread
      | ok stream' =>
        rw [herror] at hread
        cases hread
        exact readErrorMessage_ok herror
    · obtain ⟨_, stream1, _, _, stream2, hdecode, -, -, hdecrypt, hsequence⟩ := readSecured_ok hread
      have h1 := (SecurityHeader_decode_advances _ _ _ _ hdecode).2
      have h2 := _decrypt_length hdecrypt
      have h3 := (readSequence_ok hsequence).2.1
      simp only at h1
      omega

/-! ### Verified chunks -/

/-- The type of a chunk. -/
def msgTypeOf (chunk : Buffer) : Option String :=
  match readMessageHeader { buffer := chunk } with
  | .ok (messageHeader, _) => some messageHeader.msgType
  | .error _ => none

/-- The token id in the symmetric security header of a chunk. -/
def tokenIdOf (chunk : Buffer) : ℕ := leUInt32 (chunk.drop 12)

/-- **A verified chunk**: its signature is right, and `body` is what the signature covers, behind
the headers and without the padding. The keys of a symmetric signature are those of the token id in
the chunk; an asymmetric one is checked with the certificate in the chunk. In mode SignAndEncrypt,
and with an asymmetric signature, the chunk has been decrypted first. -/
inductive Verified (crypto : Crypto κ ρ) (mb : MessageBuilder κ ρ) (chunk body : Buffer) : Prop
  | sign (keys : κ) (type : msgTypeOf chunk ≠ some "OPN") (mode : mb.securityMode = .Sign)
      (token : mb._derivedKeyProvider (tokenIdOf chunk) = some keys)
      (signature : crypto.verifyChunkSignatureWithDerivedKeys chunk keys = .ok true)
      (content : body = (reduceLength chunk (crypto.signatureLength keys)).drop 24)
  | signAndEncrypt (keys : κ) (decrypted clear : Buffer) (type : msgTypeOf chunk ≠ some "OPN")
      (mode : mb.securityMode = .SignAndEncrypt)
      (token : mb._derivedKeyProvider (tokenIdOf chunk) = some keys)
      (decryption : crypto.decryptBufferWithDerivedKeys (chunk.drop 16) keys = .ok decrypted)
      (signature : crypto.verifyChunkSignatureWithDerivedKeys
        (replaceRest { buffer := chunk, length := 16 } decrypted).buffer keys = .ok true)
      (padding : removePadding
        (reduceLength (replaceRest { buffer := chunk, length := 16 } decrypted).buffer
          (crypto.signatureLength keys)) = .ok clear)
      (content : body = clear.drop 24)
  | asymmetric (header : AsymmetricAlgorithmSecurityHeader) (stream : BinaryStream)
      (privateKey : ρ) (decrypted clear : Buffer) (n : ℕ) (type : msgTypeOf chunk = some "OPN")
      (certificate : decode { buffer := chunk, length := 12 } =
        .ok (header, stream))
      (key : mb._privateKey = some privateKey)
      (decryption : crypto.asymmetricDecrypt (coerceSecurityPolicy header.securityPolicyUri)
        (stream.buffer.drop stream.length) privateKey = .ok decrypted)
      (signature : asymmetricVerifyChunk crypto (coerceSecurityPolicy header.securityPolicyUri)
        (replaceRest stream decrypted).buffer header.senderCertificate = .ok (true, n))
      (padding : removePadding (reduceLength (replaceRest stream decrypted).buffer n) = .ok clear)
      (content : body = clear.drop (stream.length + 8))

variable {header : SecurityHeader}

lemma symmetric_decode_ok {stream : BinaryStream}
    (h : (SecurityHeader.symmetric {}).decode { buffer := chunk, length := 12 } =
      .ok (header, stream)) :
    header = .symmetric { tokenId := tokenIdOf chunk } ∧
      stream = { buffer := chunk, length := 16 } := by
  obtain ⟨⟨symmetric, stream1⟩, hsymm, h⟩ := Except.bind_eq_ok_iff.mp h
  obtain ⟨⟨tokenId, stream2⟩, htoken, hsymm⟩ := Except.bind_eq_ok_iff.mp hsymm
  obtain ⟨-, hword⟩ := BinaryStream.readUInt32_eq_ok_iff.mp htoken
  cases hword
  cases hsymm
  cases h
  exact ⟨rfl, rfl⟩

lemma asymmetric_decode_ok
    (h : (SecurityHeader.asymmetric {}).decode stream = .ok (header, stream')) :
    ∃ asymmetric, header = .asymmetric asymmetric ∧
      decode stream = .ok (asymmetric, stream') := by
  obtain ⟨⟨asymmetric, stream1⟩, hasymmetric, h⟩ := Except.bind_eq_ok_iff.mp h
  cases h
  exact ⟨asymmetric, rfl, hasymmetric⟩

/-- **A chunk whose headers have been read is verified**, when it is not HEL, ACK or ERR and the
policy is not None. -/
theorem verified_of_read (hread : (_read_headers crypto h { buffer := chunk } :
      Headers (MessageBuilder κ ρ) × Except (Report (Event ο)) BinaryStream) = (h', .ok stream))
    (htype : msgTypeOf chunk ∉ [some "HEL", some "ACK", some "ERR"])
    (hpol : h'.derived.securityPolicy ≠ .None) :
    Verified crypto h.derived chunk (stream.buffer.drop stream.length) := by
  obtain ⟨messageHeader, rest, hheader, hread⟩ := _read_headers_ok hread
  have htypeOf : msgTypeOf chunk = some messageHeader.msgType := by
    simp only [msgTypeOf, hheader]
  rw [htypeOf] at htype
  simp only [List.mem_cons, not_mem_nil, or_false, Option.some.injEq, not_or] at htype
  obtain ⟨hHEL, hACK, hERR⟩ := htype
  simp only [readHeadersOf, hHEL, hACK, hERR, or_self, if_false] at hread
  obtain ⟨securityHeader, stream1, policy, mb2, stream2, hdec, -, huri, hdecr, hseq⟩ :=
    readSecured_ok hread
  obtain ⟨hbuf, hlength, sequenceHeader, p, -, hder, -⟩ := readSequence_ok hseq
  rw [hbuf, hlength]
  have hpol' : policy ≠ .None := by
    intro hnone
    refine hpol ?_
    rw [hder]
    exact (_decrypt_securityPolicy hdecr).trans hnone
  unfold _decrypt at hdecr
  simp only [hpol', if_false] at hdecr
  unfold chooseSecurityHeader at hdec
  by_cases hOPN : messageHeader.msgType = "OPN"
  · simp only [hOPN, if_true] at hdec
    simp only [hOPN, ne_eq, not_true_eq_false, false_and, if_false, if_true] at hdecr
    obtain ⟨asymmetric, rfl, hasymmetric⟩ := asymmetric_decode_ok hdec
    obtain ⟨-, hdecr⟩ := Prod.mk.inj hdecr
    obtain ⟨header, privateKey, decrypted, n, hsome, hkey, hplain, hverify, hlen, hclear⟩ :=
      _decrypt_OPN_ok hdecr
    cases hsome
    obtain rfl := huri asymmetric rfl
    rw [hlen]
    exact .asymmetric asymmetric stream1 privateKey decrypted stream2.buffer n
      (by rw [htypeOf, hOPN]) hasymmetric hkey hplain hverify hclear rfl
  · simp only [hOPN, if_false] at hdec
    have hnotOPN : msgTypeOf chunk ≠ some "OPN" := by
      rw [htypeOf]
      exact fun hsome => hOPN (Option.some.inj hsome)
    obtain ⟨rfl, rfl⟩ := symmetric_decode_ok hdec
    split_ifs at hdecr
    · cases hdecr
    · obtain ⟨-, hdecr⟩ := Prod.mk.inj hdecr
      obtain ⟨header, keys, hsome, htoken, hlen, hcases⟩ := _decrypt_MSG_ok hdecr
      cases hsome
      rw [hlen]
      rcases hcases with ⟨hmode, hverify, hcont⟩ |
        ⟨hmode, decrypted, hplain, hverify, hcont⟩
      · rw [hcont]
        exact .sign keys hnotOPN hmode htoken hverify rfl
      · exact .signAndEncrypt keys decrypted stream2.buffer hnotOPN hmode htoken hplain hverify
          hcont rfl

/-- **The policy** of the builder changes only from "not known yet", whether the headers can be
read or not, unless the chunk is HEL or ACK. -/
theorem securityPolicy_of_read {r : Except (Report (Event ο)) BinaryStream}
    (hread : _read_headers crypto h { buffer := chunk } = (h', r))
    (htype : msgTypeOf chunk ∉ [some "HEL", some "ACK"]) :
    h'.derived.securityPolicy = h.derived.securityPolicy ∨ h.derived.securityPolicy = .Invalid := by
  unfold _read_headers at hread
  split at hread
  · next h1 report hbase =>
    cases hread
    rw [_read_headers_derived hbase]
    exact .inl rfl
  · next h1 stream1 hbase =>
    obtain ⟨-, rfl, messageHeader, rest, hheader, rfl⟩ := MessageBuilderBase._read_headers_ok hbase
    have htypeOf : msgTypeOf chunk = some messageHeader.msgType := by
      simp only [msgTypeOf, hheader]
    rw [htypeOf] at htype
    simp only [List.mem_cons, not_mem_nil, or_false, Option.some.injEq, not_or] at htype
    obtain ⟨rfl, -⟩ := Prod.mk.inj hread
    simp only [readHeadersOf, htype.1, htype.2, or_self, if_false]
    split_ifs with hERR
    · exact .inl rfl
    · generalize hsec : readSecured crypto _ messageHeader.msgType _ = result
      have hpol := readSecured_securityPolicy hsec
      exact hpol

end MessageBuilder

end NodeOpcua
