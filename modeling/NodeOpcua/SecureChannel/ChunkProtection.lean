import NodeOpcua.SecureChannel.ChunkSecurity
import NodeOpcua.SecureChannel.MessageChunker

set_option autoImplicit false

/-!
# Protected chunks

What the message chunker makes of an MSG message, in terms of the bytes: with the options of a set
of derived keys every chunk is protected by these keys; without options it is refused in mode
SignAndEncrypt, and the chunks carry no signature in the other modes. A receiver that holds the
same keys verifies a protected chunk.

## Main definitions

* `Protected`, `CarriesToken`, `SymmetricCrypto.Matches`.

## Main results

* `MessageChunker.protected_of_chunkSecureMessage`, `MessageChunker.refused_of_signAndEncrypt`.
* `MessageChunker.chunkSecureMessage_total`.
* `Protected._decrypt_MSG`.
-/

namespace NodeOpcua

open ChunkManager
open Except (bind_eq_ok_iff)
open List (length_append append_assoc)
open MessageBuilder (decryptSymmetric reduceLength try_ replaceRest)
open Patch (copy)
open SecureMessageChunkManagerOptions (ofSecurityOptions)

variable {κ ω ρ : Type}

/-- The security header of an MSG chunk names the token: it is the word after the first twelve
bytes. -/
def CarriesToken (tokenId : ℕ) (chunk : Buffer) : Prop :=
  ∃ pre post : Buffer, pre.length = 12 ∧ chunk = pre ++ (uint32Bytes tokenId ++ post)

/-- **A protected chunk**: in mode Sign the data is followed by its signature; in mode
SignAndEncrypt what follows the headers is encrypted, with the signature of all that comes before
it. -/
inductive Protected (crypto : SymmetricCrypto κ) (keys : κ) : MessageSecurityMode → Buffer → Prop
  | sign (data : Buffer) :
      Protected crypto keys .Sign
        (data ++ crypto.makeMessageChunkSignatureWithDerivedKeys data keys)
  | signAndEncrypt (header area : Buffer) (hheader : header.length = 16)
      (hblocks : (area ++ crypto.makeMessageChunkSignatureWithDerivedKeys (header ++ area)
        keys).length % crypto.encryptingBlockSize keys = 0) :
      Protected crypto keys .SignAndEncrypt
        (header ++ crypto.encryptBufferWithDerivedKeys
          (area ++ crypto.makeMessageChunkSignatureWithDerivedKeys (header ++ area) keys) keys)

lemma CarriesToken.decode {tokenId : ℕ} {chunk : Buffer} (h : CarriesToken tokenId chunk)
    (htoken : tokenId < 2 ^ 32) :
    SymmetricAlgorithmSecurityHeader.decode { buffer := chunk, length := 12 } =
      .ok ({ tokenId }, { buffer := chunk, length := 16 }) := by
  obtain ⟨pre, post, hpre, rfl⟩ := h
  have hdec := SymmetricAlgorithmSecurityHeader.decode_encode htoken pre post
  rwa [hpre] at hdec

/-! ### The chunk manager of an MSG message -/

namespace SecureMessageChunkManager

lemma length_msgTypeBytes (msgType : String) : (msgTypeBytes msgType).length = 3 := by
  simp only [msgTypeBytes, List.length_take, length_append, List.length_cons, List.length_nil]
  omega

lemma length_headerBytes (msgType : String) (channelId : ℕ) (header : SecurityHeader)
    (isLast : Bool) (length : ℕ) :
    (headerBytes msgType channelId header isLast length).length =
      12 + header.binaryStoreSize := by
  simp only [headerBytes, length_append, length_msgTypeBytes, length_uint32Bytes,
    List.length_singleton, SecurityHeader.binaryStoreSize]

/-- What a successful constructor says: the header of every chunk is written by `write_header`, and
the functions of the options work on the randomness. -/
lemma fields_of_construct {mode : MessageSecurityMode} {channelId : ℕ}
    {opts : SecureMessageChunkManagerOptions ω} {header : SecurityHeader}
    {m : ChunkManager (Context ω)}
    (h : construct mode "MSG" channelId opts header = .ok m) :
    Constructed m ∧
    (m.securityMode = mode ∧ m.headerSize = 12 + header.binaryStoreSize ∧
      m.signatureLength = opts.signatureLength ∧ m.plainBlockSize = opts.plainBlockSize ∧
      m.cipherBlockSize = opts.cipherBlockSize ∧
      m._signBufferFunc = opts.signBufferFunc.map withRandom ∧
      m._writeHeaderFunc = some (write_header "MSG" channelId header)) ∧
    (opts.cipherBlockSize = 0 → m._encryptBufferFunc = none ∧ (mode = .None ∨ mode = .Sign)) ∧
    (opts.cipherBlockSize ≠ 0 →
      m._encryptBufferFunc = opts.encryptBufferFunc.map withRandom) := by
  unfold construct at h
  simp only [bind_eq_ok_iff] at h
  obtain ⟨_, -, h⟩ := h
  obtain ⟨⟨h1, h2, h3, h4, h5, h6, h7, h8⟩, hciph⟩ := ChunkManager.fields_of_construct h
  exact ⟨constructed_of_construct h, ⟨h1, h2, h4, h5, h6, h7, h8⟩, hciph⟩

variable {m : ChunkManager (Context ω)}

lemma header_eq {channelId tokenId : ℕ} {isLast : Bool} {length : ℕ} {header : Buffer}
    (hlen : header.length = 16)
    (h : ∃ writeHeaderFunc t view,
      some (write_header "MSG" channelId (.symmetric { tokenId }) : WriteHeaderFunc (Context ω)) =
        some writeHeaderFunc ∧
      header = (writeHeaderFunc.1 t view isLast length).1) :
    ∃ pre : Buffer, pre.length = 12 ∧ header = pre ++ uint32Bytes tokenId := by
  obtain ⟨_, t, view, hfunc, rfl⟩ := h
  cases hfunc
  have hview : view.length = 16 := by simpa [write_header] using hlen
  have hbytes := length_headerBytes "MSG" channelId (.symmetric { tokenId }) isLast length
  refine ⟨msgTypeBytes "MSG" ++ [if isLast then 70 else 67] ++ uint32Bytes length ++
    uint32Bytes channelId, rfl, ?_⟩
  have hcopy : copy ([] ++ (view ++ []))
      (headerBytes "MSG" channelId (.symmetric { tokenId }) isLast length) 0 =
        [] ++ (headerBytes "MSG" channelId (.symmetric { tokenId }) isLast length ++ []) :=
    Patch.copy_replace rfl (by rw [hbytes, hview]; rfl)
  simpa [write_header, headerBytes, SecurityHeader.encode, SymmetricAlgorithmSecurityHeader.encode]
    using hcopy

end SecureMessageChunkManager

open SecureMessageChunkManager (Context)

/-! ### The chunks of an MSG message -/

variable {crypto : SymmetricCrypto κ}

lemma getOptionsForSymmetricSignAndEncrypt_eq_ok
    {securityMode : MessageSecurityMode} {keys : κ} {data : SecureMessageData ω}
    (h : getOptionsForSymmetricSignAndEncrypt crypto securityMode keys = .ok data) :
    (securityMode = .Sign ∨ securityMode = .SignAndEncrypt) ∧
      data.signatureLength = crypto.signatureLength keys ∧
      data.plainBlockSize = data.cipherBlockSize ∧
      data.cipherBlockSize =
        (if securityMode = .Sign then 0 else crypto.encryptingBlockSize keys) ∧
      (∀ random chunk, (data.signBufferFunc random chunk).1 =
        crypto.makeMessageChunkSignatureWithDerivedKeys chunk keys) ∧
      ∀ random chunk, (data.encryptBufferFunc random chunk).1 =
        crypto.encryptBufferWithDerivedKeys chunk keys := by
  unfold getOptionsForSymmetricSignAndEncrypt at h
  simp only [bind_eq_ok_iff, ChunkManager.assert_eq_ok_iff] at h
  obtain ⟨_, ⟨hnone, hinval⟩, h⟩ := h
  cases h
  refine ⟨?_, rfl, rfl, rfl, fun _ _ => rfl, fun _ _ => rfl⟩
  cases securityMode with
  | Invalid => exact absurd rfl hinval
  | None => exact absurd rfl hnone
  | Sign => exact .inl rfl
  | SignAndEncrypt => exact .inr rfl

namespace MessageChunker

variable {c : MessageChunker ω} {params : ChunkMessageParameters ω} {crypto : SymmetricCrypto κ}
  {keys : κ} {data : SecureMessageData ω} {chunkSize requestId tokenId : ℕ}
  {m : ChunkManager (Context ω)}

lemma _build_chunk_manager_ok (h : c._build_chunk_manager "MSG" params = .ok m) :
    params.securityHeader.isSymmetric = true ∧
      SecureMessageChunkManager.construct c.securityMode "MSG" params.channelId
        params.securityOptions params.securityHeader = .ok m := by
  unfold _build_chunk_manager at h
  simp only [bind_eq_ok_iff, ChunkManager.assert_eq_ok_iff] at h
  obtain ⟨_, -, _, hsymm, h⟩ := h
  exact ⟨hsymm trivial, h⟩

lemma prepareChunk_ok {messageLength : ℕ} (h : c.prepareChunk "MSG" params messageLength = .ok m) :
    params.securityHeader.isSymmetric = true ∧
      SecureMessageChunkManager.construct c.securityMode "MSG" params.channelId
        params.securityOptions params.securityHeader = .ok m := by
  unfold prepareChunk at h
  split at h
  · cases h
  · rename_i m' hbuild
    dsimp only at h
    split_ifs at h
    cases h
    exact _build_chunk_manager_ok hbuild

/-- What the chunk manager of an MSG message is, when its options come from derived keys. -/
structure KeyedBy (crypto : SymmetricCrypto κ) (keys : κ) (mode : MessageSecurityMode)
    (tokenId : ℕ) (m : ChunkManager (Context ω)) : Prop where
  constructed : Constructed m
  secured : mode = .Sign ∨ mode = .SignAndEncrypt
  mode_eq : m.securityMode = mode
  headerSize : m.headerSize = 16
  writeHeaderFunc : ∃ channelId, m._writeHeaderFunc =
    some (SecureMessageChunkManager.write_header "MSG" channelId (.symmetric { tokenId }))
  signatureLength : m.signatureLength = crypto.signatureLength keys
  sign : ∃ f, m._signBufferFunc = some f ∧
    ∀ t chunk, (f t chunk).1 = crypto.makeMessageChunkSignatureWithDerivedKeys chunk keys
  clear : mode = .Sign →
    m.plainBlockSize = 0 ∧ m.cipherBlockSize = 0 ∧ m._encryptBufferFunc = none
  encrypted : mode = .SignAndEncrypt →
    m.plainBlockSize = crypto.encryptingBlockSize keys ∧
    m.cipherBlockSize = crypto.encryptingBlockSize keys ∧
    ∃ f, m._encryptBufferFunc = some f ∧
      ∀ t chunk, (f t chunk).1 = crypto.encryptBufferWithDerivedKeys chunk keys

lemma keyedBy_of_construct (hcrypto : crypto.Lawful)
    (hdata : getOptionsForSymmetricSignAndEncrypt crypto c.securityMode keys = .ok data)
    (hopts : params.securityOptions = .ofSecurityOptions chunkSize requestId (some data))
    (hheader : params.securityHeader = .symmetric { tokenId })
    (h : SecureMessageChunkManager.construct c.securityMode "MSG" params.channelId
      params.securityOptions params.securityHeader = .ok m) :
    KeyedBy crypto keys c.securityMode tokenId m := by
  obtain ⟨hconstructed, ⟨hmode, hheaderSize, hsigLen, hplain, hciph, hsign, hwrite⟩,
    hclear, henc⟩ := SecureMessageChunkManager.fields_of_construct h
  obtain ⟨hsec, hlen, hblocks, hsize, hsignFunc, hencryptFunc⟩ :=
    getOptionsForSymmetricSignAndEncrypt_eq_ok hdata
  have hpos := hcrypto.encryptingBlockSize_pos keys
  rw [hheader] at hheaderSize hwrite
  rw [hopts] at hsigLen hplain hciph hsign hclear henc
  simp only [ofSecurityOptions, Option.map_some]
    at hsigLen hplain hciph hsign hclear henc
  refine ⟨hconstructed, hsec, hmode, hheaderSize, ⟨_, hwrite⟩, by rw [hsigLen, hlen],
    ⟨_, hsign, fun t chunk => hsignFunc t.2 chunk⟩, fun hs => ?_, fun hs => ?_⟩
  · rw [if_pos hs] at hsize
    exact ⟨by omega, by omega, (hclear hsize).1⟩
  · rw [if_neg (by simp [hs])] at hsize
    exact ⟨by omega, by omega, _, henc (by omega), fun t chunk => hencryptFunc t.2 chunk⟩

namespace KeyedBy

variable {mode : MessageSecurityMode} {m : ChunkManager (Context ω)}

lemma consistent (hcrypto : crypto.Lawful) (h : KeyedBy crypto keys mode tokenId m) :
    Consistent m := by
  have hpos := hcrypto.signatureLength_pos keys
  have hle := hcrypto.encryptingBlockSize_le keys
  obtain ⟨sign, hsome, hsign⟩ := h.sign
  have hsig : ∀ f, m._signBufferFunc = some f → ∀ t b, (f t b).1.length = m.signatureLength := by
    intro f hf t b
    rw [hsome] at hf
    cases hf
    rw [hsign, hcrypto.length_signature, h.signatureLength]
  have hnone : m.securityMode ≠ .None := by
    rw [h.mode_eq]
    rcases h.secured with rfl | rfl <;> simp
  have hpres : m._signBufferFunc.isSome ↔ m.signatureLength ≠ 0 := by
    rw [hsome, h.signatureLength]
    simp only [Option.isSome_some, true_iff]
    omega
  rcases h.secured with hmode | hmode
  · obtain ⟨hplain, hciph, henc⟩ := h.clear hmode
    refine ⟨fun hn => absurd hn hnone, fun _ => hpres, hsig, fun f hf => ?_, by omega,
      by omega⟩
    rw [henc] at hf
    cases hf
  · obtain ⟨hplain, hciph, encrypt, henc, hfunc⟩ := h.encrypted hmode
    refine ⟨fun hn => absurd hn hnone, fun _ => hpres, hsig, fun f hf t b hb => ?_,
      by omega, by omega⟩
    rw [henc] at hf
    cases hf
    rw [hplain] at hb ⊢
    rw [hfunc, hcrypto.length_encrypt _ _ hb, hciph, Nat.div_mul_cancel (Nat.dvd_of_mod_eq_zero hb)]

lemma carriesToken (h : KeyedBy crypto keys mode tokenId m) {body : Buffer} {isLast : Bool}
    {e : Event} (he : m.Emitted body isLast e) : CarriesToken tokenId e.chunk := by
  obtain ⟨-, header, sequenceHeader, signature, hlen, -, -, hfunc, -, hplain, hencd⟩ := he
  obtain ⟨channelId, hwrite⟩ := h.writeHeaderFunc
  rw [h.headerSize] at hlen
  rw [hwrite] at hfunc
  obtain ⟨pre, hpre, rfl⟩ :=
    SecureMessageChunkManager.header_eq hlen (hfunc (by rw [h.headerSize]; omega))
  by_cases hzero : m.plainBlockSize = 0
  · exact ⟨pre, _, hpre, by rw [hplain hzero, append_assoc]⟩
  · obtain ⟨encrypt, t, -, hchunk⟩ := hencd hzero
    exact ⟨pre, _, hpre, by rw [hchunk, append_assoc]⟩

lemma protected_of_emitted (hcrypto : crypto.Lawful) (h : KeyedBy crypto keys mode tokenId m)
    {body : Buffer} {isLast : Bool} {e : Event} (he : m.Emitted body isLast e) :
    Protected crypto keys mode e.chunk := by
  obtain ⟨-, header, sequenceHeader, signature, hheader, hseq, hlen, -, hsigned, hplain,
    hencd⟩ := he
  obtain ⟨sign, hsome, hsign⟩ := h.sign
  obtain ⟨t, hsig⟩ := hsigned (by
    rw [h.mode_eq]
    rcases h.secured with rfl | rfl <;> simp) sign hsome
  rw [hsign] at hsig
  rcases h.secured with rfl | rfl
  · have hzero := (h.clear rfl).1
    have hchunk : e.chunk = (header ++ (sequenceHeader ++ body)) ++
        crypto.makeMessageChunkSignatureWithDerivedKeys (header ++ (sequenceHeader ++ body)) keys := by
      rw [padding_of_plain hzero, List.append_nil] at hsig
      rw [hplain hzero, ← hsig]
      simp only [append_assoc]
    rw [hchunk]
    exact .sign _
  · obtain ⟨hblock, -, f, hf, hfunc⟩ := h.encrypted rfl
    have hpos := hcrypto.encryptingBlockSize_pos keys
    have hne : m.plainBlockSize ≠ 0 := by omega
    obtain ⟨encrypt, t', henc, hchunk⟩ := hencd hne
    rw [hf] at henc
    cases henc
    rw [hfunc] at hchunk
    -- the area to encrypt is the data after the header, and its signature
    have harea : (sequenceHeader ++ (body ++ m.padding body.length)) ++
        crypto.makeMessageChunkSignatureWithDerivedKeys
          (header ++ (sequenceHeader ++ (body ++ m.padding body.length))) keys =
        sequenceHeader ++ (body ++ (m.padding body.length ++ signature)) := by
      rw [hsig]
      simp only [append_assoc]
    have hmod : (sequenceHeader ++ (body ++ (m.padding body.length ++ signature))).length %
        crypto.encryptingBlockSize keys = 0 := by
      have hplainLength : (sequenceHeader ++ (body ++ (m.padding body.length ++ signature))).length =
          m.plainLength body.length := by
        simp only [length_append, plainLength]
        omega
      rw [hplainLength, ← hblock]
      exact Nat.mod_eq_zero_of_dvd (dvd_plainLength hne)
    rw [hchunk, ← harea]
    exact .signAndEncrypt header _ (by rw [hheader, h.headerSize]) (by rw [harea]; exact hmod)

end KeyedBy

variable {message : Buffer} {c' : MessageChunker ω}

lemma chunkSecureMessage_securityMode {msgType : String} {res : Except StatusCode (List Buffer)}
    (h : c.chunkSecureMessage msgType params message = .ok (res, c')) :
    c'.securityMode = c.securityMode := by
  unfold chunkSecureMessage at h
  split at h
  · cases h
    rfl
  · simp only [bind_eq_ok_iff] at h
    obtain ⟨⟨s, events⟩, -, h⟩ := h
    cases h
    rfl

lemma chunkSecureMessage_ok {chunks : List Buffer}
    (h : c.chunkSecureMessage "MSG" params message = .ok (.ok chunks, c')) :
    ∃ m s events, params.securityHeader.isSymmetric = true ∧
      SecureMessageChunkManager.construct c.securityMode "MSG" params.channelId
        params.securityOptions params.securityHeader = .ok m ∧
      message ≠ [] ∧ m.run c.context [message] = .ok (s, events) ∧
      chunks = events.map (·.chunk) := by
  unfold chunkSecureMessage at h
  split at h
  · cases h
  · rename_i m hprepare
    simp only [bind_eq_ok_iff] at h
    obtain ⟨⟨s, events⟩, hrun, h⟩ := h
    cases h
    obtain ⟨hsymm, hconstruct⟩ := prepareChunk_ok hprepare
    refine ⟨m, s, events, hsymm, hconstruct, ?_, hrun, rfl⟩
    rintro rfl
    cases hrun

/-- **The chunks of a message sent with derived keys** name the token of the security header and
are protected by these keys. -/
theorem protected_of_chunkSecureMessage (hcrypto : crypto.Lawful)
    (hdata : getOptionsForSymmetricSignAndEncrypt crypto c.securityMode keys = .ok data)
    (hopts : params.securityOptions = .ofSecurityOptions chunkSize requestId (some data))
    (hheader : params.securityHeader = .symmetric { tokenId }) {chunks : List Buffer}
    (h : c.chunkSecureMessage "MSG" params message = .ok (.ok chunks, c')) :
    ∀ chunk ∈ chunks,
      CarriesToken tokenId chunk ∧ Protected crypto keys c.securityMode chunk := by
  obtain ⟨m, s, events, -, hconstruct, hmsg, hrun, rfl⟩ := chunkSecureMessage_ok h
  intro chunk hchunk
  obtain ⟨e, he, rfl⟩ := List.mem_map.mp hchunk
  have hkeyed := keyedBy_of_construct hcrypto hdata hopts hheader hconstruct
  obtain ⟨body, isLast, hemitted⟩ := run_emitted hkeyed.constructed (hkeyed.consistent hcrypto)
    (fun piece hpiece => by rwa [List.mem_singleton.mp hpiece]) hrun e he
  exact ⟨hkeyed.carriesToken hemitted, hkeyed.protected_of_emitted hcrypto hemitted⟩

/-- **Without options, mode SignAndEncrypt sends nothing**: the chunk manager refuses to be
constructed. -/
theorem refused_of_signAndEncrypt (hmode : c.securityMode = .SignAndEncrypt)
    (hopts : params.securityOptions = .ofSecurityOptions chunkSize requestId none)
    (msg : Buffer) :
    c.chunkSecureMessage "MSG" params msg = .ok (.error .BadTcpInternalError, c) := by
  have hbuild : ∀ m, c._build_chunk_manager "MSG" params ≠ .ok m := by
    intro m h
    obtain ⟨-, -, hclear, -⟩ :=
      SecureMessageChunkManager.fields_of_construct (_build_chunk_manager_ok h).2
    obtain ⟨-, hnone | hsign⟩ := hclear (by rw [hopts]; rfl)
    · rw [hmode] at hnone
      cases hnone
    · rw [hmode] at hsign
      cases hsign
  unfold chunkSecureMessage prepareChunk
  cases h : c._build_chunk_manager "MSG" params with
  | error => rfl
  | ok m => exact absurd h (hbuild m)

lemma consistent_of_construct_none
    (hopts : params.securityOptions = .ofSecurityOptions chunkSize requestId none)
    (h : SecureMessageChunkManager.construct c.securityMode "MSG" params.channelId
      params.securityOptions params.securityHeader = .ok m) : Consistent m := by
  obtain ⟨-, ⟨-, -, hsigLen, hplain, hciph, hsign, -⟩, hclear, -⟩ :=
    SecureMessageChunkManager.fields_of_construct h
  rw [hopts] at hsigLen hplain hciph hsign hclear
  have henc := (hclear rfl).1
  refine ⟨fun _ => hsigLen, fun _ => ?_, fun f hf => ?_, fun f hf => ?_,
    Nat.le_of_eq (hplain.trans hciph.symm), by rw [hplain]; exact Nat.zero_le _⟩
  · rw [hsign, hsigLen]
    simp [ofSecurityOptions]
  · rw [hsign] at hf
    cases hf
  · rw [henc] at hf
    cases hf

/-- **Cutting an MSG message into chunks never throws**, with the options of derived keys as well as
without options: no chunk is written of a message that is refused. -/
theorem chunkSecureMessage_total (hcrypto : crypto.Lawful)
    (hopts : params.securityOptions = .ofSecurityOptions chunkSize requestId none ∨
      ∃ data tokenId, getOptionsForSymmetricSignAndEncrypt crypto c.securityMode keys = .ok data ∧
        params.securityOptions = .ofSecurityOptions chunkSize requestId (some data) ∧
        params.securityHeader = .symmetric { tokenId })
    (hmsg : message ≠ []) :
    ∃ result, c.chunkSecureMessage "MSG" params message = .ok result := by
  unfold chunkSecureMessage
  cases hprepare : c.prepareChunk "MSG" params message.length with
  | error status => exact ⟨_, rfl⟩
  | ok m =>
    obtain ⟨-, hconstruct⟩ := prepareChunk_ok hprepare
    have hconstructed := (SecureMessageChunkManager.fields_of_construct hconstruct).1
    have hcons : Consistent m := by
      rcases hopts with hnone | ⟨data, tokenId, hdata, hsome, hheader⟩
      · exact consistent_of_construct_none hnone hconstruct
      · exact (keyedBy_of_construct hcrypto hdata hsome hheader hconstruct).consistent hcrypto
    have hpieces : ∀ piece ∈ [message], piece ≠ [] := by
      intro piece hpiece
      rw [List.mem_singleton.mp hpiece]
      exact hmsg
    obtain ⟨s, events, hrun, -⟩ := run_spec hconstructed hcons c.context hpieces
    exact ⟨(.ok (events.map (·.chunk)), { c with context := s.context }), by simp only [hrun]; rfl⟩

end MessageChunker

/-! ### The receiver -/

/-- The receiving primitives undo the sending ones: signatures verify and encrypted blocks are
decrypted, with the same keys. -/
structure SymmetricCrypto.Matches (crypto : SymmetricCrypto κ) (receiver : Crypto κ ρ) : Prop where
  signatureLength : ∀ keys, receiver.signatureLength keys = crypto.signatureLength keys
  verify : ∀ data keys, receiver.verifyChunkSignatureWithDerivedKeys
    (data ++ crypto.makeMessageChunkSignatureWithDerivedKeys data keys) keys = .ok true
  decrypt : ∀ data keys, data.length % crypto.encryptingBlockSize keys = 0 →
    receiver.decryptBufferWithDerivedKeys (crypto.encryptBufferWithDerivedKeys data keys) keys =
      .ok data

variable {header : SymmetricAlgorithmSecurityHeader} {mb : MessageBuilder κ ρ}
    {receiver : Crypto κ ρ}

/-- What `_decrypt_MSG` needs to succeed. -/
lemma _decrypt_MSG_of {keys : κ} {stream decrypted : BinaryStream}
    (hheader : mb.securityHeader = some (.symmetric header))
    (hmode : mb.securityMode = .Sign ∨ mb.securityMode = .SignAndEncrypt)
    (hnone : mb.securityPolicy ≠ .None) (hinval : mb.securityPolicy ≠ .Invalid)
    (hkeys : mb._derivedKeyProvider header.tokenId = some keys)
    (hlen : receiver.signatureLength keys ≠ 0)
    (hdecr : decryptSymmetric receiver mb keys stream = .ok decrypted)
    (hverify : receiver.verifyChunkSignatureWithDerivedKeys decrypted.buffer keys = .ok true)
    (hpad : mb.securityMode = .SignAndEncrypt → ∃ buffer, MessageBuilder.removePadding
      (reduceLength decrypted.buffer (receiver.signatureLength keys)) = .ok buffer) :
    ∃ stream', mb._decrypt_MSG receiver stream = .ok stream' := by
  have hmodes : mb.securityMode ≠ .None ∧ mb.securityMode ≠ .Invalid := by
    rcases hmode with h | h <;> simp [h]
  have hassert : ∀ {cond : Prop} [Decidable cond], cond →
      MessageBuilder.assert cond "" = .ok () := fun h => MessageBuilder.assert_eq_ok_iff.mpr h
  unfold MessageBuilder._decrypt_MSG
  simp only [hheader, hkeys, if_neg hlen, hassert hmodes.1, hassert hmodes.2, hassert hnone,
    hassert hinval, hdecr, hverify, try_, Except.mapError, bind, Except.bind,
    pure, Except.pure, if_true]
  split_ifs with henc
  · obtain ⟨buffer, hbuf⟩ := hpad henc
    rw [hbuf]
    exact ⟨_, rfl⟩
  · exact ⟨_, rfl⟩

lemma removePadding_ok {buffer : Buffer} (h : buffer ≠ []) :
    ∃ buffer', MessageBuilder.removePadding buffer = .ok buffer' := by
  unfold MessageBuilder.removePadding
  rw [List.getLast?_eq_some_getLast h]
  exact ⟨_, rfl⟩

/-- **A receiver verifies a protected chunk**, when the keys it selects by the token id are those
of the chunk.

**Proof sketch.** In mode SignAndEncrypt the decrypted area replaces the encrypted one behind the
headers, so that the signature covers the same bytes as when it was made. -/
theorem Protected._decrypt_MSG {keys : κ}
    {mode : MessageSecurityMode} {chunk : Buffer} (hcrypto : crypto.Lawful)
    (hmatch : crypto.Matches receiver) (h : Protected crypto keys mode chunk)
    (hheader : mb.securityHeader = some (.symmetric header)) (hmode : mb.securityMode = mode)
    (hnone : mb.securityPolicy ≠ .None) (hinval : mb.securityPolicy ≠ .Invalid)
    (hkeys : mb._derivedKeyProvider header.tokenId = some keys) :
    ∃ stream, mb._decrypt_MSG receiver { buffer := chunk, length := 16 } = .ok stream := by
  have hlen : receiver.signatureLength keys ≠ 0 := by
    rw [hmatch.signatureLength]
    exact Nat.ne_of_gt (hcrypto.signatureLength_pos keys)
  cases h with
  | sign data =>
    have hdecr : decryptSymmetric receiver mb keys
        ⟨data ++ crypto.makeMessageChunkSignatureWithDerivedKeys data keys, 16⟩ =
          .ok ⟨data ++ crypto.makeMessageChunkSignatureWithDerivedKeys data keys, 16⟩ := by
      unfold decryptSymmetric
      simp [hmode, pure, Except.pure]
    exact _decrypt_MSG_of hheader (.inl hmode) hnone hinval hkeys hlen hdecr
      (hmatch.verify data keys) fun h => by simp [hmode] at h
  | signAndEncrypt header' area hsixteen hblocks =>
    have hsame := hcrypto.length_encrypt _ keys hblocks
    have hclear := hmatch.decrypt _ keys hblocks
    have hsig := hcrypto.length_signature (header' ++ area) keys
    have hverify := hmatch.verify (header' ++ area) keys
    generalize crypto.makeMessageChunkSignatureWithDerivedKeys (header' ++ area) keys = signature
      at hsame hclear hsig hverify
    generalize crypto.encryptBufferWithDerivedKeys (area ++ signature) keys = encrypted
      at hsame hclear
    -- the clear area takes the place of the encrypted one
    have hdecr : decryptSymmetric receiver mb keys
        ⟨header' ++ encrypted, 16⟩ = .ok ⟨header' ++ area ++ signature, 16⟩ := by
      have hcopy : copy (header' ++ (encrypted ++ [])) (area ++ signature) 16 =
          header' ++ ((area ++ signature) ++ []) := Patch.copy_replace hsixteen.symm hsame.symm
      have hreplace : replaceRest ⟨header' ++ encrypted, 16⟩ (area ++ signature) =
          ⟨header' ++ area ++ signature, 16⟩ := by
        rw [List.append_nil, List.append_nil] at hcopy
        unfold replaceRest
        rw [hcopy, List.take_of_length_le (by rw [length_append, hsixteen]),
          append_assoc]
      unfold decryptSymmetric
      simp only [hmode, if_true, List.drop_left' hsixteen, hclear, try_,
        Except.mapError, bind, Except.bind, pure, Except.pure, hreplace]
    refine _decrypt_MSG_of hheader (.inr hmode) hnone hinval hkeys hlen hdecr hverify
      fun _ => removePadding_ok ?_
    unfold reduceLength
    rw [hmatch.signatureLength, ← hsig, if_pos (by simp only [length_append]; omega),
      length_append, Nat.add_sub_cancel, List.take_left]
    exact List.ne_nil_of_length_pos (by rw [length_append]; omega)

end NodeOpcua
