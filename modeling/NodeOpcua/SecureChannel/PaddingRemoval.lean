import NodeOpcua.ChunkManager.RoundTrip
import NodeOpcua.SecureChannel.MessageBuilder

set_option autoImplicit false

/-!
# The padding that a reader removes

A chunk manager pads what it encrypts to whole blocks, with one byte that says how long the padding is,
or with two for large blocks. A message builder takes the padding off with one byte in mind.

## Main definitions

* `PaddingRemoval.received`.

## Main results

* `PaddingRemoval.removePadding_padding_iff`, `PaddingRemoval.run_removePadding`.

## Design

The reader decrypts what follows the header in place, so that the header stands in front of it.
-/

namespace NodeOpcua.PaddingRemoval

open ChunkManager
open MessageBuilder (reduceLength)
open List (length_append)
open UInt8 (ofNat)

variable {τ : Type} {m : ChunkManager τ}

/-- What a reader keeps of a chunk: the area that follows the header is decrypted, and the signature is
taken off. -/
def received (m : ChunkManager τ) (decrypt : Buffer → Buffer) (chunk : Buffer) : Buffer :=
  reduceLength (chunk.take m.headerSize ++ decrypt (chunk.drop m.headerSize)) m.signatureLength

lemma reduceLength_append (buffer tail : Buffer) : reduceLength (buffer ++ tail) tail.length = buffer := by
  unfold MessageBuilder.reduceLength
  rw [if_pos (by rw [length_append]; omega), length_append, Nat.add_sub_cancel]
  exact List.take_left' rfl

lemma padding_of_small {k : ℕ} (h : m.plainBlockSize ≠ 0) (hsmall : m.plainBlockSize ≤ 256) :
    m.padding k = List.replicate (m.nbPaddingByteTotal k) (ofNat (m.nbPaddingByteTotal k)) ++
      [ofNat (m.nbPaddingByteTotal k)] := by
  have hlt := nbPaddingByteTotal_lt (k := k) h
  unfold padding
  rw [if_neg h, if_neg (by omega), List.append_nil, Nat.mod_eq_of_lt (by omega)]
  rw [← List.replicate_succ, List.replicate_succ']

lemma padding_of_large {k : ℕ} (hlarge : 256 < m.plainBlockSize) :
    ∃ low : Buffer, low.length = m.nbPaddingByteTotal k + 1 ∧
      m.padding k = low ++ [ofNat (m.nbPaddingByteTotal k / 256)] := by
  refine ⟨UInt8.ofNat (m.nbPaddingByteTotal k % 256) ::
    List.replicate (m.nbPaddingByteTotal k) (ofNat (m.nbPaddingByteTotal k % 256)), ?_, ?_⟩
  · rw [List.length_cons, List.length_replicate]
  · unfold padding
    rw [if_neg (by omega), if_pos hlarge]
    rfl

/-- **The padding comes off exactly when one byte says how long it is**: of two bytes, the last one
counts blocks of 256 bytes, and fewer bytes than there are go. -/
lemma removePadding_padding_iff (h : m.plainBlockSize ≠ 0) (hmax : m.plainBlockSize ≤ 65536)
    (buffer : Buffer) (k : ℕ) :
    MessageBuilder.removePadding (buffer ++ m.padding k) = .ok buffer ↔ m.plainBlockSize ≤ 256 := by
  have hlt := nbPaddingByteTotal_lt (k := k) h
  constructor
  · intro hremoved
    by_contra hlarge
    obtain ⟨low, hlow, hpad⟩ := padding_of_large (k := k) (Nat.lt_of_not_le hlarge)
    have hlast : (ofNat (m.nbPaddingByteTotal k / 256)).toNat = m.nbPaddingByteTotal k / 256 := by
      rw [UInt8.toNat_ofNat']
      omega
    rw [hpad, ← List.append_assoc] at hremoved
    simp only [MessageBuilder.removePadding, List.getLast?_concat, hlast, Except.ok.injEq] at hremoved
    have hlen := congrArg List.length hremoved
    unfold MessageBuilder.reduceLength at hlen
    rw [if_pos (by simp only [length_append, List.length_singleton]; omega)] at hlen
    simp only [List.length_take, length_append, List.length_singleton] at hlen
    omega
  · intro hsmall
    have hlast : (ofNat (m.nbPaddingByteTotal k)).toNat = m.nbPaddingByteTotal k := by
      rw [UInt8.toNat_ofNat']
      omega
    have hpad := padding_of_small (k := k) h hsmall
    have hlen : (m.padding k).length = m.nbPaddingByteTotal k + 1 := by
      rw [hpad, length_append, List.length_replicate, List.length_singleton]
    have hgetLast : (buffer ++ m.padding k).getLast? = some (ofNat (m.nbPaddingByteTotal k)) := by
      rw [hpad, ← List.append_assoc, List.getLast?_concat]
    unfold MessageBuilder.removePadding
    rw [hgetLast]
    dsimp only
    rw [hlast, ← hlen, reduceLength_append]

lemma received_emitted {body : Buffer} {isLast : Bool} {e : Event} (he : m.Emitted body isLast e)
    (h : m.plainBlockSize ≠ 0) {decrypt : Buffer → Buffer}
    (hdecr : ∀ f, m._encryptBufferFunc = some f → ∀ t b, b.length % m.plainBlockSize = 0 →
      decrypt (f t b).1 = b) :
    ∃ sequenceHeader : Buffer, sequenceHeader.length = m.sequenceHeaderSize ∧
      received m decrypt e.chunk =
        e.chunk.take m.headerSize ++ (sequenceHeader ++ body) ++ m.padding body.length := by
  obtain ⟨-, header, sequenceHeader, signature, hheader, hseq, hsig, -, -, -, hencd⟩ := he
  obtain ⟨encrypt, t, henc, hchunk⟩ := hencd h
  have harea : (sequenceHeader ++ (body ++ (m.padding body.length ++ signature))).length =
      m.plainLength body.length := by
    simp only [length_append, plainLength]
    omega
  have hplaintext := hdecr encrypt henc t
    (sequenceHeader ++ (body ++ (m.padding body.length ++ signature)))
    (by rw [harea]; exact Nat.mod_eq_zero_of_dvd (dvd_plainLength h))
  refine ⟨sequenceHeader, hseq, ?_⟩
  unfold received
  rw [hchunk, List.drop_left' hheader, List.take_left' hheader, hplaintext]
  simp only [← List.append_assoc]
  rw [← hsig, reduceLength_append]

/-- **The chunks of a message, as a reader finds them**: removing the padding gives the header, the
sequence header and the part of the body that the chunk carries exactly when the blocks are small enough
for one byte to say how long the padding is. -/
theorem run_removePadding {securityMode : MessageSecurityMode} {options : IChunkManagerOptions τ}
    (hconstruct : construct securityMode options = .ok m) (hc : Consistent m)
    (h : m.plainBlockSize ≠ 0) (decrypt : Buffer → Buffer)
    (hdecrypt : ∀ f, m._encryptBufferFunc = some f → ∀ t b, b.length % m.plainBlockSize = 0 →
      decrypt (f t b).1 = b)
    (context : τ) (pieces : List Buffer) (hpieces : ∀ piece ∈ pieces, piece ≠ []) :
    ∃ s events bodies, m.run context pieces = .ok (s, events) ∧ bodies.flatten = pieces.flatten ∧
      List.Forall₂ (fun body e => ∃ sequenceHeader : Buffer,
        sequenceHeader.length = m.sequenceHeaderSize ∧
        received m decrypt e.chunk =
          e.chunk.take m.headerSize ++ (sequenceHeader ++ body) ++ m.padding body.length ∧
        (MessageBuilder.removePadding (received m decrypt e.chunk) =
            .ok (e.chunk.take m.headerSize ++ (sequenceHeader ++ body)) ↔
          m.plainBlockSize ≤ 256)) bodies events := by
  -- what holds of one chunk
  have hchunk : ∀ body isLast e, m.Emitted body isLast e → ∃ sequenceHeader : Buffer,
      sequenceHeader.length = m.sequenceHeaderSize ∧
      received m decrypt e.chunk =
        e.chunk.take m.headerSize ++ (sequenceHeader ++ body) ++ m.padding body.length ∧
      (MessageBuilder.removePadding (received m decrypt e.chunk) =
          .ok (e.chunk.take m.headerSize ++ (sequenceHeader ++ body)) ↔
        m.plainBlockSize ≤ 256) := by
    intro body isLast e he
    obtain ⟨sequenceHeader, hseq, hrecv⟩ := received_emitted he h hdecrypt
    refine ⟨sequenceHeader, hseq, hrecv, ?_⟩
    rw [hrecv]
    exact removePadding_padding_iff h hc.plainBlockSize_le _ _
  obtain ⟨s, events, hrun, hevents⟩ :=
    run_spec (constructed_of_construct hconstruct) hc context hpieces
  rcases hevents with ⟨hempty, rfl⟩ | ⟨bodies, last, events', e, rfl, hemitted, he, -, -, hcont⟩
  · exact ⟨s, [], [], hrun, hempty.symm, .nil⟩
  · refine ⟨s, events' ++ [e], bodies ++ [last], hrun, ?_, ?_⟩
    · rw [List.flatten_append, List.flatten_singleton, hcont]
    · refine List.rel_append (List.Forall₂.imp ?_ hemitted) (.cons (hchunk _ _ _ he) .nil)
      exact fun body e he => hchunk body false e he.2

/-- Seventeen bytes, in blocks of five bytes. -/
theorem removePadding_blocks : ∃ m s events bodies,
    construct .SignAndEncrypt paddedOptions = .ok m ∧
      m.run () [List.replicate 9 7, List.replicate 8 5] = .ok (s, events) ∧
      bodies.flatten = List.replicate 9 7 ++ List.replicate 8 5 ∧
      List.Forall₂ (fun body e => ∃ sequenceHeader : Buffer, sequenceHeader.length = 2 ∧
        MessageBuilder.removePadding (received m (fun c => c.take (c.length / 7 * 5)) e.chunk) =
          .ok (e.chunk.take m.headerSize ++ (sequenceHeader ++ body))) bodies events := by
  obtain ⟨m, hm⟩ : ∃ m, construct .SignAndEncrypt paddedOptions = .ok m := ⟨_, rfl⟩
  have hc : Consistent m := by
    cases hm
    refine ⟨nofun, fun _ => by simp [paddedOptions], ?_, ?_, by decide, by decide⟩
    · rintro f ⟨⟩ t b
      rfl
    · rintro f ⟨⟩ t b h
      simp only [paddedOptions, length_append, List.length_replicate] at h ⊢
      omega
  obtain ⟨s, events, bodies, hrun, hbodies, hchunks⟩ := run_removePadding hm hc
    (by cases hm; decide) (fun c => c.take (c.length / 7 * 5)) (by
      cases hm
      rintro f ⟨⟩ t b h
      have hlen : (b ++ List.replicate (b.length / 5 * 2) (0 : UInt8)).length / 7 * 5 =
          b.length := by
        simp only [paddedOptions, length_append, List.length_replicate] at h ⊢
        omega
      simp only [hlen, List.take_left']) ()
    [List.replicate 9 7, List.replicate 8 5] (by decide)
  refine ⟨m, s, events, bodies, hm, hrun, hbodies, hchunks.imp ?_⟩
  rintro body e ⟨sequenceHeader, hseq, -, hremoved⟩
  cases hm
  exact ⟨sequenceHeader, hseq, hremoved.mpr (by decide)⟩

/-- Blocks of 300 bytes, which are encrypted as they are. -/
def largeOptions : IChunkManagerOptions Unit where
  chunkSize := 304
  headerSize := 4
  sequenceHeaderSize := 2
  plainBlockSize := 300
  cipherBlockSize := 300
  encryptBufferFunc := some fun t b => (b, t)
  writeSequenceHeaderFunc := ChunkManager.paddedOptions.writeSequenceHeaderFunc
  writeHeaderFunc := some ⟨fun t b _ _ => (b, t), fun _ _ _ _ => rfl⟩

/-- **Padding that stays**: of the 297 bytes after the body, two are removed. -/
theorem removePadding_large : ∃ m s e, construct .SignAndEncrypt largeOptions = .ok m ∧
    m.run () [[7]] = .ok (s, [e]) ∧ ∃ sequenceHeader : Buffer, sequenceHeader.length = 2 ∧
      received m id e.chunk =
        e.chunk.take m.headerSize ++ (sequenceHeader ++ [7]) ++ m.padding 1 ∧
      MessageBuilder.removePadding (received m id e.chunk) ≠
        .ok (e.chunk.take m.headerSize ++ (sequenceHeader ++ [7])) := by
  obtain ⟨m, hm⟩ : ∃ m, construct .SignAndEncrypt largeOptions = .ok m := ⟨_, rfl⟩
  have hc : Consistent m := by
    cases hm
    refine ⟨nofun, fun _ => by simp [largeOptions], nofun, ?_, by decide, by decide⟩
    rintro f ⟨⟩ t b h
    exact (Nat.div_mul_cancel (Nat.dvd_of_mod_eq_zero h)).symm
  have hmax : m.maxBodySize = 296 := by
    cases hm
    rfl
  have hplain : m.plainBlockSize = 300 := by
    cases hm
    rfl
  have hdecr : ∀ f, m._encryptBufferFunc = some f → ∀ t b, b.length % m.plainBlockSize = 0 →
      id (f t b).1 = b := by
    cases hm
    rintro f ⟨⟩ t b -
    rfl
  obtain ⟨s, events, hrun, hevents⟩ := run_spec (constructed_of_construct hm) hc ()
    (show ∀ piece ∈ [([7] : Buffer)], piece ≠ [] by decide)
  rcases hevents with ⟨hempty, -⟩ | ⟨bodies, last, events', e, rfl, hemitted, he, hpos, -, hcont⟩
  · cases hempty
  -- one byte is no full part
  have hlen := congrArg List.length hcont
  rw [length_append, hemitted.length_flatten, hmax] at hlen
  have hnone : events'.length = 0 := by
    simp only [List.flatten_singleton, List.length_singleton] at hlen
    omega
  obtain rfl := List.length_eq_zero_iff.mp hnone
  obtain rfl : bodies = [] := List.length_eq_zero_iff.mp hemitted.length_eq
  obtain rfl : last = [7] := hcont
  have hne : m.plainBlockSize ≠ 0 := by omega
  obtain ⟨sequenceHeader, hseq, hrecv⟩ := received_emitted he hne hdecr
  refine ⟨m, s, e, hm, hrun, sequenceHeader, ?_, hrecv, ?_⟩
  · rw [hseq]
    cases hm
    rfl
  · rw [hrecv]
    intro hremoved
    have hsmall := (removePadding_padding_iff hne hc.plainBlockSize_le _ _).mp hremoved
    omega

end NodeOpcua.PaddingRemoval
