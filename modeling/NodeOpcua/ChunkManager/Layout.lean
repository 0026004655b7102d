import NodeOpcua.ChunkManager.Basic

set_option autoImplicit false

/-!
# The layout of a chunk

What one chunk of a chunk manager looks like, byte by byte, and that it fits: the padding fills
the last block to encrypt, and a body of at most `maxBodySize` bytes gives a chunk of at most
`chunkSize` bytes.

## Main definitions

* `ChunkManager.Constructed`.
* `ChunkManager.Consistent`.
* `ChunkManager.padding`, `ChunkManager.Emitted`, `ChunkManager.stripBody`.

## Main results

* `ChunkManager.constructed_of_construct`.
* `ChunkManager.encryptedLength_le`.
* `ChunkManager.Emitted.stripBody`.
-/

namespace NodeOpcua

open Except (bind_eq_ok_iff)
open List (append_assoc length_append)
open UInt8 (ofNat)

namespace ChunkManager

variable {τ : Type}

/-! ### What is known of a chunk manager -/

/-- What the constructor guarantees. The number of padding-length bytes is two for large blocks. -/
structure Constructed (m : ChunkManager τ) : Prop where
  maxBodySize_pos : 0 < m.maxBodySize
  writeHeaderFunc : 0 < m.headerSize → m._writeHeaderFunc.isSome
  writeSequenceHeaderFunc : 0 < m.sequenceHeaderSize → m._writeSequenceHeaderFunc.isSome
  plain : m.plainBlockSize = 0 → m._encryptBufferFunc = none ∧
    m.headerSize + (m.sequenceHeaderSize + m.maxBodySize + m.signatureLength) = m.chunkSize
  encrypted : m.plainBlockSize ≠ 0 → m.securityMode ≠ .None ∧ m.cipherBlockSize ≠ 0 ∧
    m._encryptBufferFunc.isSome ∧ m.headerSize ≤ m.chunkSize ∧
    m.sequenceHeaderSize + m.maxBodySize + m.signatureLength +
        (if m.plainBlockSize > 256 then 2 else 1) =
      m.plainBlockSize * ((m.chunkSize - m.headerSize) / m.cipherBlockSize)

/-- What the methods assert later, or rely on, and the constructor does not check: there is a
signing function exactly when there is room for a signature; signing and encrypting give as many
bytes as announced; encryption does not shrink a block; and the padding can be counted in two
bytes. -/
structure Consistent (m : ChunkManager τ) : Prop where
  noneSignature : m.securityMode = .None → m.signatureLength = 0
  signature : m.securityMode ≠ .None → (m._signBufferFunc.isSome ↔ m.signatureLength ≠ 0)
  signatureLength : ∀ f, m._signBufferFunc = some f → ∀ t b, (f t b).1.length = m.signatureLength
  encryptedLength : ∀ f, m._encryptBufferFunc = some f → ∀ t b, b.length % m.plainBlockSize = 0 →
    (f t b).1.length = b.length / m.plainBlockSize * m.cipherBlockSize
  blocks : m.plainBlockSize ≤ m.cipherBlockSize
  plainBlockSize_le : m.plainBlockSize ≤ 65536

variable {securityMode : MessageSecurityMode} {options : IChunkManagerOptions τ}

section

variable {m : ChunkManager τ} (h : construct securityMode options = .ok m)
include h

/-- **The constructor** accepts only what `Constructed` says. -/
theorem constructed_of_construct : Constructed m := by
  unfold construct computeMaxBodySize at h
  simp only [bind_eq_ok_iff, assert_eq_ok_iff] at h
  obtain ⟨_, hheader, _, hseq, maxBodySize, hmax, _, hpos, h⟩ := h
  obtain rfl := Except.ok.inj h
  by_cases hciph : options.cipherBlockSize = 0
  · rw [if_pos hciph] at hmax
    simp only [bind_eq_ok_iff, assert_eq_ok_iff] at hmax
    obtain ⟨_, hmode, _, hplain, hmax⟩ := hmax
    obtain rfl := Except.ok.inj hmax
    refine ⟨?_, fun h => hheader (by dsimp only at h; omega), hseq, fun _ => ⟨?_, ?_⟩,
      fun hne => absurd hplain hne⟩
    · dsimp only
      omega
    · exact if_pos hciph
    · dsimp only
      omega
  · rw [if_neg hciph] at hmax
    simp only [bind_eq_ok_iff, assert_eq_ok_iff] at hmax
    obtain ⟨_, hmode, _, hplain, _, henc, hmax⟩ := hmax
    obtain hmax := Except.ok.inj hmax
    -- a header longer than the chunk leaves no block
    have hle : options.headerSize ≤ options.chunkSize := by
      by_contra hlt
      have hquot : ((options.chunkSize : ℤ) - options.headerSize) / options.cipherBlockSize < 0 :=
        Int.ediv_neg_of_neg_of_pos (by omega) (by omega)
      have hprod := Int.mul_neg_of_pos_of_neg
        (show (0 : ℤ) < options.plainBlockSize by omega) hquot
      split_ifs at hmax <;> omega
    have hquot : ((options.chunkSize : ℤ) - options.headerSize) / options.cipherBlockSize =
        (((options.chunkSize - options.headerSize) / options.cipherBlockSize : ℕ) : ℤ) := by
      rw [Int.natCast_ediv, Int.ofNat_sub hle]
    have hprod : (options.plainBlockSize : ℤ) *
        (((options.chunkSize - options.headerSize) / options.cipherBlockSize : ℕ) : ℤ) =
        ((options.plainBlockSize *
          ((options.chunkSize - options.headerSize) / options.cipherBlockSize) : ℕ) : ℤ) :=
      (Int.natCast_mul _ _).symm
    rw [hquot, hprod] at hmax
    refine ⟨?_, fun h => hheader (by dsimp only at h; omega), hseq,
      fun h => absurd h hplain, fun _ => ⟨?_, hciph, ?_, hle, ?_⟩⟩
    · dsimp only
      omega
    · rcases hmode with rfl | rfl <;> simp
    · simpa only [hciph, if_false] using henc
    · dsimp only
      split_ifs at hmax ⊢ <;> omega

lemma fields_of_construct :
    (m.securityMode = securityMode ∧ m.headerSize = options.headerSize ∧
      m.sequenceHeaderSize = options.sequenceHeaderSize ∧
      m.signatureLength = options.signatureLength ∧ m.plainBlockSize = options.plainBlockSize ∧
      m.cipherBlockSize = options.cipherBlockSize ∧
      m._signBufferFunc = options.signBufferFunc ∧
      m._writeHeaderFunc = options.writeHeaderFunc) ∧
    (options.cipherBlockSize = 0 → m._encryptBufferFunc = none ∧
      (securityMode = .None ∨ securityMode = .Sign)) ∧
    (options.cipherBlockSize ≠ 0 → m._encryptBufferFunc = options.encryptBufferFunc) := by
  unfold construct computeMaxBodySize at h
  simp only [bind_eq_ok_iff, assert_eq_ok_iff] at h
  obtain ⟨_, -, _, -, maxBodySize, hmax, _, -, h⟩ := h
  obtain rfl := Except.ok.inj h
  refine ⟨⟨rfl, rfl, rfl, rfl, rfl, rfl, rfl, rfl⟩, fun hciph => ⟨if_pos hciph, ?_⟩,
    fun hciph => if_neg hciph⟩
  rw [if_pos hciph] at hmax
  simp only [bind_eq_ok_iff, assert_eq_ok_iff] at hmax
  obtain ⟨_, hmode, -⟩ := hmax
  exact hmode

end

/-! ### Lengths -/

variable (m : ChunkManager τ)

/-- The number of bytes that say how long the padding is. -/
def paddingLengthBytes : ℕ := if m.plainBlockSize > 256 then 2 else 1

/-- The number of padding bytes after a body of `k` bytes. -/
def nbPaddingByteTotal (k : ℕ) : ℕ :=
  (m.plainBlockSize -
    (m.sequenceHeaderSize + k + m.signatureLength + m.paddingLengthBytes) % m.plainBlockSize) %
    m.plainBlockSize

/-- The padding after a body of `k` bytes, with the bytes that say how long it is. -/
def padding (k : ℕ) : Buffer :=
  if m.plainBlockSize = 0 then []
  else
    ofNat (m.nbPaddingByteTotal k % 256) ::
      (List.replicate (m.nbPaddingByteTotal k) (ofNat (m.nbPaddingByteTotal k % 256)) ++
        if m.plainBlockSize > 256 then [ofNat (m.nbPaddingByteTotal k / 256)] else [])

/-- The number of bytes after the header, before encryption, for a body of `k` bytes. -/
def plainLength (k : ℕ) : ℕ :=
  m.sequenceHeaderSize + k + (m.padding k).length + m.signatureLength

/-- The number of bytes after the header, once encrypted. -/
def encryptedLength (k : ℕ) : ℕ :=
  if m.plainBlockSize = 0 then m.plainLength k
  else m.plainLength k / m.plainBlockSize * m.cipherBlockSize

variable {m}

lemma dvd_add_sub_mod (c : ℕ) {p : ℕ} (hp : 0 < p) : p ∣ c + (p - c % p) % p := by
  have hlt := Nat.mod_lt c hp
  have hc := Nat.div_add_mod c p
  rcases Nat.eq_zero_or_pos (c % p) with hzero | hpos
  · rw [hzero, Nat.sub_zero, Nat.mod_self, Nat.add_zero]
    exact Nat.dvd_of_mod_eq_zero hzero
  · rw [Nat.mod_eq_of_lt (by omega)]
    exact ⟨c / p + 1, by rw [Nat.mul_add]; omega⟩

variable {k : ℕ}

lemma length_padding (h : m.plainBlockSize ≠ 0) :
    (m.padding k).length = m.nbPaddingByteTotal k + m.paddingLengthBytes := by
  unfold padding paddingLengthBytes
  rw [if_neg h]
  split_ifs <;> simp

lemma padding_of_plain (h : m.plainBlockSize = 0) : m.padding k = [] := if_pos h

lemma dvd_plainLength (h : m.plainBlockSize ≠ 0) :
    m.plainBlockSize ∣ m.plainLength k := by
  have hdvd := dvd_add_sub_mod
    (m.sequenceHeaderSize + k + m.signatureLength + m.paddingLengthBytes) (Nat.pos_of_ne_zero h)
  have heq : m.plainLength k =
      m.sequenceHeaderSize + k + m.signatureLength + m.paddingLengthBytes +
        m.nbPaddingByteTotal k := by
    rw [plainLength, length_padding h]
    omega
  rw [heq]
  exact hdvd

lemma nbPaddingByteTotal_lt (h : m.plainBlockSize ≠ 0) :
    m.nbPaddingByteTotal k < m.plainBlockSize :=
  Nat.mod_lt _ (Nat.pos_of_ne_zero h)

/-- A body of at most `maxBodySize` bytes fits in the blocks of a chunk. -/
lemma plainLength_le (hm : Constructed m) (h : m.plainBlockSize ≠ 0) (hk : k ≤ m.maxBodySize) :
    m.plainLength k / m.plainBlockSize ≤ (m.chunkSize - m.headerSize) / m.cipherBlockSize := by
  obtain ⟨-, -, -, -, hmax⟩ := hm.encrypted h
  obtain ⟨q, hq⟩ := dvd_plainLength (k := k) h
  have hlt := nbPaddingByteTotal_lt (k := k) h
  have hbound : m.plainBlockSize * q <
      m.plainBlockSize * ((m.chunkSize - m.headerSize) / m.cipherBlockSize + 1) := by
    rw [← hq, plainLength, length_padding h, Nat.mul_add, ← hmax, paddingLengthBytes]
    omega
  rw [hq, Nat.mul_div_cancel_left _ (Nat.pos_of_ne_zero h)]
  exact Nat.lt_succ_iff.mp (Nat.lt_of_mul_lt_mul_left hbound)

/-- **A chunk fits**: a body of at most `maxBodySize` bytes gives a chunk of at most `chunkSize`
bytes. -/
lemma encryptedLength_le (hm : Constructed m) (hk : k ≤ m.maxBodySize) :
    m.headerSize + m.encryptedLength k ≤ m.chunkSize := by
  unfold encryptedLength
  split_ifs with h
  · obtain ⟨-, hmax⟩ := hm.plain h
    rw [plainLength, padding_of_plain h, List.length_nil]
    omega
  · obtain ⟨-, -, -, hheader, -⟩ := hm.encrypted h
    have hblocks := Nat.mul_le_mul_right m.cipherBlockSize (plainLength_le hm h hk)
    have hdiv := Nat.div_mul_le_self (m.chunkSize - m.headerSize) m.cipherBlockSize
    omega

lemma plainLength_le_encryptedLength (hc : Consistent m) (k : ℕ) :
    m.plainLength k ≤ m.encryptedLength k := by
  unfold encryptedLength
  split_ifs with h
  · exact Nat.le_refl _
  · have hmul := Nat.mul_le_mul_left (m.plainLength k / m.plainBlockSize) hc.blocks
    rw [Nat.div_mul_cancel (dvd_plainLength h)] at hmul
    exact hmul

/-! ### The bytes of an emitted chunk -/

variable (m)

/-- **The bytes of an emitted chunk** for a body: header, sequence header, body, padding and
signature, what follows the header being encrypted when there are blocks. The header has been
written for the length of the chunk, and the signature covers all that comes before it. -/
def Emitted (body : Buffer) (isLast : Bool) (e : Event) : Prop :=
  e.isLast = isLast ∧ ∃ header sequenceHeader signature : Buffer,
    header.length = m.headerSize ∧ sequenceHeader.length = m.sequenceHeaderSize ∧
    signature.length = m.signatureLength ∧
    (0 < m.headerSize → ∃ writeHeaderFunc t view, m._writeHeaderFunc = some writeHeaderFunc ∧
      header = (writeHeaderFunc.1 t view isLast e.chunk.length).1) ∧
    (m.securityMode ≠ .None → ∀ sign, m._signBufferFunc = some sign → ∃ t,
      signature = (sign t (header ++ (sequenceHeader ++ (body ++ m.padding body.length)))).1) ∧
    (m.plainBlockSize = 0 → e.chunk = header ++ (sequenceHeader ++ (body ++ signature))) ∧
    (m.plainBlockSize ≠ 0 → ∃ encrypt t, m._encryptBufferFunc = some encrypt ∧ e.chunk = header ++
      (encrypt t (sequenceHeader ++ (body ++ (m.padding body.length ++ signature)))).1)

/-- Take the padding off the end of a decrypted area: the last byte is the high byte of the
length for large blocks, and the byte before it, a padding byte or the length byte itself, the
low one. -/
def removePadding (area : Buffer) : Buffer :=
  let extra := if m.plainBlockSize > 256 then (area.getLastD 0).toNat else 0
  let area := if m.plainBlockSize > 256 then area.dropLast else area
  area.take (area.length - 1 - (extra * 256 + (area.getLastD 0).toNat))

/-- The body of a chunk, as a receiver takes it out: header, sequence header, padding and
signature are left out. -/
def stripBody (decrypt : Buffer → Buffer) (chunk : Buffer) : Buffer :=
  let area := chunk.drop m.headerSize
  let area := if m.plainBlockSize = 0 then area else decrypt area
  let area := (area.take (area.length - m.signatureLength)).drop m.sequenceHeaderSize
  if m.plainBlockSize = 0 then area else m.removePadding area

variable {m} {body : Buffer}

lemma removePadding_append (h : m.plainBlockSize ≠ 0) (hc : Consistent m) :
    m.removePadding (body ++ m.padding body.length) = body := by
  have hlt := nbPaddingByteTotal_lt (k := body.length) h
  have hmax := hc.plainBlockSize_le
  unfold removePadding padding
  simp only [h, if_false]
  generalize m.nbPaddingByteTotal body.length = n at hlt ⊢
  -- the low byte of the length is the last byte before the extra one
  have hrepeat : ∀ b : Buffer, ofNat (n % 256) ::
      (List.replicate n (ofNat (n % 256)) ++ b) =
        List.replicate n (ofNat (n % 256)) ++ [ofNat (n % 256)] ++ b := by
    intro b
    rw [← List.replicate_succ', List.replicate_succ, List.cons_append]
  have hlow : (ofNat (n % 256)).toNat = n % 256 := by
    rw [UInt8.toNat_ofNat']
    omega
  split_ifs with hlarge
  · have hextra : (ofNat (n / 256)).toNat = n / 256 := by
      rw [UInt8.toNat_ofNat']
      omega
    rw [hrepeat, ← append_assoc, ← append_assoc, List.getLastD_concat,
      List.dropLast_concat, List.getLastD_concat, hlow, hextra]
    simp only [length_append, List.length_replicate, List.length_singleton]
    rw [append_assoc, show body.length + n + 1 - 1 - (n / 256 * 256 + n % 256) = body.length
      by omega, List.take_left']
    rfl
  · rw [hrepeat, List.append_nil, ← append_assoc, List.getLastD_concat, hlow]
    simp only [length_append, List.length_replicate, List.length_singleton]
    rw [append_assoc, show body.length + n + 1 - 1 - (0 * 256 + n % 256) = body.length
      by omega, List.take_left']
    rfl

section

variable {isLast : Bool} {e : Event} (he : m.Emitted body isLast e) (hc : Consistent m)
include he hc

lemma Emitted.length_eq : e.chunk.length = m.headerSize + m.encryptedLength body.length := by
  obtain ⟨-, header, sequenceHeader, signature, hheader, hseq, hsig, -, -, hplain,
    hencd⟩ := he
  unfold encryptedLength
  split_ifs with h
  · rw [hplain h, plainLength, padding_of_plain h]
    simp only [length_append, List.length_nil]
    omega
  · obtain ⟨encrypt, t, henc, hchunk⟩ := hencd h
    have harea : (sequenceHeader ++ (body ++ (m.padding body.length ++ signature))).length =
        m.plainLength body.length := by
      simp only [length_append, plainLength]
      omega
    rw [hchunk, length_append, hheader, hc.encryptedLength encrypt henc, harea]
    rw [harea]
    exact Nat.mod_eq_zero_of_dvd (dvd_plainLength h)

/-- **An emitted chunk gives back its body**, to a receiver that can decrypt it. -/
lemma Emitted.stripBody {decrypt : Buffer → Buffer}
    (hdecr : ∀ f, m._encryptBufferFunc = some f → ∀ t b, b.length % m.plainBlockSize = 0 →
      decrypt (f t b).1 = b) :
    m.stripBody decrypt e.chunk = body := by
  obtain ⟨-, header, sequenceHeader, signature, hheader, hseq, hsig, -, -, hplain,
    hencd⟩ := he
  -- what is left once the signature and the sequence header are taken off
  have hstrip : ∀ data : Buffer,
      ((sequenceHeader ++ (data ++ signature)).take
        ((sequenceHeader ++ (data ++ signature)).length - m.signatureLength)).drop
          m.sequenceHeaderSize = data := by
    intro data
    rw [← append_assoc, length_append, hsig, Nat.add_sub_cancel, List.take_left',
      List.drop_left' hseq]
    rfl
  unfold ChunkManager.stripBody
  split_ifs with h
  · rw [hplain h, List.drop_left' hheader]
    exact hstrip body
  · obtain ⟨encrypt, t, henc, hchunk⟩ := hencd h
    have harea : (sequenceHeader ++ (body ++ (m.padding body.length ++ signature))).length =
        m.plainLength body.length := by
      simp only [length_append, plainLength]
      omega
    have hplaintext := hdecr encrypt henc t
      (sequenceHeader ++ (body ++ (m.padding body.length ++ signature)))
      (by rw [harea]; exact Nat.mod_eq_zero_of_dvd (dvd_plainLength h))
    rw [hchunk, List.drop_left' hheader]
    simp only [hplaintext]
    rw [← append_assoc body, hstrip, removePadding_append h hc]

end

end ChunkManager

end NodeOpcua
