import Mathlib.Data.List.Forall2
import NodeOpcua.ChunkManager.Layout

set_option autoImplicit false

/-!
# The chunk manager round trip

A body written to a chunk manager in any pieces comes out as the announced number of chunks, whose
bodies make up the body again. Between two calls the manager holds a finished chunk, a chunk being
filled, or neither; each method is proved once against this description of the state.

## Main definitions

* `ChunkManager.Filling`, `ChunkManager.Pending`.

## Main results

* `ChunkManager._post_process_current_chunk_spec`, `ChunkManager._push_pending_chunk_spec`,
  `ChunkManager.writeLoop_spec`.
* `ChunkManager.roundTrip`.
-/

namespace NodeOpcua

open Except (bind_eq_ok_iff)
open List (length_append length_singleton length_replicate length_drop append_assoc nil_append
  length_take take_left' length_nil)
open Patch (copy_append)
open UInt8 (ofNat)

namespace ChunkManager

variable {τ : Type} {m : ChunkManager τ}

/-! ### Padding -/

variable {pre post : Buffer}

lemma writeUInt8_append {value offset : ℕ} (hoffset : offset = pre.length)
    (hpost : 0 < post.length) (hvalue : value < 256) :
    writeUInt8 (pre ++ post) value offset =
      .ok (pre ++ ([ofNat value] ++ post.drop 1)) := by
  unfold writeUInt8
  rw [if_pos ⟨hvalue, by rw [length_append]; omega⟩]
  rw [copy_append hoffset (by rw [length_singleton]; omega), length_singleton]

lemma fill_append {start n : ℕ} (hstart : start = pre.length)
    (hpost : n ≤ post.length) (value : ℕ) :
    (if n > 0 then fill (pre ++ post) value start (start + n) else pure (pre ++ post)) =
      .ok (pre ++ (List.replicate n (ofNat value) ++ post.drop n)) := by
  split_ifs with h
  · unfold fill
    rw [if_pos (by rw [length_append]; omega), Nat.add_sub_cancel_left]
    rw [copy_append hstart (by rw [length_replicate]; omega), length_replicate]
  · obtain rfl : n = 0 := by omega
    rfl

/-- `#_write_padding_bytes` appends the padding. -/
lemma _write_padding_bytes_spec (hc : Consistent m) (h : m.plainBlockSize ≠ 0) {k cursor : ℕ}
    (hpre : cursor + m._dataOffset = pre.length) (hpost : (m.padding k).length ≤ post.length) :
    ∃ post', post.length = (m.padding k).length + post'.length ∧
      m._write_padding_bytes (pre ++ post) cursor (m.nbPaddingByteTotal k) =
        .ok (pre ++ (m.padding k ++ post'), cursor + (m.padding k).length) := by
  have hlt := nbPaddingByteTotal_lt (k := k) h
  have hmax := hc.plainBlockSize_le
  rw [length_padding h, paddingLengthBytes] at hpost ⊢
  unfold _write_padding_bytes padding
  rw [if_neg h]
  generalize m.nbPaddingByteTotal k = n at hlt hpost ⊢
  have hassert : assert (n / 256 = 0 ∨ m.plainBlockSize > 256)
      "extraNbPaddingByte only requested when key size > 2048" = .ok () := by
    rw [assert_eq_ok_iff]
    omega
  have hlen : 0 < post.length ∧ n ≤ (post.drop 1).length := by
    rw [length_drop]
    split_ifs at hpost <;> omega
  have hfirst := writeUInt8_append hpre hlen.1 (Nat.mod_lt n (by decide : 0 < 256))
  have hfill := fill_append (show cursor + 1 + m._dataOffset =
    (pre ++ [ofNat (n % 256)]).length by
      rw [length_append, length_singleton]; omega) hlen.2
  have hfill := hfill (n % 256)
  rw [append_assoc] at hfill
  by_cases hlarge : m.plainBlockSize > 256
  · simp only [if_pos hlarge] at hpost ⊢
    have hlast : 0 < ((post.drop 1).drop n).length := by
      rw [length_drop, length_drop]
      omega
    have hextra := writeUInt8_append (show cursor + 1 + n + m._dataOffset =
      (pre ++ [ofNat (n % 256)] ++ List.replicate n (ofNat (n % 256))).length by
        simp only [length_append, length_singleton, length_replicate]; omega) hlast
      (show n / 256 < 256 by omega)
    rw [append_assoc (pre ++ _)] at hextra
    refine ⟨((post.drop 1).drop n).drop 1, by simp only [length_drop]; omega, ?_⟩
    simp only [bind_eq_ok_iff]
    refine ⟨(), hassert, _, hfirst, _, hfill, _, hextra, ?_⟩
    simp only [pure, Except.pure, List.cons_append, append_assoc, nil_append]
    congr 2
    omega
  · simp only [if_neg hlarge] at hpost ⊢
    refine ⟨(post.drop 1).drop n, by simp only [length_drop]; omega, ?_⟩
    simp only [bind_eq_ok_iff]
    refine ⟨(), hassert, _, hfirst, _, hfill, ?_⟩
    simp only [pure, Except.pure, List.cons_append, append_assoc, nil_append]
    congr 2
    omega

/-- The padding part of `#_post_process_current_chunk` appends the padding; the number of bytes
that the encryption will add is the difference of the two lengths. -/
lemma padCurrentChunk_spec (hm : Constructed m) (hc : Consistent m) {pre c post : Buffer}
    (hpre : pre.length = m._dataOffset) (hle : c.length ≤ m.maxBodySize)
    (hsize : pre.length + c.length + post.length = m.chunkSize) :
    ∃ post', post.length = (m.padding c.length).length + post'.length ∧
      m.padCurrentChunk (pre ++ (c ++ post)) c.length =
        .ok (pre ++ (c ++ (m.padding c.length ++ post')),
          c.length + (m.padding c.length).length,
          (m.encryptedLength c.length : ℤ) - m.plainLength c.length) := by
  unfold padCurrentChunk
  by_cases h : m.plainBlockSize = 0
  · rw [if_neg (by omega), padding_of_plain h]
    refine ⟨post, by simp, ?_⟩
    simp [encryptedLength, h, pure, Except.pure]
  · rw [if_pos (by omega)]
    -- the padding fits in the buffer
    have hfit : (m.padding c.length).length ≤ post.length := by
      have hchunk := encryptedLength_le hm hle
      have hplain := plainLength_le_encryptedLength hc c.length
      unfold plainLength at hplain
      unfold _dataOffset at hpre
      omega
    have hcursor : c.length + m._dataOffset = (pre ++ c).length := by
      rw [length_append, hpre]
      omega
    obtain ⟨post', hpost', hpad⟩ :=
      _write_padding_bytes_spec (k := c.length) hc h hcursor hfit
    rw [append_assoc, append_assoc] at hpad
    have hadjusted : m.sequenceHeaderSize + (c.length + (m.padding c.length).length) +
        m.signatureLength = m.plainLength c.length := by
      unfold plainLength
      omega
    have hassert : assert (m.plainLength c.length % m.plainBlockSize = 0) "" = .ok () :=
      assert_eq_ok_iff.mpr (Nat.mod_eq_zero_of_dvd (dvd_plainLength h))
    refine ⟨post', hpost', ?_⟩
    simp only [bind_eq_ok_iff]
    refine ⟨_, hpad, (), ?_, ?_⟩
    · rw [hadjusted]
      exact hassert
    · have hblocks := Nat.div_mul_cancel (dvd_plainLength (k := c.length) h)
      simp only [hadjusted, pure, Except.pure, encryptedLength, h, if_false, Except.ok.injEq,
        Prod.mk.injEq, true_and]
      rw [Int.mul_sub, ← Int.natCast_mul, ← Int.natCast_mul, hblocks]

/-! ### The state between two calls -/

/-- The chunk being filled holds the part `c` of the body, and has room left. -/
structure Filling (m : ChunkManager τ) (s : State τ) (c : Buffer) : Prop where
  cursor : s._cursor = c.length
  lt : c.length < m.maxBodySize
  empty : c = [] → s._chunk = none
  holds : c ≠ [] → ∃ pre post, s._chunk = some (pre ++ (c ++ post)) ∧
    pre.length = m._dataOffset ∧ pre.length + c.length + post.length = m.chunkSize

/-- The finished chunk that waits to be emitted holds the part `b` of the body: it has its body,
its padding and its final length, and lacks headers, signature and encryption. -/
def Pending (m : ChunkManager τ) (s : State τ) (b : Buffer) : Prop :=
  ∃ header sequenceHeader tail : Buffer,
    s._pendingChunk = some (header ++ (sequenceHeader ++ (b ++ (m.padding b.length ++ tail)))) ∧
    header.length = m.headerSize ∧ sequenceHeader.length = m.sequenceHeaderSize ∧
    s._dataEnd = m._dataOffset + b.length + (m.padding b.length).length ∧
    m.sequenceHeaderSize + b.length + (m.padding b.length).length + tail.length =
      m.encryptedLength b.length

variable {s : State τ}

/-- **Finishing a chunk**: the chunk being filled becomes the pending one. -/
lemma _post_process_current_chunk_spec (hm : Constructed m) (hc : Consistent m)
    {pre c post : Buffer} (hchunk : s._chunk = some (pre ++ (c ++ post)))
    (hcursor : s._cursor = c.length) (hpre : pre.length = m._dataOffset)
    (hle : c.length ≤ m.maxBodySize)
    (hsize : pre.length + c.length + post.length = m.chunkSize) :
    ∃ s', m._post_process_current_chunk s = .ok s' ∧ Filling m s' [] ∧ Pending m s' c := by
  obtain ⟨post', hpost', hpad⟩ := padCurrentChunk_spec hm hc hpre hle hsize
  have hfits := encryptedLength_le hm hle
  have hplain := plainLength_le_encryptedLength hc c.length
  unfold _post_process_current_chunk
  rw [hchunk]
  simp only [hcursor, hpad, bind_eq_ok_iff]
  refine ⟨_, ⟨_, rfl, rfl⟩, ⟨rfl, hm.maxBodySize_pos, fun _ => rfl, fun h => absurd rfl h⟩, ?_⟩
  have hexp : ((m._dataOffset + (c.length + (m.padding c.length).length) : ℕ) : ℤ) +
      m.signatureLength + ((m.encryptedLength c.length : ℤ) - m.plainLength c.length) =
        ((m.headerSize + m.encryptedLength c.length : ℕ) : ℤ) := by
    simp only [plainLength, _dataOffset]
    omega
  have hoffset : m._dataOffset = m.headerSize + m.sequenceHeaderSize := rfl
  refine ⟨pre.take m.headerSize, pre.drop m.headerSize,
    post'.take (m.headerSize + m.encryptedLength c.length -
      (pre.length + c.length + (m.padding c.length).length)), ?_, ?_, ?_, ?_, ?_⟩
  · rw [hexp, Int.toNat_natCast, ← append_assoc (pre.take m.headerSize),
      List.take_append_drop]
    simp only [List.take_append]
    rw [List.take_of_length_le (show pre.length ≤ _ by omega),
      List.take_of_length_le (show c.length ≤ _ by omega),
      List.take_of_length_le (show (m.padding c.length).length ≤ _ by omega)]
    simp only [Nat.sub_sub, Nat.add_assoc]
  · rw [length_take]
    omega
  · rw [length_drop]
    omega
  · dsimp only
    omega
  · rw [length_take]
    omega

/-! ### Emitting a chunk -/

lemma writeHeader_spec (hm : Constructed m) (context : τ) (isLast : Bool) {header : Buffer}
    (hheader : header.length = m.headerSize) (rest : Buffer) :
    ∃ header' : Buffer, ∃ context',
      m.writeHeader context isLast (header ++ rest) = (header' ++ rest, context') ∧
      header'.length = m.headerSize ∧
      (0 < m.headerSize → ∃ writeHeaderFunc t view, m._writeHeaderFunc = some writeHeaderFunc ∧
        header' = (writeHeaderFunc.1 t view isLast (header ++ rest).length).1) := by
  unfold writeHeader
  by_cases h : m.headerSize > 0
  · obtain ⟨writeHeaderFunc, hfunc⟩ := Option.isSome_iff_exists.mp (hm.writeHeaderFunc h)
    have hlen := writeHeaderFunc.2 context header isLast (header ++ rest).length
    simp only [hfunc, if_pos h, take_left' hheader]
    refine ⟨_, _, Prod.ext (Patch.copy_replace (show 0 = ([] : Buffer).length from rfl) hlen) rfl, ?_,
      fun _ => ⟨_, _, _, rfl, rfl⟩⟩
    rw [hlen, hheader]
  · refine ⟨header, context, ?_, hheader, fun hpos => absurd hpos h⟩
    split
    · rw [if_neg h]
    · rfl

lemma writeSequenceHeader_spec (hm : Constructed m) (context : τ)
    {header sequenceHeader : Buffer} (hheader : header.length = m.headerSize)
    (hseq : sequenceHeader.length = m.sequenceHeaderSize) (rest : Buffer) :
    ∃ sequenceHeader' : Buffer, ∃ context',
      m.writeSequenceHeader context (header ++ (sequenceHeader ++ rest)) =
        (header ++ (sequenceHeader' ++ rest), context') ∧
      sequenceHeader'.length = m.sequenceHeaderSize := by
  unfold writeSequenceHeader
  by_cases h : m.sequenceHeaderSize > 0
  · obtain ⟨writeFunc, hfunc⟩ := Option.isSome_iff_exists.mp (hm.writeSequenceHeaderFunc h)
    have hlen := writeFunc.2 context sequenceHeader
    simp only [hfunc, if_pos h, List.drop_left' hheader, take_left' hseq]
    refine ⟨_, _, Prod.ext (Patch.copy_replace hheader.symm hlen) rfl, ?_⟩
    rw [hlen, hseq]
  · refine ⟨sequenceHeader, context, ?_, hseq⟩
    split
    · rw [if_neg h]
    · rfl

lemma _write_signature_spec (hc : Consistent m) (context : τ) {data tail : Buffer} {dataEnd : ℕ}
    (hdataEnd : dataEnd = data.length) (htail : m.signatureLength ≤ tail.length) :
    ∃ signature : Buffer, ∃ context',
      m._write_signature context dataEnd (data ++ tail) =
        .ok (data ++ (signature ++ tail.drop m.signatureLength), context') ∧
      signature.length = m.signatureLength ∧
      (m.securityMode ≠ .None → ∀ sign, m._signBufferFunc = some sign → ∃ t,
        signature = (sign t data).1) := by
  subst hdataEnd
  -- without a signature nothing is written
  have hnone : m.signatureLength = 0 → data ++ tail = data ++ ([] ++ tail.drop m.signatureLength) :=
    fun h => by rw [h]; rfl
  unfold _write_signature
  by_cases hmode : m.securityMode = .None
  · have hzero := hc.noneSignature hmode
    rw [if_pos hmode]
    refine ⟨[], context, ?_, hzero.symm, fun hne => absurd hmode hne⟩
    simp only [bind_eq_ok_iff, assert_eq_ok_iff]
    exact ⟨(), hzero, by rw [← hnone hzero]; rfl⟩
  · rw [if_neg hmode]
    cases hsign : m._signBufferFunc with
    | none =>
      have hzero : m.signatureLength = 0 := by
        by_contra hne
        have := (hc.signature hmode).mpr hne
        rw [hsign] at this
        cases this
      refine ⟨[], context, ?_, hzero.symm, fun _ sign h => by cases h⟩
      simp only [bind_eq_ok_iff, assert_eq_ok_iff]
      exact ⟨(), hzero, by rw [← hnone hzero]; rfl⟩
    | some sign =>
      have hne := (hc.signature hmode).mp (by rw [hsign]; rfl)
      have hlen := hc.signatureLength sign hsign context data
      refine ⟨(sign context data).1, (sign context data).2, ?_, hlen, ?_⟩
      · simp only [bind_eq_ok_iff, assert_eq_ok_iff, List.take_left]
        refine ⟨(), hne, (), hlen, ?_⟩
        rw [copy_append rfl (by omega), hlen]
        rfl
      · rintro - sign' h
        cases h
        exact ⟨context, rfl⟩

lemma _encrypt_spec (hm : Constructed m) (hc : Consistent m) (context : τ)
    {header : Buffer} (area tail : Buffer) (dataEnd k : ℕ) (hheader : header.length = m.headerSize)
    (hdataEnd : dataEnd + m.signatureLength = header.length + area.length)
    (harea : area.length = m.plainLength k)
    (htail : area.length + tail.length = m.encryptedLength k) :
    ∃ area' : Buffer, ∃ context', m._encrypt context dataEnd (header ++ (area ++ tail)) =
        .ok (header ++ area', context') ∧
      area'.length = m.encryptedLength k ∧
      (m.plainBlockSize = 0 → area' = area) ∧
      (m.plainBlockSize ≠ 0 → ∃ encrypt t, m._encryptBufferFunc = some encrypt ∧
        area' = (encrypt t area).1) := by
  unfold _encrypt
  by_cases h : m.plainBlockSize = 0
  · have htail' : tail = [] := by
      rw [encryptedLength, if_pos h] at htail
      exact List.length_eq_zero_iff.mp (by omega)
    refine ⟨area, context, ?_, ?_, fun _ => rfl, fun hne => absurd h hne⟩
    · rw [(hm.plain h).1, htail', List.append_nil]
      split_ifs <;> rfl
    · rw [harea, encryptedLength, if_pos h]
  · obtain ⟨hmode, -, hsome, -, -⟩ := hm.encrypted h
    obtain ⟨encrypt, henc⟩ := Option.isSome_iff_exists.mp hsome
    have hmod : area.length % m.plainBlockSize = 0 := by
      rw [harea]
      exact Nat.mod_eq_zero_of_dvd (dvd_plainLength h)
    have hlen := hc.encryptedLength encrypt henc context area hmod
    have hregion : ((header ++ (area ++ tail)).take (dataEnd + m.signatureLength)).drop
        m.headerSize = area := by
      rw [hdataEnd, ← append_assoc, take_left' (by rw [length_append]),
        List.drop_left' hheader]
    have hall : (encrypt context area).1.length = (area ++ tail).length := by
      rw [hlen, length_append, htail, encryptedLength, if_neg h, harea]
    rw [if_neg hmode, henc]
    simp only [hregion, if_pos (Nat.pos_of_ne_zero h), bind_eq_ok_iff, assert_eq_ok_iff]
    refine ⟨(encrypt context area).1, (encrypt context area).2,
      ⟨(), hmod, (), ?_, (), hlen, ?_⟩, ?_, fun h' => absurd h' h, fun _ => ⟨_, _, rfl, rfl⟩⟩
    · rw [hlen, Nat.mul_mod_left]
    · have hcopy := copy_append hheader.symm (Nat.le_of_eq hall)
      rw [hall, List.drop_length, List.append_nil] at hcopy
      rw [hcopy]
      rfl
    · rw [hall, length_append, htail]

/-- **Emitting a chunk**: the pending chunk gets its headers, its signature and its encryption. -/
lemma _push_pending_chunk_spec (hm : Constructed m) (hc : Consistent m) {b : Buffer}
    (hs : Pending m s b) (isLast : Bool) :
    ∃ e context, m._push_pending_chunk s isLast =
        .ok ({ s with _pendingChunk := none, context }, [e]) ∧
      m.Emitted b isLast e := by
  obtain ⟨header, sequenceHeader, tail, hpend, hheader, hseq, hdataEnd, htail⟩ := hs
  have hoffset : m._dataOffset = m.headerSize + m.sequenceHeaderSize := rfl
  have hplain := plainLength_le_encryptedLength hc b.length
  simp only [plainLength] at hplain
  obtain ⟨header', context1, hwriteHeader, hheader', hfunc⟩ :=
    writeHeader_spec hm s.context isLast hheader
      (sequenceHeader ++ (b ++ (m.padding b.length ++ tail)))
  obtain ⟨sequenceHeader', context2, hwriteSequence, hseq'⟩ :=
    writeSequenceHeader_spec hm context1 hheader' hseq
      (b ++ (m.padding b.length ++ tail))
  -- the signature covers all that comes before it
  obtain ⟨signature, context3, hsign, hsig, hsigned⟩ := _write_signature_spec hc context2
    (show s._dataEnd = (header' ++ (sequenceHeader' ++ (b ++ m.padding b.length))).length by
      simp only [length_append]; omega)
    (show m.signatureLength ≤ tail.length by omega)
  -- the area to encrypt is the rest of the chunk
  obtain ⟨area', context4, henc, hlen, harea, hencd⟩ := _encrypt_spec hm hc context3
    (sequenceHeader' ++ (b ++ (m.padding b.length ++ signature)))
    (tail.drop m.signatureLength) s._dataEnd b.length hheader'
    (by simp only [length_append]; omega)
    (by simp only [length_append, plainLength]; omega)
    (by simp only [length_append, length_drop]; omega)
  simp only [append_assoc] at hsign henc
  refine ⟨⟨header' ++ area', isLast⟩, context4, ?_, rfl, header', sequenceHeader', signature,
    hheader', hseq', hsig, fun hpos => ?_, hsigned, fun h => ?_, fun h => ?_⟩
  · unfold _push_pending_chunk
    rw [hpend]
    simp only [hwriteHeader, hwriteSequence, bind_eq_ok_iff]
    exact ⟨_, hsign, _, henc, rfl⟩
  · obtain ⟨f, t, view, hf, heq⟩ := hfunc hpos
    refine ⟨f, t, view, hf, ?_⟩
    have hsame : (header ++ (sequenceHeader ++ (b ++ (m.padding b.length ++ tail)))).length =
        (header' ++ area').length := by
      simp only [length_append, hlen]
      omega
    rw [hsame] at heq
    exact heq
  · rw [harea h, padding_of_plain h, nil_append]
  · obtain ⟨encrypt, t, hsome, heq⟩ := hencd h
    exact ⟨encrypt, t, hsome, by rw [heq]⟩

/-! ### The entry points -/

/-- What `write` and `end` leave: the part `c` of the body is being filled, or the full part
`waiting` waits to be emitted. -/
structure Holds (m : ChunkManager τ) (s : State τ) (waiting : Option Buffer) (c : Buffer) :
    Prop where
  filling : Filling m s c
  pending : ∀ b, waiting = some b → Pending m s b ∧ b.length = m.maxBodySize ∧ c = []
  idle : waiting = none → s._pendingChunk = none

/-- The events carry the given full parts of the body, none of them the last one. -/
def EmittedAll (m : ChunkManager τ) (bodies : List Buffer) (events : List Event) : Prop :=
  List.Forall₂ (fun b e => b.length = m.maxBodySize ∧ m.Emitted b false e) bodies events

variable {waiting : Option Buffer}

section

variable (hm : Constructed m) (hc : Consistent m)
include hm hc

lemma push_at_start {c : Buffer} (hs : Holds m s waiting c) :
    ∃ s' events, (if s._cursor = 0 then m._push_pending_chunk s false else pure (s, [])) =
        .ok (s', events) ∧
      EmittedAll m waiting.toList events ∧ Filling m s' c ∧ s'._pendingChunk = none := by
  cases waiting with
  | none =>
    refine ⟨s, [], ?_, .nil, hs.filling, hs.idle rfl⟩
    unfold _push_pending_chunk
    rw [hs.idle rfl]
    split_ifs <;> rfl
  | some b =>
    obtain ⟨hpend, hb, rfl⟩ := hs.pending b rfl
    obtain ⟨e, context, hpush, he⟩ := _push_pending_chunk_spec hm hc hpend false
    rw [if_pos (show s._cursor = 0 from hs.filling.cursor), hpush]
    exact ⟨_, _, rfl, .cons ⟨hb, he⟩ .nil,
      ⟨hs.filling.cursor, hs.filling.lt, hs.filling.empty, hs.filling.holds⟩, rfl⟩

lemma copyIntoChunk_spec {c data : Buffer}
    (hs : Filling m s c) {n : ℕ} (hn : n ≤ data.length) (hfit : c.length + n ≤ m.maxBodySize) :
    ∃ pre post, (m.copyIntoChunk s data n)._chunk = some (pre ++ ((c ++ data.take n) ++ post)) ∧
      pre.length = m._dataOffset ∧
      pre.length + (c ++ data.take n).length + post.length = m.chunkSize := by
  have hsize : m._dataOffset + m.maxBodySize ≤ m.chunkSize := by
    have hfits := encryptedLength_le hm (Nat.le_refl _)
    have hplain := plainLength_le_encryptedLength hc m.maxBodySize
    simp only [plainLength] at hplain
    simp only [_dataOffset]
    omega
  have htake : (data.take n).length = n := List.length_take_of_le hn
  obtain ⟨pre, post, hchunk, hpre, hlen⟩ : ∃ pre post : Buffer,
      s._chunk.getD (createFastUninitializedBuffer m.chunkSize) = pre ++ (c ++ post) ∧
      pre.length = m._dataOffset ∧ pre.length + c.length + post.length = m.chunkSize := by
    by_cases hempty : c = []
    · subst hempty
      rw [hs.empty rfl, Option.getD_none]
      refine ⟨(createFastUninitializedBuffer m.chunkSize).take m._dataOffset,
        (createFastUninitializedBuffer m.chunkSize).drop m._dataOffset, ?_, ?_, ?_⟩
      · rw [nil_append, List.take_append_drop]
      · rw [length_take, createFastUninitializedBuffer, length_replicate]
        omega
      · simp only [length_take, length_drop, createFastUninitializedBuffer,
          length_replicate, length_nil]
        omega
    · obtain ⟨pre, post, hchunk, hpre, hlen⟩ := hs.holds hempty
      exact ⟨pre, post, by rw [hchunk, Option.getD_some], hpre, hlen⟩
  have hcopy : Patch.copy (pre ++ c ++ post) (data.take n) (s._cursor + m._dataOffset) =
      pre ++ c ++ (data.take n ++ post.drop (data.take n).length) :=
    copy_append (by rw [length_append, hs.cursor, hpre]; omega) (by omega)
  refine ⟨pre, post.drop (data.take n).length, ?_, hpre, ?_⟩
  · unfold copyIntoChunk
    simp only [hchunk]
    rw [← append_assoc, hcopy]
    simp only [append_assoc]
  · rw [length_append, length_drop]
    omega

/-- **One turn of the loop of `write`**, once the waiting chunk is emitted: as much of the data as
fits is copied, and a full chunk is finished. -/
lemma fill_turn {c data : Buffer}
    (hs : Filling m s c) (hnone : s._pendingChunk = none) {n : ℕ} (hpos : 0 < n)
    (hn : n ≤ data.length) (hfit : c.length + n ≤ m.maxBodySize) :
    ∃ s' waiting' c',
      (if (m.copyIntoChunk s data n)._cursor ≥ m.maxBodySize then
        m._post_process_current_chunk (m.copyIntoChunk s data n)
      else pure (m.copyIntoChunk s data n)) = .ok s' ∧
      Holds m s' waiting' c' ∧ waiting'.toList.flatten ++ c' = c ++ data.take n ∧
      (waiting' = none → c' ≠ []) := by
  have htake : (data.take n).length = n := List.length_take_of_le hn
  have hcursor : (m.copyIntoChunk s data n)._cursor = (c ++ data.take n).length := by
    rw [length_append, htake, ← hs.cursor]
    rfl
  have hne : c ++ data.take n ≠ [] := by
    intro h
    rw [(List.append_eq_nil_iff.mp h).2, length_nil] at htake
    omega
  obtain ⟨pre, post, hchunk, hpre, hsize⟩ := copyIntoChunk_spec hm hc hs hn hfit
  split_ifs with hfull
  · obtain ⟨s', hpost, hfilling, hpend⟩ := _post_process_current_chunk_spec hm hc hchunk
      hcursor hpre (by rw [length_append]; omega) hsize
    refine ⟨s', some (c ++ data.take n), [], hpost, ⟨hfilling, ?_, fun h => (nomatch h)⟩, ?_,
      fun h => (nomatch h)⟩
    · rintro b hb
      cases hb
      rw [hcursor] at hfull
      refine ⟨hpend, ?_, rfl⟩
      rw [length_append] at hfull ⊢
      omega
    · simp
  · refine ⟨_, none, c ++ data.take n, rfl, ⟨⟨hcursor, ?_, fun h => absurd h hne,
      fun _ => ⟨pre, post, hchunk, hpre, hsize⟩⟩, fun b hb => (nomatch hb), fun _ => hnone⟩,
      by simp, fun _ => hne⟩
    omega

/-- **The loop of `write`**: the data ends up in chunks that are emitted, in the chunk that waits,
and in the one that is being filled, in this order.

**Proof sketch.** Induction on the fuel. Each turn emits the waiting chunk, copies at least one
byte after what the current chunk holds, and finishes the chunk when it is full. -/
lemma writeLoop_spec {fuel : ℕ}
    {c rest : Buffer} (hs : Holds m s waiting c) (hfuel : rest.length ≤ fuel) :
    ∃ s' events waiting' c' bodies, m.writeLoop fuel s rest = .ok (s', events) ∧
      Holds m s' waiting' c' ∧ EmittedAll m bodies events ∧
      bodies.flatten ++ (waiting'.toList.flatten ++ c') =
        waiting.toList.flatten ++ (c ++ rest) ∧
      (waiting' = none → c' = [] → waiting = none ∧ c = [] ∧ rest = []) := by
  induction fuel generalizing s waiting c rest with
  | zero =>
    obtain rfl : rest = [] := List.length_eq_zero_iff.mp (by omega)
    exact ⟨s, [], waiting, c, [], rfl, hs, .nil, by simp, fun h h' => ⟨h, h', rfl⟩⟩
  | succ fuel ih =>
    unfold writeLoop
    by_cases hrest : rest = []
    · subst hrest
      exact ⟨s, [], waiting, c, [], rfl, hs, .nil, by simp, fun h h' => ⟨h, h', rfl⟩⟩
    · have hpos : rest.length > 0 := List.length_pos_iff.mpr hrest
      rw [if_pos hpos]
      obtain ⟨s1, events1, hpush, hemitted1, hfilling1, hnone1⟩ := push_at_start hm hc hs
      have hlt := hfilling1.lt
      have hcursor := hfilling1.cursor
      obtain ⟨s2, waiting2, c2, hturn, hholds2, hcont2, hbusy2⟩ :=
        fill_turn hm hc hfilling1 hnone1 (n := min rest.length (m.maxBodySize - s1._cursor))
          (by omega) (Nat.min_le_left _ _) (by omega)
      obtain ⟨s', events', waiting', c', bodies, hloop, hholds', hemitted', hcont', hbusy'⟩ :=
        ih hholds2 (show (rest.drop (min rest.length (m.maxBodySize - s1._cursor))).length ≤ fuel
          by rw [length_drop]; omega)
      refine ⟨s', events1 ++ events', waiting', c', waiting.toList ++ bodies, ?_, hholds', ?_, ?_,
        ?_⟩
      · simp only [bind_eq_ok_iff]
        exact ⟨_, hpush, _, hturn, _, hloop, rfl⟩
      · exact List.rel_append hemitted1 hemitted'
      · rw [List.flatten_append, append_assoc, hcont', ← append_assoc _ c2,
          hcont2]
        simp only [append_assoc, List.take_append_drop]
      · intro h h'
        obtain ⟨hw, hc2, -⟩ := hbusy' h h'
        exact absurd hc2 (hbusy2 hw)

end

variable {pieces : List Buffer}

/-- The calls of `write` on nonempty pieces. -/
lemma writeAll_spec (hm : Constructed m) (hc : Consistent m) {c : Buffer} (hs : Holds m s waiting c)
    (hpieces : ∀ piece ∈ pieces, piece ≠ []) :
    ∃ s' events waiting' c' bodies, m.writeAll s pieces = .ok (s', events) ∧
      Holds m s' waiting' c' ∧ EmittedAll m bodies events ∧
      bodies.flatten ++ (waiting'.toList.flatten ++ c') =
        waiting.toList.flatten ++ (c ++ pieces.flatten) ∧
      (waiting' = none → c' = [] → waiting = none ∧ c = [] ∧ pieces = []) := by
  induction pieces generalizing s waiting c with
  | nil => exact ⟨s, [], waiting, c, [], rfl, hs, .nil, by simp, fun h h' => ⟨h, h', rfl⟩⟩
  | cons piece pieces ih =>
    have hpiece := hpieces piece List.mem_cons_self
    obtain ⟨s1, events1, waiting1, c1, bodies1, hloop, hholds1, hemitted1, hcont1, hbusy1⟩ :=
      writeLoop_spec hm hc hs (show piece.length ≤ piece.length from Nat.le_refl _)
    obtain ⟨s', events', waiting', c', bodies', hall, hholds', hemitted', hcont', hbusy'⟩ :=
      ih hholds1 fun p hp => hpieces p (List.mem_cons_of_mem _ hp)
    have hwrite : m.write s piece = .ok (s1, events1) := by
      unfold write
      simp only [bind_eq_ok_iff, assert_eq_ok_iff]
      exact ⟨(), List.length_pos_iff.mpr hpiece, hloop⟩
    refine ⟨s', events1 ++ events', waiting', c', bodies1 ++ bodies', ?_, hholds',
      List.rel_append hemitted1 hemitted', ?_, ?_⟩
    · unfold writeAll
      simp only [bind_eq_ok_iff]
      exact ⟨_, hwrite, _, hall, rfl⟩
    · rw [List.flatten_append, append_assoc, hcont', ← append_assoc _ c1,
        ← append_assoc, hcont1, List.flatten_cons]
      simp only [append_assoc]
    · intro h h'
      obtain ⟨hw, hc1, -⟩ := hbusy' h h'
      exact absurd (hbusy1 hw hc1).2.2 hpiece

variable {events : List Event} {bodies : List Buffer}

lemma EmittedAll.of_flatten_eq_nil (hm : Constructed m)
    (h : EmittedAll m bodies events) (hnil : bodies.flatten = []) :
    bodies = [] ∧ events = [] := by
  cases h with
  | nil => exact ⟨rfl, rfl⟩
  | cons he _ =>
    rw [List.flatten_cons, List.append_eq_nil_iff] at hnil
    have hlen := he.1
    rw [hnil.1, length_nil] at hlen
    have := hm.maxBodySize_pos
    omega

/-- **A whole message**: nothing is emitted for an empty body; otherwise full parts of the body
are emitted, and then a last one. -/
theorem run_spec (hm : Constructed m) (hc : Consistent m) (context : τ)
    (hpieces : ∀ piece ∈ pieces, piece ≠ []) :
    ∃ s events, m.run context pieces = .ok (s, events) ∧
      (pieces.flatten = [] ∧ events = [] ∨
        ∃ bodies last events' e, events = events' ++ [e] ∧ EmittedAll m bodies events' ∧
          m.Emitted last true e ∧ 0 < last.length ∧ last.length ≤ m.maxBodySize ∧
          bodies.flatten ++ last = pieces.flatten) := by
  have hinit : Holds m { context } none [] :=
    ⟨⟨rfl, hm.maxBodySize_pos, fun _ => rfl, fun h => absurd rfl h⟩, fun b hb => (nomatch hb),
      fun _ => rfl⟩
  obtain ⟨s, events, waiting, c, bodies, hall, hholds, hemitted, hcont, hbusy⟩ :=
    writeAll_spec hm hc hinit hpieces
  -- the last part, and the state once it waits to be emitted
  have hrun : ∀ s1 s2 events', (if s._cursor > 0 then m._post_process_current_chunk s
      else pure s) = .ok s1 → m._push_pending_chunk s1 true = .ok (s2, events') →
      m.run context pieces = .ok (s2, events ++ events') := by
    intro s1 s2 events' hpost hpush
    unfold run end_
    simp only [bind_eq_ok_iff]
    exact ⟨_, hall, _, ⟨_, hpost, hpush⟩, rfl⟩
  cases waiting with
  | some last =>
    obtain ⟨hpend, hlen, rfl⟩ := hholds.pending last rfl
    obtain ⟨e, context', hpush, he⟩ := _push_pending_chunk_spec hm hc hpend true
    have hcursor : ¬ s._cursor > 0 := by
      rw [hholds.filling.cursor, length_nil]
      omega
    refine ⟨_, _, hrun s _ _ (if_neg hcursor) hpush, .inr ⟨bodies, last, events, e, rfl, hemitted,
      he, ?_, Nat.le_of_eq hlen, by simpa using hcont⟩⟩
    rw [hlen]
    exact hm.maxBodySize_pos
  | none =>
    by_cases hempty : c = []
    · obtain ⟨-, -, rfl⟩ := hbusy rfl hempty
      subst hempty
      have hcursor : ¬ s._cursor > 0 := by
        rw [hholds.filling.cursor, length_nil]
        omega
      have hpush : m._push_pending_chunk s true = .ok (s, []) := by
        unfold _push_pending_chunk
        rw [hholds.idle rfl]
        rfl
      obtain ⟨-, rfl⟩ := hemitted.of_flatten_eq_nil hm (by simpa using hcont)
      exact ⟨_, _, hrun s _ _ (if_neg hcursor) hpush, .inl ⟨rfl, rfl⟩⟩
    · have hpos : 0 < c.length := List.length_pos_iff.mpr hempty
      obtain ⟨pre, post, hchunk, hpre, hsize⟩ := hholds.filling.holds hempty
      obtain ⟨s1, hpost, -, hpend⟩ := _post_process_current_chunk_spec hm hc hchunk
        hholds.filling.cursor hpre (Nat.le_of_lt hholds.filling.lt) hsize
      obtain ⟨e, context', hpush, he⟩ := _push_pending_chunk_spec hm hc hpend true
      have hcursor : s._cursor > 0 := by
        rw [hholds.filling.cursor]
        exact hpos
      exact ⟨_, _, hrun s1 _ _ (by rw [if_pos hcursor, hpost]) hpush, .inr ⟨bodies, c, events, e,
        rfl, hemitted, he, hpos, Nat.le_of_lt hholds.filling.lt, by simpa using hcont⟩⟩

lemma EmittedAll.forall (h : EmittedAll m bodies events) :
    ∀ e ∈ events, ∃ b, b.length = m.maxBodySize ∧ m.Emitted b false e := by
  induction h with
  | nil => simp
  | cons he _ ih =>
    intro e' he'
    rcases List.mem_cons.mp he' with rfl | he'
    · exact ⟨_, he⟩
    · exact ih e' he'

/-- **Every chunk of a message** has the layout of an emitted chunk. -/
lemma run_emitted (hm : Constructed m) (hc : Consistent m) {context : τ}
    (hpieces : ∀ piece ∈ pieces, piece ≠ []) (h : m.run context pieces = .ok (s, events)) :
    ∀ e ∈ events, ∃ body isLast, m.Emitted body isLast e := by
  obtain ⟨s', events', hrun, hevents⟩ := run_spec hm hc context hpieces
  rw [h] at hrun
  cases hrun
  rcases hevents with ⟨-, rfl⟩ | ⟨bodies, last, events', e, rfl, hemitted, he, -⟩
  · exact fun e he => absurd he List.not_mem_nil
  · intro e' he'
    rcases List.mem_append.mp he' with he' | he'
    · obtain ⟨b, -, hb⟩ := hemitted.forall e' he'
      exact ⟨b, false, hb⟩
    · obtain rfl := List.mem_singleton.mp he'
      exact ⟨last, true, he⟩

/-! ### The round trip -/

lemma EmittedAll.stripBody (hc : Consistent m) {decrypt : Buffer → Buffer}
    (hdecr : ∀ f, m._encryptBufferFunc = some f → ∀ t b, b.length % m.plainBlockSize = 0 →
      decrypt (f t b).1 = b)
    (h : EmittedAll m bodies events) :
    events.map (fun e => m.stripBody decrypt e.chunk) = bodies := by
  induction h with
  | nil => rfl
  | cons he _ ih => rw [List.map_cons, he.2.stripBody hc hdecr, ih]

lemma EmittedAll.length_flatten
    (h : EmittedAll m bodies events) : bodies.flatten.length = events.length * m.maxBodySize := by
  induction h with
  | nil => simp
  | cons he _ ih =>
    rw [List.flatten_cons, length_append, he.1, ih, List.length_cons, Nat.add_mul,
      Nat.one_mul, Nat.add_comm]

/-- **The round trip**: for a consistent chunk manager, a body written in nonempty pieces comes
out, without a failed assertion, as the announced number of chunks of at most `chunkSize` bytes
each, whose bodies make up the body. Exactly the last chunk is marked final, and each header has
been written for the length of its chunk.

**Proof sketch.** `run_spec` gives full parts of the body followed by a last one, and each event is
`Emitted` for its part. -/
theorem roundTrip {securityMode : MessageSecurityMode} {options : IChunkManagerOptions τ}
    (hconstruct : construct securityMode options = .ok m) (hc : Consistent m)
    (decrypt : Buffer → Buffer)
    (hdecrypt : ∀ f, m._encryptBufferFunc = some f → ∀ t b, b.length % m.plainBlockSize = 0 →
      decrypt (f t b).1 = b)
    (context : τ) (pieces : List Buffer) (hpieces : ∀ piece ∈ pieces, piece ≠ []) :
    ∃ s events, m.run context pieces = .ok (s, events) ∧
      events.length = (m.evaluateTotalLengthAndChunks pieces.flatten.length).2 ∧
      (events.map fun e => m.stripBody decrypt e.chunk).flatten = pieces.flatten ∧
      (∀ events' e, events = events' ++ [e] →
        e.isLast = true ∧ ∀ e' ∈ events', e'.isLast = false) ∧
      ∀ e ∈ events, e.chunk.length ≤ m.chunkSize ∧
        (0 < m.headerSize → ∃ writeHeaderFunc t view, m._writeHeaderFunc = some writeHeaderFunc ∧
          e.chunk.take m.headerSize =
            (writeHeaderFunc.1 t view e.isLast e.chunk.length).1) := by
  have hm := constructed_of_construct hconstruct
  have hMpos := hm.maxBodySize_pos
  obtain ⟨s, events, hrun, hevents⟩ := run_spec hm hc context hpieces
  refine ⟨s, events, hrun, ?_⟩
  rcases hevents with ⟨hempty, rfl⟩ |
    ⟨bodies, last, events', e, rfl, hemitted, he, hpos, hle, hcont⟩
  · refine ⟨?_, by rw [hempty]; rfl, fun events' e h => ?_, by simp⟩
    · simp only [evaluateTotalLengthAndChunks, hempty, length_nil, Nat.zero_add]
      exact (Nat.div_eq_of_lt (by omega)).symm
    · exact absurd h.symm (by simp)
  · -- what holds of one chunk, whether it is the last one or not
    have hchunk : ∀ b isLast e, b.length ≤ m.maxBodySize → m.Emitted b isLast e →
        e.chunk.length ≤ m.chunkSize ∧
        (0 < m.headerSize → ∃ writeHeaderFunc t view, m._writeHeaderFunc = some writeHeaderFunc ∧
          e.chunk.take m.headerSize =
            (writeHeaderFunc.1 t view e.isLast e.chunk.length).1) := by
      intro b isLast e hb he
      refine ⟨by rw [he.length_eq hc]; exact encryptedLength_le hm hb, fun hheader => ?_⟩
      obtain ⟨rfl, header, sequenceHeader, signature, hlen, -, -, hfunc, -, hplain,
        hencd⟩ := he
      obtain ⟨f, t, view, hf, heq⟩ := hfunc hheader
      refine ⟨f, t, view, hf, ?_⟩
      rw [← heq]
      by_cases h : m.plainBlockSize = 0
      · rw [hplain h, take_left' hlen]
      · obtain ⟨encrypt, t, -, hbytes⟩ := hencd h
        rw [hbytes, take_left' hlen]
    refine ⟨?_, ?_, ?_, ?_⟩
    · have hlen : pieces.flatten.length = events'.length * m.maxBodySize + last.length := by
        rw [← hcont, length_append, hemitted.length_flatten]
      rw [length_append, length_singleton, hlen]
      refine (Nat.div_eq_of_lt_le ?_ ?_).symm
      · rw [Nat.add_mul]
        omega
      · rw [Nat.add_mul, Nat.add_mul]
        omega
    · rw [List.map_append, List.flatten_append, hemitted.stripBody hc hdecrypt, ← hcont]
      simp [he.stripBody hc hdecrypt]
    · intro events'' e'' h
      obtain ⟨hevents, hlast⟩ := List.append_inj' h rfl
      obtain rfl := List.head_eq_of_cons_eq hlast
      subst hevents
      exact ⟨he.1, fun e' he' => (hemitted.forall e' he').elim fun _ h => h.2.1⟩
    · intro e'' he''
      rcases List.mem_append.mp he'' with he'' | he''
      · obtain ⟨b, hb, hemit⟩ := hemitted.forall e'' he''
        exact hchunk b false e'' (Nat.le_of_eq hb) hemit
      · obtain rfl := List.mem_singleton.mp he''
        exact hchunk last true e'' hle he

/-- A chunk manager for two-chunk examples: blocks of five bytes become blocks of seven. -/
def paddedOptions : IChunkManagerOptions Unit where
  chunkSize := 32
  headerSize := 4
  sequenceHeaderSize := 2
  signatureLength := 3
  plainBlockSize := 5
  cipherBlockSize := 7
  signBufferFunc := some fun t _ => ([1, 2, 3], t)
  encryptBufferFunc := some fun t b => (b ++ List.replicate (b.length / 5 * 2) 0, t)
  writeSequenceHeaderFunc := some ⟨fun t b => (b, t), fun _ _ => rfl⟩
  writeHeaderFunc := some ⟨fun t b _ n => (b.map fun _ => ofNat n, t),
    fun t b isLast n => by simp⟩

/-- Seventeen bytes, in two pieces, go through chunks of at most fourteen bytes of body. -/
theorem roundTrip_two : ∃ m s events,
    construct .SignAndEncrypt paddedOptions = .ok m ∧
      m.run () [List.replicate 9 7, List.replicate 8 5] = .ok (s, events) ∧
      events.length = 2 ∧
      (events.map fun e => m.stripBody (fun c => c.take (c.length / 7 * 5)) e.chunk).flatten =
        List.replicate 9 7 ++ List.replicate 8 5 := by
  obtain ⟨m, hm⟩ : ∃ m, construct .SignAndEncrypt paddedOptions = .ok m := ⟨_, rfl⟩
  have hc : Consistent m := by
    cases hm
    refine ⟨nofun, fun _ => by simp [paddedOptions], ?_, ?_, by decide, by decide⟩
    · rintro f ⟨⟩ t b
      rfl
    · rintro f ⟨⟩ t b h
      simp only [paddedOptions, length_append, length_replicate] at h ⊢
      omega
  obtain ⟨s, events, hrun, hlength, hbody, -⟩ := roundTrip hm hc
    (fun c => c.take (c.length / 7 * 5)) (by
      cases hm
      rintro f ⟨⟩ t b h
      have hlen : (b ++ List.replicate (b.length / 5 * 2) (0 : UInt8)).length / 7 * 5 =
          b.length := by
        simp only [paddedOptions, length_append, length_replicate] at h ⊢
        omega
      simp only [hlen, take_left']) ()
    [List.replicate 9 7, List.replicate 8 5] (by decide)
  refine ⟨m, s, events, hm, hrun, ?_, hbody⟩
  rw [hlength]
  cases hm
  rfl

/-- The constructor accepts options for which the later methods fail: room for a signature and no
function to sign, or the other way round, and blocks that encryption makes smaller. An empty piece
is refused by `write`. -/
theorem roundTrip_inconsistent :
    (∃ m : ChunkManager Unit,
      construct .Sign { chunkSize := 32, sequenceHeaderSize := 0, signatureLength := 4 } = .ok m ∧
        m.run () [[1]] = .error (.assertion "expecting NO SIGN")) ∧
    (∃ m : ChunkManager Unit,
      construct .None { chunkSize := 32, sequenceHeaderSize := 0, signatureLength := 4 } = .ok m ∧
        m.run () [[1]] = .error (.assertion "expecting NO SIGN")) ∧
    (∃ m : ChunkManager Unit,
      construct .Sign { chunkSize := 32, sequenceHeaderSize := 0,
                        signBufferFunc := some fun t _ => ([], t) } = .ok m ∧
        m.run () [[1]] = .error (.assertion "")) ∧
    (∃ m : ChunkManager Unit,
      construct .None { chunkSize := 32, sequenceHeaderSize := 0 } = .ok m ∧
        m.run () [[]] = .error (.assertion "")) ∧
    ∃ m : ChunkManager Unit,
      construct .Sign { chunkSize := 16, sequenceHeaderSize := 0, cipherBlockSize := 1,
                        plainBlockSize := 4, encryptBufferFunc := some fun t b => (b, t) } =
          .ok m ∧
        m.run () [List.replicate 32 1] = .error .outOfRange := by
  refine ⟨⟨_, rfl, rfl⟩, ⟨_, rfl, rfl⟩, ⟨_, rfl, rfl⟩, ⟨_, rfl, rfl⟩, ⟨_, rfl, ?_⟩⟩
  rfl

end ChunkManager

end NodeOpcua
