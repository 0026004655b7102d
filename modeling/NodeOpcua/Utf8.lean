import NodeOpcua.BinaryStream

set_option autoImplicit false

/-!
# Strings in a binary stream

A string that is written to a stream is read back from it, as long as its UTF-8 bytes are within
the limit of the reader.

## Main results

* `BinaryStream.utf8Decode_flatMap`, `BinaryStream.readString_writeString`,
  `BinaryStream.readString_exceeded`.
-/

namespace NodeOpcua.BinaryStream

open Char (ofNat)
open String (utf8EncodeChar ofList)

/-! ### The decoder -/

lemma utf8Decode_cons {s t : Utf8State} {n : ℕ} {cs : List Char} (hn : n < 256)
    (h : utf8Step s n = (t, cs)) (rest : Buffer) :
    utf8Decode s (UInt8.ofNat n :: rest) = cs ++ utf8Decode t rest := by
  have htoNat : (UInt8.ofNat n).toNat = n := by
    rw [UInt8.toNat_ofNat']
    omega
  rw [utf8Decode, htoNat, h]

variable {b : ℕ}

lemma utf8Step_ascii (hb : b ≤ 0x7f) : utf8Step {} b = ({}, [ofNat b]) := by
  simp [utf8Step, utf8Start, hb]

variable {s : Utf8State}

lemma utf8Step_middle (hneeded : 2 ≤ s.needed) (hlower : s.lower ≤ b) (hupper : b ≤ s.upper) :
    utf8Step s b = ({ needed := s.needed - 1, codePoint := s.codePoint * 0x40 + b % 0x40 }, []) := by
  have h0 : s.needed ≠ 0 := by omega
  have h1 : s.needed ≠ 1 := by omega
  simp [utf8Step, h0, h1, hlower, hupper]

lemma utf8Step_last (hneeded : s.needed = 1) (hlower : s.lower ≤ b) (hupper : b ≤ s.upper) :
    utf8Step s b = ({}, [ofNat (s.codePoint * 0x40 + b % 0x40)]) := by
  simp [utf8Step, hneeded, hlower, hupper]

lemma utf8Decode_two {v : ℕ} (hlow : 0x7f < v) (hhigh : v ≤ 0x7ff) (rest : Buffer) :
    utf8Decode {} (UInt8.ofNat (v / 64 % 0x20 + 0xc0) :: UInt8.ofNat (v % 0x40 + 0x80) :: rest) =
      ofNat v :: utf8Decode {} rest := by
  have hfirst : utf8Step {} (v / 64 % 0x20 + 0xc0) =
      ({ needed := 1, codePoint := v / 64 }, []) := by
    have h1 : ¬ v / 64 % 32 + 192 ≤ 127 := by omega
    have h2 : 194 ≤ v / 64 % 32 + 192 ∧ v / 64 % 32 + 192 ≤ 223 := by omega
    have h3 : (v / 64 % 32 + 192) % 32 = v / 64 := by omega
    simp only [utf8Step, utf8Start, if_true, if_neg h1, if_pos h2, h3]
  rw [utf8Decode_cons (by omega) hfirst,
    utf8Decode_cons (by omega) (utf8Step_last rfl (by simp only; omega) (by simp only; omega))]
  have : v / 64 * 64 + (v % 64 + 128) % 64 = v := by omega
  simp only [this, List.nil_append, List.cons_append]

lemma utf8Decode_three {v : ℕ} (hlow : 0x7ff < v) (hhigh : v ≤ 0xffff)
    (hvalid : v < 0xd800 ∨ 0xdfff < v) (rest : Buffer) :
    utf8Decode {} (UInt8.ofNat (v / 4096 % 0x10 + 0xe0) :: UInt8.ofNat (v / 64 % 0x40 + 0x80) ::
      UInt8.ofNat (v % 0x40 + 0x80) :: rest) = ofNat v :: utf8Decode {} rest := by
  have hfirst : utf8Step {} (v / 4096 % 0x10 + 0xe0) =
      ({ needed := 2, codePoint := v / 4096,
         lower := if v / 4096 % 0x10 + 0xe0 = 0xe0 then 0xa0 else 0x80,
         upper := if v / 4096 % 0x10 + 0xe0 = 0xed then 0x9f else 0xbf }, []) := by
    have h1 : ¬ v / 4096 % 16 + 224 ≤ 127 := by omega
    have h2 : ¬ (194 ≤ v / 4096 % 16 + 224 ∧ v / 4096 % 16 + 224 ≤ 223) := by omega
    have h3 : 224 ≤ v / 4096 % 16 + 224 ∧ v / 4096 % 16 + 224 ≤ 239 := by omega
    have h4 : (v / 4096 % 16 + 224) % 16 = v / 4096 := by omega
    simp only [utf8Step, utf8Start, if_true, if_neg h1, if_neg h2, if_pos h3, h4]
  have hlower : (if v / 4096 % 0x10 + 0xe0 = 0xe0 then 0xa0 else 0x80) ≤ v / 64 % 0x40 + 0x80 := by
    split_ifs <;> omega
  have hupper : v / 64 % 0x40 + 0x80 ≤ if v / 4096 % 0x10 + 0xe0 = 0xed then 0x9f else 0xbf := by
    split_ifs <;> omega
  rw [utf8Decode_cons (by omega) hfirst,
    utf8Decode_cons (by omega) (utf8Step_middle (by simp only; omega) hlower hupper),
    utf8Decode_cons (by omega) (utf8Step_last rfl (by simp only; omega) (by simp only; omega))]
  have : (v / 4096 * 64 + (v / 64 % 64 + 128) % 64) * 64 + (v % 64 + 128) % 64 = v := by omega
  simp only [this, List.nil_append, List.cons_append]

lemma utf8Decode_four {v : ℕ} (hlow : 0xffff < v) (hhigh : v < 0x110000) (rest : Buffer) :
    utf8Decode {} (UInt8.ofNat (v / 262144 % 0x08 + 0xf0) ::
      UInt8.ofNat (v / 4096 % 0x40 + 0x80) :: UInt8.ofNat (v / 64 % 0x40 + 0x80) ::
      UInt8.ofNat (v % 0x40 + 0x80) :: rest) = ofNat v :: utf8Decode {} rest := by
  have hfirst : utf8Step {} (v / 262144 % 0x08 + 0xf0) =
      ({ needed := 3, codePoint := v / 262144,
         lower := if v / 262144 % 0x08 + 0xf0 = 0xf0 then 0x90 else 0x80,
         upper := if v / 262144 % 0x08 + 0xf0 = 0xf4 then 0x8f else 0xbf }, []) := by
    have h1 : ¬ v / 262144 % 8 + 240 ≤ 127 := by omega
    have h2 : ¬ (194 ≤ v / 262144 % 8 + 240 ∧ v / 262144 % 8 + 240 ≤ 223) := by omega
    have h3 : ¬ (224 ≤ v / 262144 % 8 + 240 ∧ v / 262144 % 8 + 240 ≤ 239) := by omega
    have h4 : 240 ≤ v / 262144 % 8 + 240 ∧ v / 262144 % 8 + 240 ≤ 244 := by omega
    have h5 : (v / 262144 % 8 + 240) % 8 = v / 262144 := by omega
    simp only [utf8Step, utf8Start, if_true, if_neg h1, if_neg h2, if_neg h3, if_pos h4, h5]
  have hlower :
      (if v / 262144 % 0x08 + 0xf0 = 0xf0 then 0x90 else 0x80) ≤ v / 4096 % 0x40 + 0x80 := by
    split_ifs <;> omega
  have hupper :
      v / 4096 % 0x40 + 0x80 ≤ if v / 262144 % 0x08 + 0xf0 = 0xf4 then 0x8f else 0xbf := by
    split_ifs <;> omega
  rw [utf8Decode_cons (by omega) hfirst,
    utf8Decode_cons (by omega) (utf8Step_middle (by simp only; omega) hlower hupper),
    utf8Decode_cons (by omega)
      (utf8Step_middle (by simp only; omega) (by simp only; omega) (by simp only; omega)),
    utf8Decode_cons (by omega) (utf8Step_last rfl (by simp only; omega) (by simp only; omega))]
  have : ((v / 262144 * 64 + (v / 4096 % 64 + 128) % 64) * 64 + (v / 64 % 64 + 128) % 64) * 64 +
      (v % 64 + 128) % 64 = v := by omega
  simp only [this, List.nil_append, List.cons_append]

/-- **The bytes of a character are decoded as the character.** -/
lemma utf8Decode_utf8EncodeChar (c : Char) (rest : Buffer) :
    utf8Decode {} (utf8EncodeChar c ++ rest) = c :: utf8Decode {} rest := by
  have hc : ofNat c.val.toNat = c := Char.ofNat_toNat c
  have hvalid : c.val.toNat < 0xd800 ∨ 0xdfff < c.val.toNat ∧ c.val.toNat < 0x110000 := c.valid
  unfold utf8EncodeChar
  simp only
  split_ifs with h1 h2 h3 <;> simp only [List.cons_append, List.nil_append]
  · rw [utf8Decode_cons (by omega) (utf8Step_ascii h1), hc]
    rfl
  · rw [utf8Decode_two (by omega) h2, hc]
  · rw [utf8Decode_three (by omega) h3 (by omega), hc]
  · rw [utf8Decode_four (by omega) (by omega), hc]

/-- **The decoder undoes the UTF-8 encoding.** -/
theorem utf8Decode_flatMap (cs : List Char) :
    utf8Decode {} (cs.flatMap utf8EncodeChar) = cs := by
  induction cs with
  | nil => rfl
  | cons c cs ih => rw [List.flatMap_cons, utf8Decode_utf8EncodeChar, ih]

/-! ### Bytes that decode to ASCII -/

/-- The bits read so far, with six more to come, make a character beyond ASCII. -/
def Utf8State.Last (codePoint : ℕ) : Prop :=
  2 ≤ codePoint ∧ (codePoint < 0x360 ∨ 0x380 ≤ codePoint) ∧ codePoint < 0x4400

/-- A decoder in the middle of a character can only complete it to one beyond ASCII: the ranges of
the next byte exclude overlong forms and surrogates. -/
def Utf8State.Sound (s : Utf8State) : Prop :=
  match s.needed with
  | 0 => True
  | 1 => Utf8State.Last s.codePoint
  | 2 => ∀ b, s.lower ≤ b → b ≤ s.upper → Utf8State.Last (s.codePoint * 0x40 + b % 0x40)
  | 3 => ∀ b c, s.lower ≤ b → b ≤ s.upper → 0x80 ≤ c → c ≤ 0xbf →
      Utf8State.Last ((s.codePoint * 0x40 + b % 0x40) * 0x40 + c % 0x40)
  | _ => False

lemma utf8Start_sound (hb : b < 256) :
    (utf8Start b).1.Sound ∧
      (b ≤ 0x7f ∧ utf8Start b = ({}, [ofNat b]) ∨
        (utf8Start b).1.needed ≠ 0 ∧ (utf8Start b).2 = [] ∨
        utf8Start b = ({}, [ofNat 0xfffd])) := by
  unfold utf8Start
  by_cases h1 : b ≤ 0x7f
  · rw [if_pos h1]
    exact ⟨trivial, .inl ⟨h1, rfl⟩⟩
  rw [if_neg h1]
  by_cases h2 : 0xc2 ≤ b ∧ b ≤ 0xdf
  · rw [if_pos h2]
    refine ⟨?_, .inr (.inl ⟨Nat.one_ne_zero, rfl⟩)⟩
    show Utf8State.Last (b % 0x20)
    unfold Utf8State.Last
    omega
  rw [if_neg h2]
  by_cases h3 : 0xe0 ≤ b ∧ b ≤ 0xef
  · rw [if_pos h3]
    refine ⟨fun c hlower hupper => ?_, .inr (.inl ⟨Nat.succ_ne_zero 1, rfl⟩)⟩
    unfold Utf8State.Last
    dsimp only at hlower hupper ⊢
    split_ifs at hlower hupper <;> omega
  rw [if_neg h3]
  by_cases h4 : 0xf0 ≤ b ∧ b ≤ 0xf4
  · rw [if_pos h4]
    refine ⟨fun c d hlower hupper hd hd' => ?_, .inr (.inl ⟨Nat.succ_ne_zero 2, rfl⟩)⟩
    unfold Utf8State.Last
    dsimp only at hlower hupper ⊢
    split_ifs at hlower hupper <;> omega
  rw [if_neg h4]
  exact ⟨trivial, .inr (.inr rfl)⟩

lemma toNat_ofNat {n : ℕ} (h : n.isValidChar) : (ofNat n).toNat = n := by
  rw [ofNat, dif_pos h]
  exact UInt32.toNat_ofNatLT

lemma Utf8State.Last.not_ascii {codePoint b : ℕ} (h : Utf8State.Last codePoint) :
    0x80 ≤ (ofNat (codePoint * 0x40 + b % 0x40)).toNat := by
  obtain ⟨h1, h2, h3⟩ := h
  have hvalid : (codePoint * 0x40 + b % 0x40).isValidChar := by
    rcases h2 with h2 | h2
    · exact .inl (by omega)
    · exact .inr ⟨by omega, by omega⟩
  rw [toNat_ofNat hvalid]
  omega

/-- **A character in progress ends beyond ASCII.** -/
lemma exists_not_ascii (hs : s.Sound) (hneeded : s.needed ≠ 0) (bs : Buffer) :
    ∃ c ∈ utf8Decode s bs, 0x80 ≤ c.toNat := by
  have hreplacement : 0x80 ≤ (ofNat 0xfffd).toNat := by decide
  induction bs generalizing s with
  | nil =>
    rw [utf8Decode, if_neg hneeded]
    exact ⟨_, List.mem_singleton_self _, hreplacement⟩
  | cons b bs ih =>
    have hb := b.toNat_lt
    generalize hn : b.toNat = n at hb
    rw [utf8Decode, hn]
    by_cases hrange : s.lower ≤ n ∧ n ≤ s.upper
    · by_cases h1 : s.needed = 1
      · have hlast : Utf8State.Last s.codePoint := by
          unfold Utf8State.Sound at hs
          rw [h1] at hs
          exact hs
        rw [utf8Step_last h1 hrange.1 hrange.2]
        exact ⟨_, List.mem_append_left _ (List.mem_singleton_self _), hlast.not_ascii⟩
      · rw [utf8Step_middle (by omega) hrange.1 hrange.2]
        refine (ih ?_ ?_).imp fun c hc => ⟨List.mem_append_right _ hc.1, hc.2⟩
        · unfold Utf8State.Sound at hs ⊢
          split at hs
          · contradiction
          · contradiction
          next hneeded => rw [hneeded]; exact hs n hrange.1 hrange.2
          next hneeded =>
            rw [hneeded]
            exact fun c hc hc' => hs n c hrange.1 hrange.2 hc hc'
          · exact hs.elim
        · show s.needed - 1 ≠ 0
          omega
    · have hstep : utf8Step s n = ((utf8Start n).1, ofNat 0xfffd :: (utf8Start n).2) := by
        rw [utf8Step, if_neg hneeded, if_neg hrange]
      rw [hstep]
      exact ⟨_, List.mem_append_left _ List.mem_cons_self, hreplacement⟩

/-- **Only the bytes of an ASCII text decode to it.** -/
theorem eq_of_utf8Decode_ascii {bs : Buffer} (h : ∀ c ∈ utf8Decode {} bs, c.toNat < 0x80) :
    bs = (utf8Decode {} bs).flatMap utf8EncodeChar := by
  induction bs with
  | nil => rfl
  | cons b bs ih =>
    have hb := b.toNat_lt
    have hstep : utf8Step {} b.toNat = utf8Start b.toNat := rfl
    rw [utf8Decode, hstep] at h ⊢
    obtain ⟨hsound, ⟨hle, heq⟩ | ⟨hneeded, -⟩ | heq⟩ := utf8Start_sound hb
    · rw [heq] at h ⊢
      have hchar : utf8EncodeChar (ofNat b.toNat) = [b] := by
        have hvalue : (ofNat b.toNat).val.toNat = b.toNat :=
          toNat_ofNat (.inl (by omega))
        simp [utf8EncodeChar, hvalue, hle]
      rw [List.flatMap_append, List.flatMap_singleton, hchar,
        ← ih fun c hc => h c (List.mem_append_right _ hc)]
      rfl
    · obtain ⟨c, hc, hge⟩ := exists_not_ascii hsound hneeded bs
      have := h c (List.mem_append_right _ hc)
      omega
    · rw [heq] at h
      have := h _ (List.mem_append_left _ (List.mem_singleton_self _))
      exact absurd this (by decide)

/-! ### Strings -/

lemma toUTF8_ofList (cs : List Char) :
    (ofList cs).toUTF8.data.toList = cs.flatMap utf8EncodeChar := by
  simp [List.utf8Encode]

lemma toUtf8String_toUTF8 (s : String) : toUtf8String s.toUTF8.data.toList = s := by
  obtain ⟨cs, rfl⟩ : ∃ cs, s = ofList cs := ⟨s.toList, String.ofList_toList.symm⟩
  rw [toUTF8_ofList, toUtf8String, utf8Decode_flatMap]

lemma readUInt32_uint32Bytes {n : ℕ} (hn : n < 2 ^ 32) (rest : Buffer) :
    readUInt32 { buffer := uint32Bytes n ++ rest } =
      .ok (n, { buffer := uint32Bytes n ++ rest, length := 4 }) := by
  rw [readUInt32_eq_ok_iff]
  refine ⟨by simp, ?_⟩
  rw [List.drop_zero, leUInt32_uint32Bytes hn]

lemma readPrefixed_eq {s s' : BinaryStream} {bufLen : ℕ} (reader : String)
    (h : readUInt32 s = .ok (bufLen, s')) :
    readPrefixed reader s =
      if bufLen = 0xffffffff then .ok (none, s')
      else if bufLen = 0 then .ok (some [], s')
      else if bufLen > maxStringLength then
        .error (.maxLengthExceeded reader maxStringLength bufLen)
      else readBytes bufLen s' := by
  unfold readPrefixed
  simp only [bind, StateT.bind, h, Except.bind]
  split_ifs <;> rfl

/-- **A string that is written is read back**, when its bytes are within the limit. -/
theorem readString_writeString {s : String} (hs : s.toUTF8.data.toList.length ≤ maxStringLength) :
    ∃ t, readString { buffer := writeString (some s) } = .ok (some s, t) := by
  have hmax : maxStringLength = 16777216 := rfl
  have hbytes : writeString (some s) =
      uint32Bytes s.toUTF8.data.toList.length ++ s.toUTF8.data.toList := rfl
  have hdec := toUtf8String_toUTF8 s
  rw [hbytes]
  generalize s.toUTF8.data.toList = b at hs hdec ⊢
  have hprefixed :=
    readPrefixed_eq "readString" (readUInt32_uint32Bytes (n := b.length) (by omega) b)
  rw [if_neg (by omega)] at hprefixed
  unfold readString
  simp only [bind, StateT.bind, hprefixed]
  by_cases h0 : b.length = 0
  · obtain rfl := List.length_eq_zero_iff.mp h0
    exact ⟨_, by rw [← hdec]; rfl⟩
  · rw [if_neg h0, if_neg (by omega)]
    have hread : readBytes b.length { buffer := uint32Bytes b.length ++ b, length := 4 } =
        .ok (some b, { buffer := uint32Bytes b.length ++ b, length := 4 + b.length }) := by
      have hdrop : (uint32Bytes b.length ++ b).drop 4 = b := rfl
      simp [readBytes, hdrop]
    rw [hread]
    exact ⟨_, by rw [← hdec]; rfl⟩

/-- **A string over the limit is refused** by the reader. -/
theorem readString_exceeded {s : String} (hs : maxStringLength < s.toUTF8.data.toList.length)
    (hmax : s.toUTF8.data.toList.length < 0xffffffff) :
    readString { buffer := writeString (some s) } =
      .error (.maxLengthExceeded "readString" maxStringLength s.toUTF8.data.toList.length) := by
  have hbytes : writeString (some s) =
      uint32Bytes s.toUTF8.data.toList.length ++ s.toUTF8.data.toList := rfl
  rw [hbytes]
  generalize s.toUTF8.data.toList = b at hs hmax ⊢
  have hprefixed :=
    readPrefixed_eq "readString" (readUInt32_uint32Bytes (n := b.length) (by omega) b)
  rw [if_neg (by omega), if_neg (by omega), if_pos hs] at hprefixed
  unfold readString
  simp only [bind, StateT.bind, hprefixed]
  rfl

end NodeOpcua.BinaryStream
