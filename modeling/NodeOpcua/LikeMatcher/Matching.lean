import Mathlib.Computability.Language
import NodeOpcua.LikeMatcher.Basic

set_option autoImplicit false

/-!
# Matching

What a pattern means: the language of its elements, one after the other. The matcher, with its
record of failures, decides whether the subject is in this language.

## Main definitions

* `PatternElement.Accepts`, `PatternElement.language`, `patternLanguage`.

## Main results

* `matchFrom_decides`, `LikePattern.test_iff`.

## Design

A key of the record is an index in the pattern times a stride plus an index in the subject. Since
the stride is longer than the subject, quotient and remainder give the two indices back, and the
question that a key stands for is stated with them (`Recorded`).
-/

namespace NodeOpcua

section

variable (conversion : CaseConversion) (caseInsensitive : Bool)

/-! ### The meaning of a pattern -/

/-- Two characters are equal, possibly up to case. -/
def SameChar (a b : UInt16) : Prop :=
  a = b ∨ caseInsensitive = true ∧ conversion.toLowerCase a = conversion.toLowerCase b

section

variable (chars : List UInt16) (ranges : List (UInt16 × UInt16))

/-- **The members of a list**: its characters, and what lies between the ends of a range. -/
def InList (s : List UInt16) : Prop :=
  (∃ c ∈ chars, [c] = s) ∨ ∃ range ∈ ranges, [range.1] ≤ s ∧ s ≤ [range.2]

/-- A character is in a list, possibly in its other case. -/
def InListUpToCase (c : UInt16) : Prop :=
  InList chars ranges [c] ∨ caseInsensitive = true ∧
    (InList chars ranges (conversion.toLowerCase c) ∨
      InList chars ranges (conversion.toUpperCase c))

end

/-- **The characters that an element accepts**. -/
def PatternElement.Accepts : PatternElement → UInt16 → Prop
  | .anyString, _ => True
  | .anyChar, _ => True
  | .literal value, c => SameChar conversion caseInsensitive c value
  | .list false chars ranges, c => InListUpToCase conversion caseInsensitive chars ranges c
  | .list true chars ranges, c => ¬ InListUpToCase conversion caseInsensitive chars ranges c

/-- **The subjects of one element**: any for `%`, and one accepted character otherwise. -/
def PatternElement.language : PatternElement → Language UInt16
  | .anyString => ⊤
  | element => {s | ∃ c, s = [c] ∧ element.Accepts conversion caseInsensitive c}

/-- **The subjects of a pattern**: those of its elements, one after the other. -/
def patternLanguage (elements : List PatternElement) : Language UInt16 :=
  (elements.map (PatternElement.language conversion caseInsensitive)).prod

end

section

variable {conversion : CaseConversion} {caseInsensitive : Bool}

/-- `charEquals` compares up to case. -/
lemma charEquals_iff (a b : UInt16) :
    charEquals conversion caseInsensitive a b = true ↔ SameChar conversion caseInsensitive a b := by
  simp [charEquals, SameChar]

/-- `isMember` tests for the members of a list. -/
lemma isMember_iff (chars : List UInt16) (ranges : List (UInt16 × UInt16)) (s : List UInt16) :
    isMember chars ranges s = true ↔ InList chars ranges s := by
  simp [isMember, InList]

/-- `listMatches` tests for the members of a list, or for the others. -/
lemma listMatches_iff (negated : Bool) (chars : List UInt16) (ranges : List (UInt16 × UInt16))
    (c : UInt16) :
    listMatches conversion caseInsensitive negated chars ranges c = true ↔
      (PatternElement.list negated chars ranges).Accepts conversion caseInsensitive c := by
  -- the other case of a character that has none is the character itself
  have hmember : (isMember chars ranges [c] || caseInsensitive &&
      (conversion.toLowerCase c != [c] && isMember chars ranges (conversion.toLowerCase c) ||
        conversion.toUpperCase c != [c] && isMember chars ranges (conversion.toUpperCase c))) =
      true ↔ InListUpToCase conversion caseInsensitive chars ranges c := by
    unfold InListUpToCase
    simp only [Bool.or_eq_true, Bool.and_eq_true, bne_iff_ne, isMember_iff]
    by_cases hc : InList chars ranges [c]
    · simp only [hc, true_or]
    · have hne : ∀ s, InList chars ranges s → s ≠ [c] := by
        rintro s hs rfl
        exact hc hs
      constructor
      · rintro (h | ⟨hci, ⟨-, h⟩ | ⟨-, h⟩⟩)
        · exact Or.inl h
        · exact Or.inr ⟨hci, Or.inl h⟩
        · exact Or.inr ⟨hci, Or.inr h⟩
      · rintro (h | ⟨hci, h | h⟩)
        · exact Or.inl h
        · exact Or.inr ⟨hci, Or.inl ⟨hne _ h, h⟩⟩
        · exact Or.inr ⟨hci, Or.inr ⟨hne _ h, h⟩⟩
  unfold listMatches
  cases negated with
  | false =>
    rw [if_neg (by decide), hmember]
    rfl
  | true =>
    rw [if_pos rfl, Bool.not_eq_true', ← Bool.not_eq_true, hmember]
    rfl

/-- **One character** is tested as the element says. -/
lemma matchesChar_iff (element : PatternElement) (c : UInt16) :
    matchesChar conversion caseInsensitive element c = true ↔
      element.Accepts conversion caseInsensitive c := by
  cases element with
  | anyString | anyChar => exact iff_of_true rfl trivial
  | literal value => exact charEquals_iff c value
  | list negated chars ranges => exact listMatches_iff negated chars ranges c

/-! ### The language of a pattern -/

lemma mem_patternLanguage_nil (s : List UInt16) :
    s ∈ patternLanguage conversion caseInsensitive [] ↔ s = [] := Language.mem_one s

/-- **A `%`** matches any beginning of the subject. -/
lemma mem_patternLanguage_anyString (elements : List PatternElement) (s : List UInt16) :
    s ∈ patternLanguage conversion caseInsensitive (.anyString :: elements) ↔
      ∃ rest, rest <:+ s ∧ rest ∈ patternLanguage conversion caseInsensitive elements := by
  constructor
  · rintro ⟨before, -, rest, hrest, rfl⟩
    exact ⟨rest, List.suffix_append before rest, hrest⟩
  · rintro ⟨rest, ⟨before, rfl⟩, hrest⟩
    exact ⟨before, trivial, rest, hrest, rfl⟩

variable {element : PatternElement}

/-- **Any other element** matches one accepted character. -/
lemma mem_patternLanguage_cons (hne : element ≠ .anyString)
    (elements : List PatternElement) (s : List UInt16) :
    s ∈ patternLanguage conversion caseInsensitive (element :: elements) ↔
      ∃ c rest, s = c :: rest ∧ element.Accepts conversion caseInsensitive c ∧
        rest ∈ patternLanguage conversion caseInsensitive elements := by
  have hlanguage : element.language conversion caseInsensitive =
      {s | ∃ c, s = [c] ∧ element.Accepts conversion caseInsensitive c} := by
    cases element with
    | anyString => exact absurd rfl hne
    | anyChar => rfl
    | literal value => rfl
    | list negated chars ranges => rfl
  unfold patternLanguage
  rw [List.map_cons, List.prod_cons, Language.mem_mul, hlanguage]
  constructor
  · rintro ⟨-, ⟨c, rfl, hc⟩, rest, hrest, rfl⟩
    exact ⟨c, rest, rfl, hc, hrest⟩
  · rintro ⟨c, rest, rfl, hc, hrest⟩
    exact ⟨[c], ⟨c, rfl, hc⟩, rest, hrest, rfl⟩

/-- A `%` at the end matches everything. -/
lemma mem_patternLanguage_last (s : List UInt16) :
    s ∈ patternLanguage conversion caseInsensitive [.anyString] := by
  rw [mem_patternLanguage_anyString]
  exact ⟨[], List.nil_suffix, (mem_patternLanguage_nil []).mpr rfl⟩

/-! ### The matcher -/

/-- **The question that a key stands for**: does the rest of the pattern match the rest of the
subject? -/
def Recorded (conversion : CaseConversion) (caseInsensitive : Bool)
    (elements : List PatternElement) (subject : List UInt16) (key : ℕ) : Prop :=
  subject.drop (key % (subject.length + 1)) ∈
    patternLanguage conversion caseInsensitive (elements.drop (key / (subject.length + 1)))

variable {all : List PatternElement} {subject : List UInt16}

lemma recorded_key {e t : ℕ} (ht : t ≤ subject.length) :
    Recorded conversion caseInsensitive all subject (e * (subject.length + 1) + t) ↔
      subject.drop t ∈ patternLanguage conversion caseInsensitive (all.drop e) := by
  have hdiv : (e * (subject.length + 1) + t) / (subject.length + 1) = e := by
    rw [Nat.mul_comm, Nat.mul_add_div (by omega), Nat.div_eq_of_lt (by omega), Nat.add_zero]
  have hmod : (e * (subject.length + 1) + t) % (subject.length + 1) = t := by
    rw [Nat.mul_comm, Nat.mul_add_mod, Nat.mod_eq_of_lt (by omega)]
  rw [Recorded, hdiv, hmod]

/-- **The loop at a `%`** decides whether what follows matches some rest of the subject. -/
lemma tryFrom_decides {elementIndex : ℕ} {next : List UInt16 → ℕ → Memo.Search ℕ}
    (hnext : ∀ t ≤ subject.length, Memo.Decides (Recorded conversion caseInsensitive all subject)
      (subject.drop t ∈ patternLanguage conversion caseInsensitive (all.drop (elementIndex + 1)))
      (next (subject.drop t) t))
    (text : List UInt16) (skip : ℕ) (htext : text = subject.drop skip)
    (hskip : skip ≤ subject.length) :
    Memo.Decides (Recorded conversion caseInsensitive all subject)
      (∃ rest, rest <:+ text ∧
        rest ∈ patternLanguage conversion caseInsensitive (all.drop (elementIndex + 1)))
      (tryFrom (subject.length + 1) elementIndex next text skip) := by
  have hattempt : ∀ t ≤ subject.length,
      Memo.Decides (Recorded conversion caseInsensitive all subject)
        (subject.drop t ∈ patternLanguage conversion caseInsensitive (all.drop (elementIndex + 1)))
        (Memo.attempt ((elementIndex + 1) * (subject.length + 1) + t)
          (next (subject.drop t) t)) := by
    intro t ht
    apply (Memo.decides_attempt _).congr (recorded_key ht)
    exact (hnext t ht).congr (recorded_key ht).symm
  induction text generalizing skip with
  | nil =>
    rw [tryFrom, htext]
    apply (hattempt skip hskip).congr
    rw [← htext]
    constructor
    · exact fun h => ⟨[], List.nil_suffix, h⟩
    · rintro ⟨rest, hrest, h⟩
      rwa [List.suffix_nil.mp hrest] at h
  | cons c text ih =>
    have hlt : skip < subject.length := by
      by_contra hge
      rw [List.drop_of_length_le (by omega)] at htext
      cases htext
    have htail : text = subject.drop (skip + 1) := by
      rw [← List.drop_drop, ← htext]
      rfl
    have hfirst := hattempt skip hskip
    rw [← htext] at hfirst
    apply (hfirst.or (ih (skip + 1) htail (by omega))).congr
    constructor
    · rintro (h | ⟨rest, hrest, h⟩)
      · exact ⟨c :: text, List.suffix_refl _, h⟩
      · exact ⟨rest, hrest.trans (List.suffix_cons c text), h⟩
    · rintro ⟨rest, hrest, h⟩
      rcases List.suffix_cons_iff.mp hrest with rfl | hrest
      · exact Or.inl h
      · exact Or.inr ⟨rest, hrest, h⟩

section

variable (hany : element ≠ .anyString) (stride : ℕ) (elements : List PatternElement)
include hany

lemma matchFrom_exhausted (elementIndex textIndex : ℕ) :
    matchFrom conversion caseInsensitive stride (element :: elements) elementIndex [] textIndex =
      fun failed => (false, failed) := by
  cases element with
  | anyString => exact absurd rfl hany
  | anyChar => rfl
  | literal value => rfl
  | list negated chars ranges => rfl

lemma matchFrom_char (elementIndex : ℕ) (c : UInt16) (text : List UInt16) (textIndex : ℕ) :
    matchFrom conversion caseInsensitive stride (element :: elements) elementIndex (c :: text)
        textIndex =
      if matchesChar conversion caseInsensitive element c then
        matchFrom conversion caseInsensitive stride elements (elementIndex + 1) text (textIndex + 1)
      else fun failed => (false, failed) := by
  cases element with
  | anyString => exact absurd rfl hany
  | anyChar => rfl
  | literal value => rfl
  | list negated chars ranges => rfl

end

/-- **The matcher** decides membership in the language of the pattern. -/
theorem matchFrom_decides (elements : List PatternElement) (elementIndex : ℕ)
    (text : List UInt16) (textIndex : ℕ) (helements : elements = all.drop elementIndex)
    (htext : text = subject.drop textIndex) (hle : textIndex ≤ subject.length) :
    Memo.Decides (Recorded conversion caseInsensitive all subject)
      (text ∈ patternLanguage conversion caseInsensitive elements)
      (matchFrom conversion caseInsensitive (subject.length + 1) elements elementIndex text
        textIndex) := by
  induction elements generalizing elementIndex text textIndex with
  | nil =>
    apply Memo.Decides.pure
    rw [mem_patternLanguage_nil, List.isEmpty_iff]
  | cons element elements ih =>
    have hrest : elements = all.drop (elementIndex + 1) := by
      rw [← List.drop_drop, ← helements]
      rfl
    by_cases hany : element = .anyString
    · subst hany
      rw [matchFrom]
      split_ifs with hlast
      · subst hlast
        apply Memo.Decides.pure
        exact iff_of_true rfl (mem_patternLanguage_last text)
      · rw [mem_patternLanguage_anyString, hrest]
        apply tryFrom_decides _ text textIndex htext hle
        intro t ht
        have hdecides := ih (elementIndex + 1) (subject.drop t) t hrest rfl ht
        rwa [hrest] at hdecides
    · rw [mem_patternLanguage_cons hany]
      cases text with
      | nil =>
        rw [matchFrom_exhausted hany]
        apply Memo.Decides.pure
        simp
      | cons c text =>
        have hlt : textIndex < subject.length := by
          by_contra hge
          rw [List.drop_of_length_le (by omega)] at htext
          cases htext
        have htail : text = subject.drop (textIndex + 1) := by
          rw [← List.drop_drop, ← htext]
          rfl
        rw [matchFrom_char hany]
        split_ifs with hchar
        · apply (ih (elementIndex + 1) text (textIndex + 1) hrest htail hlt).congr
          constructor
          · exact fun h => ⟨c, text, rfl, (matchesChar_iff element c).mp hchar, h⟩
          · rintro ⟨c', text', heq, -, h⟩
            rwa [(List.cons.inj heq).2]
        · apply Memo.Decides.pure
          refine iff_of_false Bool.false_ne_true ?_
          rintro ⟨c', text', heq, hc', -⟩
          rw [← (List.cons.inj heq).1] at hc'
          exact hchar ((matchesChar_iff element c).mpr hc')

/-- **The test of a pattern** decides membership in its language. -/
theorem LikePattern.test_iff (p : LikePattern) (subject : List UInt16) :
    p.test conversion subject = true ↔
      subject ∈ patternLanguage conversion p.caseInsensitive p.elements := by
  have hdecides : Memo.Decides (Recorded conversion p.caseInsensitive p.elements subject) _ _ :=
    matchFrom_decides p.elements 0 subject 0 rfl rfl (Nat.zero_le _)
  exact (hdecides ∅ Memo.sound_empty).1

end

end NodeOpcua
