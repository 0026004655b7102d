import NodeOpcua.NumericRange.Basic

set_option autoImplicit false

/-!
# The grammar of numeric ranges

The strings that the parser accepts, as a grammar: one dimension, or two with a comma between them,
where a dimension is an index or two indexes with a colon between them.

## Main definitions

* `Dimension`, `IsNumericRange`.
* `LeavesBoundOut`.

## Main results

* `construct_dimensions`, `construct_cases`, `construct_grammar`.
-/

namespace NodeOpcua

open Number (parseInt lt ge)

/-- A dimension as it is written. -/
inductive Dimension
  | index (digits : List Char)
  | range (low high : List Char)

namespace Dimension

/-- The indexes of a dimension. -/
def indexes : Dimension → List (List Char)
  | index digits => [digits]
  | range low high => [low, high]

/-- A dimension as a string. -/
def render (d : Dimension) : List Char := [':'].intercalate d.indexes

/-- Each index is a string of digits. -/
def Digits (d : Dimension) : Prop := ∀ i ∈ d.indexes, ∀ c ∈ i, c.isDigit

/-- Each index has a digit. -/
def Complete (d : Dimension) : Prop := ∀ i ∈ d.indexes, i ≠ []

/-- The number that an index is. -/
def number (digits : List Char) : Number := .ofNat (Nat.ofDigitChars 10 digits 0)

/-- The first bound is lower than the second, where both are written. -/
def Increasing : Dimension → Prop
  | index _ => True
  | range low high => low = [] ∨ high = [] ∨ lt (number low) (number high)

/-- The bounds of a dimension, for a way to read an index. -/
def bounds (read : List Char → Number) : Dimension → Number × Number
  | index digits => (read digits, read digits)
  | range low high => (read low, read high)

/-- The range that one dimension stands for. -/
def toRange (read : List Char → Number) : Dimension → NumericRange
  | index digits => .singleValue (read digits)
  | range low high => .arrayRange (read low) (read high)

end Dimension

/-- The dimensions of a string: one or two of them, in digits, with increasing bounds. -/
structure Dimensions (s : List Char) (dims : List Dimension) : Prop where
  one_or_two : dims.length = 1 ∨ dims.length = 2
  render_eq : s = [','].intercalate (dims.map Dimension.render)
  digits : ∀ d ∈ dims, d.Digits
  increasing : ∀ d ∈ dims, d.Increasing

/-- **A string of the grammar**, with its dimensions. -/
def IsNumericRange (s : List Char) (dims : List Dimension) : Prop :=
  Dimensions s dims ∧ ∀ d ∈ dims, d.Complete

/-- A string of one or two dimensions in which an index has no digit. -/
def LeavesBoundOut (s : List Char) : Prop := ∃ dims, Dimensions s dims ∧ ∃ d ∈ dims, ¬ d.Complete

/-- The range that dimensions stand for, for a way to read an index. -/
def rangeOf (read : List Char → Number) : List Dimension → NumericRange
  | [d] => d.toRange read
  | [row, col] => .matrixRange (.bounds (row.bounds read).1 (row.bounds read).2) (col.bounds read)
  | _ => .invalidRange []

/-! ### Splitting -/

lemma mem_splitOn {c : Char} (s : List Char) :
    ∀ piece ∈ s.splitOn c, ∀ x ∈ piece, x ∈ s ∧ x ≠ c := by
  induction s with
  | nil => simp [List.splitOn_nil]
  | cons a s ih =>
    cases hs : s.splitOn c with
    | nil => exact absurd hs (List.splitOn_ne_nil c s)
    | cons first rest =>
      rw [hs] at ih
      rw [List.splitOn_cons_eq_if_modifyHead, hs]
      split_ifs with ha
      · intro piece hpiece x hx
        rcases List.mem_cons.mp hpiece with rfl | hpiece
        · simp at hx
        · have := ih piece hpiece x hx
          simp [this]
      · simp only [List.modifyHead_cons, List.forall_mem_cons] at ih ⊢
        refine ⟨⟨by simpa using ha, fun x hx => ?_⟩, fun piece hpiece x hx => ?_⟩
        · have := ih.1 x hx
          simp [this]
        · have := ih.2 piece hpiece x hx
          simp [this]

lemma isDigit_ne {c sep : Char} (hc : c.isDigit) (hsep : sep.isDigit = false) : c ≠ sep := by
  rintro rfl
  simp [hc] at hsep

variable {d : Dimension}

lemma Dimension.splitOn_render (hd : d.Digits) :
    d.render.splitOn ':' = d.indexes := by
  refine List.splitOn_intercalate ':' (fun i hi hmem => ?_) ?_
  · exact isDigit_ne (hd i hi ':' hmem) rfl rfl
  · cases d <;> simp [indexes]

lemma Dimension.mem_render (hd : d.Digits) {c : Char} (hc : c ∈ d.render) :
    c.isDigit ∨ c = ':' := by
  cases d with
  | index digits => exact .inl (hd digits (by simp [indexes]) c (by simpa [render, indexes] using hc))
  | range low high =>
    have hlow := hd low (by simp [indexes])
    have hhigh := hd high (by simp [indexes])
    have hmem : c ∈ low ∨ c = ':' ∨ c ∈ high := by
      simpa [render, indexes, List.intercalate] using hc
    rcases hmem with h | h | h
    · exact .inl (hlow c h)
    · exact .inr h
    · exact .inl (hhigh c h)

variable {dims : List Dimension} {s : List Char}

lemma splitOn_dimensions (h : Dimensions s dims) :
    s.splitOn ',' = dims.map Dimension.render := by
  rw [h.render_eq]
  refine List.splitOn_intercalate ',' (fun piece hpiece hmem => ?_) ?_
  · obtain ⟨d, hd, rfl⟩ := List.mem_map.mp hpiece
    rcases Dimension.mem_render (h.digits d hd) hmem with h | h <;> simp at h
  · have := h.one_or_two
    rintro hnil
    simp_all

/-! ### One dimension -/

lemma _valid_range_parseInt {low high : List Char} (hlow : ∀ c ∈ low, c.isDigit)
    (hhigh : ∀ c ∈ high, c.isDigit) :
    _valid_range (parseInt low) (parseInt high) = true ↔ (Dimension.range low high).Increasing := by
  by_cases hl : low = []
  · subst hl
    by_cases hh : high = []
    · subst hh
      simp [_valid_range, Dimension.Increasing, ge]
    · simp [_valid_range, Dimension.Increasing, ge, Number.parseInt_digits hh hhigh]
  · by_cases hh : high = []
    · subst hh
      simp [_valid_range, Dimension.Increasing, ge, Number.parseInt_digits hl hlow]
    · simp [_valid_range, Dimension.Increasing, ge, Number.parseInt_digits hl hlow,
        Number.parseInt_digits hh hhigh, hl, hh, Dimension.number]

/-- **A written dimension is read index by index.** -/
lemma construct_bit_render (hd : d.Digits) (hinc : d.Increasing) :
    construct_numeric_range_bit_from_string d.render = d.toRange parseInt := by
  unfold construct_numeric_range_bit_from_string
  rw [d.splitOn_render hd]
  cases d with
  | index digits => rfl
  | range low high =>
    have hlow := hd low (by simp [Dimension.indexes])
    have hhigh := hd high (by simp [Dimension.indexes])
    have hvalid := (_valid_range_parseInt hlow hhigh).mpr hinc
    simp [Dimension.indexes, hvalid, Dimension.toRange]

lemma construct_bit_cases {str : List Char} (hstr : ∀ c ∈ str, c.isDigit ∨ c = ':') :
    (∃ d : Dimension, str = d.render ∧ d.Digits ∧ d.Increasing) ∨
      construct_numeric_range_bit_from_string str = .invalidRange str := by
  have hpiece : ∀ piece ∈ str.splitOn ':', ∀ c ∈ piece, c.isDigit := by
    intro piece hpiece c hc
    obtain ⟨hmem, hne⟩ := mem_splitOn str piece hpiece c hc
    exact (hstr c hmem).resolve_right hne
  have hjoin : [':'].intercalate (str.splitOn ':') = str := List.intercalate_splitOn ':'
  unfold construct_numeric_range_bit_from_string
  match hsplit : str.splitOn ':' with
  | [] => exact .inr rfl
  | [value] =>
    rw [hsplit] at hpiece hjoin
    exact .inl ⟨.index value, hjoin.symm, hpiece, trivial⟩
  | [low, high] =>
    rw [hsplit] at hpiece hjoin
    have hvalid := _valid_range_parseInt (hpiece low (by simp)) (hpiece high (by simp))
    by_cases h : _valid_range (parseInt low) (parseInt high) = true
    · exact .inl ⟨.range low high, hjoin.symm, hpiece, hvalid.mp h⟩
    · right
      simp [h]
  | _ :: _ :: _ :: _ => exact .inr rfl

lemma normalize_invalidRange (str : List Char) : _normalize (.invalidRange str) = none := rfl

lemma normalize_toRange (read : List Char → Number) (d : Dimension) :
    _normalize (d.toRange read) = some (d.bounds read) := by
  cases d <;> rfl

/-! ### The grammar -/

lemma regexNumericRange_dimensions (h : Dimensions s dims) : regexNumericRange s = true := by
  have hmem : ∀ c ∈ s, c.isDigit ∨ c = ':' ∨ c = ',' := by
    intro c hc
    have hdim : ∀ d ∈ dims, c ∈ d.render → c.isDigit ∨ c = ':' ∨ c = ',' := by
      intro d hd hc
      have := Dimension.mem_render (h.digits d hd) hc
      tauto
    rw [h.render_eq] at hc
    match dims, h.one_or_two with
    | [d], _ => exact hdim d (by simp) (by simpa using hc)
    | [d₁, d₂], _ =>
      have hc : c ∈ d₁.render ∨ c = ',' ∨ c ∈ d₂.render := by
        simpa [List.intercalate] using hc
      rcases hc with hc | hc | hc
      · exact hdim d₁ (by simp) hc
      · exact .inr (.inr hc)
      · exact hdim d₂ (by simp) hc
  unfold regexNumericRange
  rw [List.all_eq_true]
  intro c hc
  simpa [or_assoc] using hmem c hc

/-- **The parser reads back what is written**, index by index. -/
lemma construct_dimensions (h : Dimensions s dims) :
    construct_numeric_range_from_string s = rangeOf parseInt dims := by
  have hbit : ∀ d ∈ dims, construct_numeric_range_bit_from_string d.render = d.toRange parseInt :=
    fun d hd => construct_bit_render (h.digits d hd) (h.increasing d hd)
  unfold construct_numeric_range_from_string
  rw [regexNumericRange_dimensions h, splitOn_dimensions h]
  match dims, h.one_or_two with
  | [d], _ => simpa [rangeOf] using hbit d (by simp)
  | [d₁, d₂], _ =>
    simp only [List.map_cons, List.map_nil, hbit d₁ (by simp), hbit d₂ (by simp),
      normalize_toRange, rangeOf]
    simp

lemma rangeOf_congr {read read' : List Char → Number}
    (h : ∀ d ∈ dims, ∀ i ∈ d.indexes, read i = read' i) :
    rangeOf read dims = rangeOf read' dims := by
  have hd : ∀ d ∈ dims, d.toRange read = d.toRange read' ∧ d.bounds read = d.bounds read' := by
    intro d hd
    have hi := h d hd
    cases d with
    | index digits =>
      have := hi digits (by simp [Dimension.indexes])
      simp [Dimension.toRange, Dimension.bounds, this]
    | range low high =>
      have hlow := hi low (by simp [Dimension.indexes])
      have hhigh := hi high (by simp [Dimension.indexes])
      simp [Dimension.toRange, Dimension.bounds, hlow, hhigh]
  match dims with
  | [] => rfl
  | [d] => exact (hd d (by simp)).1
  | [row, col] => simp [rangeOf, (hd row (by simp)).2, (hd col (by simp)).2]
  | _ :: _ :: _ :: _ => rfl

lemma construct_render (h : IsNumericRange s dims) :
    construct_numeric_range_from_string s = rangeOf Dimension.number dims := by
  obtain ⟨hdims, hfull⟩ := h
  rw [construct_dimensions hdims]
  refine rangeOf_congr fun d hd i hi => ?_
  exact Number.parseInt_digits (hfull d hd i hi) (hdims.digits d hd i hi)

/-- **Any other string is refused**, and its value is kept. -/
lemma construct_cases (s : List Char) :
    (∃ dims, Dimensions s dims) ∨ construct_numeric_range_from_string s = .invalidRange s := by
  by_cases hregex : regexNumericRange s = true
  swap
  · right
    simp [construct_numeric_range_from_string, hregex]
  have hpiece : ∀ piece ∈ s.splitOn ',', ∀ c ∈ piece, c.isDigit ∨ c = ':' := by
    intro piece hpiece c hc
    obtain ⟨hmem, hne⟩ := mem_splitOn s piece hpiece c hc
    have := List.all_eq_true.mp hregex c hmem
    simp only [Bool.or_eq_true, decide_eq_true_eq] at this
    tauto
  have hjoin : [','].intercalate (s.splitOn ',') = s := List.intercalate_splitOn ','
  unfold construct_numeric_range_from_string
  match hsplit : s.splitOn ',' with
  | [] => simp [hregex]
  | [value] =>
    rw [hsplit] at hpiece hjoin
    have hvalue : value = s := by simpa using hjoin
    rcases construct_bit_cases (hpiece value (by simp)) with ⟨d, hd, hdigits, hinc⟩ | h
    · exact .inl ⟨[d], .inl rfl, by simp [← hd, hvalue], by simpa, by simpa⟩
    · right
      rw [hvalue] at h
      simp [hregex, h, hvalue]
  | [row, col] =>
    rw [hsplit] at hpiece hjoin
    rcases construct_bit_cases (hpiece row (by simp)) with ⟨d₁, hd₁, hdigits₁, hinc₁⟩ | h₁
    · rcases construct_bit_cases (hpiece col (by simp)) with ⟨d₂, hd₂, hdigits₂, hinc₂⟩ | h₂
      · left
        refine ⟨[d₁, d₂], .inr rfl, ?_, ?_, ?_⟩
        · simp [← hd₁, ← hd₂, hjoin]
        · simp [hdigits₁, hdigits₂]
        · simp [hinc₁, hinc₂]
      · right
        simp [hregex, h₂, normalize_invalidRange]
    · right
      simp [hregex, h₁, normalize_invalidRange]
  | _ :: _ :: _ :: _ => simp [hregex]

lemma isValid_rangeOf (h : IsNumericRange s dims) :
    (rangeOf Dimension.number dims).isValid = true := by
  match dims, h.1.one_or_two with
  | [d], _ => cases d <;> simp [rangeOf, Dimension.toRange, NumericRange.isValid, Dimension.number]
  | [_, _], _ => rfl

/-- **The parser accepts the grammar.** A string that leaves no bound out gives a valid range
exactly when it is of the grammar; the bounds of the range are then the numbers that are written,
which are kept exactly up to 53 bits. Any other such string gives an invalid range whose value is
the string. -/
theorem construct_grammar (s : List Char) (h : ¬ LeavesBoundOut s) :
    ((construct_numeric_range_from_string s).isValid = true ↔ ∃ dims, IsNumericRange s dims) ∧
      (∀ dims, IsNumericRange s dims → construct_numeric_range_from_string s =
          rangeOf Dimension.number dims ∧
        ∀ d ∈ dims, ∀ i ∈ d.indexes, Nat.ofDigitChars 10 i 0 ≤ 2 ^ 53 →
          ∃ x, Dimension.number i = .finite x ∧ x.val = Nat.ofDigitChars 10 i 0) ∧
      ((¬ ∃ dims, IsNumericRange s dims) →
        construct_numeric_range_from_string s = .invalidRange s) := by
  have hcases : (∃ dims, IsNumericRange s dims) ∨
      construct_numeric_range_from_string s = .invalidRange s := by
    rcases construct_cases s with ⟨dims, hdims⟩ | hinval
    · refine .inl ⟨dims, hdims, fun d hd => ?_⟩
      by_contra hfull
      exact h ⟨dims, hdims, d, hd, hfull⟩
    · exact .inr hinval
  refine ⟨⟨fun hvalid => ?_, ?_⟩, fun dims hdims => ⟨construct_render hdims, ?_⟩, hcases.resolve_left⟩
  · refine hcases.resolve_right fun hinval => ?_
    rw [hinval] at hvalid
    simp [NumericRange.isValid] at hvalid
  · rintro ⟨dims, hdims⟩
    rw [construct_render hdims]
    exact isValid_rangeOf hdims
  · exact fun d _ i _ hle => Number.ofNat_exact hle

/-- A string of the grammar, and one that is not: `3:4` and `4:3`. -/
theorem construct_grammar_range :
    (construct_numeric_range_from_string "3:4".toList =
        .arrayRange (Dimension.number ['3']) (Dimension.number ['4'])) ∧
      construct_numeric_range_from_string "a".toList = .invalidRange "a".toList := by
  have hgrammar : IsNumericRange "3:4".toList [.range ['3'] ['4']] := by
    refine ⟨⟨.inl rfl, rfl, ?_, ?_⟩, ?_⟩
    · simp [Dimension.Digits, Dimension.indexes]
    · have : lt (Dimension.number ['3']) (Dimension.number ['4']) = true := by decide +kernel
      simp [Dimension.Increasing, this]
    · simp [Dimension.Complete, Dimension.indexes]
  have hletter : ¬ ∃ dims, Dimensions "a".toList dims := by
    rintro ⟨dims, hdims⟩
    have := regexNumericRange_dimensions hdims
    exact absurd this (by decide)
  have hwhole : ¬ LeavesBoundOut "3:4".toList := by
    rintro ⟨dims, hdims, d, hd, hfull⟩
    have hsplit := splitOn_dimensions hdims
    have hone : "3:4".toList.splitOn ',' = ["3:4".toList] := by decide
    rw [hone] at hsplit
    obtain ⟨d', rfl⟩ : ∃ d', dims = [d'] := by
      rw [← List.length_eq_one_iff]
      simpa using (congrArg List.length hsplit).symm
    obtain rfl := List.mem_singleton.mp hd
    have hindexes := d.splitOn_render (hdims.digits d hd)
    rw [← show "3:4".toList = d.render by simpa using hsplit] at hindexes
    have htwo : "3:4".toList.splitOn ':' = [['3'], ['4']] := by decide
    rw [htwo] at hindexes
    refine hfull fun i hi => ?_
    rw [← hindexes] at hi
    rintro rfl
    simp at hi
  refine ⟨((construct_grammar _ hwhole).2.1 _ hgrammar).1, ?_⟩
  refine (construct_grammar _ ?_).2.2 ?_
  · rintro ⟨dims, hdims, -⟩
    exact hletter ⟨dims, hdims⟩
  · rintro ⟨dims, hdims, -⟩
    exact hletter ⟨dims, hdims⟩

/-- Three dimensions are not supported: a comma-separated list of indexes that is refused. -/
theorem construct_three_dimensions :
    ¬ ∀ s : List Char, (construct_numeric_range_from_string s).isValid = true ↔
      ∃ dims : List Dimension, dims ≠ [] ∧ s = [','].intercalate (dims.map Dimension.render) ∧
        ∀ d ∈ dims, d.Digits ∧ d.Complete ∧ d.Increasing := by
  intro h
  have hinval : (construct_numeric_range_from_string "1,2,3".toList).isValid = false := by decide
  refine absurd ((h "1,2,3".toList).mpr ?_) (hinval ▸ Bool.false_ne_true)
  refine ⟨[.index ['1'], .index ['2'], .index ['3']], by simp, rfl, fun d hd => ?_⟩
  have hd : d = .index ['1'] ∨ d = .index ['2'] ∨ d = .index ['3'] := by simpa using hd
  rcases hd with rfl | rfl | rfl <;>
    simp [Dimension.Digits, Dimension.Complete, Dimension.Increasing, Dimension.indexes]

end NodeOpcua
