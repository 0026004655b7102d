import NodeOpcua.BasicTypes.Int64
import NodeOpcua.Library.NumberPrinting

set_option autoImplicit false

/-!
# The text of a qualified name

A qualified name is printed with its namespace index, unless that is 0, and read again.

## Main definitions

* `DataModel.stringToQualifiedName`, `DataModel.QualifiedName.toString`.
* `DataModel.hasIndex`.

## Design

* The numbers are those of the language, as `parseFloat` and `parseInt` read them.
-/

namespace NodeOpcua.DataModel

open Char (isDigit)
open Number (nan ofNat toChars)

/-! ### The source -/

/-- A qualified name; its constructor has no check of the index. -/
structure QualifiedName where
  namespaceIndex : Number
  name : Option (List Char)

/-- `new QualifiedName`. -/
def QualifiedName.new (namespaceIndex : Number) (name : List Char) : QualifiedName :=
  ⟨if namespaceIndex = nan ∨ namespaceIndex = ofNat 0 then ofNat 0 else namespaceIndex,
    if name = [] then none else some name⟩

/-- `toString`. -/
def QualifiedName.toString (q : QualifiedName) : List Char :=
  if q.namespaceIndex ≠ nan ∧ q.namespaceIndex ≠ ofNat 0 then
    toChars q.namespaceIndex ++ ':' :: q.name.getD "null".toList
  else
    match q.name with
    | none | some [] => "<null>".toList
    | some name => name

/-- The exponent that a text starts with. -/
def exponentPrefix : List Char → ℤ
  | [] => 0
  | c :: cs =>
    if c = 'e' ∨ c = 'E' then
      match cs with
      | '-' :: ds => -ofDecimal (ds.takeWhile isDigit)
      | '+' :: ds => ofDecimal (ds.takeWhile isDigit)
      | ds => ofDecimal (ds.takeWhile isDigit)
    else 0

/-- The number without a sign that a text starts with. -/
def unsignedPrefix (cs : List Char) : Number :=
  if "Infinity".toList <+: cs then .infinity false
  else
    let whole := cs.takeWhile isDigit
    let (fraction, rest) : List Char × List Char :=
      match cs.dropWhile isDigit with
      | '.' :: rest => (rest.takeWhile isDigit, rest.dropWhile isDigit)
      | rest => ([], rest)
    if whole ++ fraction = [] then nan
    else Number.ofRat (ofDecimal (whole ++ fraction) * 10 ^ (exponentPrefix rest - fraction.length))

/-- `parseFloat`. -/
def parseFloat (cs : List Char) : Number :=
  match cs.dropWhile isWhiteSpace with
  | '-' :: cs => (unsignedPrefix cs).neg
  | '+' :: cs => unsignedPrefix cs
  | cs => unsignedPrefix cs

/-- `parseInt(value, 10)`. -/
def parseInteger (cs : List Char) : Number :=
  match parseInt cs with
  | none => nan
  | some n => Number.ofInt n

/-- `isInteger`. -/
def isInteger : Number → Bool
  | .finite x => x.val.isInt
  | _ => false

/-- The test for a namespace index at the beginning of a text. -/
def hasIndex (value : List Char) : Bool :=
  let splitArray := value.splitOn ':'
  let first := splitArray.headD []
  parseFloat first ≠ nan && (parseInteger first).isFinite && isInteger (parseFloat first) &&
    decide (1 < splitArray.length)

/-- `stringToQualifiedName`. -/
def stringToQualifiedName (value : List Char) : QualifiedName :=
  let splitArray := value.splitOn ':'
  if hasIndex value then .new (parseInteger (splitArray.headD [])) ([':'].intercalate splitArray.tail)
  else .new (ofNat 0) value

/-- `coerceQualifiedName`, for a string. -/
def coerceQualifiedName (value : List Char) : Option QualifiedName :=
  if value = [] then none else some (stringToQualifiedName value)

/-! ### What is expected -/

/-- A plain decimal number in the range of a namespace index. -/
def IsPlainIndex (first : List Char) : Prop :=
  first ≠ [] ∧ (∀ c ∈ first, c.isDigit = true) ∧ ofDecimal first < 65536

/-- **A text is read as it should**: with a plain index before its first colon, or as a whole. -/
def ReadPlainly (value : List Char) : Prop :=
  (':' ∉ value → stringToQualifiedName value = ⟨ofNat 0, some value⟩) ∧
  ∀ first rest, value = first ++ ':' :: rest → ':' ∉ first →
    (IsPlainIndex first → stringToQualifiedName value = ⟨ofNat (ofDecimal first), some rest⟩) ∧
    (¬ IsPlainIndex first → stringToQualifiedName value = ⟨ofNat 0, some value⟩)

/-! ### The text of an index -/

variable {first rest value : List Char}

lemma splitOn_first (h : ':' ∉ first) :
    (first ++ ':' :: rest).splitOn ':' = first :: rest.splitOn ':' :=
  List.splitOn_append_cons_self_of_not_mem h rest

lemma stringToQualifiedName_colon (h : ':' ∉ first) :
    stringToQualifiedName (first ++ ':' :: rest) =
      if hasIndex (first ++ ':' :: rest) then .new (parseInteger first) rest
      else .new (ofNat 0) (first ++ ':' :: rest) := by
  rw [stringToQualifiedName, splitOn_first h, List.headD_cons, List.tail_cons, List.intercalate_splitOn]

lemma hasIndex_noColon (h : ':' ∉ value) : hasIndex value = false := by
  simp [hasIndex, List.splitOn_eq_singleton h]

lemma exists_first (h : hasIndex value = true) :
    ∃ first rest, value = first ++ ':' :: rest ∧ ':' ∉ first := by
  by_cases hcolon : ':' ∈ value
  · exact List.eq_append_cons_of_mem hcolon
  · rw [hasIndex_noColon hcolon] at h
    cases h

lemma unsignedPrefix_digits {N : ℕ} {ds : List Char} (hne : ds ≠ [])
    (hds : ∀ c ∈ ds, c.isDigit = true) (hN : ofDecimal ds = N) : unsignedPrefix ds = ofNat N := by
  have htake : ds.takeWhile isDigit = ds := List.takeWhile_eq_self_iff.mpr hds
  have hdrop : ds.dropWhile isDigit = [] := List.dropWhile_eq_nil_iff.mpr hds
  have hinfinity : ¬ "Infinity".toList <+: ds := by
    rintro ⟨t, rfl⟩
    cases hds 'I' List.mem_cons_self
  rw [unsignedPrefix, if_neg hinfinity]
  simp only [htake, hdrop, List.append_nil]
  rw [if_neg hne, hN]
  simp only [exponentPrefix, List.length_nil, Nat.cast_zero, sub_zero, zpow_zero, mul_one]
  rcases N.eq_zero_or_pos with rfl | hpos
  · rw [Number.ofRat, dif_neg (by simp)]
  · have hpos' : (0 : ℚ) < N := by exact_mod_cast hpos
    rw [Number.ofRat, dif_pos hpos']
    rfl

/-- **Digits** are read as the number that they denote. -/
lemma read_digits {N : ℕ} {ds : List Char} (hne : ds ≠ []) (hds : ∀ c ∈ ds, c.isDigit = true)
    (hN : ofDecimal ds = N) : parseFloat ds = ofNat N ∧ parseInteger ds = ofNat N := by
  cases ds with
  | nil => exact absurd rfl hne
  | cons d ds =>
    have hd := hds d List.mem_cons_self
    have hspace : (d :: ds).dropWhile isWhiteSpace = d :: ds :=
      List.dropWhile_cons_of_neg (by simp [(isDigit_chars hd).1])
    have htake : (d :: ds).takeWhile isDigit = d :: ds := List.takeWhile_eq_self_iff.mpr hds
    have hminus : d ≠ '-' := by
      rintro rfl
      cases hd
    have hplus : d ≠ '+' := by
      rintro rfl
      cases hd
    have hprefix := unsignedPrefix_digits hne hds hN
    constructor
    · unfold parseFloat
      rw [hspace]
      split
      · exact absurd (List.cons.inj ‹_›).1 hminus
      · exact absurd (List.cons.inj ‹_›).1 hplus
      · exact hprefix
    · have hparse : parseInt (d :: ds) = some (N : ℤ) := by
        unfold parseInt
        rw [hspace]
        split
        · exact absurd (List.cons.inj ‹_›).1 hminus
        · exact absurd (List.cons.inj ‹_›).1 hplus
        · simp [htake, hN]
      rw [parseInteger, hparse]
      simp only [Number.ofInt, Int.natAbs_natCast, if_neg (not_lt.mpr (Int.natCast_nonneg N))]

variable {x : Number.Double} {N : ℕ}

/-- **Digits before a colon** are read as an index. -/
lemma stringToQualifiedName_digits (first rest : List Char) (hne : first ≠ [])
    (hds : ∀ c ∈ first, c.isDigit = true) (hN : ofDecimal first = N) (hx : ofNat N = .finite x)
    (hint : x.val.isInt = true) :
    hasIndex (first ++ ':' :: rest) = true ∧
      stringToQualifiedName (first ++ ':' :: rest) = .new (ofNat N) rest := by
  have hcolon : ':' ∉ first := fun hmem => by
    cases hds _ hmem
  obtain ⟨hfloat, hinteger⟩ := read_digits hne hds hN
  have hindex : hasIndex (first ++ ':' :: rest) = true := by
    have hlength := List.length_pos_iff.mpr (List.splitOn_ne_nil ':' rest)
    rw [hasIndex, splitOn_first hcolon]
    simp only [List.headD_cons, hfloat, hinteger, hx, List.length_cons]
    simp [isInteger, hint, Number.isFinite, hlength]
  exact ⟨hindex, by rw [stringToQualifiedName_colon hcolon, if_pos hindex, hinteger]⟩

lemma ofNat_small (h : N < 65536) : ∃ x : Number.Double, ofNat N = .finite x ∧ x.val = N :=
  Number.ofNat_exact (by omega)

lemma new_eq {name : List Char} (v : Number) (hv : v ≠ nan) (hname : name ≠ []) :
    QualifiedName.new v name = ⟨v, some name⟩ := by
  by_cases hzero : v = ofNat 0
  · simp [QualifiedName.new, hzero, hname]
  · simp [QualifiedName.new, hzero, hv, hname]

lemma stringToQualifiedName_index (h : hasIndex value = true) :
    stringToQualifiedName value ≠ ⟨ofNat 0, some value⟩ := by
  obtain ⟨first, rest, rfl, hcolon⟩ := exists_first h
  rw [stringToQualifiedName_colon hcolon, if_pos h]
  intro heq
  have hname := congrArg QualifiedName.name heq
  simp only [QualifiedName.new] at hname
  split_ifs at hname
  have hlength := congrArg List.length (Option.some.inj hname)
  simp at hlength
  omega

lemma stringToQualifiedName_whole (h : hasIndex value = false) (hvalue : value ≠ []) :
    stringToQualifiedName value = ⟨ofNat 0, some value⟩ := by
  rw [stringToQualifiedName, h]
  exact new_eq _ (Number.ofNat_ne_nan 0) hvalue

/-! ### The round trip -/

lemma coerceQualifiedName_zero {name : List Char} (hname : name ≠ []) :
    coerceQualifiedName (QualifiedName.toString ⟨ofNat 0, some name⟩) = some ⟨ofNat 0, some name⟩ ↔
      hasIndex name = false := by
  have htext : QualifiedName.toString ⟨ofNat 0, some name⟩ = name := by
    cases name with
    | nil => exact absurd rfl hname
    | cons c cs => simp [QualifiedName.toString]
  rw [htext, coerceQualifiedName, if_neg hname, Option.some_inj]
  constructor
  · intro h
    by_contra hindex
    exact stringToQualifiedName_index (by simpa using hindex) h
  · exact fun h => stringToQualifiedName_whole h hname

/-- **An index that is not 0** is printed, and read. -/
lemma coerceQualifiedName_index {name : List Char} {n : ℕ} (hname : name ≠ []) (hn : n < 65536)
    (hpos : n ≠ 0) :
    coerceQualifiedName (QualifiedName.toString ⟨ofNat n, some name⟩) =
      some ⟨ofNat n, some name⟩ := by
  obtain ⟨x, hx, hval⟩ := ofNat_small hn
  obtain ⟨z, hz, hzval⟩ := ofNat_small (N := 0) (by omega)
  have hzero : ofNat n ≠ ofNat 0 := by
    rw [hx, hz]
    intro heq
    cases heq
    rw [hval] at hzval
    exact hpos (by exact_mod_cast hzval)
  obtain ⟨hne, hds, hread⟩ := Number.toChars_index ⟨x, hx, n, hval, by omega⟩
  have htext : QualifiedName.toString ⟨ofNat n, some name⟩ = toChars (ofNat n) ++ ':' :: name := by
    simp [QualifiedName.toString, hzero]
  rw [htext, coerceQualifiedName, if_neg (by simp)]
  rw [(stringToQualifiedName_digits _ _ hne hds rfl (hread.trans hx) (by rw [hval]; rfl)).2]
  rw [show ofNat (ofDecimal (toChars (ofNat n))) = ofNat n from hread]
  rw [new_eq _ (Number.ofNat_ne_nan n) hname]

/-! ### The texts -/

/-- **When a text is read as it should.** -/
lemma readPlainly_iff : ReadPlainly value ↔ value ≠ [] ∧
    ∀ first rest, value = first ++ ':' :: rest → ':' ∉ first → hasIndex value = true →
      IsPlainIndex first ∧ rest ≠ [] := by
  constructor
  · intro h
    refine ⟨?_, fun first rest hvalue hcolon hindex => ?_⟩
    · rintro rfl
      have hname := congrArg QualifiedName.name (h.1 List.not_mem_nil)
      simp [stringToQualifiedName, QualifiedName.new, hasIndex_noColon] at hname
    · obtain ⟨hplain, hother⟩ := h.2 first rest hvalue hcolon
      have hfirst : IsPlainIndex first := by
        by_contra hnot
        exact stringToQualifiedName_index hindex (hother hnot)
      refine ⟨hfirst, ?_⟩
      rintro rfl
      have hname := congrArg QualifiedName.name (hplain hfirst)
      subst hvalue
      rw [stringToQualifiedName_colon hcolon, if_pos hindex] at hname
      simp [QualifiedName.new] at hname
  · rintro ⟨hvalue, h⟩
    refine ⟨fun hcolon => stringToQualifiedName_whole (hasIndex_noColon hcolon) hvalue, ?_⟩
    rintro first rest rfl hcolon
    refine ⟨fun hplain => ?_, fun hnot => ?_⟩
    · obtain ⟨hne, hds, hlt⟩ := hplain
      obtain ⟨x, hx, hval⟩ := ofNat_small hlt
      have hint : x.val.isInt = true := by
        rw [hval]
        rfl
      obtain ⟨hindex, hread⟩ := stringToQualifiedName_digits _ _ hne hds rfl hx hint
      rw [hread]
      exact new_eq _ (Number.ofNat_ne_nan _) (h first rest rfl hcolon hindex).2
    · refine stringToQualifiedName_whole ?_ hvalue
      by_contra hindex
      exact hnot (h first rest rfl hcolon (by simpa using hindex)).1

/-- **When a qualified name is read back from its text, and when a text is read as it should.** A
name in namespace 0 must not be a text with an index; a text with an index must have a plain one and
a name behind it. -/
theorem qualifiedName_text_iff (namespaceIndex : UInt16) (name value : List Char)
    (hname : name ≠ []) :
    (coerceQualifiedName (QualifiedName.toString ⟨ofNat namespaceIndex.toNat, some name⟩) =
        some ⟨ofNat namespaceIndex.toNat, some name⟩ ↔
      namespaceIndex ≠ 0 ∨ hasIndex name = false) ∧
    (ReadPlainly value ↔ value ≠ [] ∧
      ∀ first rest, value = first ++ ':' :: rest → ':' ∉ first → hasIndex value = true →
        IsPlainIndex first ∧ rest ≠ []) := by
  refine ⟨?_, readPlainly_iff⟩
  by_cases hzero : namespaceIndex = 0
  · subst hzero
    simpa using coerceQualifiedName_zero hname
  · have hpos : namespaceIndex.toNat ≠ 0 := fun h => hzero (UInt16.toNat_inj.mp h)
    simp [hzero, coerceQualifiedName_index hname namespaceIndex.toNat_lt hpos]

theorem qualifiedName_text_hello :
    "1.5:Hello".toList ≠ [] ∧
    (coerceQualifiedName (QualifiedName.toString ⟨ofNat (UInt16.toNat 0), some "1.5:Hello".toList⟩) =
        some ⟨ofNat (UInt16.toNat 0), some "1.5:Hello".toList⟩ ↔
      (0 : UInt16) ≠ 0 ∨ hasIndex "1.5:Hello".toList = false) :=
  ⟨by simp, (qualifiedName_text_iff 0 "1.5:Hello".toList [] (by simp)).1⟩

/-- The name `3:Hello` in namespace 0 is read back in namespace 3, and an index can be too large. -/
theorem qualifiedName_three_hello :
    coerceQualifiedName (QualifiedName.toString ⟨ofNat 0, some "3:Hello".toList⟩) =
        some ⟨ofNat 3, some "Hello".toList⟩ ∧
      ofNat 3 ≠ ofNat 0 ∧ ¬ ReadPlainly "70000:Hello".toList := by
  obtain ⟨three, hthree, hval⟩ := ofNat_small (N := 3) (by omega)
  obtain ⟨zero, hzero, hzval⟩ := ofNat_small (N := 0) (by omega)
  obtain ⟨large, hlarge, hlval⟩ := Number.ofNat_exact (n := 70000) (by norm_num)
  refine ⟨?_, ?_, fun h => ?_⟩
  · have hread := (stringToQualifiedName_digits ['3'] "Hello".toList (by simp)
      (by simp) rfl hthree (by rw [hval]; rfl)).2
    rw [new_eq _ (Number.ofNat_ne_nan _) (by decide)] at hread
    have htext : QualifiedName.toString ⟨ofNat 0, some "3:Hello".toList⟩ = "3:Hello".toList := by
      simp [QualifiedName.toString]
    rw [htext]
    exact congrArg some hread
  · rw [hthree, hzero]
    intro heq
    cases heq
    rw [hval] at hzval
    norm_num at hzval
  · have hread := stringToQualifiedName_digits "70000".toList "Hello".toList
      (by decide) (by simp) rfl hlarge (by rw [hlval]; rfl)
    exact absurd (readPlainly_iff.mp h).2 fun hall =>
      absurd (hall "70000".toList "Hello".toList rfl (by decide) hread.1).1.2.2 (by decide)

end NodeOpcua.DataModel
