import Mathlib.Data.List.Sort
import Mathlib.Data.List.Infix
import NodeOpcua.ContentFilter.Comparison

set_option autoImplicit false

/-!
# Subjects of certificates

A rule names the attributes of a certificate's subject in one string, `CN="Jane Doe"/O="ACME"`. The
rule and the subject are compared by their canonical texts, in which nothing is escaped.

## Main definitions

* `matchX509Subject`.
* `pieces`.
-/

namespace NodeOpcua

/-! ### The source -/

/-- The subject of a certificate. -/
structure X509SubjectName where
  commonName : Option (List Char) := none
  organizationName : Option (List Char) := none
  organizationalUnitName : Option (List Char) := none
  organizationUnitName : Option (List Char) := none
  localityName : Option (List Char) := none
  stateOrProvinceName : Option (List Char) := none
  countryName : Option (List Char) := none
  domainComponent : Option (List Char) := none
  dnQualifier : Option (List Char) := none
  serialNumber : Option (List Char) := none

/-- A name and a value. -/
abbrev AttributePair := List Char × List Char

/-- The table of the attributes, in their order. -/
def X509_SUBJECT_ORDER : List (List Char) :=
  ["CN", "O", "OU", "DC", "L", "S", "C", "dnQualifier", "serialNumber"].map String.toList

/-- `Name="Value"`. -/
def attributeText (pair : AttributePair) : List Char := pair.1 ++ '=' :: '"' :: (pair.2 ++ ['"'])

/-- The pairs whose attribute is in the table, in the order of the table; the sort is stable. -/
def orderedPairs (pairs : List AttributePair) : List AttributePair :=
  (pairs.filter fun pair => X509_SUBJECT_ORDER.contains pair.1).insertionSort fun a b =>
    X509_SUBJECT_ORDER.idxOf a.1 ≤ X509_SUBJECT_ORDER.idxOf b.1

/-- The canonical text of the pairs. -/
def canonicalizeX509Subject (pairs : List AttributePair) : List Char :=
  ['/'].intercalate ((orderedPairs pairs).map attributeText)

/-- `[A-Za-z]+\s*=\s*"` at the head of the text: the name, and what follows the quote. -/
def attributeAt (text : List Char) : Option (List Char × List Char) :=
  match text.takeWhile Char.isAlpha, (text.dropWhile Char.isAlpha).dropWhile isWhiteSpace with
  | c :: name, '=' :: rest =>
    match rest.dropWhile isWhiteSpace with
    | '"' :: rest => some (c :: name, rest)
    | _ => none
  | _, _ => none

/-- `([A-Za-z]+)\s*=\s*"([^"]*)"` at the head of the text: the two groups, and what follows. -/
def pairAt (text : List Char) : Option (AttributePair × List Char) :=
  match attributeAt text with
  | none => none
  | some (name, rest) =>
    match rest.dropWhile (· != '"') with
    | '"' :: rest' => some ((name, rest.takeWhile (· != '"')), rest')
    | _ => none

/-- The matches of the expression, from the left; the characters of a match are skipped. -/
def matchAll : ℕ → List Char → List AttributePair
  | _, [] => []
  | n + 1, _ :: text => matchAll n text
  | 0, c :: text =>
    match pairAt (c :: text) with
    | none => matchAll 0 text
    | some (pair, rest) => pair :: matchAll (text.length - rest.length) text

/-- The pairs of a criteria. -/
def parseX509SubjectCriteria (criteria : List Char) : List AttributePair := matchAll 0 criteria

/-- The pair of an attribute that is present and not empty. -/
def subjectPair (name : String) : Option (List Char) → List AttributePair
  | some (c :: value) => [(name.toList, c :: value)]
  | _ => []

/-- The pairs of a subject. -/
def certificateSubjectPairs (subject : X509SubjectName) : List AttributePair :=
  subjectPair "CN" subject.commonName ++ subjectPair "O" subject.organizationName ++
    subjectPair "OU" (subject.organizationalUnitName <|> subject.organizationUnitName) ++
    subjectPair "DC" subject.domainComponent ++ subjectPair "L" subject.localityName ++
    subjectPair "S" subject.stateOrProvinceName ++ subjectPair "C" subject.countryName ++
    subjectPair "dnQualifier" subject.dnQualifier ++ subjectPair "serialNumber" subject.serialNumber

/-- Whether a rule matches a subject: by the canonical texts, or by the common name. -/
def matchX509Subject (criteria : Option (List Char)) (subject : X509SubjectName) : Bool :=
  let trimmed := trim (criteria.getD [])
  if trimmed.tails.any fun text => (attributeAt text).isSome then
    canonicalizeX509Subject (certificateSubjectPairs subject) =
      canonicalizeX509Subject (parseX509SubjectCriteria trimmed)
  else
    subject.commonName.getD [] = trimmed

/-! ### A criteria is read as the pairs that it was written from -/

/-- A pair that a criteria can write: the name is of letters, and the value has no quote. -/
structure Writable (pair : AttributePair) : Prop where
  ne_nil : pair.1 ≠ []
  letters : ∀ c ∈ pair.1, c.isAlpha
  quoteless : '"' ∉ pair.2

/-- **A criteria in the ordered format** that writes the pairs. -/
def criteriaOf (pairs : List AttributePair) : List Char :=
  ['/'].intercalate (pairs.map attributeText)

lemma criteriaOf_cons_cons (pair pair' : AttributePair) (pairs : List AttributePair) :
    criteriaOf (pair :: pair' :: pairs) = attributeText pair ++ '/' :: criteriaOf (pair' :: pairs) := by
  simp only [criteriaOf, List.map_cons]
  rw [List.intercalate_cons_of_ne_nil (by simp), List.append_assoc, List.singleton_append]

lemma matchAll_skip (text : List Char) : ∀ n, matchAll n text = matchAll 0 (text.drop n) := by
  induction text with
  | nil => intro n; simp [matchAll]
  | cons c text ih =>
    intro n
    cases n with
    | zero => rfl
    | succ n => exact ih n

variable {pair : AttributePair}

section

variable (h : Writable pair) (rest : List Char)
include h

lemma attributeAt_attributeText :
    attributeAt (attributeText pair ++ rest) = some (pair.1, pair.2 ++ '"' :: rest) := by
  obtain ⟨name, value⟩ := pair
  have hname : ∀ c ∈ name, c.isAlpha = true := h.letters
  have htext : attributeText (name, value) ++ rest = name ++ '=' :: '"' :: (value ++ '"' :: rest) := by
    simp [attributeText]
  have hequal : Char.isAlpha '=' = false := by decide
  have hspace : isWhiteSpace '=' = false ∧ isWhiteSpace '"' = false := by decide
  rw [attributeAt, htext, List.takeWhile_append_of_pos hname, List.dropWhile_append_of_pos hname]
  cases name with
  | nil => exact absurd rfl h.ne_nil
  | cons c name => simp [hequal, hspace]

lemma pairAt_attributeText :
    pairAt (attributeText pair ++ rest) = some (pair, rest) := by
  have hvalue : ∀ c ∈ pair.2, (c != '"') = true :=
    fun c hc => bne_iff_ne.mpr fun hquote => h.quoteless (hquote ▸ hc)
  rw [pairAt, attributeAt_attributeText h]
  simp [List.takeWhile_append_of_pos hvalue, List.dropWhile_append_of_pos hvalue]

lemma matchAll_attributeText :
    matchAll 0 (attributeText pair ++ rest) = pair :: matchAll 0 rest := by
  have hpair := pairAt_attributeText h rest
  obtain ⟨c, text, htext⟩ : ∃ c text, attributeText pair = c :: text :=
    List.exists_cons_of_ne_nil (by simp [attributeText])
  rw [htext, List.cons_append] at hpair ⊢
  rw [matchAll, hpair]
  simp only [List.length_append, Nat.add_sub_cancel]
  rw [matchAll_skip, List.drop_left]

end

variable {pairs : List AttributePair}

/-- **A criteria is read back.** -/
lemma parse_criteriaOf (h : ∀ pair ∈ pairs, Writable pair) :
    parseX509SubjectCriteria (criteriaOf pairs) = pairs := by
  unfold parseX509SubjectCriteria
  induction pairs with
  | nil => rfl
  | cons pair pairs ih =>
    obtain ⟨hpair, hpairs⟩ := List.forall_mem_cons.mp h
    cases pairs with
    | nil =>
      have hend := matchAll_attributeText hpair []
      simpa [matchAll, criteriaOf] using hend
    | cons pair' pairs =>
      have hslash (text : List Char) : matchAll 0 ('/' :: text) = matchAll 0 text := by
        have hnone : pairAt ('/' :: text) = none := rfl
        rw [matchAll, hnone]
      rw [criteriaOf_cons_cons, matchAll_attributeText hpair, hslash, ih hpairs]

lemma criteriaOf_cons (pair : AttributePair) (pairs : List AttributePair) :
    (∃ rest, criteriaOf (pair :: pairs) = attributeText pair ++ rest) ∧
      ∃ front, criteriaOf (pair :: pairs) = front ++ ['"'] := by
  induction pairs generalizing pair with
  | nil =>
    exact ⟨⟨[], by simp [criteriaOf]⟩, pair.1 ++ '=' :: '"' :: pair.2, by
      simp [criteriaOf, attributeText]⟩
  | cons pair' pairs ih =>
    obtain ⟨-, front, hfront⟩ := ih pair'
    have hcons := criteriaOf_cons_cons pair pair' pairs
    exact ⟨⟨_, hcons⟩, attributeText pair ++ '/' :: front, by simp [hcons, hfront]⟩

lemma isWhiteSpace_of_isAlpha {c : Char} (h : c.isAlpha) : isWhiteSpace c = false := by
  have hall : ∀ n < 123, 65 ≤ n → isWhiteSpace (Char.ofNat n) = false := by decide
  replace h : (decide (c.val ≥ 'A'.val ∧ c.val ≤ 'Z'.val) ||
    (decide (c.val ≥ 'a'.val) && decide (c.val ≤ 'z'.val))) = true := h
  simp only [Bool.or_eq_true, Bool.and_eq_true, decide_eq_true_eq] at h
  have hbounds : 65 ≤ c.toNat ∧ c.toNat < 123 := by
    rcases h with h | h
    · have hle : 65 ≤ c.toNat := h.1
      have hge : c.toNat ≤ 90 := h.2
      omega
    · have hle : 97 ≤ c.toNat := h.1
      have hge : c.toNat ≤ 122 := h.2
      omega
  have hc := hall c.toNat hbounds.2 hbounds.1
  rwa [Char.ofNat_toNat] at hc

lemma match_criteriaOf (subject : X509SubjectName) (hne : pairs ≠ [])
    (h : ∀ pair ∈ pairs, Writable pair) :
    matchX509Subject (criteriaOf pairs) subject =
      decide (canonicalizeX509Subject (certificateSubjectPairs subject) =
        canonicalizeX509Subject pairs) := by
  obtain ⟨pair, pairs, rfl⟩ := List.exists_cons_of_ne_nil hne
  obtain ⟨⟨rest, hrest⟩, front, hfront⟩ := criteriaOf_cons pair pairs
  have hpair := h pair List.mem_cons_self
  have htrim : trim (criteriaOf (pair :: pairs)) = criteriaOf (pair :: pairs) := by
    refine trim_eq_self (fun c hc => ?_) fun c hc => ?_
    · obtain ⟨a, name, hname⟩ := List.exists_cons_of_ne_nil hpair.ne_nil
      obtain rfl : a = c := by simpa [hrest, attributeText, hname] using hc
      exact isWhiteSpace_of_isAlpha (hpair.letters a (by simp [hname]))
    · obtain rfl : '"' = c := by simpa [hfront] using hc
      decide
  unfold matchX509Subject
  rw [Option.getD_some, htrim, if_pos, parse_criteriaOf h]
  refine List.any_eq_true.mpr ⟨_, (List.mem_tails _ _).mpr (List.suffix_refl _), ?_⟩
  rw [hrest, attributeAt_attributeText hpair]
  rfl

/-! ### The canonical text -/

/-- What stands between the quotes: the names, and the values cut at their own quotes. -/
def pieces (pairs : List AttributePair) : List (List Char) :=
  (pairs.flatMap fun pair => ('/' :: (pair.1 ++ ['='])) :: pair.2.splitOn '"') ++ [[]]

/-- The pairs with a stroke before each. -/
def strokeText (pairs : List AttributePair) : List Char :=
  pairs.flatMap fun pair => '/' :: attributeText pair

lemma splitOn_strokeText (h : ∀ pair ∈ pairs, '"' ∉ pair.1) :
    (strokeText pairs).splitOn '"' = pieces pairs := by
  induction pairs with
  | nil => rfl
  | cons pair pairs ih =>
    obtain ⟨hpair, hpairs⟩ := List.forall_mem_cons.mp h
    have htext : strokeText (pair :: pairs) =
        ('/' :: (pair.1 ++ ['='])) ++ '"' :: (pair.2 ++ '"' :: strokeText pairs) := by
      simp [strokeText, attributeText]
    have hname : '"' ∉ '/' :: (pair.1 ++ ['=']) := by simp [hpair]
    rw [htext, List.splitOn_append_cons_self_of_not_mem hname, List.splitOn_append_cons_self,
      ih hpairs]
    simp [pieces]

variable {a b : List AttributePair}

lemma strokeText_inj (ha : ∀ pair ∈ a, '"' ∉ pair.1)
    (hb : ∀ pair ∈ b, '"' ∉ pair.1) : strokeText a = strokeText b ↔ pieces a = pieces b := by
  rw [← splitOn_strokeText ha, ← splitOn_strokeText hb]
  refine ⟨congrArg _, fun h => ?_⟩
  have hback (text : List Char) : ['"'].intercalate (text.splitOn '"') = text :=
    List.intercalate_splitOn '"'
  rw [← hback (strokeText a), h, hback]

lemma pieces_inj (ha : ∀ pair ∈ a, '"' ∉ pair.2)
    (hb : ∀ pair ∈ b, '"' ∉ pair.2) (h : pieces a = pieces b) : a = b := by
  induction a generalizing b with
  | nil =>
    cases b with
    | nil => rfl
    | cons pair b => simp [pieces] at h
  | cons pair a ih =>
    cases b with
    | nil => simp [pieces] at h
    | cons pair' b =>
      obtain ⟨hpair, ha⟩ := List.forall_mem_cons.mp ha
      obtain ⟨hpair', hb⟩ := List.forall_mem_cons.mp hb
      simp only [pieces, List.flatMap_cons, List.splitOn_eq_singleton hpair,
        List.splitOn_eq_singleton hpair', List.cons_append, List.nil_append, List.cons.injEq,
        true_and, List.append_cancel_right_eq] at h
      obtain ⟨hname, hvalue, hrest⟩ := h
      rw [Prod.ext hname hvalue, ih ha hb (by simpa [pieces] using hrest)]

lemma quoteless_orderedPairs (pairs : List AttributePair) :
    ∀ pair ∈ orderedPairs pairs, '"' ∉ pair.1 := by
  intro pair hpair
  have hmem := (List.mem_filter.mp ((List.mem_insertionSort _).mp hpair)).2
  have htable : ∀ name ∈ X509_SUBJECT_ORDER, '"' ∉ name := by decide
  exact htable _ (List.contains_iff_mem.mp hmem)

/-- **The canonical texts** are equal when the pieces are. -/
lemma canonicalize_eq_iff (a b : List AttributePair) :
    canonicalizeX509Subject a = canonicalizeX509Subject b ↔
      pieces (orderedPairs a) = pieces (orderedPairs b) := by
  rw [← strokeText_inj (quoteless_orderedPairs a) (quoteless_orderedPairs b)]
  have hstroke (pair : AttributePair) (pairs : List AttributePair) :
      strokeText (pair :: pairs) = '/' :: criteriaOf (pair :: pairs) := by
    induction pairs generalizing pair with
    | nil => simp [strokeText, criteriaOf]
    | cons pair' pairs ih =>
      rw [criteriaOf_cons_cons, ← ih]
      rfl
  have hne (pair : AttributePair) (pairs : List AttributePair) : criteriaOf (pair :: pairs) ≠ [] := by
    obtain ⟨-, front, hfront⟩ := criteriaOf_cons pair pairs
    simp [hfront]
  change criteriaOf (orderedPairs a) = criteriaOf (orderedPairs b) ↔ _
  cases orderedPairs a with
  | nil =>
    cases orderedPairs b with
    | nil => exact Iff.rfl
    | cons pair b => exact iff_of_false (hne pair b).symm (by simp [strokeText])
  | cons pair a =>
    cases orderedPairs b with
    | nil => exact iff_of_false (hne pair a) (by simp [strokeText])
    | cons pair' b => rw [hstroke, hstroke, List.cons_inj_right]

/-! ### The subject -/

lemma certificateSubjectPairs_sublist (subject : X509SubjectName) :
    ((certificateSubjectPairs subject).map Prod.fst).Sublist X509_SUBJECT_ORDER := by
  have hpair (name : String) (value : Option (List Char)) :
      ((subjectPair name value).map Prod.fst).Sublist [name.toList] := by
    rcases value with _ | _ | ⟨c, value⟩
    · exact List.nil_sublist _
    · exact List.nil_sublist _
    · exact List.Sublist.refl _
  simp only [certificateSubjectPairs, List.map_append]
  exact ((((((((hpair _ _).append (hpair _ _)).append (hpair _ _)).append (hpair _ _)).append
    (hpair _ _)).append (hpair _ _)).append (hpair _ _)).append (hpair _ _)).append (hpair _ _)

/-- The place of a pair in the table. -/
abbrev place (pair : AttributePair) : ℕ := X509_SUBJECT_ORDER.idxOf pair.1

lemma certificateSubjectPairs_pairwise (subject : X509SubjectName) :
    (certificateSubjectPairs subject).Pairwise fun a b => place a < place b := by
  have htable : X509_SUBJECT_ORDER.Pairwise fun a b =>
    X509_SUBJECT_ORDER.idxOf a < X509_SUBJECT_ORDER.idxOf b := by decide
  have hnames := htable.sublist (certificateSubjectPairs_sublist subject)
  rwa [List.pairwise_map] at hnames

/-- The attribute is in the table. -/
abbrev InTable (pair : AttributePair) : Prop := pair.1 ∈ X509_SUBJECT_ORDER

lemma inTable_certificateSubjectPairs (subject : X509SubjectName) :
    ∀ pair ∈ certificateSubjectPairs subject, InTable pair := fun _ hpair =>
  (certificateSubjectPairs_sublist subject).subset (List.mem_map_of_mem hpair)

lemma orderedPairs_perm (h : ∀ pair ∈ pairs, InTable pair) :
    (orderedPairs pairs).Perm pairs := by
  refine (List.perm_insertionSort _ _).trans (List.Perm.of_eq ?_)
  exact List.filter_eq_self.mpr fun pair hpair => List.contains_iff_mem.mpr (h pair hpair)

lemma orderedPairs_subject (subject : X509SubjectName) :
    orderedPairs (certificateSubjectPairs subject) = certificateSubjectPairs subject := by
  unfold orderedPairs
  rw [List.filter_eq_self.mpr fun pair hpair =>
    List.contains_iff_mem.mpr (inTable_certificateSubjectPairs subject pair hpair)]
  exact ((certificateSubjectPairs_pairwise subject).imp Nat.le_of_lt).insertionSort_eq

section

variable (pairs : List AttributePair) (subject : X509SubjectName)

/-- **The same attributes**: those in order are the subject's, and none is left out. -/
lemma perm_subject_iff :
    pairs.Perm (certificateSubjectPairs subject) ↔
      orderedPairs pairs = certificateSubjectPairs subject ∧ ∀ pair ∈ pairs, InTable pair := by
  constructor
  · intro h
    have htable : ∀ pair ∈ pairs, InTable pair := fun pair hpair =>
      inTable_certificateSubjectPairs subject pair (h.subset hpair)
    refine ⟨?_, htable⟩
    have hstrict := certificateSubjectPairs_pairwise subject
    have hperm := (orderedPairs_perm htable).trans h
    have hnodup : ((certificateSubjectPairs subject).map place).Nodup :=
      List.pairwise_map.mpr (hstrict.imp Nat.ne_of_lt)
    exact hperm.eq_of_pairwise (fun a b ha hb hab hba =>
      List.inj_on_of_nodup_map hnodup (hperm.subset ha) hb (Nat.le_antisymm hab hba))
      (List.pairwise_insertionSort _ _) (hstrict.imp Nat.le_of_lt)
  · rintro ⟨h, htable⟩
    exact h ▸ (orderedPairs_perm htable).symm

/-! ### The comparison -/

/-- The rule matches the subject exactly when it writes the subject's attributes. -/
def MatchExact : Prop :=
  matchX509Subject (criteriaOf pairs) subject = true ↔ pairs.Perm (certificateSubjectPairs subject)

end

/-- **Exactness**: a rule that leaves the subject's attributes when those outside the table are left
out has none outside it, and where a value of the subject contains a quote, what stands between the
quotes differs. -/
theorem matchX509Subject_exact_iff (pairs : List AttributePair) (subject : X509SubjectName)
    (hne : pairs ≠ []) (h : ∀ pair ∈ pairs, Writable pair) :
    MatchExact pairs subject ↔
      (orderedPairs pairs = certificateSubjectPairs subject → ∀ pair ∈ pairs, InTable pair) ∧
        ((∃ pair ∈ certificateSubjectPairs subject, '"' ∈ pair.2) →
          pieces (certificateSubjectPairs subject) ≠ pieces (orderedPairs pairs)) := by
  have hquoteless : ∀ pair ∈ orderedPairs pairs, '"' ∉ pair.2 := fun pair hpair =>
    (h pair (List.mem_filter.mp ((List.mem_insertionSort _).mp hpair)).1).quoteless
  rw [MatchExact, match_criteriaOf subject hne h, decide_eq_true_iff, canonicalize_eq_iff,
    orderedPairs_subject, perm_subject_iff]
  by_cases hquote : ∃ pair ∈ certificateSubjectPairs subject, '"' ∈ pair.2
  · have hneq : orderedPairs pairs ≠ certificateSubjectPairs subject := by
      obtain ⟨pair, hpair, hquote⟩ := hquote
      exact fun heq => hquoteless pair (heq ▸ hpair) hquote
    simp [hquote, hneq]
  · have hsubject : ∀ pair ∈ certificateSubjectPairs subject, '"' ∉ pair.2 := fun pair hpair hmem =>
      hquote ⟨pair, hpair, hmem⟩
    have hpieces : pieces (certificateSubjectPairs subject) = pieces (orderedPairs pairs) ↔
        orderedPairs pairs = certificateSubjectPairs subject :=
      ⟨fun heq => (pieces_inj hsubject hquoteless heq).symm, fun heq => heq ▸ rfl⟩
    simp [hquote, hpieces]

/-- The pairs of the rule `CN="Jane"/O="ACME"`. -/
lemma writable_two :
    ∀ pair ∈ [("CN".toList, "Jane".toList), ("O".toList, "ACME".toList)], Writable pair := by
  simp only [List.forall_mem_cons]
  exact ⟨⟨by decide, List.all_eq_true.mp rfl, by decide⟩,
    ⟨by decide, List.all_eq_true.mp rfl, by decide⟩, nofun⟩

/-- A rule that writes the two attributes of a subject. -/
theorem matchX509Subject_exact_two :
    MatchExact [("CN".toList, "Jane".toList), ("O".toList, "ACME".toList)]
      { commonName := some "Jane".toList, organizationName := some "ACME".toList } :=
  (matchX509Subject_exact_iff _ _ (by decide) writable_two).mpr (by decide)

/-- A subject with one attribute, `CN = Jane"/O="ACME`, matches the rule that names two. -/
theorem matchX509Subject_forged :
    ¬ ∀ (pairs : List AttributePair) (subject : X509SubjectName), pairs ≠ [] →
      (∀ pair ∈ pairs, Writable pair) → MatchExact pairs subject := by
  intro h
  have hexact := h _ { commonName := some "Jane\"/O=\"ACME".toList } (by decide) writable_two
  rw [MatchExact, match_criteriaOf _ (by decide) writable_two] at hexact
  revert hexact
  decide

end NodeOpcua
