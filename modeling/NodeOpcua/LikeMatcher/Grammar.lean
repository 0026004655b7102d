import NodeOpcua.LikeMatcher.Matching

set_option autoImplicit false

/-!
# The grammar of patterns

The well-formed patterns, as a grammar, and the parser: it accepts the well-formed patterns up to
its limit on the length, and matches the subjects in the language of the constructs it reads.

## Main definitions

* `Construct`, `LikeGrammar`, `WellFormed`.

## Main results

* `parseElements_iff`.
* `like_correct`.
-/

namespace NodeOpcua

open Like

/-! ### The grammar -/

/-- **The characters of a list**, each with the fact whether it is escaped. -/
inductive AtomsText : List UInt16 → List (UInt16 × Bool) → Prop
  | nil : AtomsText [] []
  | plain {c : UInt16} {text : List UInt16} {atoms : List (UInt16 × Bool)}
      (hclose : c ≠ closeBracket) (hescape : c ≠ backslash) (h : AtomsText text atoms) :
      AtomsText (c :: text) ((c, false) :: atoms)
  | escaped {c : UInt16} {text : List UInt16} {atoms : List (UInt16 × Bool)}
      (h : AtomsText text atoms) : AtomsText (backslash :: c :: text) ((c, true) :: atoms)

/-- **The members of a list**: from left to right, an unescaped `-` between two characters makes
the range between them, whose ends are in order. -/
inductive Members : List (UInt16 × Bool) → List UInt16 → List (UInt16 × UInt16) → Prop
  | nil : Members [] [] []
  | range {a b : UInt16 × Bool} {atoms : List (UInt16 × Bool)} {chars : List UInt16}
      {ranges : List (UInt16 × UInt16)} (hle : a.1 ≤ b.1) (h : Members atoms chars ranges) :
      Members (a :: (dash, false) :: b :: atoms) chars ((a.1, b.1) :: ranges)
  | single {a : UInt16 × Bool} {atoms : List (UInt16 × Bool)} {chars : List UInt16}
      {ranges : List (UInt16 × UInt16)} (hrange : ∀ b atoms', atoms ≠ (dash, false) :: b :: atoms')
      (h : Members atoms chars ranges) : Members (a :: atoms) (a.1 :: chars) ranges

/-- **The constructs** of a pattern. -/
inductive Construct : List UInt16 → PatternElement → Prop
  | anyString : Construct [percent] .anyString
  | anyChar : Construct [underscore] .anyChar
  | escape (c : UInt16) : Construct [backslash, c] (.literal c)
  | list {text : List UInt16} {atoms : List (UInt16 × Bool)} {chars : List UInt16}
      {ranges : List (UInt16 × UInt16)} (htext : AtomsText text atoms)
      (hcaret : text.head? ≠ some caret) (hmembers : Members atoms chars ranges)
      (hne : chars ≠ [] ∨ ranges ≠ []) :
      Construct (openBracket :: (text ++ [closeBracket])) (.list false chars ranges)
  | negatedList {text : List UInt16} {atoms : List (UInt16 × Bool)} {chars : List UInt16}
      {ranges : List (UInt16 × UInt16)} (htext : AtomsText text atoms)
      (hmembers : Members atoms chars ranges) (hne : chars ≠ [] ∨ ranges ≠ []) :
      Construct (openBracket :: caret :: (text ++ [closeBracket])) (.list true chars ranges)
  | ordinary {c : UInt16} (hpercent : c ≠ percent) (hunderscore : c ≠ underscore)
      (hbackslash : c ≠ backslash) (hbracket : c ≠ openBracket) : Construct [c] (.literal c)

/-- **A pattern** is a sequence of constructs. -/
inductive LikeGrammar : List UInt16 → List PatternElement → Prop
  | nil : LikeGrammar [] []
  | cons {text rest : List UInt16} {element : PatternElement} {elements : List PatternElement}
      (hconstruct : Construct text element) (h : LikeGrammar rest elements) :
      LikeGrammar (text ++ rest) (element :: elements)

/-- **The well-formed patterns**. -/
def WellFormed (pattern : List UInt16) : Prop := ∃ elements, LikeGrammar pattern elements

/-! ### Lists -/

/-- An atom without its index. -/
def ListAtom.toPair (a : ListAtom) : UInt16 × Bool := (a.char, a.escaped)

variable {text rest : List UInt16} {i next : ℕ}

lemma readAtoms_sound {start : ℕ} {atoms : List ListAtom}
    (h : readAtoms start text i = .ok (atoms, rest, next)) :
    ∃ body, text = body ++ closeBracket :: rest ∧ AtomsText body (atoms.map ListAtom.toPair) := by
  induction text, i using readAtoms.induct generalizing atoms rest next with
  | case1 i => cases h
  | case2 text i =>
    rw [readAtoms.eq_def] at h
    cases h
    exact ⟨[], rfl, AtomsText.nil⟩
  | case3 i hc =>
    cases h
  | case4 i d text hc ih =>
    obtain ⟨⟨atoms', rest', next'⟩, hread, hpure⟩ := Except.bind_eq_ok_iff.mp h
    cases hpure
    obtain ⟨body, rfl, hbody⟩ := ih hread
    exact ⟨backslash :: d :: body, rfl, hbody.escaped⟩
  | case5 c text i hc hne ih =>
    rw [readAtoms.eq_def] at h
    dsimp only at h
    rw [if_neg hc, if_neg hne] at h
    obtain ⟨⟨atoms', rest', next'⟩, hread, hpure⟩ := Except.bind_eq_ok_iff.mp h
    cases hpure
    obtain ⟨body, rfl, hbody⟩ := ih hread
    exact ⟨c :: body, rfl, hbody.plain hc hne⟩

lemma readAtoms_complete {body : List UInt16} {pairs : List (UInt16 × Bool)}
    (h : AtomsText body pairs) (start i : ℕ) (rest : List UInt16) :
    ∃ atoms next, readAtoms start (body ++ closeBracket :: rest) i = .ok (atoms, rest, next) ∧
      atoms.map ListAtom.toPair = pairs := by
  induction h generalizing i with
  | nil =>
    refine ⟨[], i + 1, ?_, rfl⟩
    rw [List.nil_append, readAtoms.eq_def]
    exact if_pos rfl
  | @plain c text atoms hclose hescape _ ih =>
    obtain ⟨atoms', next, hread, hmap⟩ := ih (i + 1)
    refine ⟨⟨c, false, i⟩ :: atoms', next, ?_, by rw [List.map_cons, hmap]; rfl⟩
    rw [List.cons_append, readAtoms.eq_def]
    dsimp only
    rw [if_neg hclose, if_neg hescape, hread]
    rfl
  | @escaped c text atoms _ ih =>
    obtain ⟨atoms', next, hread, hmap⟩ := ih (i + 2)
    refine ⟨⟨c, true, i⟩ :: atoms', next, ?_, by rw [List.map_cons, hmap]; rfl⟩
    rw [List.cons_append, List.cons_append, readAtoms, if_neg (by decide), if_pos rfl, hread]
    rfl

lemma members_range_iff (a b : UInt16 × Bool) (atoms : List (UInt16 × Bool)) (chars : List UInt16)
    (ranges : List (UInt16 × UInt16)) :
    Members (a :: (dash, false) :: b :: atoms) chars ranges ↔
      a.1 ≤ b.1 ∧ ∃ ranges', ranges = (a.1, b.1) :: ranges' ∧ Members atoms chars ranges' := by
  constructor
  · intro h
    cases h with
    | range hle h => exact ⟨hle, _, rfl, h⟩
    | single hrange h => exact absurd rfl (hrange b atoms)
  · rintro ⟨hle, ranges', rfl, h⟩
    exact h.range hle

lemma members_single_iff {a : UInt16 × Bool} {atoms : List (UInt16 × Bool)}
    (hrange : ∀ b atoms', atoms ≠ (dash, false) :: b :: atoms') (chars : List UInt16)
    (ranges : List (UInt16 × UInt16)) :
    Members (a :: atoms) chars ranges ↔
      ∃ chars', chars = a.1 :: chars' ∧ Members atoms chars' ranges := by
  constructor
  · intro h
    cases h with
    | range hle h => exact absurd rfl (hrange _ _)
    | single hrange h => exact ⟨_, rfl, h⟩
  · rintro ⟨chars', rfl, h⟩
    exact h.single hrange

/-- **The atoms are grouped** into the members of the list. -/
lemma groupAtoms_iff (atoms : List ListAtom) (chars : List UInt16)
    (ranges : List (UInt16 × UInt16)) :
    groupAtoms atoms = .ok (chars, ranges) ↔
      Members (atoms.map ListAtom.toPair) chars ranges := by
  induction atoms using groupAtoms.induct generalizing chars ranges with
  | case1 a d b rest hd hlt =>
    have hpair : d.toPair = (dash, false) := Prod.ext hd.2 hd.1
    rw [groupAtoms, if_pos hd, if_pos hlt]
    simp only [List.map_cons, hpair, members_range_iff]
    refine iff_of_false nofun fun h => ?_
    exact absurd hlt (UInt16.not_lt.mpr h.1)
  | case2 a d b rest hd hlt ih =>
    have hpair : d.toPair = (dash, false) := Prod.ext hd.2 hd.1
    rw [groupAtoms, if_pos hd, if_neg hlt]
    simp only [List.map_cons, hpair, members_range_iff]
    rw [Except.bind_pure_eq_ok_iff]
    constructor
    · rintro ⟨⟨chars', ranges'⟩, hgroup, heq⟩
      cases heq
      exact ⟨UInt16.not_lt.mp hlt, _, rfl, (ih _ _).mp hgroup⟩
    · rintro ⟨-, ranges', rfl, h⟩
      exact ⟨(chars, ranges'), (ih chars ranges').mpr h, rfl⟩
  | case3 a d b rest hd ih =>
    have hsingle : ∀ b' atoms', (d :: b :: rest).map ListAtom.toPair ≠
        (dash, false) :: b' :: atoms' := by
      intro b' atoms' heq
      have hpair : d.toPair = (dash, false) := (List.cons.inj heq).1
      exact hd ⟨congrArg Prod.snd hpair, congrArg Prod.fst hpair⟩
    rw [groupAtoms, if_neg hd, List.map_cons, members_single_iff hsingle, Except.bind_pure_eq_ok_iff]
    constructor
    · rintro ⟨⟨chars', ranges'⟩, hgroup, heq⟩
      cases heq
      exact ⟨_, rfl, (ih _ _).mp hgroup⟩
    · rintro ⟨chars', rfl, h⟩
      exact ⟨(chars', ranges), (ih chars' ranges).mpr h, rfl⟩
  | case4 a rest hrest ih =>
    have hsingle : ∀ b' atoms', rest.map ListAtom.toPair ≠ (dash, false) :: b' :: atoms' := by
      intro b' atoms' heq
      cases rest with
      | nil => cases heq
      | cons d rest =>
        cases rest with
        | nil => simp at heq
        | cons b rest => exact hrest d b rest rfl
    rw [groupAtoms, List.map_cons, members_single_iff hsingle, Except.bind_pure_eq_ok_iff]
    · constructor
      · rintro ⟨⟨chars', ranges'⟩, hgroup, heq⟩
        cases heq
        exact ⟨_, rfl, (ih _ _).mp hgroup⟩
      · rintro ⟨chars', rfl, h⟩
        exact ⟨(chars', ranges), (ih chars' ranges).mpr h, rfl⟩
    · exact hrest
  | case5 =>
    constructor
    · intro h
      cases h
      exact Members.nil
    · intro h
      cases h
      rfl

/-- **A list** is made of its members, unless it has none. -/
lemma makeList_iff (start : ℕ) (negated : Bool) (atoms : List ListAtom)
    (element : PatternElement) :
    makeList start negated atoms = .ok element ↔
      ∃ chars ranges, element = .list negated chars ranges ∧
        Members (atoms.map ListAtom.toPair) chars ranges ∧ (chars ≠ [] ∨ ranges ≠ []) := by
  rw [makeList, Except.bind_eq_ok_iff]
  constructor
  · rintro ⟨⟨chars, ranges⟩, hgroup, h⟩
    dsimp only at h
    split_ifs at h with hempty
    cases h
    exact ⟨chars, ranges, rfl, (groupAtoms_iff _ _ _).mp hgroup, not_and_or.mp hempty⟩
  · rintro ⟨chars, ranges, rfl, hmembers, hne⟩
    exact ⟨(chars, ranges), (groupAtoms_iff _ _ _).mpr hmembers, if_neg (not_and_or.mpr hne)⟩

variable {element : PatternElement}

lemma parseList_sound {start next : ℕ} (h : parseList text start = .ok (element, rest, next)) :
    ∃ body, openBracket :: text = body ++ rest ∧ Construct body element := by
  obtain ⟨⟨atoms, rest', next'⟩, hread, hrest⟩ := Except.bind_eq_ok_iff.mp h
  obtain ⟨element', hmake, hpure⟩ := Except.bind_eq_ok_iff.mp hrest
  cases hpure
  obtain ⟨chars, ranges, rfl, hmembers, hne⟩ := (makeList_iff _ _ _ _).mp hmake
  obtain ⟨body, heq, hbody⟩ := readAtoms_sound hread
  by_cases hcaret : text.head? = some caret
  · simp only [hcaret, decide_true, if_true] at heq hmembers ⊢
    refine ⟨openBracket :: caret :: (body ++ [closeBracket]), ?_,
      Construct.negatedList hbody hmembers hne⟩
    cases text with
    | nil => cases hcaret
    | cons c text =>
      cases hcaret
      rw [List.tail_cons] at heq
      rw [heq]
      simp
  · simp only [hcaret, decide_false, Bool.false_eq_true, if_false] at heq hmembers ⊢
    refine ⟨openBracket :: (body ++ [closeBracket]), by rw [heq]; simp,
      Construct.list hbody ?_ hmembers hne⟩
    intro hhead
    apply hcaret
    rw [heq]
    cases body with
    | nil => cases hhead
    | cons c body => exact hhead

lemma parseList_complete {body : List UInt16}
    (h : Construct (openBracket :: body) element) (rest : List UInt16) (start : ℕ) :
    ∃ next, parseList (body ++ rest) start = .ok (element, rest, next) := by
  have hread : ∀ {text pairs chars ranges} (negated : Bool) (k : ℕ), AtomsText text pairs →
      Members pairs chars ranges → (chars ≠ [] ∨ ranges ≠ []) →
      ∃ atoms next, readAtoms start (text ++ closeBracket :: rest) k = .ok (atoms, rest, next) ∧
        makeList start negated atoms = .ok (.list negated chars ranges) := by
    intro text pairs chars ranges negated k htext hmembers hne
    obtain ⟨atoms, next, hatoms, rfl⟩ := readAtoms_complete htext start k rest
    exact ⟨atoms, next, hatoms, (makeList_iff _ _ _ _).mpr ⟨chars, ranges, rfl, hmembers, hne⟩⟩
  cases h with
  | @list text pairs chars ranges htext hcaret hmembers hne =>
    obtain ⟨atoms, next, hatoms, hmake⟩ := hread false (start + 1) htext hmembers hne
    have hhead : ¬ (text ++ [closeBracket] ++ rest).head? = some caret := by
      cases text with
      | nil =>
        intro h
        exact absurd (Option.some.inj h) (by decide)
      | cons c text => exact hcaret
    refine ⟨next, ?_⟩
    rw [parseList]
    simp only [hhead, decide_false, Bool.false_eq_true, if_false]
    rw [List.append_assoc, List.singleton_append, hatoms]
    exact congrArg (fun x => x >>= fun element => pure (element, rest, next)) hmake
  | @negatedList text pairs chars ranges htext hmembers hne =>
    obtain ⟨atoms, next, hatoms, hmake⟩ := hread true (start + 2) htext hmembers hne
    refine ⟨next, ?_⟩
    rw [parseList]
    simp only [List.cons_append, List.head?_cons, decide_true, if_true, List.tail_cons]
    rw [List.append_assoc, List.singleton_append, hatoms]
    exact congrArg (fun x => x >>= fun element => pure (element, rest, next)) hmake

  | ordinary _ _ _ hbracket => exact absurd rfl hbracket

/-! ### Patterns -/

/-- One more element; a `%` after a `%` is left out. -/
def pushElement (elements : List PatternElement) : PatternElement → List PatternElement
  | .anyString => pushAnyString elements
  | element => elements ++ [element]

lemma Construct.exists_cons {text : List UInt16}
    (h : Construct text element) : ∃ c rest, text = c :: rest := by
  cases h with
  | anyString | anyChar | escape c | list _ _ _ _ | negatedList _ _ _ | ordinary _ _ _ _ =>
    exact ⟨_, _, rfl⟩

/-- **The first construct** of a pattern. -/
lemma likeGrammar_cons_iff (c : UInt16) (rest : List UInt16) (elements : List PatternElement) :
    LikeGrammar (c :: rest) elements ↔ ∃ text rest' element elements',
      rest = text ++ rest' ∧ elements = element :: elements' ∧ Construct (c :: text) element ∧
        LikeGrammar rest' elements' := by
  constructor
  · intro h
    generalize hpattern : c :: rest = pattern at h
    cases h with
    | nil => cases hpattern
    | @cons text rest' element elements' hconstruct h =>
      obtain ⟨d, text', rfl⟩ := hconstruct.exists_cons
      obtain ⟨rfl, rfl⟩ := List.cons.inj hpattern
      exact ⟨text', rest', element, elements', rfl, rfl, hconstruct, h⟩
  · rintro ⟨text, rest', element, elements', rfl, rfl, hconstruct, h⟩
    exact LikeGrammar.cons hconstruct h

lemma Construct.by_head {c : UInt16} {text : List UInt16} (h : Construct (c :: text) element) :
    (c = percent ∧ text = [] ∧ element = .anyString) ∨
    (c = underscore ∧ text = [] ∧ element = .anyChar) ∨
    (c = backslash ∧ ∃ d, text = [d] ∧ element = .literal d) ∨
    (c = openBracket ∧ ∃ negated chars ranges, element = .list negated chars ranges) ∨
    (c ≠ percent ∧ c ≠ underscore ∧ c ≠ backslash ∧ text = [] ∧ element = .literal c) := by
  generalize hwhole : c :: text = whole at h
  cases h with
  | anyString =>
    obtain ⟨rfl, rfl⟩ := List.cons.inj hwhole
    exact Or.inl ⟨rfl, rfl, rfl⟩
  | anyChar =>
    obtain ⟨rfl, rfl⟩ := List.cons.inj hwhole
    exact Or.inr (Or.inl ⟨rfl, rfl, rfl⟩)
  | escape d =>
    obtain ⟨rfl, rfl⟩ := List.cons.inj hwhole
    exact Or.inr (Or.inr (Or.inl ⟨rfl, d, rfl, rfl⟩))
  | list _ _ _ _ | negatedList _ _ _ =>
    exact Or.inr (Or.inr (Or.inr (Or.inl ⟨(List.cons.inj hwhole).1, _, _, _, rfl⟩)))
  | ordinary hpercent hunderscore hbackslash _ =>
    obtain ⟨rfl, rfl⟩ := List.cons.inj hwhole
    exact Or.inr (Or.inr (Or.inr (Or.inr ⟨hpercent, hunderscore, hbackslash, rfl, rfl⟩)))

/-- **A character alone** is a construct, and no other starts with it. -/
lemma likeGrammar_single_iff {c : UInt16}
    (hconstruct : Construct [c] element) (hbracket : c ≠ openBracket)
    (hbackslash : c ≠ backslash) (rest : List UInt16) (elements : List PatternElement) :
    LikeGrammar (c :: rest) elements ↔
      ∃ elements', elements = element :: elements' ∧ LikeGrammar rest elements' := by
  have hunique : ∀ text element', Construct (c :: text) element' →
      text = [] ∧ element' = element := by
    intro text element' h'
    rcases hconstruct.by_head with ⟨rfl, -, rfl⟩ | ⟨rfl, -, rfl⟩ | ⟨rfl, -⟩ | ⟨rfl, -⟩ |
        ⟨hp, hu, -, -, rfl⟩
    · rcases h'.by_head with ⟨-, rfl, rfl⟩ | ⟨h, -⟩ | ⟨h, -⟩ | ⟨h, -⟩ | ⟨h, -⟩
      · exact ⟨rfl, rfl⟩
      · exact absurd h (by decide)
      · exact absurd h (by decide)
      · exact absurd h (by decide)
      · exact absurd rfl h
    · rcases h'.by_head with ⟨h, -⟩ | ⟨-, rfl, rfl⟩ | ⟨h, -⟩ | ⟨h, -⟩ | ⟨-, h, -⟩
      · exact absurd h (by decide)
      · exact ⟨rfl, rfl⟩
      · exact absurd h (by decide)
      · exact absurd h (by decide)
      · exact absurd rfl h
    · exact absurd rfl hbackslash
    · exact absurd rfl hbracket
    · rcases h'.by_head with ⟨h, -⟩ | ⟨h, -⟩ | ⟨h, -⟩ | ⟨h, -⟩ | ⟨-, -, -, rfl, rfl⟩
      · exact absurd h hp
      · exact absurd h hu
      · exact absurd h hbackslash
      · exact absurd h hbracket
      · exact ⟨rfl, rfl⟩
  rw [likeGrammar_cons_iff]
  constructor
  · rintro ⟨text, rest', element', elements', rfl, rfl, hconstruct', h⟩
    obtain ⟨rfl, rfl⟩ := hunique text element' hconstruct'
    exact ⟨elements', rfl, h⟩
  · rintro ⟨elements', rfl, h⟩
    exact ⟨[], rest, element, elements', rfl, rfl, hconstruct, h⟩

/-- **An escape** makes a construct with the character after it. -/
lemma likeGrammar_escape_iff (d : UInt16) (rest : List UInt16) (elements : List PatternElement) :
    LikeGrammar (backslash :: d :: rest) elements ↔
      ∃ elements', elements = .literal d :: elements' ∧ LikeGrammar rest elements' := by
  rw [likeGrammar_cons_iff]
  constructor
  · rintro ⟨text, rest', element, elements', hrest, rfl, hconstruct, h⟩
    rcases hconstruct.by_head with ⟨h', -⟩ | ⟨h', -⟩ | ⟨-, d', rfl, rfl⟩ | ⟨h', -⟩ | ⟨-, -, h', -⟩
    · exact absurd h' (by decide)
    · exact absurd h' (by decide)
    · obtain ⟨rfl, rfl⟩ := List.cons.inj hrest
      exact ⟨elements', rfl, h⟩
    · exact absurd h' (by decide)
    · exact absurd rfl h'
  · rintro ⟨elements', rfl, h⟩
    exact ⟨[d], rest, _, elements', rfl, rfl, Construct.escape d, h⟩

lemma not_likeGrammar_escape (elements : List PatternElement) :
    ¬ LikeGrammar [backslash] elements := by
  rw [likeGrammar_cons_iff]
  rintro ⟨text, rest', element, elements', hrest, rfl, hconstruct, h⟩
  obtain ⟨rfl, rfl⟩ := List.append_eq_nil_iff.mp hrest.symm
  rcases hconstruct.by_head with ⟨h', -⟩ | ⟨h', -⟩ | ⟨-, d', h', -⟩ | ⟨h', -⟩ | ⟨-, -, h', -⟩
  · exact absurd h' (by decide)
  · exact absurd h' (by decide)
  · cases h'
  · exact absurd h' (by decide)
  · exact absurd rfl h'

variable {rest rest' : List UInt16}

section

variable (h : parseList rest i = .ok (element, rest', next)) (elements : List PatternElement)
include h

/-- **A list** is the construct that is parsed. -/
lemma likeGrammar_list_iff :
    LikeGrammar (openBracket :: rest) elements ↔
      ∃ elements', elements = element :: elements' ∧ LikeGrammar rest' elements' := by
  constructor
  · rw [likeGrammar_cons_iff]
    rintro ⟨text, rest'', element', elements', rfl, rfl, hconstruct, hgrammar⟩
    obtain ⟨next', hlist⟩ := parseList_complete hconstruct rest'' i
    cases h.symm.trans hlist
    exact ⟨elements', rfl, hgrammar⟩
  · rintro ⟨elements', rfl, hgrammar⟩
    obtain ⟨body, heq, hconstruct⟩ := parseList_sound h
    rw [heq]
    exact LikeGrammar.cons hconstruct hgrammar

lemma pushElement_list :
    pushElement elements element = elements ++ [element] := by
  obtain ⟨⟨atoms, rest'', next'⟩, -, hrest⟩ := Except.bind_eq_ok_iff.mp h
  obtain ⟨element', hmake, hpure⟩ := Except.bind_eq_ok_iff.mp hrest
  cases hpure
  obtain ⟨chars, ranges, rfl, -⟩ := (makeList_iff _ _ _ _).mp hmake
  rfl

end

lemma parse_step {p : Prop} {elements result : List PatternElement}
    (hgrammar : ∀ items, LikeGrammar text items ↔
      ∃ items', items = element :: items' ∧ LikeGrammar rest items')
    (hrest : p ↔ ∃ items, LikeGrammar rest items ∧
      result = items.foldl pushElement (pushElement elements element)) :
    p ↔ ∃ items, LikeGrammar text items ∧ result = items.foldl pushElement elements := by
  rw [hrest]
  constructor
  · rintro ⟨items, h, rfl⟩
    exact ⟨element :: items, (hgrammar _).mpr ⟨items, rfl, h⟩, rfl⟩
  · rintro ⟨items, h, rfl⟩
    obtain ⟨items', rfl, h'⟩ := (hgrammar items).mp h
    exact ⟨items', h', rfl⟩

/-- **The parser** finds the elements of a well-formed pattern, and adds them one by one. -/
theorem parseElements_iff (text : List UInt16) (i : ℕ) (elements result : List PatternElement) :
    parseElements text i elements = .ok result ↔
      ∃ items, LikeGrammar text items ∧ result = items.foldl pushElement elements := by
  induction text, i, elements using parseElements.induct with
  | case1 i elements =>
    rw [parseElements]
    constructor
    · intro h
      cases h
      exact ⟨[], LikeGrammar.nil, rfl⟩
    · rintro ⟨items, h, rfl⟩
      generalize hempty : ([] : List UInt16) = empty at h
      cases h with
      | nil => rfl
      | cons hconstruct _ =>
        obtain ⟨c, rest, rfl⟩ := hconstruct.exists_cons
        cases hempty
  | case2 i elements rest ih =>
    rw [parseElements.eq_def]
    exact parse_step (likeGrammar_single_iff Construct.anyString (by decide) (by decide) rest) ih
  | case3 i elements rest hpercent ih =>
    rw [parseElements.eq_def]
    exact parse_step (likeGrammar_single_iff Construct.anyChar (by decide) (by decide) rest) ih
  | case4 i elements hpercent hunderscore =>
    rw [parseElements, if_neg hpercent, if_neg hunderscore, if_pos rfl]
    refine iff_of_false nofun ?_
    rintro ⟨items, h, -⟩
    exact not_likeGrammar_escape items h
  | case5 i elements d rest hpercent hunderscore ih =>
    rw [parseElements, if_neg hpercent, if_neg hunderscore, if_pos rfl]
    exact parse_step (likeGrammar_escape_iff d rest) ih
  | case6 i elements rest e hlist hpercent hunderscore hbackslash =>
    rw [parseElements.eq_def]
    dsimp only
    rw [if_neg hpercent, if_neg hunderscore, if_neg hbackslash, if_pos rfl]
    split
    · refine iff_of_false nofun ?_
      rintro ⟨items, h, -⟩
      obtain ⟨text, rest', element, elements', rfl, -, hconstruct, -⟩ :=
        (likeGrammar_cons_iff _ _ _).mp h
      obtain ⟨next, hok⟩ := parseList_complete hconstruct rest' i
      cases hlist.symm.trans hok
    · next element rest' next hok => cases hlist.symm.trans hok
  | case7 i elements rest element rest' next hlist hlt hpercent hunderscore hbackslash ih =>
    rw [parseElements.eq_def]
    dsimp only
    rw [if_neg hpercent, if_neg hunderscore, if_neg hbackslash, if_pos rfl]
    split
    · next e herror => cases hlist.symm.trans herror
    · next element' rest'' next' hok =>
      cases hlist.symm.trans hok
      rw [← pushElement_list hlist] at ih ⊢
      exact parse_step (likeGrammar_list_iff hlist) ih
  | case8 i elements d rest hpercent hunderscore hbackslash hbracket ih =>
    rw [parseElements.eq_def]
    dsimp only
    rw [if_neg hpercent, if_neg hunderscore, if_neg hbackslash, if_neg hbracket]
    exact parse_step (likeGrammar_single_iff
      (Construct.ordinary hpercent hunderscore hbackslash hbracket) hbracket hbackslash rest) ih

/-! ### The subjects of a pattern -/

/-- **The subjects that a pattern matches**, by its constructs. -/
def subjects (conversion : CaseConversion) (caseInsensitive : Bool) (pattern : List UInt16) :
    Language UInt16 :=
  {s | ∃ elements, LikeGrammar pattern elements ∧
    s ∈ patternLanguage conversion caseInsensitive elements}

section

variable {conversion : CaseConversion} {caseInsensitive : Bool}

lemma patternLanguage_append (elements : List PatternElement) (element : PatternElement) :
    patternLanguage conversion caseInsensitive (elements ++ [element]) =
      patternLanguage conversion caseInsensitive elements *
        element.language conversion caseInsensitive := by
  unfold patternLanguage
  rw [List.map_append, List.prod_append, List.map_singleton, List.prod_singleton]

/-- **Repeated `%`** match no more than one of them. -/
lemma anyString_mul_anyString :
    PatternElement.anyString.language conversion caseInsensitive *
      PatternElement.anyString.language conversion caseInsensitive =
      PatternElement.anyString.language conversion caseInsensitive := by
  apply Set.eq_of_subset_of_subset
  · exact fun _ _ => trivial
  · exact fun s _ => Language.mem_mul.mpr ⟨s, trivial, [], trivial, List.append_nil s⟩

lemma patternLanguage_pushElement (elements : List PatternElement) (element : PatternElement) :
    patternLanguage conversion caseInsensitive (pushElement elements element) =
      patternLanguage conversion caseInsensitive elements *
        element.language conversion caseInsensitive := by
  cases element with
  | anyString =>
    rw [pushElement, pushAnyString]
    split_ifs with hlast
    · obtain ⟨before, rfl⟩ := List.getLast?_eq_some_iff.mp hlast
      rw [patternLanguage_append, mul_assoc, anyString_mul_anyString]
    · exact patternLanguage_append elements _
  | anyChar | literal value | list negated chars ranges => exact patternLanguage_append elements _

/-- **The elements of the parser** match what the constructs match. -/
lemma patternLanguage_foldl (items elements : List PatternElement) :
    patternLanguage conversion caseInsensitive (items.foldl pushElement elements) =
      patternLanguage conversion caseInsensitive elements *
        patternLanguage conversion caseInsensitive items := by
  induction items generalizing elements with
  | nil => exact (mul_one _).symm
  | cons item items ih =>
    rw [List.foldl_cons, ih, patternLanguage_pushElement, mul_assoc]
    rfl

end

section

variable (pattern : List UInt16)

lemma parsePattern_eq_ok_iff (maxPatternLength : ℕ) (result : List PatternElement) :
    parsePattern pattern maxPatternLength = .ok result ↔
      pattern.length ≤ maxPatternLength ∧
        ∃ items, LikeGrammar pattern items ∧ result = items.foldl pushElement [] := by
  unfold parsePattern
  split_ifs with hlong
  · refine iff_of_false nofun ?_
    rintro ⟨hle, -⟩
    omega
  · rw [parseElements_iff, and_iff_right (Nat.le_of_not_lt hlong)]

lemma parsePattern_isOk_iff (maxPatternLength : ℕ) :
    (∃ result, parsePattern pattern maxPatternLength = .ok result) ↔
      WellFormed pattern ∧ pattern.length ≤ maxPatternLength := by
  constructor
  · rintro ⟨result, h⟩
    obtain ⟨hle, items, hitems, -⟩ := (parsePattern_eq_ok_iff _ _ _).mp h
    exact ⟨⟨items, hitems⟩, hle⟩
  · rintro ⟨⟨items, hitems⟩, hle⟩
    exact ⟨_, (parsePattern_eq_ok_iff _ _ _).mpr ⟨hle, items, hitems, rfl⟩⟩

lemma likePattern_new_eq_ok_iff (opts : LikeOptions) (p : LikePattern) :
    LikePattern.new pattern opts = .ok p ↔ p.caseInsensitive = opts.caseInsensitive.getD false ∧
      parsePattern pattern (opts.maxPatternLength.getD DEFAULT_MAX_PATTERN_LENGTH) =
        .ok p.elements := by
  rw [LikePattern.new, Except.bind_pure_eq_ok_iff]
  constructor
  · rintro ⟨elements, h, rfl⟩
    exact ⟨rfl, h⟩
  · rintro ⟨hcase, h⟩
    refine ⟨p.elements, h, ?_⟩
    rw [← hcase]

/-- `isValidLikePattern` accepts what the parser accepts. -/
lemma isValidLikePattern_iff (opts : LikeOptions) :
    isValidLikePattern pattern opts = true ↔ ∃ result,
      parsePattern pattern (opts.maxPatternLength.getD DEFAULT_MAX_PATTERN_LENGTH) =
        .ok result := by
  unfold isValidLikePattern
  cases parsePattern pattern (opts.maxPatternLength.getD DEFAULT_MAX_PATTERN_LENGTH) with
  | error e => exact iff_of_false Bool.false_ne_true nofun
  | ok result => exact iff_of_true rfl ⟨result, rfl⟩

end

/-- **The Like operator.** A pattern is accepted if and only if it is well formed and not longer
than the limit, whether or not case matters, and the test of an accepted pattern is true exactly for
the subjects that its constructs match. -/
theorem like_correct (conversion : CaseConversion) (pattern : List UInt16)
    (options : LikeOptions) :
    ((∃ p, LikePattern.new pattern options = .ok p) ↔ WellFormed pattern ∧
      pattern.length ≤ options.maxPatternLength.getD DEFAULT_MAX_PATTERN_LENGTH) ∧
    (isValidLikePattern pattern options = true ↔ WellFormed pattern ∧
      pattern.length ≤ options.maxPatternLength.getD DEFAULT_MAX_PATTERN_LENGTH) ∧
    ∀ p, LikePattern.new pattern options = .ok p → ∀ subject,
      p.test conversion subject = true ↔
        subject ∈ subjects conversion (options.caseInsensitive.getD false) pattern := by
  rw [isValidLikePattern_iff, ← parsePattern_isOk_iff]
  refine ⟨?_, Iff.rfl, ?_⟩
  · constructor
    · rintro ⟨p, hp⟩
      exact ⟨p.elements, ((likePattern_new_eq_ok_iff _ _ _).mp hp).2⟩
    · rintro ⟨elements, h⟩
      exact ⟨⟨elements, _⟩, (likePattern_new_eq_ok_iff _ _ _).mpr ⟨rfl, h⟩⟩
  · intro p hp subject
    obtain ⟨hcase, hparse⟩ := (likePattern_new_eq_ok_iff _ _ _).mp hp
    have hlanguage : ∀ items, LikeGrammar pattern items →
        patternLanguage conversion p.caseInsensitive p.elements =
          patternLanguage conversion p.caseInsensitive items := by
      intro items hitems
      have hle := ((parsePattern_eq_ok_iff _ _ _).mp hparse).1
      have hok := (parsePattern_eq_ok_iff _ _ _).mpr ⟨hle, items, hitems, rfl⟩
      rw [Except.ok.inj (hparse.symm.trans hok), patternLanguage_foldl]
      exact one_mul _
    rw [LikePattern.test_iff, ← hcase]
    constructor
    · intro h
      obtain ⟨-, items, hitems, -⟩ := (parsePattern_eq_ok_iff _ _ _).mp hparse
      exact ⟨items, hitems, by rwa [← hlanguage items hitems]⟩
    · rintro ⟨items, hitems, h⟩
      rwa [hlanguage items hitems]

lemma wellFormed_replicate (n : ℕ) : WellFormed (List.replicate n 0x61) := by
  induction n with
  | zero => exact ⟨[], LikeGrammar.nil⟩
  | succ n ih =>
    obtain ⟨elements, h⟩ := ih
    exact ⟨_, h.cons (Construct.ordinary (by decide) (by decide) (by decide) (by decide))⟩

/-- **A long pattern is refused**, although it is well formed. -/
theorem like_tooLong :
    WellFormed (List.replicate 2049 0x61) ∧
      LikePattern.new (List.replicate 2049 0x61) {} = .error ⟨2048, .tooLong 2049 2048⟩ := by
  refine ⟨wellFormed_replicate 2049, ?_⟩
  have hlen : (List.replicate 2049 (0x61 : UInt16)).length = 2049 := List.length_replicate
  rw [LikePattern.new, parsePattern, hlen]
  rfl

end NodeOpcua
