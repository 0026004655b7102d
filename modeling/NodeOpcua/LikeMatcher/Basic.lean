import NodeOpcua.Library.Except
import NodeOpcua.Library.Memo

set_option autoImplicit false

/-!
# The Like operator

A pattern with wildcards is parsed into elements, and the elements are matched against a subject.
The matcher backtracks only at `%` and records the positions that are known not to match.

## Main definitions

* `PatternElement`, `parsePattern`, `matchFrom`, `LikePattern`, `like`, `isValidLikePattern`.

## Design

* Strings are sequences of UTF-16 code units, as the index operations of the language see them.
* The conversion of one unit to lower or upper case, which may give several units, is a parameter.
* A position in the pattern or in the subject is the rest from there, together with its index.
-/

namespace NodeOpcua

/-! ### Characters -/

namespace Like

/-- `%` -/
def percent : UInt16 := 0x25
/-- `_` -/
def underscore : UInt16 := 0x5f
/-- `\` -/
def backslash : UInt16 := 0x5c
/-- `[` -/
def openBracket : UInt16 := 0x5b
/-- `]` -/
def closeBracket : UInt16 := 0x5d
/-- `^` -/
def caret : UInt16 := 0x5e
/-- `-` -/
def dash : UInt16 := 0x2d

end Like

open Like

/-- **The case conversion** of the language, for one code unit. -/
structure CaseConversion where
  toLowerCase : UInt16 → List UInt16
  toUpperCase : UInt16 → List UInt16

/-! ### Patterns -/

/-- `PatternElement`. -/
inductive PatternElement
  | anyString
  | anyChar
  | literal (value : UInt16)
  | list (negated : Bool) (chars : List UInt16) (ranges : List (UInt16 × UInt16))
  deriving DecidableEq

/-- Why a pattern is refused. -/
inductive InvalidReason
  | tooLong (length maxPatternLength : ℕ)
  | danglingEscape
  | unterminatedList
  | reversedRange (first last : UInt16)
  | emptyList
  deriving DecidableEq, Repr

/-- `InvalidLikePatternError`, for a pattern that is known. -/
structure InvalidLikePatternError where
  index : ℕ
  reason : InvalidReason
  deriving DecidableEq, Repr

/-- `DEFAULT_MAX_PATTERN_LENGTH`. -/
def DEFAULT_MAX_PATTERN_LENGTH : ℕ := 2048

/-- `LikeOptions`. -/
structure LikeOptions where
  caseInsensitive : Option Bool := none
  maxPatternLength : Option ℕ := none

/-! ### The parser -/

/-- `ListAtom`: a character in a list, whether it is escaped, and where it stands. -/
structure ListAtom where
  char : UInt16
  escaped : Bool
  index : ℕ
  deriving DecidableEq

/-- The first loop of `parseList`: the atoms up to the closing bracket, and what follows it. -/
def readAtoms (start : ℕ) :
    List UInt16 → ℕ → Except InvalidLikePatternError (List ListAtom × List UInt16 × ℕ)
  | [], _ => .error ⟨start, .unterminatedList⟩
  | c :: rest, i =>
    if c = closeBracket then .ok ([], rest, i + 1)
    else if c = backslash then
      match rest with
      | [] => .error ⟨i, .danglingEscape⟩
      | d :: rest => do
        let (atoms, rest, next) ← readAtoms start rest (i + 2)
        return (⟨d, true, i⟩ :: atoms, rest, next)
    else do
      let (atoms, rest, next) ← readAtoms start rest (i + 1)
      return (⟨c, false, i⟩ :: atoms, rest, next)

/-- The second loop of `parseList`: an unescaped `-` between two atoms makes a range. -/
def groupAtoms :
    List ListAtom → Except InvalidLikePatternError (List UInt16 × List (UInt16 × UInt16))
  | a :: d :: b :: rest =>
    if d.escaped = false ∧ d.char = dash then
      if b.char < a.char then .error ⟨a.index, .reversedRange a.char b.char⟩
      else do
        let (chars, ranges) ← groupAtoms rest
        return (chars, (a.char, b.char) :: ranges)
    else do
      let (chars, ranges) ← groupAtoms (d :: b :: rest)
      return (a.char :: chars, ranges)
  | a :: rest => do
    let (chars, ranges) ← groupAtoms rest
    return (a.char :: chars, ranges)
  | [] => return ([], [])

/-- The end of `parseList`: a list must not be empty. -/
def makeList (start : ℕ) (negated : Bool) (atoms : List ListAtom) :
    Except InvalidLikePatternError PatternElement := do
  let (chars, ranges) ← groupAtoms atoms
  if chars = [] ∧ ranges = [] then .error ⟨start, .emptyList⟩
  else .ok (.list negated chars ranges)

/-- `parseList`: the list that starts at the index `start`, whose bracket is read, and what follows
it. -/
def parseList (rest : List UInt16) (start : ℕ) :
    Except InvalidLikePatternError (PatternElement × List UInt16 × ℕ) := do
  let negated : Bool := rest.head? = some caret
  let (atoms, rest, next) ←
    readAtoms start (if negated then rest.tail else rest) (if negated then start + 2 else start + 1)
  let element ← makeList start negated atoms
  return (element, rest, next)

variable {text rest : List UInt16}

lemma readAtoms_length {start : ℕ} {i next : ℕ} {atoms : List ListAtom}
    (h : readAtoms start text i = .ok (atoms, rest, next)) : rest.length < text.length := by
  induction text, i using readAtoms.induct generalizing atoms rest next with
  | case1 i => cases h
  | case2 text i =>
    rw [readAtoms.eq_def] at h
    cases h
    exact Nat.lt_succ_self _
  | case3 i hc =>
    cases h
  | case4 i d text hc ih =>
    obtain ⟨⟨atoms', rest', next'⟩, hread, hpure⟩ := Except.bind_eq_ok_iff.mp h
    cases hpure
    have := ih hread
    simp only [List.length_cons]
    omega
  | case5 c text i hc hne ih =>
    rw [readAtoms.eq_def] at h
    dsimp only at h
    rw [if_neg hc, if_neg hne] at h
    obtain ⟨⟨atoms', rest', next'⟩, hread, hpure⟩ := Except.bind_eq_ok_iff.mp h
    cases hpure
    have := ih hread
    simp only [List.length_cons]
    omega

lemma parseList_length {start next : ℕ} {element : PatternElement}
    (h : parseList text start = .ok (element, rest, next)) : rest.length < text.length := by
  obtain ⟨⟨atoms, rest', next'⟩, hread, hrest⟩ := Except.bind_eq_ok_iff.mp h
  obtain ⟨element', -, hpure⟩ := Except.bind_eq_ok_iff.mp hrest
  cases hpure
  have hlt := readAtoms_length hread
  have htail := List.length_tail (l := text)
  split_ifs at hlt <;> omega

/-- One more `%` after a `%` is left out. -/
def pushAnyString (elements : List PatternElement) : List PatternElement :=
  if elements.getLast? = some .anyString then elements else elements ++ [.anyString]

/-- The loop of `parsePattern`, from the index `i` on. -/
def parseElements (rest : List UInt16) (i : ℕ) (elements : List PatternElement) :
    Except InvalidLikePatternError (List PatternElement) :=
  match rest with
  | [] => .ok elements
  | c :: rest =>
    if c = percent then parseElements rest (i + 1) (pushAnyString elements)
    else if c = underscore then parseElements rest (i + 1) (elements ++ [.anyChar])
    else if c = backslash then
      match rest with
      | [] => .error ⟨i, .danglingEscape⟩
      | d :: rest => parseElements rest (i + 2) (elements ++ [.literal d])
    else if c = openBracket then
      match h : parseList rest i with
      | .error e => .error e
      | .ok (element, rest', next) =>
        have := parseList_length h
        parseElements rest' next (elements ++ [element])
    else parseElements rest (i + 1) (elements ++ [.literal c])
  termination_by rest.length

/-- `parsePattern`. -/
def parsePattern (pattern : List UInt16) (maxPatternLength : ℕ) :
    Except InvalidLikePatternError (List PatternElement) :=
  if maxPatternLength < pattern.length then
    .error ⟨maxPatternLength, .tooLong pattern.length maxPatternLength⟩
  else parseElements pattern 0 []

/-! ### The matcher -/

section

variable (conversion : CaseConversion) (caseInsensitive : Bool)

/-- `charEquals`. -/
def charEquals (a b : UInt16) : Bool :=
  a == b || caseInsensitive && conversion.toLowerCase a == conversion.toLowerCase b

/-- `isMember`, for a string: a case conversion may give more than one unit. Strings are compared
unit by unit. -/
def isMember (chars : List UInt16) (ranges : List (UInt16 × UInt16)) (s : List UInt16) : Bool :=
  chars.any (fun c => [c] == s) || ranges.any fun range => [range.1] ≤ s && s ≤ [range.2]

/-- `listMatches`. The other cases of the subject character are tried. -/
def listMatches (negated : Bool) (chars : List UInt16) (ranges : List (UInt16 × UInt16))
    (c : UInt16) : Bool :=
  let lower := conversion.toLowerCase c
  let upper := conversion.toUpperCase c
  let inList := isMember chars ranges [c] ||
    caseInsensitive && (lower != [c] && isMember chars ranges lower ||
      upper != [c] && isMember chars ranges upper)
  if negated then !inList else inList

/-- What `matchFrom` does with one character, for the elements that consume one. -/
def matchesChar (element : PatternElement) (c : UInt16) : Bool :=
  match element with
  | .literal value => charEquals conversion caseInsensitive c value
  | .list negated chars ranges => listMatches conversion caseInsensitive negated chars ranges c
  | _ => true

/-- The loop of `matchFrom` at a `%`: what follows the element is tried at every position from
`skip` on. -/
def tryFrom (stride elementIndex : ℕ) (next : List UInt16 → ℕ → Memo.Search ℕ) :
    List UInt16 → ℕ → Memo.Search ℕ
  | [], skip => Memo.attempt ((elementIndex + 1) * stride + skip) (next [] skip)
  | c :: text, skip =>
    Memo.orElse (Memo.attempt ((elementIndex + 1) * stride + skip) (next (c :: text) skip))
      (tryFrom stride elementIndex next text (skip + 1))

/-- `matchFrom`, for the elements from `elementIndex` on and the subject from `textIndex` on. -/
def matchFrom (stride : ℕ) : List PatternElement → ℕ → List UInt16 → ℕ → Memo.Search ℕ
  | [], _, text, _ => fun failed => (text.isEmpty, failed)
  | .anyString :: elements, elementIndex, text, textIndex =>
    if elements = [] then fun failed => (true, failed)
    else tryFrom stride elementIndex (matchFrom stride elements (elementIndex + 1)) text textIndex
  | element :: elements, elementIndex, text, textIndex =>
    match text with
    | [] => fun failed => (false, failed)
    | c :: text =>
      if matchesChar conversion caseInsensitive element c then
        matchFrom stride elements (elementIndex + 1) text (textIndex + 1)
      else fun failed => (false, failed)

end

/-! ### What is exported -/

/-- `LikePattern`. -/
structure LikePattern where
  elements : List PatternElement
  caseInsensitive : Bool

/-- `new LikePattern`. -/
def LikePattern.new (pattern : List UInt16) (options : LikeOptions) :
    Except InvalidLikePatternError LikePattern := do
  let elements ←
    parsePattern pattern (options.maxPatternLength.getD DEFAULT_MAX_PATTERN_LENGTH)
  return ⟨elements, options.caseInsensitive.getD false⟩

/-- `LikePattern.test`. -/
def LikePattern.test (conversion : CaseConversion) (p : LikePattern) (subject : List UInt16) :
    Bool :=
  (matchFrom conversion p.caseInsensitive (subject.length + 1) p.elements 0 subject 0 ∅).1

/-- `like`. -/
def like (conversion : CaseConversion) (subject pattern : List UInt16) (options : LikeOptions) :
    Except InvalidLikePatternError Bool := do
  let p ← LikePattern.new pattern options
  return p.test conversion subject

/-- `isValidLikePattern`. -/
def isValidLikePattern (pattern : List UInt16) (options : LikeOptions) : Bool :=
  (parsePattern pattern (options.maxPatternLength.getD DEFAULT_MAX_PATTERN_LENGTH)).isOk

end NodeOpcua
