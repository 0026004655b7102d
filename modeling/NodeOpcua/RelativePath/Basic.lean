import NodeOpcua.Library.LeftmostMatch
import NodeOpcua.Library.Number

set_option autoImplicit false

/-!
# Relative paths

A relative path is written as a sequence of reference types, each followed by the name of a target.
The parser looks for the leftmost reference type in what remains and then drops as many characters
from the beginning as the match has.

## Main definitions

* `matchPair`, `unescape`, `escape`, `makeRelativePath`.

## Design

* Strings are sequences of UTF-16 code units.
* The node identifiers and the two ways to find a reference type by its name are parameters.
* A group of the expression that is repeated or optional is taken as long as possible. The
  alternatives exclude each other by their first character, so backtracking finds nothing else.
-/

namespace NodeOpcua

open LeftmostMatch

/-! ### Characters -/

namespace RelativePath

/-- `/` -/
def slash : UInt16 := 0x2f
/-- `.` -/
def dot : UInt16 := 0x2e
/-- `<` -/
def less : UInt16 := 0x3c
/-- `>` -/
def greater : UInt16 := 0x3e
/-- `:` -/
def colon : UInt16 := 0x3a
/-- `#` -/
def hash : UInt16 := 0x23
/-- `!` -/
def bang : UInt16 := 0x21
/-- `&` -/
def ampersand : UInt16 := 0x26

/-- `regReservedCharacters`; the other characters are `regCharacters`. -/
def isReserved (c : UInt16) : Bool :=
  c == slash || c == dot || c == less || c == greater || c == colon || c == hash || c == bang ||
    c == ampersand

/-- `[0-9]` -/
def isDigit (c : UInt16) : Bool := 0x30 ≤ c && c ≤ 0x39

end RelativePath

open RelativePath

/-! ### Escapes -/

/-- The replacement of all occurrences of `&` with the character after it. -/
def replaceEscape (c : UInt16) : List UInt16 → List UInt16
  | [] => []
  | [a] => [a]
  | a :: b :: rest =>
    if a = ampersand ∧ b = c then c :: replaceEscape c rest else a :: replaceEscape c (b :: rest)

/-- `unescape`. -/
def unescape (str : List UInt16) : List UInt16 :=
  let str := replaceEscape slash str
  let str := replaceEscape dot str
  let str := replaceEscape less str
  let str := replaceEscape greater str
  let str := replaceEscape colon str
  let str := replaceEscape hash str
  let str := replaceEscape bang str
  replaceEscape ampersand str

/-- The replacement of all occurrences of a character by the character with `&` before it. -/
def insertEscape (c : UInt16) (str : List UInt16) : List UInt16 :=
  str.flatMap fun d => if d = c then [ampersand, c] else [d]

/-- `escape`. -/
def escape (str : List UInt16) : List UInt16 :=
  let str := insertEscape ampersand str
  let str := insertEscape slash str
  let str := insertEscape dot str
  let str := insertEscape less str
  let str := insertEscape greater str
  let str := insertEscape colon str
  let str := insertEscape hash str
  insertEscape bang str

/-! ### The expression -/

/-- `regName`, also when it is empty: the name as it is written, and what follows. -/
def takeName : List UInt16 → List UInt16 × List UInt16
  | [] => ([], [])
  | c :: rest =>
    if c = ampersand then
      match rest with
      | [] => ([], [c])
      | d :: rest' =>
        if isReserved d then (c :: d :: (takeName rest').1, (takeName rest').2)
        else ([], c :: d :: rest')
    else if isReserved c then ([], c :: rest)
    else (c :: (takeName rest).1, (takeName rest).2)

/-- The groups of `regBrowseName`: the digits of the namespace index, and the name as it is
written. -/
structure BrowseMatch where
  index : Option (List UInt16)
  text : List UInt16
  deriving DecidableEq, Repr

/-- The namespace index with its colon. -/
def takeIndex (cs : List UInt16) : Option (List UInt16 × List UInt16) :=
  match cs.dropWhile isDigit with
  | c :: after => if c = colon ∧ cs.takeWhile isDigit ≠ [] then
      some (cs.takeWhile isDigit, after) else none
  | [] => none

/-- A name without a namespace index. -/
def takeUnqualified (cs : List UInt16) : Option (BrowseMatch × List UInt16) :=
  if (takeName cs).1 = [] then none else some (⟨none, (takeName cs).1⟩, (takeName cs).2)

/-- `regBrowseName`. -/
def takeBrowseName (cs : List UInt16) : Option (BrowseMatch × List UInt16) :=
  match takeIndex cs with
  | none => takeUnqualified cs
  | some (digits, after) =>
    if (takeName after).1 = [] then takeUnqualified cs
    else some (⟨some digits, (takeName after).1⟩, (takeName after).2)

/-- The groups of `regReferenceType`. -/
inductive ReferenceMatch
  | slash
  | dot
  | named (hash bang : Bool) (name : BrowseMatch)
  deriving DecidableEq, Repr

/-- An optional character. -/
def takeOptional (c : UInt16) : List UInt16 → Bool × List UInt16
  | [] => (false, [])
  | d :: rest => if d = c then (true, rest) else (false, d :: rest)

/-- `regReferenceType`. -/
def takeReferenceType : List UInt16 → Option (ReferenceMatch × List UInt16)
  | [] => none
  | c :: rest =>
    if c = slash then some (.slash, rest)
    else if c = dot then some (.dot, rest)
    else if c = less then
      let (hashed, rest) := takeOptional hash rest
      let (banged, rest) := takeOptional bang rest
      match takeBrowseName rest with
      | some (name, d :: rest) =>
        if d = greater then some (.named hashed banged name, rest) else none
      | _ => none
    else none

/-- `regRelativePath` at the beginning of a text: its groups, and the length of the match. -/
def matchPair (cs : List UInt16) : Option (ReferenceMatch × Option BrowseMatch × ℕ) :=
  match takeReferenceType cs with
  | none => none
  | some (reference, rest) =>
    match takeBrowseName rest with
    | none => some (reference, none, cs.length - rest.length)
    | some (target, rest) => some (reference, some target, cs.length - rest.length)

/-! ### What is taken -/

lemma takeName_ampersand {c : UInt16} (rest : List UInt16) (hc : isReserved c = true) :
    takeName (ampersand :: c :: rest) =
      (ampersand :: c :: (takeName rest).1, (takeName rest).2) := by
  rw [takeName.eq_def]
  dsimp only
  rw [if_pos rfl, if_pos hc]

lemma takeName_cons {c : UInt16} (rest : List UInt16) (hc : isReserved c = false) :
    takeName (c :: rest) = (c :: (takeName rest).1, (takeName rest).2) := by
  have hne : c ≠ ampersand := by
    rintro rfl
    cases hc
  rw [takeName.eq_def]
  dsimp only
  rw [if_neg hne, if_neg (by rw [hc]; exact Bool.false_ne_true)]

lemma takeName_stop (cs : List UInt16) :
    (takeName cs = ([], cs)) ∨
      (∃ c rest, isReserved c = true ∧ cs = ampersand :: c :: rest) ∨
      ∃ c rest, isReserved c = false ∧ cs = c :: rest := by
  cases cs with
  | nil => exact Or.inl rfl
  | cons c rest =>
    by_cases hc : isReserved c = true
    · by_cases hamp : c = ampersand
      · subst hamp
        cases rest with
        | nil => exact Or.inl rfl
        | cons d rest =>
          by_cases hd : isReserved d = true
          · exact Or.inr (Or.inl ⟨d, rest, hd, rfl⟩)
          · left
            rw [takeName.eq_def]
            dsimp only
            rw [if_pos rfl, if_neg hd]
      · left
        rw [takeName.eq_def]
        dsimp only
        rw [if_neg hamp, if_pos hc]
    · exact Or.inr (Or.inr ⟨c, rest, by simpa using hc, rfl⟩)

lemma takeName_append (cs : List UInt16) : (takeName cs).1 ++ (takeName cs).2 = cs := by
  induction hn : cs.length using Nat.strong_induction_on generalizing cs with
  | _ n ih =>
    rcases takeName_stop cs with h | ⟨c, rest, hc, rfl⟩ | ⟨c, rest, hc, rfl⟩
    · rw [h]
      rfl
    · have hlt : rest.length < n := by
        rw [← hn, List.length_cons, List.length_cons]
        omega
      rw [takeName_ampersand rest hc, List.cons_append, List.cons_append, ih _ hlt rest rfl]
    · have hlt : rest.length < n := by
        rw [← hn, List.length_cons]
        omega
      rw [takeName_cons rest hc, List.cons_append, ih _ hlt rest rfl]

lemma takeIndex_append {cs digits after : List UInt16} (h : takeIndex cs = some (digits, after)) :
    cs = digits ++ colon :: after ∧ digits ≠ [] ∧ ∀ c ∈ digits, isDigit c = true := by
  rw [takeIndex] at h
  cases hrest : cs.dropWhile isDigit with
  | nil => rw [hrest] at h; cases h
  | cons c rest =>
    rw [hrest] at h
    dsimp only at h
    split_ifs at h with hc
    cases h
    refine ⟨?_, hc.2, fun d hd => List.mem_takeWhile_imp hd⟩
    rw [← hc.1, ← hrest, List.takeWhile_append_dropWhile]

lemma takeBrowseName_length {cs rest : List UInt16} {name : BrowseMatch}
    (h : takeBrowseName cs = some (name, rest)) : rest.length < cs.length := by
  have hunq : takeUnqualified cs = some (name, rest) → rest.length < cs.length := by
    intro h
    rw [takeUnqualified] at h
    split_ifs at h with hname
    cases h
    have happend := congrArg List.length (takeName_append cs)
    rw [List.length_append] at happend
    have := List.length_pos_of_ne_nil hname
    omega
  rw [takeBrowseName] at h
  cases hindex : takeIndex cs with
  | none => rw [hindex] at h; exact hunq h
  | some r =>
    obtain ⟨digits, after⟩ := r
    rw [hindex] at h
    dsimp only at h
    split_ifs at h with hname
    · exact hunq h
    · cases h
      have happend := congrArg List.length (takeName_append after)
      rw [List.length_append] at happend
      rw [(takeIndex_append hindex).1, List.length_append, List.length_cons]
      omega

lemma takeOptional_length (c : UInt16) (cs : List UInt16) :
    (takeOptional c cs).2.length ≤ cs.length := by
  cases cs with
  | nil => exact le_rfl
  | cons d rest =>
    rw [takeOptional]
    split_ifs
    · simp
    · exact le_rfl

variable {reference : ReferenceMatch}

lemma takeReferenceType_length {cs rest : List UInt16}
    (h : takeReferenceType cs = some (reference, rest)) : rest.length < cs.length := by
  cases cs with
  | nil => cases h
  | cons c cs =>
    rw [takeReferenceType] at h
    split_ifs at h
    · cases h
      exact Nat.lt_succ_self _
    · cases h
      exact Nat.lt_succ_self _
    · dsimp only at h
      split at h
      · next name d rest' hname =>
        split_ifs at h
        cases h
        have h1 := takeBrowseName_length hname
        have h2 := takeOptional_length bang (takeOptional hash cs).2
        have h3 := takeOptional_length hash cs
        simp only [List.length_cons] at h1 ⊢
        omega
      · cases h

variable {target : Option BrowseMatch}

lemma matchPair_pos {cs : List UInt16}
    {length : ℕ} (h : matchPair cs = some (reference, target, length)) : 0 < length := by
  rw [matchPair] at h
  cases hreference : takeReferenceType cs with
  | none => rw [hreference] at h; cases h
  | some r =>
    obtain ⟨ref', rest⟩ := r
    have hlen := takeReferenceType_length hreference
    rw [hreference] at h
    dsimp only at h
    cases htarget : takeBrowseName rest with
    | none =>
      rw [htarget] at h
      cases h
      omega
    | some r =>
      rw [htarget] at h
      cases h
      have := takeBrowseName_length htarget
      omega

lemma exec_matchPair_pos {cs : List UInt16} {length : ℕ}
    (h : exec matchPair cs = some (reference, target, length)) : 0 < length := by
  obtain ⟨_, _, _, hmatch⟩ := exists_of_exec h
  exact matchPair_pos hmatch

/-! ### The parser -/

/-- The `QualifiedName` of a target. -/
structure TargetName where
  namespaceIndex : Number
  name : Option (List UInt16)

/-- `RelativePathElement`. -/
structure RelativePathElement (ν : Type) where
  referenceTypeId : ν
  isInverse : Bool
  includeSubtypes : Bool
  targetName : TargetName

/-- What the parser uses: two standard reference types, `resolveNodeId`, and the address space, if
there is one. -/
structure ReferenceTypes (ν : Type) where
  hierarchicalReferenceTypeNodeId : ν
  aggregatesReferenceTypeNodeId : ν
  resolveNodeId : List UInt16 → Except String ν
  findReferenceType : Option (List UInt16 → Number → Option ν)
  isEmpty : ν → Bool

/-- What the parser throws. -/
inductive RelativePathError
  | malformed (str originalStr : List UInt16)
  | cannotResolve (message : String)
  | noAddressSpace
  | assertionFailed

/-- `parseInt` of the digits of a namespace index, and 0 without one. -/
def parseIndex : Option (List UInt16) → Number
  | none => Number.ofNat 0
  | some digits => Number.ofNat (digits.foldl (fun v d => v * 10 + (d.toNat - 0x30)) 0)

/-- `makeQualifiedName`. -/
def makeQualifiedName : Option BrowseMatch → TargetName
  | none => ⟨Number.ofNat 0, none⟩
  | some name =>
    let text := unescape name.text
    ⟨parseIndex name.index, if text = [] then none else some text⟩

section

variable {ν : Type} (context : ReferenceTypes ν)

/-- The reference type of a pair. The name is looked up as it is written. -/
def findReference : ReferenceMatch → Except RelativePathError ν
  | .slash => .ok context.hierarchicalReferenceTypeNodeId
  | .dot => .ok context.aggregatesReferenceTypeNodeId
  | .named _ _ name =>
    let found : Except RelativePathError (Option ν) :=
      match name.index with
      | none =>
        match context.resolveNodeId name.text with
        | .error message => .error (.cannotResolve message)
        | .ok referenceTypeId => .ok (some referenceTypeId)
      | some digits =>
        match context.findReferenceType with
        | none => .error .noAddressSpace
        | some findReferenceType => .ok (findReferenceType name.text (parseIndex (some digits)))
    match found with
    | .error e => .error e
    | .ok none => .error .assertionFailed
    | .ok (some referenceTypeId) =>
      if context.isEmpty referenceTypeId then .error .assertionFailed else .ok referenceTypeId

/-- The direction of a pair. -/
def ReferenceMatch.isInverse : ReferenceMatch → Bool
  | .named _ banged _ => banged
  | _ => false

/-- Whether subtypes are followed. -/
def ReferenceMatch.includeSubtypes : ReferenceMatch → Bool
  | .named hashed _ _ => !hashed
  | _ => true

/-- The element of a pair. -/
def makeElement (reference : ReferenceMatch) (targetName : TargetName) :
    Except RelativePathError (RelativePathElement ν) := do
  let referenceTypeId ← findReference context reference
  return ⟨referenceTypeId, reference.isInverse, reference.includeSubtypes, targetName⟩

/-- The loop of the parser. What a match has in length is dropped from the beginning, also when the
match is at a later position. -/
def makeElements (originalStr : List UInt16) (str : List UInt16) :
    Except RelativePathError (List (RelativePathElement ν)) :=
  match str with
  | [] => .ok []
  | c :: cs =>
    match _h : exec matchPair (c :: cs) with
    | none => .error (.malformed (c :: cs) originalStr)
    | some (reference, target, length) => do
      let element ← makeElement context reference (makeQualifiedName target)
      let elements ← makeElements originalStr ((c :: cs).drop length)
      return element :: elements
termination_by str.length
decreasing_by
  have := exec_matchPair_pos _h
  rw [List.length_drop, List.length_cons]
  omega

lemma makeElements_some (originalStr : List UInt16) {c : UInt16} {cs : List UInt16}
    {ref : ReferenceMatch} {target : Option BrowseMatch} {length : ℕ}
    (h : exec matchPair (c :: cs) = some (ref, target, length)) :
    makeElements context originalStr (c :: cs) = (do
      let element ← makeElement context ref (makeQualifiedName target)
      let elements ← makeElements context originalStr ((c :: cs).drop length)
      return element :: elements) := by
  rw [makeElements]
  split
  · next hnone => rw [h] at hnone; cases hnone
  · next hsome =>
    rw [h] at hsome
    cases hsome
    rfl

lemma makeElements_none (originalStr : List UInt16) {c : UInt16} {cs : List UInt16}
    (h : exec matchPair (c :: cs) = none) :
    makeElements context originalStr (c :: cs) = .error (.malformed (c :: cs) originalStr) := by
  rw [makeElements]
  split
  · rfl
  · next hsome => rw [h] at hsome; cases hsome

/-- `makeRelativePath`. -/
def makeRelativePath (str : List UInt16) :
    Except RelativePathError (List (RelativePathElement ν)) :=
  makeElements context str str

end

end NodeOpcua
