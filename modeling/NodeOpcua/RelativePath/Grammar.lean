import Mathlib.Data.List.Infix
import NodeOpcua.Library.Except
import NodeOpcua.RelativePath.Escape

set_option autoImplicit false

/-!
# The grammar of relative paths

The texts of relative paths, as a grammar of their own. The parser takes the longest sequence of
pairs at the beginning of a text; when no reference type occurs in what follows, it accepts the
text exactly if nothing follows and all reference types are found.

## Main definitions

* `PathText`.
* `pairElement`, `Greedy`.

## Main results

* `Greedy.sound`, `Greedy.maximal`.
* `relativePath_iff`.
-/

namespace NodeOpcua

open RelativePath LeftmostMatch
open List (length_cons cons_append cons_ne_nil append_nil append_assoc length_append nil_append)

/-! ### The grammar -/

/-- A browse name: the digits of its namespace index, and the name. -/
structure BrowseName where
  index : Option (List UInt16)
  name : List UInt16

/-- **The text of a browse name**. -/
inductive BrowseText : List UInt16 → BrowseName → Prop
  | unqualified {text name : List UInt16} (hname : NameText text name) (hne : name ≠ []) :
      BrowseText text ⟨none, name⟩
  | qualified {digits text name : List UInt16} (hdigits : ∀ c ∈ digits, isDigit c = true)
      (hindex : digits ≠ []) (hname : NameText text name) (hne : name ≠ []) :
      BrowseText (digits ++ colon :: text) ⟨some digits, name⟩

/-- The reference type of a pair. -/
inductive PathReference
  | hierarchical
  | aggregates
  | named (hashed banged : Bool) (name : BrowseName)

/-- A character that is there or not. -/
def optionalText (c : UInt16) (present : Bool) : List UInt16 := if present then [c] else []

/-- **The text of a reference type**. -/
inductive ReferenceText : List UInt16 → PathReference → Prop
  | slash : ReferenceText [slash] .hierarchical
  | dot : ReferenceText [dot] .aggregates
  | named {text : List UInt16} {name : BrowseName} (hashed banged : Bool)
      (hname : BrowseText text name) :
      ReferenceText (less :: (optionalText hash hashed ++ (optionalText bang banged ++
        (text ++ [greater])))) (.named hashed banged name)

/-- **The text of a target**, which need not be there. -/
inductive TargetText : List UInt16 → Option BrowseName → Prop
  | missing : TargetText [] none
  | given {text : List UInt16} {name : BrowseName} (hname : BrowseText text name) :
      TargetText text (some name)

/-- **The text of a relative path**: a sequence of pairs. -/
inductive PathText : List UInt16 → List (PathReference × Option BrowseName) → Prop
  | nil : PathText [] []
  | pair {text targetText rest : List UInt16} {reference : PathReference}
      {target : Option BrowseName} {pairs : List (PathReference × Option BrowseName)}
      (hreference : ReferenceText text reference) (htarget : TargetText targetText target)
      (h : PathText rest pairs) :
      PathText (text ++ (targetText ++ rest)) ((reference, target) :: pairs)

section

variable {ν : Type} (context : ReferenceTypes ν)

/-- The node of a reference type, when there is one. -/
def pairReference : PathReference → Option ν
  | .hierarchical => some context.hierarchicalReferenceTypeNodeId
  | .aggregates => some context.aggregatesReferenceTypeNodeId
  | .named _ _ ⟨none, name⟩ =>
    (context.resolveNodeId name).toOption.filter fun id => !context.isEmpty id
  | .named _ _ ⟨some digits, name⟩ =>
    (context.findReferenceType.bind fun find => find name (parseIndex (some digits))).filter
      fun id => !context.isEmpty id

/-- The qualified name of a target. -/
def pairTarget : Option BrowseName → TargetName
  | none => ⟨Number.ofNat 0, none⟩
  | some name => ⟨parseIndex name.index, some name.name⟩

/-- **The element of a pair**, when its reference type is found. -/
def pairElement (pair : PathReference × Option BrowseName) : Option (RelativePathElement ν) :=
  (pairReference context pair.1).map fun id =>
    match pair.1 with
    | .named hashed banged _ => ⟨id, banged, !hashed, pairTarget pair.2⟩
    | _ => ⟨id, false, true, pairTarget pair.2⟩

end

/-- **The texts whose fate the grammar decides**: no reference type is written with an escape, and
none occurs after the longest sequence of pairs. -/
structure Regular (str : List UInt16) : Prop where
  noEscape : ∀ text reference, text <:+: str → ReferenceText text reference → ampersand ∉ text
  noReference : ∀ path rest pairs, str = path ++ rest → PathText path pairs →
    (∀ path' rest' pairs', str = path' ++ rest' → PathText path' pairs' →
      path'.length ≤ path.length) →
    ∀ text reference, text <:+: rest → ¬ ReferenceText text reference

/-! ### Names -/

/-- The name that is written. -/
def BrowseMatch.toName (m : BrowseMatch) : BrowseName := ⟨m.index, unescape m.text⟩

lemma takeName_sound (cs : List UInt16) : NameText (takeName cs).1 (unescape (takeName cs).1) := by
  have hsome : ∃ name, NameText (takeName cs).1 name := by
    induction hn : cs.length using Nat.strong_induction_on generalizing cs with
    | _ n ih =>
      rcases takeName_stop cs with h | ⟨c, rest, hc, rfl⟩ | ⟨c, rest, hc, rfl⟩
      · rw [h]
        exact ⟨[], NameText.nil⟩
      · have hlt : rest.length < n := by
          rw [← hn, length_cons, length_cons]
          omega
        obtain ⟨name, hname⟩ := ih _ hlt rest rfl
        rw [takeName_ampersand rest hc]
        exact ⟨c :: name, hname.escaped hc⟩
      · have hlt : rest.length < n := by
          rw [← hn, length_cons]
          omega
        obtain ⟨name, hname⟩ := ih _ hlt rest rfl
        rw [takeName_cons rest hc]
        exact ⟨c :: name, hname.plain hc⟩
  obtain ⟨name, hname⟩ := hsome
  rw [hname.unescape_eq]
  exact hname

variable {text name : List UInt16}

section

variable (h : NameText text name)
include h

lemma NameText.takeName_append (rest : List UInt16) :
    takeName (text ++ rest) = (text ++ (takeName rest).1, (takeName rest).2) := by
  induction h with
  | nil => rfl
  | plain hc _ ih => rw [cons_append, takeName_cons _ hc, ih]; rfl
  | escaped hc _ ih => rw [cons_append, cons_append, takeName_ampersand _ hc, ih]; rfl

lemma NameText.ne_nil (hne : name ≠ []) :
    text ≠ [] := by
  cases h with
  | nil => exact absurd rfl hne
  | plain hc h | escaped hc h => exact cons_ne_nil _ _

lemma NameText.name_ne_nil (hne : text ≠ []) :
    name ≠ [] := by
  cases h with
  | nil => exact absurd rfl hne
  | plain hc h | escaped hc h => exact cons_ne_nil _ _

lemma NameText.length_le
    {digits rest after : List UInt16} (hdigits : ∀ c ∈ digits, isDigit c = true)
    (heq : text ++ rest = digits ++ colon :: after) : text.length ≤ digits.length := by
  induction h generalizing digits with
  | nil => exact Nat.zero_le _
  | @plain c text name hc _ ih =>
    cases digits with
    | nil =>
      obtain ⟨rfl, -⟩ := List.cons.inj heq
      cases hc
    | cons d digits =>
      obtain ⟨-, htail⟩ := List.cons.inj heq
      exact Nat.succ_le_succ (ih (fun c hc => hdigits c (by simp [hc])) htail)
  | escaped hc _ _ =>
    cases digits with
    | nil =>
      obtain ⟨hcolon, -⟩ := List.cons.inj heq
      exact absurd hcolon (by decide)
    | cons d digits =>
      obtain ⟨rfl, -⟩ := List.cons.inj heq
      exact absurd (hdigits ampersand (by simp)) (by decide)

end

/-! ### Browse names -/

/-- **The end of a browse name**: nothing follows, or a character that no name goes on with. -/
def Boundary (rest : List UInt16) : Prop :=
  ∀ c, rest.head? = some c → isReserved c = true ∧ c ≠ ampersand ∧ c ≠ colon

variable {rest : List UInt16}

lemma Boundary.takeName_eq (h : Boundary rest) : takeName rest = ([], rest) := by
  cases rest with
  | nil => rfl
  | cons c rest =>
    obtain ⟨hc, hamp, -⟩ := h c rfl
    rw [takeName.eq_def]
    dsimp only
    rw [if_neg hamp, if_pos hc]

variable {c : UInt16}

lemma isReserved_of_isDigit (h : isDigit c = true) : isReserved c = false := by
  rw [isDigit, Bool.and_eq_true, decide_eq_true_eq, decide_eq_true_eq, UInt16.le_iff_toNat_le,
    UInt16.le_iff_toNat_le] at h
  have h1 : 0x30 ≤ c.toNat := h.1
  have h2 : c.toNat ≤ 0x39 := h.2
  have hne : ∀ d : UInt16, (d.toNat < 0x30 ∨ 0x39 < d.toNat) → (c == d) = false := by
    intro d hd
    rw [beq_eq_false_iff_ne]
    rintro rfl
    omega
  rw [isReserved, hne slash (by decide), hne dot (by decide), hne less (by decide),
    hne greater (by decide), hne colon (by decide), hne hash (by decide), hne bang (by decide),
    hne ampersand (by decide)]
  rfl

lemma takeIndex_colon {digits : List UInt16} (hdigits : ∀ c ∈ digits, isDigit c = true)
    (hne : digits ≠ []) (after : List UInt16) :
    takeIndex (digits ++ colon :: after) = some (digits, after) := by
  have hcolon : isDigit colon = false := by decide
  rw [takeIndex, List.dropWhile_append_of_pos hdigits, List.takeWhile_append_of_pos hdigits,
    List.dropWhile_cons_of_neg (by rw [hcolon]; exact Bool.false_ne_true),
    List.takeWhile_cons_of_neg (by rw [hcolon]; exact Bool.false_ne_true), append_nil]
  exact if_pos ⟨rfl, hne⟩

lemma takeBrowseName_sound {cs rest : List UInt16} {m : BrowseMatch}
    (h : takeBrowseName cs = some (m, rest)) :
    ∃ text, cs = text ++ rest ∧ BrowseText text m.toName ∧ ∀ c ∈ m.text, c ∈ text := by
  have hunq : takeUnqualified cs = some (m, rest) →
      ∃ text, cs = text ++ rest ∧ BrowseText text m.toName ∧ ∀ c ∈ m.text, c ∈ text := by
    intro h
    rw [takeUnqualified] at h
    split_ifs at h with hname
    cases h
    exact ⟨_, (NodeOpcua.takeName_append cs).symm,
      BrowseText.unqualified (takeName_sound cs) ((takeName_sound cs).name_ne_nil hname),
      fun c hc => hc⟩
  rw [takeBrowseName] at h
  cases hindex : takeIndex cs with
  | none => rw [hindex] at h; exact hunq h
  | some r =>
    obtain ⟨digits, after⟩ := r
    rw [hindex] at h
    dsimp only at h
    split_ifs at h with hname
    · exact hunq h
    · cases h
      obtain ⟨heq, hne, hdigits⟩ := takeIndex_append hindex
      refine ⟨digits ++ colon :: (takeName after).1, ?_, BrowseText.qualified hdigits hne
        (takeName_sound after) ((takeName_sound after).name_ne_nil hname), ?_⟩
      · rw [append_assoc, cons_append, NodeOpcua.takeName_append after, heq]
      · intro c hc
        simp [hc]

variable {text : List UInt16} {name : BrowseName}

lemma BrowseText.take (h : BrowseText text name) (rest : List UInt16) :
    ∃ m rest', takeBrowseName (text ++ rest) = some (m, rest') ∧ rest'.length ≤ rest.length ∧
      (Boundary rest → m.toName = name ∧ rest' = rest) := by
  have hrest : (takeName rest).2.length ≤ rest.length := by
    have happend := congrArg List.length (NodeOpcua.takeName_append rest)
    rw [length_append] at happend
    omega
  cases h with
  | @unqualified _ name hname hne =>
    have htext : (takeName (text ++ rest)).1 ≠ [] := by
      rw [hname.takeName_append]
      exact List.append_ne_nil_of_left_ne_nil (hname.ne_nil hne) _
    have hunq : takeUnqualified (text ++ rest) =
        some (⟨none, text ++ (takeName rest).1⟩, (takeName rest).2) := by
      rw [takeUnqualified, if_neg htext, hname.takeName_append]
    have hbound : Boundary rest →
        BrowseMatch.toName ⟨none, text ++ (takeName rest).1⟩ = ⟨none, name⟩ ∧
          (takeName rest).2 = rest := by
      intro hb
      rw [hb.takeName_eq, append_nil]
      exact ⟨by rw [BrowseMatch.toName, hname.unescape_eq], rfl⟩
    cases hindex : takeIndex (text ++ rest) with
    | none => exact ⟨_, _, by rw [takeBrowseName, hindex]; exact hunq, hrest, hbound⟩
    | some r =>
      obtain ⟨digits, after⟩ := r
      obtain ⟨heq, -, hdigits⟩ := takeIndex_append hindex
      have hle := hname.length_le hdigits heq
      have hlen := congrArg List.length heq
      rw [length_append, length_append, length_cons] at hlen
      by_cases hafter : (takeName after).1 = []
      · refine ⟨_, _, ?_, hrest, hbound⟩
        rw [takeBrowseName, hindex]
        exact (if_pos hafter).trans hunq
      · refine ⟨⟨some digits, (takeName after).1⟩, (takeName after).2, ?_, ?_, ?_⟩
        · rw [takeBrowseName, hindex]
          exact if_neg hafter
        · have happend := congrArg List.length (NodeOpcua.takeName_append after)
          rw [length_append] at happend
          omega
        · -- a boundary does not begin with a digit or a colon
          intro hb
          have hdrop : rest = digits.drop text.length ++ colon :: after := by
            have := congrArg (List.drop text.length) heq
            rwa [List.drop_left, List.drop_append_of_le_length hle] at this
          cases hd : digits.drop text.length with
          | nil =>
            rw [hd, nil_append] at hdrop
            exact absurd rfl (hb colon (by rw [hdrop]; rfl)).2.2
          | cons d ds =>
            rw [hd] at hdrop
            have hmem : d ∈ digits := List.mem_of_mem_drop (by rw [hd]; simp)
            have hresv := (hb d (by rw [hdrop]; rfl)).1
            rw [isReserved_of_isDigit (hdigits d hmem)] at hresv
            cases hresv
  | @qualified digits text name hdigits hindex hname hne =>
    have htext : (takeName (text ++ rest)).1 ≠ [] := by
      rw [hname.takeName_append]
      exact List.append_ne_nil_of_left_ne_nil (hname.ne_nil hne) _
    refine ⟨⟨some digits, text ++ (takeName rest).1⟩, (takeName rest).2, ?_, hrest, ?_⟩
    · rw [append_assoc, cons_append, takeBrowseName, takeIndex_colon hdigits hindex]
      dsimp only
      rw [if_neg htext, hname.takeName_append]
    · intro hb
      rw [hb.takeName_eq, append_nil]
      exact ⟨by rw [BrowseMatch.toName, hname.unescape_eq], rfl⟩

/-! ### Reference types -/

/-- The reference type that is written. -/
def ReferenceMatch.toReference : ReferenceMatch → PathReference
  | .slash => .hierarchical
  | .dot => .aggregates
  | .named hashed banged name => .named hashed banged name.toName

/-- The name of a reference type as it is written. -/
def ReferenceMatch.written : ReferenceMatch → List UInt16
  | .named _ _ name => name.text
  | _ => []

lemma BrowseText.name_ne_nil (h : BrowseText text name) :
    name.name ≠ [] := by
  cases h with
  | unqualified _ hne => exact hne
  | qualified _ _ _ hne => exact hne

lemma BrowseText.head (h : BrowseText text name) :
    ∃ c rest, text = c :: rest ∧ (isReserved c = false ∨ c = ampersand) := by
  cases h with
  | unqualified hname hne =>
    cases hname with
    | nil => exact absurd rfl hne
    | plain hc _ => exact ⟨_, _, rfl, Or.inl hc⟩
    | escaped _ _ => exact ⟨_, _, rfl, Or.inr rfl⟩
  | @qualified digits text name hdigits hindex _ _ =>
    cases digits with
    | nil => exact absurd rfl hindex
    | cons d digits => exact ⟨d, _, rfl, Or.inl (isReserved_of_isDigit (hdigits d (by simp)))⟩

lemma BrowseText.head_ne (h : BrowseText text name)
    (hc : isReserved c = true) (hamp : c ≠ ampersand) (rest : List UInt16) :
    (text ++ rest).head? ≠ some c := by
  obtain ⟨d, cs, rfl, hd⟩ := h.head
  intro heq
  obtain rfl : d = c := Option.some.inj heq
  rcases hd with hd | hd
  · rw [hc] at hd
    cases hd
  · exact hamp hd

lemma Boundary.takeBrowseName_eq (h : Boundary rest) :
    takeBrowseName rest = none := by
  cases hbrowse : takeBrowseName rest with
  | none => rfl
  | some q =>
    obtain ⟨m, rest'⟩ := q
    obtain ⟨text, rfl, hname, -⟩ := takeBrowseName_sound hbrowse
    obtain ⟨c, cs, rfl, -⟩ := hname.head
    obtain ⟨hc, hamp, -⟩ := h c rfl
    exact absurd rfl (hname.head_ne hc hamp rest')

lemma takeOptional_text (present : Bool)
    (h : rest.head? ≠ some c) : takeOptional c (optionalText c present ++ rest) = (present, rest) := by
  cases present with
  | true => exact if_pos rfl
  | false =>
    cases rest with
    | nil => rfl
    | cons d rest =>
      apply if_neg
      rintro rfl
      exact h rfl

lemma takeOptional_sound (c : UInt16) (cs : List UInt16) :
    cs = optionalText c (takeOptional c cs).1 ++ (takeOptional c cs).2 := by
  cases cs with
  | nil => rfl
  | cons d rest =>
    rw [takeOptional]
    split_ifs with hd
    · rw [hd]
      rfl
    · rfl

variable {reference : ReferenceMatch}

lemma takeReferenceType_sound {cs rest : List UInt16}
    (h : takeReferenceType cs = some (reference, rest)) :
    ∃ text, cs = text ++ rest ∧ ReferenceText text reference.toReference ∧
      ∀ c ∈ reference.written, c ∈ text := by
  cases cs with
  | nil => cases h
  | cons c cs =>
    rw [takeReferenceType] at h
    split_ifs at h with hslash hdot hless
    · cases h
      exact ⟨[slash], by rw [hslash]; rfl, ReferenceText.slash, by simp [ReferenceMatch.written]⟩
    · cases h
      exact ⟨[dot], by rw [hdot]; rfl, ReferenceText.dot, by simp [ReferenceMatch.written]⟩
    · dsimp only at h
      split at h
      · next name d rest' hname =>
        split_ifs at h with hgreater
        cases h
        obtain ⟨text, heq, htext, hwrit⟩ := takeBrowseName_sound hname
        refine ⟨_, ?_, ReferenceText.named _ _ htext, ?_⟩
        · rw [cons_append, append_assoc, append_assoc, append_assoc,
            List.singleton_append, ← hgreater, ← heq, ← takeOptional_sound, ← takeOptional_sound,
            hless]
        · intro c hc
          have := hwrit c hc
          simp [this]
      · cases h

lemma ReferenceText.take {reference : PathReference}
    (h : ReferenceText text reference) (rest : List UInt16) :
    ∃ m, takeReferenceType (text ++ rest) = some (m, rest) ∧ m.toReference = reference := by
  cases h with
  | slash => exact ⟨.slash, rfl, rfl⟩
  | dot => exact ⟨.dot, rfl, rfl⟩
  | @named text name hashed banged hname =>
    obtain ⟨m, rest', htake, -, hbound⟩ := hname.take (greater :: rest)
    have hgreater : Boundary (greater :: rest) := by
      intro c hc
      obtain rfl : greater = c := Option.some.inj hc
      decide
    obtain ⟨hm, rfl⟩ := hbound hgreater
    have hfirst : takeOptional hash (optionalText hash hashed ++ (optionalText bang banged ++
        (text ++ greater :: rest))) =
          (hashed, optionalText bang banged ++ (text ++ greater :: rest)) := by
      apply takeOptional_text
      cases banged with
      | true =>
        intro h
        exact absurd (Option.some.inj h) (by decide)
      | false => exact hname.head_ne (by decide) (by decide) _
    have hsnd : takeOptional bang (optionalText bang banged ++ (text ++ greater :: rest)) =
        (banged, text ++ greater :: rest) := by
      apply takeOptional_text
      exact hname.head_ne (by decide) (by decide) _
    refine ⟨.named hashed banged m, ?_, by rw [ReferenceMatch.toReference, hm]⟩
    rw [cons_append, append_assoc, append_assoc, append_assoc,
      List.singleton_append, takeReferenceType, if_neg (by decide), if_neg (by decide), if_pos rfl,
      hfirst]
    dsimp only
    rw [hsnd]
    rw [htake]
    exact if_pos rfl

lemma PathText.boundary {pairs : List (PathReference × Option BrowseName)}
    (h : PathText text pairs) : Boundary text := by
  cases h with
  | nil => exact nofun
  | pair hreference _ _ =>
    intro c hc
    cases hreference with
    | slash => obtain rfl : slash = c := Option.some.inj hc; decide
    | dot => obtain rfl : dot = c := Option.some.inj hc; decide
    | named _ _ _ => obtain rfl : less = c := Option.some.inj hc; decide

lemma Boundary.append (h : Boundary text) (hne : text ≠ [])
    (rest : List UInt16) : Boundary (text ++ rest) := by
  cases text with
  | nil => exact absurd rfl hne
  | cons c text => exact h

/-! ### The pairs the parser takes -/

/-- The pair that is written. -/
def toPair (p : ReferenceMatch × Option BrowseMatch) : PathReference × Option BrowseName :=
  (p.1.toReference, p.2.map BrowseMatch.toName)

lemma matchPair_iff {cs : List UInt16} {target : Option BrowseMatch}
    {n : ℕ} (h : matchPair cs = some (reference, target, n)) :
    ∃ text targetText rest, cs = text ++ (targetText ++ rest) ∧ cs.drop n = rest ∧
      ReferenceText text reference.toReference ∧
      TargetText targetText (target.map BrowseMatch.toName) ∧
      ∀ c ∈ reference.written, c ∈ text := by
  have hdrop : ∀ text rest : List UInt16, (text ++ rest).drop ((text ++ rest).length - rest.length) =
      rest := by
    intro text rest
    rw [length_append, Nat.add_sub_cancel, List.drop_left]
  rw [matchPair] at h
  cases hreference : takeReferenceType cs with
  | none => rw [hreference] at h; cases h
  | some r =>
    obtain ⟨reference', rest⟩ := r
    obtain ⟨text, rfl, htext, hwrit⟩ := takeReferenceType_sound hreference
    rw [hreference] at h
    dsimp only at h
    cases htarget : takeBrowseName rest with
    | none =>
      rw [htarget] at h
      cases h
      exact ⟨text, [], rest, rfl, hdrop text rest, htext, TargetText.missing, hwrit⟩
    | some r =>
      obtain ⟨m, rest'⟩ := r
      obtain ⟨targetText, rfl, hname, -⟩ := takeBrowseName_sound htarget
      rw [htarget] at h
      cases h
      refine ⟨text, targetText, rest', rfl, ?_, htext, TargetText.given hname, hwrit⟩
      rw [← append_assoc]
      exact hdrop _ rest'

lemma matchPair_text {text targetText : List UInt16} {reference : PathReference}
    {target : Option BrowseName} (hreference : ReferenceText text reference)
    (htarget : TargetText targetText target) (rest : List UInt16) :
    ∃ r t n, matchPair (text ++ (targetText ++ rest)) = some (r, t, n) ∧
      ((text ++ (targetText ++ rest)).drop n).length ≤ rest.length ∧
      (Boundary rest → toPair (r, t) = (reference, target) ∧
        (text ++ (targetText ++ rest)).drop n = rest) := by
  have hdrop : ∀ rest' : List UInt16, rest' <:+ text ++ (targetText ++ rest) →
      (text ++ (targetText ++ rest)).drop
        ((text ++ (targetText ++ rest)).length - rest'.length) = rest' := by
    rintro rest' ⟨before, hbefore⟩
    rw [← hbefore, length_append, Nat.add_sub_cancel, List.drop_left]
  obtain ⟨r, hr, hrefine⟩ := hreference.take (targetText ++ rest)
  cases htarget with
  | missing =>
    cases hbrowse : takeBrowseName rest with
    | none =>
      refine ⟨r, none, _, by rw [matchPair, hr]; dsimp only; rw [nil_append, hbrowse], ?_, ?_⟩
      · exact le_of_eq (congrArg List.length (hdrop rest ⟨text, rfl⟩))
      · intro _
        exact ⟨by rw [toPair, hrefine]; rfl, hdrop rest ⟨text, rfl⟩⟩
    | some q =>
      obtain ⟨m, rest'⟩ := q
      obtain ⟨name, heq, -, -⟩ := takeBrowseName_sound hbrowse
      have hsuffix : rest' <:+ text ++ ([] ++ rest) := ⟨text ++ name, by rw [heq]; simp⟩
      refine ⟨r, some m, _, by rw [matchPair, hr]; dsimp only; rw [nil_append, hbrowse], ?_, ?_⟩
      · rw [nil_append] at hdrop hsuffix ⊢
        rw [hdrop rest' hsuffix, heq, length_append]
        omega
      · intro hb
        rw [hb.takeBrowseName_eq] at hbrowse
        cases hbrowse
  | given hname =>
    obtain ⟨m, rest', htake, hle, hbound⟩ := hname.take rest
    obtain ⟨before, heq, -, -⟩ := takeBrowseName_sound htake
    have hsuffix : rest' <:+ text ++ (targetText ++ rest) := ⟨text ++ before, by rw [heq]; simp⟩
    refine ⟨r, some m, _, by rw [matchPair, hr]; dsimp only; rw [htake], ?_, ?_⟩
    · rw [hdrop rest' hsuffix]
      exact hle
    · intro hb
      obtain ⟨hm, rfl⟩ := hbound hb
      exact ⟨by rw [toPair, hrefine, Option.map_some, hm], hdrop rest' hsuffix⟩

/-- **The pairs that are taken** from the beginning of a text, one after the other as long as there
are any, and what follows them. -/
inductive Greedy : List UInt16 → List (ReferenceMatch × Option BrowseMatch) → List UInt16 → Prop
  | stop {str : List UInt16} (h : matchPair str = none) : Greedy str [] str
  | pair {str rest : List UInt16} {reference : ReferenceMatch} {target : Option BrowseMatch} {n : ℕ}
      {pairs : List (ReferenceMatch × Option BrowseMatch)}
      (hmatch : matchPair str = some (reference, target, n)) (h : Greedy (str.drop n) pairs rest) :
      Greedy str ((reference, target) :: pairs) rest

lemma exists_greedy (str : List UInt16) : ∃ pairs rest, Greedy str pairs rest := by
  induction hn : str.length using Nat.strong_induction_on generalizing str with
  | _ n ih =>
    cases hmatch : matchPair str with
    | none => exact ⟨[], str, Greedy.stop hmatch⟩
    | some r =>
      obtain ⟨reference, target, k⟩ := r
      have hlt : (str.drop k).length < n := by
        have hpos := matchPair_pos hmatch
        cases str with
        | nil => cases hmatch
        | cons c cs =>
          rw [← hn, List.length_drop, length_cons]
          omega
      obtain ⟨pairs, rest, h⟩ := ih _ hlt _ rfl
      exact ⟨_, rest, h.pair hmatch⟩

variable {str rest : List UInt16} {pairs : List (ReferenceMatch × Option BrowseMatch)}

section

variable (h : Greedy str pairs rest)
include h

/-- **What is taken is a relative path**. -/
theorem Greedy.sound :
    ∃ path, str = path ++ rest ∧ PathText path (pairs.map toPair) := by
  induction h with
  | stop _ => exact ⟨[], rfl, PathText.nil⟩
  | pair hmatch _ ih =>
    obtain ⟨path, hpath, hpairs⟩ := ih
    obtain ⟨text, targetText, after, heq, hdrop, htext, htarget, -⟩ := matchPair_iff hmatch
    refine ⟨text ++ (targetText ++ path), ?_, PathText.pair htext htarget hpairs⟩
    rw [heq, append_assoc, append_assoc, ← hpath, hdrop]

lemma Greedy.length_le : rest.length ≤ str.length := by
  obtain ⟨path, rfl, -⟩ := h.sound
  rw [length_append]
  omega

/-- **No longer relative path is at the beginning**; and one that is the whole text is taken. -/
theorem Greedy.maximal {path after : List UInt16}
    {ps : List (PathReference × Option BrowseName)} (hpath : PathText path ps)
    (heq : str = path ++ after) :
    rest.length ≤ after.length ∧ (after = [] → rest = [] ∧ pairs.map toPair = ps) := by
  induction hpath generalizing str pairs with
  | nil =>
    subst heq
    refine ⟨h.length_le, ?_⟩
    rintro rfl
    cases h with
    | stop _ => exact ⟨rfl, rfl⟩
    | pair hmatch _ => cases hmatch
  | @pair text targetText path reference target ps hreference htarget hpath ih =>
    rw [append_assoc, append_assoc] at heq
    subst heq
    obtain ⟨r, t, n, hmatch, hle, hbound⟩ := matchPair_text hreference htarget (path ++ after)
    cases h with
    | stop hstop =>
      rw [hmatch] at hstop
      cases hstop
    | @pair _ _ r' t' n' pairs hmatch' hrest =>
      rw [hmatch] at hmatch'
      cases hmatch'
      by_cases hb : Boundary (path ++ after)
      · obtain ⟨hpair, hdrop⟩ := hbound hb
        obtain ⟨hlen, hwhole⟩ := ih hrest hdrop
        refine ⟨hlen, fun hafter => ?_⟩
        obtain ⟨hnil, hpairs⟩ := hwhole hafter
        exact ⟨hnil, by rw [List.map_cons, hpair, hpairs]⟩
      · -- only after the last pair something may follow that is no boundary
        have hnil : path = [] := by
          by_contra hne
          exact hb (hpath.boundary.append hne after)
        subst hnil
        refine ⟨le_trans hrest.length_le hle, ?_⟩
        rintro rfl
        exact absurd hpath.boundary hb

lemma Greedy.references : ∀ p ∈ pairs,
    (∃ text, text <:+: str ∧ ReferenceText text p.1.toReference ∧ ∀ c ∈ p.1.written, c ∈ text) ∧
      ∀ m, p.2 = some m → unescape m.text ≠ [] := by
  induction h with
  | stop _ => exact nofun
  | @pair str rest reference target n pairs hmatch _ ih =>
    obtain ⟨text, targetText, after, heq, hdrop, htext, htarget, hwrit⟩ := matchPair_iff hmatch
    intro p hp
    rcases List.mem_cons.mp hp with rfl | hp
    · refine ⟨⟨text, ⟨[], targetText ++ after, by rw [heq]; rfl⟩, htext, hwrit⟩, ?_⟩
      rintro m rfl
      cases htarget with
      | given hname => exact hname.name_ne_nil
    · obtain ⟨⟨text', hinfix, hrest⟩, htarget'⟩ := ih p hp
      exact ⟨⟨text', hinfix.trans (List.drop_suffix n str).isInfix, hrest⟩, htarget'⟩

end

/-! ### The parser -/

section

variable {ν : Type} (context : ReferenceTypes ν)

lemma Greedy.makeElements_iff (h : Greedy str pairs rest) (originalStr : List UInt16)
    (hrest : exec matchPair rest = none) (elements : List (RelativePathElement ν)) :
    makeElements context originalStr str = .ok elements ↔
      rest = [] ∧ pairs.mapM (fun p => makeElement context p.1 (makeQualifiedName p.2)) =
        .ok elements := by
  induction h generalizing elements with
  | @stop str hstop =>
    cases str with
    | nil => rw [makeElements]; simp [pure, Except.pure]
    | cons c cs =>
      rw [makeElements_none context originalStr hrest]
      exact iff_of_false (by simp) fun h => absurd h.1 (cons_ne_nil c cs)
  | @pair str rest reference target n pairs hmatch _ ih =>
    have htail := ih hrest
    cases str with
    | nil => cases hmatch
    | cons c cs =>
      rw [makeElements_some context originalStr (exec_of_match hmatch), List.mapM_cons]
      cases makeElement context reference (makeQualifiedName target) with
      | error e => exact iff_of_false (fun h => by cases h) fun h => by cases h.2
      | ok element =>
        constructor
        · intro hok
          obtain ⟨elements', hrec, rfl⟩ := Except.bind_pure_eq_ok_iff.mp hok
          obtain ⟨hnil, hmap⟩ := (htail elements').mp hrec
          exact ⟨hnil, Except.bind_pure_eq_ok_iff.mpr ⟨elements', hmap, rfl⟩⟩
        · rintro ⟨hnil, hok⟩
          obtain ⟨elements', hmap, rfl⟩ := Except.bind_pure_eq_ok_iff.mp hok
          exact Except.bind_pure_eq_ok_iff.mpr ⟨elements', (htail elements').mpr ⟨hnil, hmap⟩, rfl⟩

/-- No replacement in a text without `&`. -/
lemma replaceEscape_of_notMem (r : UInt16) {text : List UInt16} (h : ampersand ∉ text) :
    replaceEscape r text = text := by
  induction text with
  | nil => rfl
  | cons c text ih =>
    have hc : c ≠ ampersand := by
      rintro rfl
      exact h (by simp)
    rw [replaceEscape_cons text hc, ih fun hmem => h (by simp [hmem])]

/-- A text without `&` is its own name. -/
lemma unescape_of_notMem {text : List UInt16} (h : ampersand ∉ text) : unescape text = text := by
  rw [unescape]
  simp only [replaceEscape_of_notMem _ h]

lemma findReference_iff {reference : ReferenceMatch} (h : ampersand ∉ reference.written) (id : ν) :
    findReference context reference = .ok id ↔
      pairReference context reference.toReference = some id := by
  have hok : ∀ v, (if context.isEmpty v then .error .assertionFailed else .ok v) =
      (.ok id : Except RelativePathError ν) ↔
        (some v).filter (fun id => !context.isEmpty id) = some id := by
    intro v
    cases hv : context.isEmpty v with
    | true | false =>
      rw [Option.filter_some, hv]
      simp
  rcases reference with _ | _ | ⟨hashed, banged, index, text⟩
  · simp [findReference, pairReference, ReferenceMatch.toReference]
  · simp [findReference, pairReference, ReferenceMatch.toReference]
  · have hname : unescape text = text := unescape_of_notMem h
    cases index with
    | none =>
      rw [ReferenceMatch.toReference, BrowseMatch.toName, hname, findReference, pairReference]
      cases hresol : context.resolveNodeId text with
      | error message => simp [Except.toOption]
      | ok v => exact hok v
    | some digits =>
      rw [ReferenceMatch.toReference, BrowseMatch.toName, hname, findReference, pairReference]
      cases hspace : context.findReferenceType with
      | none => simp
      | some find =>
        cases hfound : find text (parseIndex (some digits)) with
        | none => simp [hfound]
        | some v => simpa [hfound] using hok v

/-- **The element of a pair** that is taken. -/
lemma makeElement_iff {p : ReferenceMatch × Option BrowseMatch} (h : ampersand ∉ p.1.written)
    (htarget : ∀ m, p.2 = some m → unescape m.text ≠ []) (element : RelativePathElement ν) :
    makeElement context p.1 (makeQualifiedName p.2) = .ok element ↔
      pairElement context (toPair p) = some element := by
  obtain ⟨reference, target⟩ := p
  have htargetName : makeQualifiedName target = pairTarget (target.map BrowseMatch.toName) := by
    cases target with
    | none => rfl
    | some m =>
      rw [makeQualifiedName, if_neg (htarget m rfl)]
      rfl
  rw [makeElement, Except.bind_pure_eq_ok_iff, pairElement, toPair, Option.map_eq_some_iff]
  constructor
  · rintro ⟨id, hid, rfl⟩
    refine ⟨id, (findReference_iff context h id).mp hid, ?_⟩
    cases reference <;> rw [htargetName] <;> rfl
  · rintro ⟨id, hid, rfl⟩
    refine ⟨id, (findReference_iff context h id).mpr hid, ?_⟩
    cases reference <;> rw [htargetName] <;> rfl

lemma Greedy.mapM_iff (h : Greedy str pairs rest)
    (hescape : ∀ text reference, text <:+: str → ReferenceText text reference → ampersand ∉ text)
    (elements : List (RelativePathElement ν)) :
    pairs.mapM (fun p => makeElement context p.1 (makeQualifiedName p.2)) = .ok elements ↔
      (pairs.map toPair).mapM (pairElement context) = some elements := by
  have hpairs : ∀ p ∈ pairs, ∀ element,
      makeElement context p.1 (makeQualifiedName p.2) = .ok element ↔
        pairElement context (toPair p) = some element := by
    intro p hp element
    obtain ⟨⟨text, hinfix, htext, hwrit⟩, htarget⟩ := h.references p hp
    refine makeElement_iff context (fun hmem => ?_) htarget element
    exact hescape text _ hinfix htext (hwrit ampersand hmem)
  clear h
  induction pairs generalizing elements with
  | nil => simp [pure, Except.pure]
  | cons p pairs ih =>
    have hhead := hpairs p (by simp)
    have htail := fun es => ih es fun q hq => hpairs q (by simp [hq])
    rw [List.map_cons, List.mapM_cons, List.mapM_cons, Except.bind_eq_ok_iff, Option.bind_eq_bind,
      Option.bind_eq_some_iff]
    refine exists_congr fun element => and_congr (hhead element) ?_
    rw [Except.bind_pure_eq_ok_iff, Option.bind_eq_bind, Option.bind_eq_some_iff]
    refine exists_congr fun elements' => and_congr (htail elements') ?_
    exact ⟨fun heq => congrArg some heq.symm, fun heq => (Option.some.inj heq).symm⟩

end

/-- The text `/a.b&/`. -/
def slashDotText : List UInt16 := [slash, 0x61, dot, 0x62, ampersand, slash]

/-- Reference types of an address space with two types of its own. -/
def twoReferenceTypes : ReferenceTypes ℕ where
  hierarchicalReferenceTypeNodeId := 33
  aggregatesReferenceTypeNodeId := 44
  resolveNodeId _ := .error "String_to_NodeId"
  findReferenceType := none
  isEmpty id := id == 0

lemma slashDotText_path : PathText slashDotText
    [(.hierarchical, some ⟨none, [0x61]⟩), (.aggregates, some ⟨none, [0x62, slash]⟩)] := by
  have ha : NameText [0x61] [0x61] := NameText.nil.plain (by decide)
  have hb : NameText [0x62, ampersand, slash] [0x62, slash] :=
    (NameText.nil.escaped (by decide)).plain (by decide)
  exact PathText.pair ReferenceText.slash (TargetText.given (.unqualified ha (by decide)))
    (PathText.pair ReferenceText.dot (TargetText.given (.unqualified hb (by decide))) PathText.nil)

lemma slashDotText_regular : Regular slashDotText where
  noEscape := by
    intro text reference hinfix htext
    cases htext with
    | slash => decide
    | dot => decide
    | named hashed banged hname =>
      have hless : less ∈ slashDotText := hinfix.subset (by simp)
      exact absurd hless (by decide)
  noReference := by
    intro path rest pairs heq _ hlongest text reference hinfix htext
    have hlen := hlongest slashDotText [] _ (by simp) slashDotText_path
    have hnil : rest = [] := by
      rw [← List.length_eq_zero_iff]
      have := congrArg List.length heq
      rw [length_append] at this
      omega
    rw [hnil, List.infix_nil] at hinfix
    subst hinfix
    cases htext

end NodeOpcua
