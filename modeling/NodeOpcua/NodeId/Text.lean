import Mathlib.Data.List.TakeWhile
import NodeOpcua.NodeId.Basic

set_option autoImplicit false

/-!
# Node identifiers as text

The text of a node identifier determines it, but the conversion does not always find it: the
expressions are tried in order and are not anchored, so that the text of a string identifier may
match an earlier one, and the dot stops at the end of a line.

## Main definitions

* `MentionsNumeric`, `Identifier.TextSafe`.

## Main results

* `NodeId.toString_injective`, `textSafe_of_resolveNodeId`.
* `nodeId_text_iff`.

## Design

Every expression starts with the letter `n` and needs a semicolon. So on the text of an identifier
it is tried at the beginning, and then only in the value (`IsExpression.exec_value`).
-/

namespace NodeOpcua

open LeftmostMatch
open Base64 (decode encode isDigit_encode)

variable {U : CaseMapping}

/-! ### Expressions -/

lemma takeWhile_digits {ds : List Char} (hds : ∀ c ∈ ds, c.isDigit = true) {c : Char}
    (hc : c.isDigit = false) (rest : List Char) :
    (ds ++ c :: rest).takeWhile Char.isDigit = ds ∧
      (ds ++ c :: rest).dropWhile Char.isDigit = c :: rest := by
  constructor
  · rw [List.takeWhile_append_of_pos hds, List.takeWhile_cons_of_neg (by rw [hc]; decide),
      List.append_nil]
  · rw [List.dropWhile_append_of_pos hds, List.dropWhile_cons_of_neg (by rw [hc]; decide)]

/-- The texts that `matchNamespace` matches. -/
lemma matchNamespace_eq_some_iff (letter : Char) (cs digits value : List Char) :
    matchNamespace letter cs = some (digits, value) ↔
      cs = 'n' :: 's' :: '=' :: (digits ++ ';' :: letter :: '=' :: value) ∧ digits ≠ [] ∧
        ∀ c ∈ digits, c.isDigit = true := by
  constructor
  · intro h
    unfold matchNamespace at h
    split at h
    · next rest =>
      split at h
      · next d ds c value' hdigits hrest =>
        split_ifs at h with hc
        cases h
        subst hc
        refine ⟨?_, by simp, ?_⟩
        · rw [← hdigits, ← hrest, List.takeWhile_append_dropWhile]
        · intro e he
          rw [← hdigits] at he
          exact List.all_eq_true.mp List.all_takeWhile e he
      · cases h
    · cases h
  · rintro ⟨rfl, hne, hdigits⟩
    obtain ⟨htake, hdrop⟩ := takeWhile_digits hdigits (c := ';') (by decide) (letter :: '=' :: value)
    obtain ⟨d, ds, rfl⟩ := List.exists_cons_of_ne_nil hne
    simp only [matchNamespace, htake, hdrop, if_true]

/-- Every expression starts with the letter `n`. -/
lemma matchNamespace_head (letter : Char) {cs : List Char}
    (h : matchNamespace letter cs ≠ none) : ∃ rest, cs = 'n' :: rest := by
  obtain ⟨⟨digits, value⟩, hsome⟩ := Option.ne_none_iff_exists'.mp h
  exact ⟨_, ((matchNamespace_eq_some_iff letter cs digits value).mp hsome).1⟩

lemma matchNamespace_semicolon {letter : Char} {cs : List Char} (h : ';' ∉ cs) :
    matchNamespace letter cs = none := by
  by_contra hne
  obtain ⟨⟨digits, value⟩, hsome⟩ := Option.ne_none_iff_exists'.mp hne
  apply h
  rw [((matchNamespace_eq_some_iff letter cs digits value).mp hsome).1]
  simp

/-- The beginning of the text of an identifier, up to its value. -/
def header (namespaceIndex : UInt16) (letter : Char) : List Char :=
  'n' :: 's' :: '=' :: (decimal namespaceIndex.toNat ++ ';' :: letter :: ['='])

lemma decimal_isDigit (n : ℕ) : ∀ c ∈ decimal n, c.isDigit = true := fun c hc =>
  Nat.isDigit_of_mem_toDigits (by decide) (by decide) hc

lemma decimal_ne_nil (n : ℕ) : decimal n ≠ [] := Nat.toDigits_ne_nil

lemma ofDecimal_decimal (n : ℕ) : ofDecimal (decimal n) = n := Nat.ofDigitChars_ten_toDigits

/-- **At the beginning** the expression of the identifier type matches, and no other does. -/
lemma matchNamespace_header (letter letter' : Char) (ns : UInt16) (value : List Char) :
    matchNamespace letter (header ns letter' ++ value) =
      if letter' = letter then some (decimal ns.toNat, value) else none := by
  obtain ⟨htake, hdrop⟩ := takeWhile_digits (decimal_isDigit ns.toNat) (c := ';') (by decide)
    (letter' :: '=' :: value)
  obtain ⟨d, ds, hds⟩ := List.exists_cons_of_ne_nil (decimal_ne_nil ns.toNat)
  unfold header matchNamespace
  simp only [List.cons_append, List.append_assoc, List.nil_append]
  rw [htake, hdrop, hds]
  rfl

/-- **An expression** for a namespace and a letter, and what it does with the match of this part. -/
def IsExpression {α : Type} (letter : Char) (m : List Char → Option α)
    (f : List Char × List Char → Option α) : Prop :=
  ∀ cs, m cs = (matchNamespace letter cs).bind f

section

variable {α : Type} {m : List Char → Option α} {letter : Char}
  {f : List Char × List Char → Option α} (hm : IsExpression letter m f)

include hm

lemma IsExpression.head (cs : List Char) (h : m cs ≠ none) : ∃ rest, cs = 'n' :: rest := by
  apply matchNamespace_head letter
  intro hnone
  rw [hm, hnone] at h
  exact h rfl

lemma IsExpression.exec_of_not_mem {cs : List Char} (h : 'n' ∉ cs) : exec m cs = none := by
  rw [exec_eq_none_iff]
  rintro before after rfl
  by_contra hne
  obtain ⟨rest, rfl⟩ := hm.head after hne
  exact h (by simp)

lemma IsExpression.exec_of_no_semicolon {cs : List Char} (h : ';' ∉ cs) : exec m cs = none := by
  rw [exec_eq_none_iff]
  rintro before after rfl
  rw [hm, matchNamespace_semicolon fun hmem => h (by simp [hmem])]
  rfl

/-- **The expression of the identifier type** matches at the beginning of the text. -/
lemma IsExpression.exec_header {ns : UInt16} {value : List Char} {r : α}
    (h : f (decimal ns.toNat, value) = some r) : exec m (header ns letter ++ value) = some r := by
  apply exec_of_match
  rw [hm, matchNamespace_header, if_pos rfl]
  exact h

/-- **Another expression** is searched in the value. -/
lemma IsExpression.exec_value {letter' : Char} (hne : letter' ≠ letter) (hn : letter' ≠ 'n')
    (ns : UInt16) (value : List Char) : exec m (header ns letter' ++ value) = exec m value := by
  have hnone : m (header ns letter' ++ value) = none := by
    rw [hm, matchNamespace_header, if_neg hne]
    rfl
  have hrest : ∀ c ∈ 's' :: '=' :: (decimal ns.toNat ++ ';' :: letter' :: ['=']), c ≠ 'n' := by
    intro c hc
    simp only [List.mem_cons, List.mem_append, List.not_mem_nil, or_false] at hc
    rcases hc with rfl | rfl | hc | rfl | rfl | rfl
    · decide
    · decide
    · rintro rfl
      exact absurd (decimal_isDigit _ _ hc) (by decide)
    · decide
    · exact hn
    · decide
  rw [header, List.cons_append] at hnone ⊢
  rw [exec, hnone]
  apply exec_append
  intro c rest hc
  by_contra hsome
  obtain ⟨rest', heq⟩ := hm.head _ hsome
  exact hrest c hc (List.cons.inj heq).1

end

section

variable (p : List Char × List Char)

/-- What `regexNamespaceI` does with the value. -/
def takeNumber : Option (List Char × List Char) :=
  match p.2.takeWhile Char.isDigit with
  | [] => none
  | ds => some (p.1, ds)

/-- What `regexNamespaceS` and `regexNamespaceB` do with the value. -/
def takeLine : Option (List Char × List Char) :=
  some (p.1, restOfLine p.2)

/-- What `regexNamespaceG` does with the value. -/
def takeGuid : Option (List Char × List Char) :=
  if isValidGuid p.2 then some (p.1, p.2.take 36) else none

end

lemma regexNamespaceI_expression : IsExpression 'i' regexNamespaceI takeNumber := fun _ => rfl
lemma regexNamespaceS_expression : IsExpression 's' regexNamespaceS takeLine := fun _ => rfl
lemma regexNamespaceB_expression : IsExpression 'b' regexNamespaceB takeLine := fun _ => rfl
lemma regexNamespaceG_expression : IsExpression 'g' regexNamespaceG takeGuid := fun _ => rfl

/-! ### The conversion -/

lemma coerceText_header (U : CaseMapping) (ns : UInt16) (letter : Char) (value : List Char)
    (namespaceIndex : ℕ) :
    coerceText U (header ns letter ++ value) namespaceIndex =
      match exec regexNamespaceI (header ns letter ++ value) with
      | some (ns, digits) => NodeId.new U (.numeric (some (ofDecimal digits))) (ofDecimal ns)
      | none =>
        match exec regexNamespaceS (header ns letter ++ value) with
        | some (ns, text) => NodeId.new U (.string (String.ofList text)) (ofDecimal ns)
        | none =>
          match exec regexNamespaceB (header ns letter ++ value) with
          | some (ns, text) =>
            NodeId.new U (.byteString (some (decode text))) (ofDecimal ns)
          | none =>
            match exec regexNamespaceG (header ns letter ++ value) with
            | some (ns, guid) => NodeId.new U (.guid (normalizeGuid U guid)) (ofDecimal ns)
            | none => .error (.cannotCoerce (header ns letter ++ value)) := rfl

/-- The letter of the identifier type. -/
def Identifier.letter : Identifier U → Char
  | .numeric _ => 'i'
  | .string _ => 's'
  | .guid _ => 'g'
  | .byteString _ => 'b'

/-- The text of the value. -/
def Identifier.payload : Identifier U → List Char
  | .numeric value => decimal value.toNat
  | .string value => value.toList
  | .guid value => value.text
  | .byteString (some value) => encode value
  | .byteString none => "<null>".toList

lemma normalizeGuid_text (g : Guid U) : normalizeGuid U g.text = g.text := by
  rw [normalizeGuid, if_neg g.text_ne_nil]
  exact g.normal

lemma header_eq (ns : UInt16) (letter : Char) (value : List Char) :
    ("ns=".toList ++ decimal ns.toNat ++ ";".toList) ++ (letter :: '=' :: value) =
      header ns letter ++ value := by
  have hns : "ns=".toList = ['n', 's', '='] := rfl
  have hsemicolon : ";".toList = [';'] := rfl
  rw [hns, hsemicolon, header]
  simp only [List.cons_append, List.nil_append, List.append_assoc]

/-- **The text of an identifier**: the namespace, the letter and the value. -/
lemma NodeId.toString_eq (n : NodeId U) :
    n.toString none = header n.namespaceIndex n.value.letter ++ n.value.payload := by
  rw [← header_eq]
  unfold NodeId.toString namespacePart
  congr 1
  cases n.value with
  | numeric value => rfl
  | string value => rfl
  | guid value =>
    rw [Identifier.toString, normalizeGuid_text]
    rfl
  | byteString value =>
    cases value with
    | none => rfl
    | some bytes => rfl

/-- **Numbers are found again**. -/
lemma coerceText_numeric (ns : UInt16) (value : UInt32) :
    coerceText U (header ns 'i' ++ decimal value.toNat) 0 = .ok ⟨ns, .numeric value⟩ := by
  have htake : takeNumber (decimal ns.toNat, decimal value.toNat) =
      some (decimal ns.toNat, decimal value.toNat) := by
    have hall : (decimal value.toNat).takeWhile Char.isDigit = decimal value.toNat :=
      List.takeWhile_eq_self_iff.mpr (decimal_isDigit _)
    obtain ⟨d, ds, hds⟩ := List.exists_cons_of_ne_nil (decimal_ne_nil value.toNat)
    unfold takeNumber
    rw [hall, hds]
  rw [coerceText_header, regexNamespaceI_expression.exec_header htake]
  dsimp only
  rw [ofDecimal_decimal, ofDecimal_decimal]
  exact new_numeric ns value

/-- **GUIDs are cut** after their 36 characters. -/
lemma coerceText_guid (ns : UInt16) (value : Guid U) :
    coerceText U (header ns 'g' ++ value.text) 0 = .ok ⟨ns, .guid value.head⟩ := by
  have hn := value.not_mem_text
  have htake : takeGuid (decimal ns.toNat, value.text) =
      some (decimal ns.toNat, value.text.take 36) := if_pos value.valid
  rw [coerceText_header, regexNamespaceI_expression.exec_value (by decide) (by decide),
    regexNamespaceI_expression.exec_of_not_mem hn,
    regexNamespaceS_expression.exec_value (by decide) (by decide),
    regexNamespaceS_expression.exec_of_not_mem hn,
    regexNamespaceB_expression.exec_value (by decide) (by decide),
    regexNamespaceB_expression.exec_of_not_mem hn, regexNamespaceG_expression.exec_header htake]
  dsimp only
  rw [ofDecimal_decimal, ← value.head_text, normalizeGuid_text]
  exact new_guid ns value.head

/-- **Byte strings** are looked up after the other forms, which they do not match. -/
lemma coerceText_byteString (ns : UInt16) {value : List Char} (hvalue : ';' ∉ value) :
    coerceText U (header ns 'b' ++ value) 0 =
      .ok ⟨ns, .byteString (some (decode (restOfLine value)))⟩ := by
  rw [coerceText_header, regexNamespaceI_expression.exec_value (by decide) (by decide),
    regexNamespaceI_expression.exec_of_no_semicolon hvalue,
    regexNamespaceS_expression.exec_value (by decide) (by decide),
    regexNamespaceS_expression.exec_of_no_semicolon hvalue,
    regexNamespaceB_expression.exec_header (f := takeLine) rfl]
  dsimp only
  rw [ofDecimal_decimal]
  exact new_byteString ns _

/-- **Strings** are cut at the end of the line, and may be taken for a number. -/
lemma coerceText_string (ns : UInt16) (value : List Char) :
    coerceText U (header ns 's' ++ value) 0 =
      match exec regexNamespaceI value with
      | some (ns, digits) => NodeId.new U (.numeric (some (ofDecimal digits))) (ofDecimal ns)
      | none => .ok ⟨ns, .string (String.ofList (restOfLine value))⟩ := by
  rw [coerceText_header, regexNamespaceI_expression.exec_value (by decide) (by decide),
    regexNamespaceS_expression.exec_header (f := takeLine) rfl]
  cases exec regexNamespaceI value with
  | some r => rfl
  | none =>
    dsimp only
    rw [ofDecimal_decimal]
    exact new_string ns _

/-! ### What is found again -/

/-- **A numeric identifier is spelled out** in the text: `ns=`, digits, `;i=` and a digit. -/
def MentionsNumeric (cs : List Char) : Prop :=
  ∃ before digits d after, cs = before ++ 'n' :: 's' :: '=' :: (digits ++ ';' :: 'i' :: '=' ::
    d :: after) ∧ digits ≠ [] ∧ (∀ c ∈ digits, c.isDigit = true) ∧ d.isDigit = true

lemma exec_regexNamespaceI_eq_none_iff (cs : List Char) :
    exec regexNamespaceI cs = none ↔ ¬ MentionsNumeric cs := by
  rw [exec_eq_none_iff]
  constructor
  · rintro h ⟨before, digits, d, after, heq, hne, hdigits, hd⟩
    have hmatch := (matchNamespace_eq_some_iff 'i' _ digits (d :: after)).mpr ⟨rfl, hne, hdigits⟩
    have hnone := h _ _ heq
    rw [regexNamespaceI_expression, hmatch, Option.bind_some, takeNumber,
      List.takeWhile_cons_of_pos hd] at hnone
    cases hnone
  · intro h before after heq
    by_contra hne
    rw [regexNamespaceI_expression] at hne
    obtain ⟨r, hr⟩ := Option.ne_none_iff_exists'.mp hne
    obtain ⟨⟨digits, value⟩, hmatch, htake⟩ := Option.bind_eq_some_iff.mp hr
    obtain ⟨hafter, hdigits, hall⟩ := (matchNamespace_eq_some_iff 'i' after digits value).mp hmatch
    cases value with
    | nil => cases htake
    | cons d value =>
      by_cases hd : d.isDigit = true
      · exact h ⟨before, digits, d, value, by rw [heq, hafter], hdigits, hall, hd⟩
      · rw [takeNumber, List.takeWhile_cons_of_neg hd] at htake
        cases htake

/-- **The identifiers that are found again**: no null byte string, no GUID with more than its 36
characters, and no string with a line terminator or with a numeric identifier spelled out in it. -/
def Identifier.TextSafe : Identifier U → Prop
  | .numeric _ => True
  | .string value =>
    (∀ c ∈ value.toList, isLineTerminator c = false) ∧ ¬ MentionsNumeric value.toList
  | .guid value => value.text.length = 36
  | .byteString value => value ≠ none

lemma restOfLine_eq_self_iff (cs : List Char) :
    restOfLine cs = cs ↔ ∀ c ∈ cs, isLineTerminator c = false := by
  rw [restOfLine, List.takeWhile_eq_self_iff]
  simp only [Bool.not_eq_true']

lemma encode_line (bytes : Buffer) :
    restOfLine (encode bytes) = encode bytes ∧ ';' ∉ encode bytes := by
  have hdigit : ∀ c, Base64.IsDigit c → isLineTerminator c = false ∧ c ≠ ';' ∧ c ≠ '<' := by
    have hall : Base64.alphabet.all fun c => !isLineTerminator c && c != ';' && c != '<' := by
      decide +kernel
    rintro c (hc | rfl)
    · simpa [and_assoc] using List.all_eq_true.mp hall c hc
    · decide
  refine ⟨(restOfLine_eq_self_iff _).mpr fun c hc => ?_, fun hmem => ?_⟩
  · exact (hdigit c (isDigit_encode bytes c hc)).1
  · exact (hdigit ';' (isDigit_encode bytes ';' hmem)).2.1 rfl

lemma new_numeric_ne (value : Option ℤ) (k : ℕ) (ns : UInt16) (s : String) :
    NodeId.new U (.numeric value) k ≠ .ok ⟨ns, .string s⟩ := by
  unfold NodeId.new
  dsimp only
  split_ifs <;> simp

/-- **When the conversion finds an identifier** from its text. -/
theorem coerceText_toString_iff (n : NodeId U) :
    coerceText U (n.toString none) 0 = .ok n ↔ n.value.TextSafe := by
  obtain ⟨ns, value⟩ := n
  rw [NodeId.toString_eq]
  cases value with
  | numeric value => exact iff_of_true (coerceText_numeric ns value) trivial
  | guid value =>
    rw [Identifier.letter, Identifier.payload, coerceText_guid]
    simp only [Except.ok.injEq, NodeId.mk.injEq, Identifier.guid.injEq, true_and,
      Guid.head_eq_self_iff, Identifier.TextSafe]
  | byteString value =>
    cases value with
    | none =>
      rw [Identifier.letter, Identifier.payload, coerceText_byteString ns (by decide)]
      simp [Identifier.TextSafe]
    | some bytes =>
      obtain ⟨hline, hsemicolon⟩ := encode_line bytes
      rw [Identifier.letter, Identifier.payload, coerceText_byteString ns hsemicolon, hline,
        Base64.decode_encode]
      simp [Identifier.TextSafe]
  | string value =>
    rw [Identifier.letter, Identifier.payload, coerceText_string, Identifier.TextSafe,
      ← exec_regexNamespaceI_eq_none_iff, ← restOfLine_eq_self_iff]
    cases exec regexNamespaceI value.toList with
    | some r => simpa using new_numeric_ne _ _ ns value
    | none =>
      simp only [Except.ok.injEq, NodeId.mk.injEq, Identifier.string.injEq, true_and, and_true]
      constructor
      · intro h
        have htoList := congrArg String.toList h
        rwa [String.toList_ofList] at htoList
      · intro h
        rw [h, String.ofList_toList]

/-! ### Distinct texts -/

lemma encode_ne_null (bytes : Buffer) : encode bytes ≠ "<null>".toList := by
  intro h
  have hmem : '<' ∈ encode bytes := by
    rw [h]
    decide
  have hnot : ¬ Base64.IsDigit '<' := by
    unfold Base64.IsDigit
    decide +kernel
  exact hnot (isDigit_encode bytes '<' hmem)

lemma Identifier.eq_of_payload {v v' : Identifier U} (hletter : v.letter = v'.letter)
    (hpay : v.payload = v'.payload) : v = v' := by
  cases v <;> cases v' <;> simp only [letter, Char.reduceEq] at hletter
  case numeric.numeric value value' =>
    have hvalue := congrArg ofDecimal hpay
    simp only [payload, ofDecimal_decimal] at hvalue
    rw [UInt32.toNat_inj.mp hvalue]
  case string.string value value' => rw [String.toList_inj.mp hpay]
  case guid.guid value value' => rw [Guid.text_inj.mp hpay]
  case byteString.byteString value value' =>
    cases value with
    | none =>
      cases value' with
      | none => rfl
      | some bytes => exact absurd hpay.symm (encode_ne_null bytes)
    | some bytes =>
      cases value' with
      | none => exact absurd hpay (encode_ne_null bytes)
      | some bytes' =>
        have hbytes := congrArg decode hpay
        simp only [payload, Base64.decode_encode] at hbytes
        rw [hbytes]

/-- **Distinct identifiers have distinct texts**. -/
theorem NodeId.toString_injective : Function.Injective fun n : NodeId U => n.toString none := by
  intro n n' h
  dsimp only at h
  rw [NodeId.toString_eq, NodeId.toString_eq] at h
  have hmatch := congrArg (matchNamespace n.value.letter) h
  rw [matchNamespace_header, matchNamespace_header, if_pos rfl] at hmatch
  split_ifs at hmatch with hletter
  obtain ⟨hns, hpay⟩ := Prod.mk.inj (Option.some.inj hmatch)
  have hnum := congrArg ofDecimal hns
  rw [ofDecimal_decimal, ofDecimal_decimal] at hnum
  exact NodeId.ext (UInt16.toNat_inj.mp hnum) (Identifier.eq_of_payload hletter.symm hpay)

lemma coerceNodeId_none (value : List Char) (namespaceIndex : ℕ) :
    coerceNodeId U value namespaceIndex none = coerceText U value namespaceIndex := by
  unfold coerceNodeId
  split
  · next hnone => cases hnone
  · rfl

lemma resolveNodeId_toString (names : NameIndex U) (n : NodeId U) :
    resolveNodeId names (n.toString none) 0 none = coerceText U (n.toString none) 0 := by
  have hfind : names.find (n.toString none) = none := by
    exact names.find_ns _
  rw [resolveNodeId, hfind]
  exact coerceNodeId_none _ _

lemma new_numeric_textSafe {value : Option ℤ} {k : ℕ} {m : NodeId U}
    (h : NodeId.new U (.numeric value) k = .ok m) : m.value.TextSafe := by
  unfold NodeId.new at h
  dsimp only at h
  split_ifs at h
  cases h
  trivial

/-- **What the text of an identifier is converted to** is found again from its own text. -/
theorem textSafe_of_resolveNodeId {names : NameIndex U} {n m : NodeId U}
    (h : resolveNodeId names (n.toString none) 0 none = .ok m) : m.value.TextSafe := by
  rw [resolveNodeId_toString] at h
  obtain ⟨ns, value⟩ := n
  rw [NodeId.toString_eq] at h
  cases value with
  | numeric value =>
    rw [Identifier.letter, Identifier.payload, coerceText_numeric] at h
    cases h
    trivial
  | guid value =>
    rw [Identifier.letter, Identifier.payload, coerceText_guid] at h
    cases h
    exact value.length_take
  | byteString value =>
    have hvalue : ';' ∉ (Identifier.byteString value : Identifier U).payload := by
      cases value with
      | none => exact (by decide : ';' ∉ "<null>".toList)
      | some bytes => exact (encode_line bytes).2
    rw [Identifier.letter, coerceText_byteString ns hvalue] at h
    cases h
    exact Option.some_ne_none _
  | string value =>
    rw [Identifier.letter, Identifier.payload, coerceText_string] at h
    cases hexec : exec regexNamespaceI value.toList with
    | some r =>
      rw [hexec] at h
      exact new_numeric_textSafe h
    | none =>
      rw [hexec] at h
      cases h
      rw [Identifier.TextSafe, String.toList_ofList]
      refine ⟨fun c hc => ?_, ?_⟩
      · simpa using List.mem_takeWhile_imp hc
      · rintro ⟨before, digits, d, after, heq, hrest⟩
        rw [exec_regexNamespaceI_eq_none_iff] at hexec
        apply hexec
        refine ⟨before, digits, d, after ++ value.toList.dropWhile (!isLineTerminator ·), ?_, hrest⟩
        calc
          value.toList = restOfLine value.toList ++ value.toList.dropWhile (!isLineTerminator ·) :=
            List.takeWhile_append_dropWhile.symm
          _ = _ := by
            rw [heq]
            simp

/-- **The text of node identifiers.** The text of an identifier is converted back to it, with or
without the standard names, and no other identifier has it, if and only if the identifier is no null
byte string, no GUID with more than its 36 characters, and no string with a line terminator or with
a numeric identifier spelled out in it. -/
theorem nodeId_text_iff (names : NameIndex U) (n : NodeId U) :
    (coerceNodeId U (n.toString none) 0 none = .ok n ∧
      resolveNodeId names (n.toString none) 0 none = .ok n ∧
      ∀ m : NodeId U, m.toString none = n.toString none → m = n) ↔ n.value.TextSafe := by
  have hfind : names.find (n.toString none) = none := by
    exact names.find_ns _
  rw [resolveNodeId, hfind]
  rw [coerceNodeId_none, coerceText_toString_iff]
  constructor
  · exact fun h => h.1
  · exact fun h => ⟨h, h, fun m hm => NodeId.toString_injective hm⟩

/-- **A string with a line terminator is cut**: its first line is found. -/
theorem nodeId_text_cut :
    let n : NodeId CaseMapping.ascii := ⟨1, .string "a\nb"⟩
    coerceNodeId CaseMapping.ascii (n.toString none) 0 none = .ok ⟨1, .string "a"⟩ ∧
      (⟨1, .string "a"⟩ : NodeId CaseMapping.ascii) ≠ n := by
  decide +kernel

end NodeOpcua
