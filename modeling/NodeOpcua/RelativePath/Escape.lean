import NodeOpcua.RelativePath.Basic

set_option autoImplicit false

/-!
# Escapes in names

A name is written with `&` before each reserved character. The replacements of `unescape` are made
one character after the other, and that of `&&` last; before each of them the text is the name in
which the characters replaced so far have lost their `&`.

## Main definitions

* `NameText`, `render`.
-/

namespace NodeOpcua

open RelativePath

/-- **The text of a name**: characters that are not reserved, and escapes. -/
inductive NameText : List UInt16 → List UInt16 → Prop
  | nil : NameText [] []
  | plain {c : UInt16} {text name : List UInt16} (hc : isReserved c = false)
      (h : NameText text name) : NameText (c :: text) (c :: name)
  | escaped {c : UInt16} {text name : List UInt16} (hc : isReserved c = true)
      (h : NameText text name) : NameText (ampersand :: c :: text) (c :: name)

/-- The text of one character, when the characters of `done` are no longer escaped. -/
def renderChar (done : List UInt16) (c : UInt16) : List UInt16 :=
  if isReserved c = true ∧ c ∉ done then [ampersand, c] else [c]

/-- The text of a name, when the characters of `done` are no longer escaped. -/
def render (done : List UInt16) (name : List UInt16) : List UInt16 :=
  name.flatMap (renderChar done)

lemma renderChar_cons {r c : UInt16} (done : List UInt16) (hcr : c ≠ r) :
    renderChar (r :: done) c = renderChar done c := by
  simp only [renderChar, List.mem_cons, hcr, false_or]

lemma nameText_iff (text name : List UInt16) : NameText text name ↔ text = render [] name := by
  constructor
  · intro h
    induction h with
    | nil => rfl
    | @plain c text name hc _ ih | @escaped c text name hc _ ih =>
      rw [ih]
      simp [render, renderChar, hc]
  · rintro rfl
    induction name with
    | nil => exact NameText.nil
    | cons c name ih =>
      cases hc : isReserved c with
      | false => simpa [render, renderChar, hc] using NameText.plain hc ih
      | true => simpa [render, renderChar, hc] using NameText.escaped hc ih

/-! ### Unescaping -/

/-- No replacement at a character other than `&`. -/
lemma replaceEscape_cons {r c : UInt16} (rest : List UInt16) (hc : c ≠ ampersand) :
    replaceEscape r (c :: rest) = c :: replaceEscape r rest := by
  cases rest with
  | nil => rfl
  | cons d rest => rw [replaceEscape, if_neg fun h => hc h.1]

variable {r : UInt16}

/-- No replacement at a `&` before another character. -/
lemma replaceEscape_ampersand {rest : List UInt16} (h : rest.head? ≠ some r) :
    replaceEscape r (ampersand :: rest) = ampersand :: replaceEscape r rest := by
  cases rest with
  | nil => rfl
  | cons d rest =>
    rw [replaceEscape, if_neg]
    rintro ⟨-, rfl⟩
    exact h rfl

variable {done : List UInt16}

lemma render_head (hr : isReserved r = true) (hdone : r ∉ done)
    (hne : r ≠ ampersand) (name : List UInt16) : (render done name).head? ≠ some r := by
  cases name with
  | nil => exact nofun
  | cons c name =>
    rw [render, List.flatMap_cons, renderChar]
    split_ifs with hc
    · intro h
      exact hne (Option.some.inj h).symm
    · intro h
      obtain rfl : c = r := Option.some.inj h
      exact hc ⟨hr, hdone⟩

/-- **One replacement**: the escapes of one more character are replaced. -/
lemma replaceEscape_render (hr : isReserved r = true)
    (hdone : r ∉ done) (hamp : ampersand ∉ done) (name : List UInt16) :
    replaceEscape r (render done name) = render (r :: done) name := by
  induction name with
  | nil => rfl
  | cons c name ih =>
    have hcons : ∀ d : List UInt16, render d (c :: name) = renderChar d c ++ render d name :=
      fun _ => rfl
    rw [hcons, hcons, ← ih]
    by_cases hcr : c = r
    · subst hcr
      rw [renderChar, if_pos ⟨hr, hdone⟩, renderChar, if_neg (by simp)]
      exact if_pos ⟨rfl, rfl⟩
    · rw [renderChar_cons done hcr, renderChar]
      split_ifs with hc
      · have hfirst : replaceEscape r (ampersand :: c :: render done name) =
            ampersand :: replaceEscape r (c :: render done name) := by
          apply replaceEscape_ampersand
          intro h
          exact hcr (Option.some.inj h)
        rw [List.cons_append, List.cons_append, List.nil_append, hfirst]
        by_cases hca : c = ampersand
        · subst hca
          rw [replaceEscape_ampersand (render_head hr hdone (Ne.symm hcr) name)]
          rfl
        · rw [replaceEscape_cons _ hca]
          rfl
      · have hca : c ≠ ampersand := by
          rintro rfl
          exact hc ⟨rfl, hamp⟩
        exact replaceEscape_cons _ hca

lemma render_all (name : List UInt16) :
    render [ampersand, bang, hash, colon, greater, less, dot, slash] name = name := by
  have hchar : renderChar [ampersand, bang, hash, colon, greater, less, dot, slash] =
      fun c => [c] := by
    funext c
    rw [renderChar, if_neg]
    rintro ⟨hc, hnot⟩
    simp only [isReserved, Bool.or_eq_true, beq_iff_eq] at hc
    simp only [List.mem_cons, List.not_mem_nil, not_or] at hnot
    tauto
  rw [render, hchar]
  exact List.flatMap_singleton' name

/-- A text of a name is unescaped to the name. -/
theorem NameText.unescape_eq {text name : List UInt16} (h : NameText text name) :
    unescape text = name := by
  rw [(nameText_iff text name).mp h, unescape]
  rw [replaceEscape_render (by decide) (by decide) (by decide),
    replaceEscape_render (by decide) (by decide) (by decide),
    replaceEscape_render (by decide) (by decide) (by decide),
    replaceEscape_render (by decide) (by decide) (by decide),
    replaceEscape_render (by decide) (by decide) (by decide),
    replaceEscape_render (by decide) (by decide) (by decide),
    replaceEscape_render (by decide) (by decide) (by decide),
    replaceEscape_render (by decide) (by decide) (by decide), render_all]

/-! ### Escaping -/

lemma insertEscape_render (hr : isReserved r = true)
    (hdone : r ∉ done) (hne : r ≠ ampersand) (name : List UInt16) :
    insertEscape r (render (r :: done) name) = render done name := by
  rw [insertEscape, render, render, List.flatMap_assoc]
  congr 1
  funext c
  by_cases hcr : c = r
  · subst hcr
    rw [renderChar, if_neg (by simp), renderChar, if_pos ⟨hr, hdone⟩]
    simp
  · rw [renderChar_cons done hcr, renderChar]
    split_ifs
    · simp [hcr, Ne.symm hne]
    · simp [hcr]

/-- Nothing is escaped at first, then the `&`. -/
lemma insertEscape_ampersand (name : List UInt16) :
    insertEscape ampersand name = render [slash, dot, less, greater, colon, hash, bang] name := by
  rw [insertEscape, render]
  congr 1
  funext c
  by_cases hc : c = ampersand
  · subst hc
    rfl
  · rw [if_neg hc, renderChar, if_neg]
    rintro ⟨hresv, hnot⟩
    simp only [isReserved, Bool.or_eq_true, beq_iff_eq] at hresv
    simp only [List.mem_cons, List.not_mem_nil, not_or] at hnot
    tauto

lemma nameText_escape (name : List UInt16) : NameText (escape name) name := by
  rw [nameText_iff, escape]
  rw [insertEscape_ampersand, insertEscape_render (by decide) (by decide) (by decide),
    insertEscape_render (by decide) (by decide) (by decide),
    insertEscape_render (by decide) (by decide) (by decide),
    insertEscape_render (by decide) (by decide) (by decide),
    insertEscape_render (by decide) (by decide) (by decide),
    insertEscape_render (by decide) (by decide) (by decide),
    insertEscape_render (by decide) (by decide) (by decide)]

/-- **Escaping and then unescaping** a name is the identity. -/
theorem unescape_escape (name : List UInt16) : unescape (escape name) = name :=
  (nameText_escape name).unescape_eq

end NodeOpcua
