import Mathlib.Data.Nat.Notation
import Mathlib.Tactic.Lemma
import Mathlib.Tactic.SplitIfs
import NodeOpcua.StatusCode

set_option autoImplicit false

/-!
# Writing through a range

The elements of an array that a range selects are read and overwritten. An array is a plain one, or a
view of bytes that converts what is stored in it.

## Main definitions

* `Items`.
* `IndexRange.set_values`, `IndexRange.extract_values`.

## Design

* The indexes of a range are natural numbers, as in every valid one. The ranges of a matrix are left
  out.
* The conversion of a view is a parameter.
-/

namespace NodeOpcua

/-! ### The source -/

/-- A `Buffer`, or a typed array with its constructor. -/
inductive ViewKind (K : Type) where
  | buffer
  | typedArray (constructor : K)

/-- An element of a plain array: a value, or a view. -/
inductive Item (K A : Type) where
  | value (a : A)
  | view (kind : ViewKind K) (values : List A)

/-- An array. -/
inductive Items (K A : Type) where
  | plain (elements : List (Item K A))
  | view (kind : ViewKind K) (values : List A)

/-- A range. -/
inductive IndexRange where
  | empty
  | singleValue (value : ℕ)
  | arrayRange (low high : ℕ)
  | invalidRange

variable {K A : Type}

/-- The elements. -/
def Items.elements : Items K A → List (Item K A)
  | .plain elements => elements
  | .view _ values => values.map .value

/-- `array.length`. -/
def Items.length (array : Items K A) : ℕ := array.elements.length

/-- A part of a list. -/
def sliceList {B : Type} (l : List B) (start stop : ℕ) : List B := (l.take stop).drop start

/-- `slice`: a plain array is copied, and a view shares its bytes. -/
def Items.slice (array : Items K A) (start stop : ℕ) : Items K A :=
  match array with
  | .plain elements => .plain (sliceList elements start stop)
  | .view kind values => .view kind (sliceList values start stop)

/-- `extract_single_value`. -/
def extract_single_value (array : Items K A) (index : ℕ) : Option (Items K A) × StatusCode :=
  if index ≥ array.length then (none, .BadIndexRangeNoData)
  else (some (array.slice index (index + 1)), .Good)

/-- `extract_array_range`: the high index is clamped. -/
def extract_array_range (array : Items K A) (low_index high_index : ℕ) :
    Option (Items K A) × StatusCode :=
  if low_index ≥ array.length then (none, .BadIndexRangeNoData)
  else (some (array.slice low_index (min high_index (array.length - 1) + 1)), .Good)

/-- A list with the elements from `low` to `high` replaced. -/
def splice {B : Type} (l : List B) (low high : ℕ) (values : List B) : List B :=
  l.take low ++ values ++ l.drop (high + 1)

/-- The arguments that `concat` appends to those of `splice`: only a plain array is spread. -/
def concatArguments : Items K A → List (Item K A)
  | .plain elements => elements
  | .view kind values => [.view kind values]

/-- `insertInPlaceStandardArray`. -/
def insertInPlaceStandardArray (elements : List (Item K A)) (low high : ℕ) (newValues : Items K A) :
    List (Item K A) :=
  splice elements low high (concatArguments newValues)

/-- The bytes of a `Buffer` that are overwritten one by one, from an index. -/
def writeBytes (convert : Item K A → A) : List A → ℕ → List (Item K A) → List A
  | bytes, _, [] => bytes
  | bytes, i, item :: items => writeBytes convert (bytes.set i (convert item)) (i + 1) items

/-- `insertInPlaceTypedArray` and `insertInPlaceBuffer`: the array that is returned, and the one that
was given. An array that is replaced as a whole is a new one. -/
def insertInPlaceView (convert : Item K A → A) (kind : ViewKind K) (values : List A) (low high : ℕ)
    (newValues : Items K A) : List A × List A :=
  if low = 0 ∧ high + 1 = values.length then (newValues.elements.map convert, values)
  else
    let altered := match kind with
      | .typedArray _ => splice values low high (newValues.elements.map convert)
      | .buffer => writeBytes convert values low newValues.elements
    (altered, altered)

/-- The answer of `set_values`, and the array that was to be altered. -/
structure WriteResult (K A : Type) where
  array : Option (Items K A)
  statusCode : StatusCode
  arrayToAlter : Items K A

namespace IndexRange

/-- `extract_values`, on an array. -/
def extract_values (range : IndexRange) (array : Items K A) : Option (Items K A) × StatusCode :=
  match range with
  | .empty => (some array, .Good)
  | .singleValue index => extract_single_value array index
  | .arrayRange low_index high_index => extract_array_range array low_index high_index
  | .invalidRange => (none, .BadIndexRangeInvalid)

section

variable (convert : ViewKind K → Item K A → A)

/-- The elements from `low` to `high` are replaced. -/
def insertInPlace (arrayToAlter newValues : Items K A) (low high : ℕ) : WriteResult K A :=
  match arrayToAlter with
  | .plain elements =>
    let altered := .plain (insertInPlaceStandardArray elements low high newValues)
    ⟨some altered, .Good, altered⟩
  | .view kind values =>
    let (array, altered) := insertInPlaceView (convert kind) kind values low high newValues
    ⟨some (.view kind array), .Good, .view kind altered⟩

/-- `set_values`. -/
def set_values (range : IndexRange) (arrayToAlter newValues : Items K A) : WriteResult K A :=
  let write (low high : ℕ) : WriteResult K A :=
    if high ≥ arrayToAlter.length ∨ low ≥ arrayToAlter.length then
      ⟨none, .BadIndexRangeNoData, arrayToAlter⟩
    else if newValues.length ≠ high + 1 - low then ⟨none, .BadIndexRangeInvalid, arrayToAlter⟩
    else insertInPlace convert arrayToAlter newValues low high
  match range with
  | .empty =>
    -- the high index is -1 on an empty array, and the length of the new values is not checked
    if arrayToAlter.length = 0 then ⟨none, .BadIndexRangeNoData, arrayToAlter⟩
    else insertInPlace convert arrayToAlter newValues 0 (arrayToAlter.length - 1)
  | .singleValue value => write value value
  | .arrayRange low high => write low high
  | .invalidRange => ⟨none, .BadIndexRangeInvalid, arrayToAlter⟩

/-! ### What is written is read back -/

/-- The first and the last index of a range of one dimension. -/
def bounds : IndexRange → Option (ℕ × ℕ)
  | .singleValue value => some (value, value)
  | .arrayRange low high => some (low, high)
  | _ => none

/-- **Agreement** of a write with the read of the same range. -/
structure WriteAgrees (range : IndexRange) (low high : ℕ) (target new : Items K A) : Prop where
  /-- What a good write returns. -/
  good : (set_values convert range target new).statusCode = .Good →
    ∃ array, (set_values convert range target new).array = some array ∧
      (∃ read, range.extract_values array = (some read, .Good) ∧ read.elements = new.elements) ∧
      array.length = target.length ∧
      ∀ i, i < low ∨ high < i → array.elements[i]? = target.elements[i]?
  /-- A write that fails alters nothing. -/
  bad : (set_values convert range target new).statusCode ≠ .Good →
    (set_values convert range target new).arrayToAlter = target

/-- The target can hold the new values as they are: both arrays are plain, or the conversion of the
view changes none. -/
def Holds : Items K A → Items K A → Prop
  | .plain _, .plain _ => True
  | .plain _, .view _ _ => False
  | .view kind _, new => ∀ item ∈ new.elements, .value (convert kind item) = item

/-- The elements that take the place of the old ones. -/
def written : Items K A → Items K A → List (Item K A)
  | .plain _, new => concatArguments new
  | .view kind _, new => new.elements.map fun item => .value (convert kind item)

lemma written_eq_iff (target new : Items K A) :
    written convert target new = new.elements ↔ Holds convert target new := by
  cases target with
  | plain elements =>
    cases new with
    | plain values => exact iff_of_true rfl trivial
    | view kind values =>
      refine iff_of_false (fun h => ?_) id
      cases values with
      | nil => cases h
      | cons a values => cases h
  | view kind values =>
    have hmap := List.map_inj_left (l := new.elements)
      (f := fun item => Item.value (convert kind item)) (g := id)
    rwa [List.map_id] at hmap

lemma elements_slice (array : Items K A) (start stop : ℕ) :
    (array.slice start stop).elements = sliceList array.elements start stop := by
  cases array with
  | plain elements => rfl
  | view kind values => simp [Items.slice, Items.elements, sliceList]

lemma writeBytes_eq (convert : Item K A → A) (items : List (Item K A)) :
    ∀ (bytes : List A) (low : ℕ), low + items.length ≤ bytes.length →
      writeBytes convert bytes low items =
        bytes.take low ++ items.map convert ++ bytes.drop (low + items.length) := by
  induction items with
  | nil => intro bytes low h; simp [writeBytes]
  | cons item items ih =>
    intro bytes low h
    rw [List.length_cons] at h
    rw [writeBytes, ih _ _ (by rw [List.length_set]; omega), List.take_add_one,
      List.take_set_of_le (Nat.le_refl low), List.getElem?_set_self (by omega),
      List.drop_set_of_lt (by omega)]
    simp [Nat.add_assoc, Nat.add_comm 1]

lemma splice_agrees {B : Type} {l new : List B} (middle : List B) {low high : ℕ} (hle : low ≤ high)
    (hhigh : high < l.length) (hlen : new.length = high + 1 - low) :
    (sliceList (splice l low high middle) low (high + 1) = new ∧
      (splice l low high middle).length = l.length ∧
      ∀ i, i < low ∨ high < i → (splice l low high middle)[i]? = l[i]?) ↔ middle = new := by
  have hlow : (l.take low).length = low := List.length_take_of_le (by omega)
  have hread (hmiddle : middle.length = high + 1 - low) :
      sliceList (splice l low high middle) low (high + 1) = middle := by
    unfold sliceList splice
    rw [List.take_left' (by rw [List.length_append, hlow]; omega), List.drop_left' hlow]
  constructor
  · rintro ⟨hslice, htotal, -⟩
    have hmiddle : middle.length = high + 1 - low := by
      simp only [splice, List.length_append, hlow, List.length_drop] at htotal
      omega
    exact (hread hmiddle).symm.trans hslice
  · rintro rfl
    refine ⟨hread hlen, by simp only [splice, List.length_append, hlow, List.length_drop]; omega, ?_⟩
    intro i hi
    unfold splice
    rcases hi with hi | hi
    · rw [List.append_assoc, List.getElem?_append_left (by omega), List.getElem?_take_of_lt hi]
    · rw [List.getElem?_append_right (by rw [List.length_append, hlow]; omega), List.getElem?_drop,
        List.length_append, hlow]
      congr 1
      omega

/-- **A write that is accepted** replaces the elements of the range. -/
lemma insertInPlace_elements {target new : Items K A} {low high : ℕ} (hle : low ≤ high)
    (hhigh : high < target.length) (hlen : new.length = high + 1 - low) :
    (insertInPlace convert target new low high).statusCode = .Good ∧
      ∃ array, (insertInPlace convert target new low high).array = some array ∧
        array.elements = splice target.elements low high (written convert target new) := by
  cases target with
  | plain elements => exact ⟨rfl, _, rfl, rfl⟩
  | view kind values =>
    refine ⟨rfl, .view kind (insertInPlaceView (convert kind) kind values low high new).1, rfl, ?_⟩
    have hhigh : high < values.length := by simpa [Items.length, Items.elements] using hhigh
    have hlen : low + new.elements.length = high + 1 := by
      simp only [Items.length] at hlen
      omega
    have hvalues : (insertInPlaceView (convert kind) kind values low high new).1 =
        splice values low high (new.elements.map (convert kind)) := by
      unfold insertInPlaceView
      split_ifs with hwhole
      · obtain ⟨rfl, hwhole⟩ := hwhole
        simp [splice, hwhole]
      · cases kind with
        | typedArray constructor => rfl
        | buffer =>
          rw [writeBytes_eq _ _ _ _ (by omega), hlen]
          rfl
    rw [hvalues]
    simp [splice, Items.elements, written, Function.comp_def]

section

variable {range : IndexRange} {low high : ℕ} (hrange : range.bounds = some (low, high))
  (hle : low ≤ high)
include hrange hle

lemma extract_values_eq (array : Items K A) (hhigh : high < array.length) :
    range.extract_values array = (some (array.slice low (high + 1)), .Good) := by
  cases range with
  | empty | invalidRange => cases hrange
  | singleValue value =>
    cases hrange
    exact if_neg (by omega)
  | arrayRange low' high' =>
    cases hrange
    simp only [extract_values, extract_array_range]
    rw [if_neg (by omega), Nat.min_eq_left (by omega)]

lemma set_values_eq (target new : Items K A) :
    set_values convert range target new =
      if high < target.length then
        if new.length = high + 1 - low then insertInPlace convert target new low high
        else ⟨none, .BadIndexRangeInvalid, target⟩
      else ⟨none, .BadIndexRangeNoData, target⟩ := by
  have hor : (high ≥ target.length ∨ low ≥ target.length) ↔ ¬ high < target.length := by omega
  cases range with
  | empty | invalidRange => cases hrange
  | singleValue value | arrayRange low' high' =>
    cases hrange
    simp only [set_values, hor, ite_not, ne_eq]

end

/-- **Write and read**: a write that is accepted is read back when the target can hold the new values
as they are. -/
theorem writeAgrees_iff (convert : ViewKind K → Item K A → A) (range : IndexRange) (low high : ℕ)
    (target new : Items K A) (hrange : range.bounds = some (low, high)) (hle : low ≤ high) :
    WriteAgrees convert range low high target new ↔
      (high < target.length → new.length = high + 1 - low → Holds convert target new) := by
  have hset : set_values convert range target new = _ :=
    set_values_eq convert hrange hle target new
  have hrefused {statusCode : StatusCode} (hne : statusCode ≠ .Good)
      (h : set_values convert range target new = ⟨none, statusCode, target⟩) :
      WriteAgrees convert range low high target new := by
    constructor
    · rw [h]
      exact fun hgood => absurd hgood hne
    · rw [h]
      exact fun _ => rfl
  by_cases hhigh : high < target.length
  · rw [if_pos hhigh] at hset
    by_cases hlen : new.length = high + 1 - low
    · rw [if_pos hlen] at hset
      obtain ⟨hgood, array, harray, helements⟩ :=
        insertInPlace_elements convert hle hhigh hlen
      have hagrees := splice_agrees (written convert target new) hle hhigh hlen
      have hextract {array' : Items K A} (h : array'.length = target.length) :=
        extract_values_eq hrange hle array' (by omega)
      simp only [hhigh, hlen, forall_const]
      rw [← written_eq_iff, ← hagrees, ← helements, ← elements_slice]
      constructor
      · intro h
        have hgood' := h.good (by rw [hset, hgood])
        rw [hset, harray] at hgood'
        obtain ⟨array', harray', ⟨read, hread, hnew⟩, htotal, houtside⟩ := hgood'
        cases harray'
        rw [hextract htotal] at hread
        cases hread
        exact ⟨hnew, htotal, houtside⟩
      · rintro ⟨hnew, htotal, houtside⟩
        refine ⟨fun _ => ⟨array, by rw [hset, harray], ⟨_, hextract htotal, hnew⟩, htotal, houtside⟩, ?_⟩
        rw [hset, hgood]
        exact fun hne => absurd rfl hne
    · rw [if_neg hlen] at hset
      exact iff_of_true (hrefused (by decide) hset) fun _ h => absurd h hlen
  · rw [if_neg hhigh] at hset
    exact iff_of_true (hrefused (by decide) hset) fun h => absurd h hhigh

/-- Two bytes are written into a `Buffer`. -/
theorem writeAgrees_bytes :
    let convert : ViewKind Unit → Item Unit ℕ → ℕ := fun _ item =>
      match item with
      | .value a => a % 256
      | .view _ _ => 0
    WriteAgrees convert (.arrayRange 1 2) 1 2 (.view .buffer [1, 2, 3, 4])
      (.plain [.value 8, .value 9]) :=
  (writeAgrees_iff _ (.arrayRange 1 2) 1 2 (.view .buffer [1, 2, 3, 4])
    (.plain [.value 8, .value 9]) rfl (by decide)).mpr fun _ _ => by
      rintro item (_ | ⟨_, _ | ⟨_, hmem⟩⟩)
      · rfl
      · rfl
      · cases hmem

/-- A typed array is written into a plain array as one element. -/
theorem write_not_read_back :
    ¬ ∀ (convert : ViewKind Unit → Item Unit ℕ → ℕ) (range : IndexRange) (low high : ℕ)
      (target new : Items Unit ℕ), range.bounds = some (low, high) → low ≤ high →
      WriteAgrees convert range low high target new := by
  intro h
  obtain ⟨array, harray, -, hlen, -⟩ := (h (fun _ _ => 0) (.arrayRange 1 2) 1 2
    (.plain [.value 1, .value 2, .value 3, .value 4]) (.view (.typedArray ()) [8, 9]) rfl
    (by decide)).good rfl
  cases harray
  cases hlen

end

end IndexRange

end NodeOpcua
