import NodeOpcua.Aggregates.Interval
import NodeOpcua.ContentFilter.Order
import NodeOpcua.NodeId.Text

set_option autoImplicit false

/-!
# The minimum and the maximum of an interval

One loop selects the extreme of the good values of an interval and computes its status.

## Main definitions

* `calculateIntervalMinOrMaxValue`.
* `ExtremeRight`.

## Design

* A data value without a variant has the null variant.
-/

namespace NodeOpcua

open BuiltIn

variable {U : CaseMapping} {X : Type}

/-! ### The source -/

/-- `HistorianMultiValue`. -/
def HistorianMultiValue : ℕ := 0x10

/-- What the predicate answers. -/
inductive Choice
  | equal
  | select
  | reject

/-- The variables of the loop. -/
structure ExtremeState (U : CaseMapping) (X : Type) where
  selectedValue : Option (Variant U X)
  counter : ℕ
  isPartial : Bool
  isRaw : Bool
  hasBad : Bool

/-- `dataValue.value`. -/
def rawValue (dataValue : BuiltIn.DataValue U X) : Variant U X := dataValue.value.getD (.scalar .null)

/-- The operand of `<` and `>`: a date is a number, an array of two numbers a text. -/
def relationalOperand (objects : Objects U X) : Variant U X → Comparable
  | .scalar (.dateTime (some date)) => .number date.toNumber
  | .scalar (.int64 high low) | .scalar (.uint64 high low) =>
    .text (.ofList (decimal high.toNat ++ ',' :: decimal low.toNat))
  | a => .ofValue objects a

section

variable (objects : Objects U X) (interval : Interval U X)
  (predicate : Variant U X → Variant U X → Choice)

/-- `a.value < b.value`. -/
def lessValue (a b : Variant U X) : Bool :=
  (relationalOperand objects a).lessThan (relationalOperand objects b)

/-- One round of the loop; the first one is marked. -/
def ExtremeState.next (s : ExtremeState U X) (atStart : Bool) (dataValue : BuiltIn.DataValue U X) :
    Except String (ExtremeState U X) :=
  if dataValue.statusCode = .BadNoData then .ok { s with isPartial := true }
  else if !dataValue.statusCode.isGood then .ok { s with hasBad := true }
  else
    match s.selectedValue with
    | none => do
      let isRaw ←
        if atStart then
          (fun t => if t = interval.startTime.getTime then true else s.isRaw) <$> getSourceTime dataValue
        else pure s.isRaw
      return { s with selectedValue := some (rawValue dataValue), counter := 1, isRaw }
    | some selectedValue =>
      match predicate selectedValue (rawValue dataValue) with
      | .equal => .ok { s with counter := 1 }
      | .select => .ok { s with selectedValue := some (rawValue dataValue), counter := 1 }
      | .reject => .ok s

/-- The loop over raw values. -/
def extremeLoop : Bool → ExtremeState U X → List (BuiltIn.DataValue U X) →
    Except String (ExtremeState U X)
  | _, s, [] => .ok s
  | atStart, s, dataValue :: dataValues => do
    extremeLoop false (← s.next interval predicate atStart dataValue) dataValues

/-- The status of the extreme. -/
def extremeStatus (s : ExtremeState U X) : StatusCode :=
  let statusCode :=
    if s.isRaw then if s.hasBad then StatusCode.UncertainDataSubNormal else .Good
    else if s.hasBad then
      StatusCode.UncertainDataSubNormal.makeStatusCode StatusCode.HistorianCalculated
    else StatusCode.Good.makeStatusCode StatusCode.HistorianCalculated
  let statusCode := if 1 < s.counter then statusCode.makeStatusCode HistorianMultiValue else statusCode
  if s.isPartial || interval.isPartial then statusCode.makeStatusCode StatusCode.HistorianPartial
  else statusCode

/-- `calculateIntervalMinOrMaxValue`. -/
def calculateIntervalMinOrMaxValue : Except String (BuiltIn.DataValue U X) := do
  let s ← extremeLoop interval predicate true ⟨none, 0, interval.isPartial, false, false⟩ interval.values
  match s.selectedValue with
  | none => return statusResult interval .BadNoData
  | some selectedValue =>
    return .mk (some selectedValue) (extremeStatus interval s) (some interval.startTime) 0 none 0

/-- `calculateIntervalMinValue`. -/
def calculateIntervalMinValue : Except String (BuiltIn.DataValue U X) :=
  calculateIntervalMinOrMaxValue interval fun a b =>
    if lessValue objects b a then .select else if strictEqual objects a b then .equal else .reject

/-- `calculateIntervalMaxValue`. -/
def calculateIntervalMaxValue : Except String (BuiltIn.DataValue U X) :=
  calculateIntervalMinOrMaxValue interval fun a b =>
    if lessValue objects a b then .select else if strictEqual objects a b then .equal else .reject

end

/-! ### What is expected -/

/-- The two aggregates. -/
inductive Extreme
  | minimum
  | maximum

namespace Extreme

variable (kind : Extreme) (objects : Objects U X) (interval : Interval U X)

def calculate : Except String (BuiltIn.DataValue U X) :=
  match kind with
  | .minimum => calculateIntervalMinValue objects interval
  | .maximum => calculateIntervalMaxValue objects interval

/-- The operator puts a value before another. -/
def puts (v w : Variant U X) : Bool :=
  match kind with
  | .minimum => lessValue objects v w
  | .maximum => lessValue objects w v

/-- How the extreme compares to a value that differs. -/
def ordering : Ordering :=
  match kind with
  | .minimum => .lt
  | .maximum => .gt

/-- The value is at least as extreme as the others. -/
def IsExtreme (values : List (Variant U X)) (v : Variant U X) : Prop :=
  ∃ a, v = .scalar a ∧ ∀ w ∈ values, ∃ b, w = .scalar b ∧ (HasOrder a b kind.ordering ∨ HasOrder a b .eq)

end Extreme

section

variable (interval : Interval U X) (kind : Extreme) (objects : Objects U X)

/-- The good raw values of an interval. -/
def goodValues : List (BuiltIn.DataValue U X) := interval.values.filter fun d => d.statusCode.isGood

/-- The good value is an extreme of the interval. -/
def IsSelected (d : BuiltIn.DataValue U X) : Prop :=
  kind.IsExtreme ((goodValues interval).map rawValue) (rawValue d)

/-- A good value at the start of the interval is the extreme. -/
def ExtremeAtStart : Prop :=
  ∃ d ∈ goodValues interval, IsSelected interval kind d ∧
    d.sourceTimestamp.map Date.getTime = some interval.startTime.getTime

/-- At most one good value is the extreme. -/
def ExtremeOnce : Prop :=
  (goodValues interval).Pairwise fun d e => ¬ (IsSelected interval kind d ∧ IsSelected interval kind e)

/-- **The expected answer.** -/
def ExtremeRight : Prop :=
  ∃ answer, kind.calculate objects interval = .ok answer ∧
    if goodValues interval = [] then answer = statusResult interval .BadNoData
    else ∃ v statusCode, answer = .mk (some v) statusCode (some interval.startTime) 0 none 0 ∧
      kind.IsExtreme ((goodValues interval).map rawValue) v ∧
      (statusCode.value &&& StatusCode.HistorianCalculated = 0 ↔ ExtremeAtStart interval kind) ∧
      (statusCode.value &&& HistorianMultiValue ≠ 0 ↔ ¬ ExtremeOnce interval kind) ∧
      (statusCode.value &&& StatusCode.HistorianPartial ≠ 0 ↔ interval.isPartial = true) ∧
      (isUncertain statusCode = true ↔ ∃ d ∈ interval.values, d.statusCode.isGood = false)

/-- **The condition.** -/
structure ExtremeCondition : Prop where
  timed : ∀ d ∈ interval.values.head?, d.statusCode.isGood = true → d.sourceTimestamp ≠ none
  agrees : ∃ d ∈ goodValues interval, IsSelected interval kind d ∧ ∀ e ∈ goodValues interval,
    ¬ IsSelected interval kind e → kind.puts objects (rawValue d) (rawValue e) = true
  start : ExtremeAtStart interval kind ↔ ∃ d ∈ interval.values.head?, d.statusCode.isGood = true ∧
    d.sourceTimestamp.map Date.getTime = some interval.startTime.getTime
  once : ExtremeOnce interval kind
  noData : ∀ d ∈ interval.values, d.statusCode = .BadNoData →
    interval.isPartial = true ∧ ∃ e ∈ interval.values, e.statusCode.isGood = false ∧ e.statusCode ≠ .BadNoData

end

/-! ### Selections -/

section

variable {A : Type} {better : A → A → Bool}
  (hasymm : ∀ a b, better a b = true → better b a = false)
include hasymm

lemma foldl_select {P : A → Prop} {a : A} {l : List A} (hex : ∃ g ∈ a :: l, P g)
    (hbetter : ∀ g ∈ a :: l, ∀ w ∈ a :: l, P g → ¬ P w → better g w = true) :
    P (l.foldl (fun s v => if better v s then v else s) a) := by
  induction l generalizing a with
  | nil =>
    obtain ⟨g, hg, hP⟩ := hex
    rwa [← List.mem_singleton.mp hg]
  | cons v l ih =>
    have ha : a ∈ a :: v :: l := by simp
    have hv : v ∈ a :: v :: l := by simp
    rw [List.foldl_cons]
    have hnext : (if better v a then v else a) ∈ a :: v :: l := by split_ifs <;> simp
    have hsub : ∀ w ∈ (if better v a then v else a) :: l, w ∈ a :: v :: l := by
      intro w hw
      rcases List.mem_cons.mp hw with rfl | hw
      · exact hnext
      · simp [hw]
    refine ih ?_ fun g hg w hw => hbetter g (hsub g hg) w (hsub w hw)
    obtain ⟨g, hg, hP⟩ := hex
    by_cases hPa : P a
    · refine ⟨_, List.mem_cons_self, ?_⟩
      split_ifs with hva
      · by_contra hPv
        exact absurd (hbetter a ha v hv hPa hPv) (by simp [hasymm v a hva])
      · exact hPa
    · by_cases hPv : P v
      · exact ⟨_, List.mem_cons_self, by rwa [if_pos (hbetter v hv a ha hPv hPa)]⟩
      · have hgl : g ∈ l := by
          rcases List.mem_cons.mp hg with rfl | hg
          · exact absurd hP hPa
          · rcases List.mem_cons.mp hg with rfl | hg
            · exact absurd hP hPv
            · exact hg
        exact ⟨g, List.mem_cons_of_mem _ hgl, hP⟩

lemma foldl_minimal {S : A → Prop} {a : A} {l : List A} (hS : ∀ w ∈ a :: l, S w)
    (htrans : ∀ x y z, S x → S y → S z → better y x = false → better z y = false → better z x = false) :
    (let r := l.foldl (fun s v => if better v s then v else s) a
    S r ∧ ∀ w ∈ a :: l, better w r = false) := by
  induction l generalizing a with
  | nil =>
    refine ⟨hS a List.mem_cons_self, fun w hw => ?_⟩
    rw [List.mem_singleton.mp hw]
    by_contra haa
    exact haa (hasymm a a (by simpa using haa))
  | cons v l ih =>
    have ha := hS a (by simp)
    have hv := hS v (by simp)
    obtain ⟨hr, hmin⟩ := ih (a := if better v a then v else a) fun w hw => by
      rcases List.mem_cons.mp hw with rfl | hw
      · split_ifs
        · exact hv
        · exact ha
      · exact hS w (by simp [hw])
    have hnext := hmin _ List.mem_cons_self
    rw [List.foldl_cons]
    refine ⟨hr, fun w hw => ?_⟩
    rcases List.mem_cons.mp hw with rfl | hw
    · by_cases hva : better v w = true
      · simp only [hva, if_true] at hr hnext ⊢
        exact htrans _ v w hr hv ha hnext (hasymm v w hva)
      · simp only [hva] at hnext ⊢
        exact hnext
    · rcases List.mem_cons.mp hw with rfl | hw
      · by_cases hva : better w a = true
        · simp only [hva, if_true] at hnext ⊢
          exact hnext
        · simp only [hva] at hr hnext ⊢
          exact htrans _ a w hr ha hv hnext (by simpa using hva)
      · exact hmin w (List.mem_cons_of_mem _ hw)

end

/-! ### The operator and the order -/

section

variable {kind : Extreme} {objects : Objects U X} {a b c : Element U X} {o : Ordering}

lemma lessThan_asymm {x y : Comparable} (h : x.lessThan y = true) : y.lessThan x = false := by
  have hnumber {m n : Number} (h : Number.lt m n = true) : Number.lt n m = false := by
    by_cases hm : m = .nan
    · simp [hm]
    by_cases hn : n = .nan
    · simp [hn]
    rw [← Bool.not_eq_true, Number.lt_iff_extended hn hm]
    exact ((Number.lt_iff_extended hm hn).mp h).not_gt
  unfold Comparable.lessThan at h ⊢
  split at h
  · simp only [decide_eq_true_eq, decide_eq_false_iff_not] at h ⊢
    exact h.not_gt
  · next hnot =>
    split
    · exact absurd rfl (hnot _ _ rfl)
    · exact hnumber h

variable (kind objects) in
lemma puts_asymm (v w : Variant U X) (h : kind.puts objects v w = true) :
    kind.puts objects w v = false := by
  cases kind
  · exact lessThan_asymm h
  · exact lessThan_asymm h

lemma HasOrder.congr_left (h : HasOrder a b .eq) (hc : HasOrder a c o) : HasOrder b c o := by
  cases h with
  | magnitude htype hx hy h =>
    cases h with
    | eq h =>
      subst h
      cases hc with
      | magnitude htype' hx' hy' h' =>
        obtain rfl := Option.some.inj (hx.symm.trans hx')
        exact .magnitude (htype.symm.trans htype') hy hy' h'
      | text => cases hx
  | text h =>
    cases h with
    | eq h =>
      cases hc with
      | magnitude _ hx' => cases hx'
      | text h' => exact .text (h ▸ h')

lemma HasOrder.ne_self (h : HasOrder a b kind.ordering) : a ≠ b := by
  rintro rfl
  have heq : kind.ordering = .eq := by
    cases h with
    | magnitude _ hx hy h => exact h.iff.2.1.mp (Option.some.inj (hx.symm.trans hy))
    | text h => exact h.iff.2.1.mp rfl
  cases kind <;> cases heq

lemma isExtreme_congr {l : List (Variant U X)} (h : kind.IsExtreme l (.scalar a))
    (heq : HasOrder a b .eq) : kind.IsExtreme l (.scalar b) := by
  obtain ⟨_, hscalar, hall⟩ := h
  cases hscalar
  refine ⟨b, rfl, fun w hw => ?_⟩
  obtain ⟨c, rfl, hc⟩ := hall w hw
  exact ⟨c, rfl, hc.imp heq.congr_left heq.congr_left⟩

lemma relationalOperand_number {x : WithBot (WithTop ℚ)} (hx : magnitude a = some x)
    (htype : a.dataType ∉ [DataType.int64, .uint64]) :
    ∃ n, n ≠ .nan ∧ Number.extended n = x ∧ relationalOperand objects (.scalar a) = .number n := by
  by_cases hdate : a.dataType = .dateTime
  · obtain ⟨date, rfl, rfl⟩ := exists_date hx hdate
    obtain ⟨hv, hnan⟩ := extended_ofInt (abs_getTime_le date)
    exact ⟨_, hnan, hv, rfl⟩
  by_cases hfloat : a.dataType = .float
  · cases a with
    | float v =>
      rw [magnitude, ite_eq_iff] at hx
      obtain ⟨-, hx⟩ | ⟨hnan, hx⟩ := hx
      · cases hx
      · exact ⟨v, hnan, Option.some.inj hx, rfl⟩
    | _ => cases hfloat
  obtain ⟨n, hn, hext, hprimitive, -⟩ := @converted_number U X objects a x hx
    (by simpa [hdate, hfloat] using htype)
  refine ⟨n, hn, hext, ?_⟩
  have hother : relationalOperand objects (.scalar a) = .ofValue objects (.scalar a) := by
    cases a with
    | dateTime => cases hdate rfl
    | int64 | uint64 => simp [Element.dataType] at htype
    | _ => rfl
  rw [hother, Comparable.ofValue, Variant.primitive, hprimitive]

lemma puts_of_order (h : HasOrder a b kind.ordering) (htype : a.dataType ∉ [DataType.int64, .uint64]) :
    kind.puts objects (.scalar a) (.scalar b) = true := by
  obtain ⟨x, y, equal, hx, hy, hexact⟩ : ∃ x y equal, relationalOperand objects (.scalar a) = x ∧
      relationalOperand objects (.scalar b) = y ∧ Exactly x y equal kind.ordering := by
    cases h with
    | text h => exact ⟨_, _, _, rfl, rfl, exactly_text h⟩
    | magnitude hsame hx hy h =>
      obtain ⟨n, hn, rfl, hrel⟩ := relationalOperand_number hx htype
      obtain ⟨m, hm, rfl, hrel'⟩ := relationalOperand_number hy (hsame ▸ htype)
      exact ⟨_, _, _, hrel, hrel', exactly_number hn hm h⟩
  cases kind
  · simpa [Extreme.puts, lessValue, hx, hy] using hexact.lt.mpr rfl
  · simpa [Extreme.puts, lessValue, hx, hy] using hexact.gt.mpr rfl

variable (objects) in
lemma relationalOperand_text (htype : a.dataType ∈ [DataType.int64, .uint64]) :
    ∃ t, relationalOperand objects (.scalar a) = .text t ∧ ∀ b, b.dataType = a.dataType →
      relationalOperand objects (.scalar b) = .text t → b = a := by
  have hinj {m n m' n' : ℕ} (h : Comparable.text (.ofList (decimal m ++ ',' :: decimal n)) =
      .text (.ofList (decimal m' ++ ',' :: decimal n'))) : m = m' ∧ n = n' := by
    have h := String.ofList_injective (Comparable.text.inj h)
    have hsplit (k : ℕ) := takeWhile_digits (decimal_isDigit k) (show ','.isDigit = false from rfl)
    have hfirst := congrArg (List.takeWhile Char.isDigit) h
    have hsecond := congrArg (List.dropWhile Char.isDigit) h
    rw [(hsplit _ _).1, (hsplit _ _).1] at hfirst
    rw [(hsplit _ _).2, (hsplit _ _).2] at hsecond
    refine ⟨?_, ?_⟩
    · rw [← ofDecimal_decimal m, hfirst, ofDecimal_decimal]
    · rw [← ofDecimal_decimal n, (List.cons.inj hsecond).2, ofDecimal_decimal]
  cases a with
  | int64 high low =>
    refine ⟨_, rfl, fun b hb h => ?_⟩
    cases b with
    | int64 high' low' =>
      obtain ⟨hh, hl⟩ := hinj h
      rw [BitVec.eq_of_toNat_eq hh, BitVec.eq_of_toNat_eq hl]
    | _ => cases hb
  | uint64 high low =>
    refine ⟨_, rfl, fun b hb h => ?_⟩
    cases b with
    | uint64 high' low' =>
      obtain ⟨hh, hl⟩ := hinj h
      rw [BitVec.eq_of_toNat_eq hh, BitVec.eq_of_toNat_eq hl]
    | _ => cases hb
  | _ => simp [Element.dataType] at htype

/-- **The selection.** -/
def Extreme.select (kind : Extreme) (objects : Objects U X) (s v : Variant U X) : Variant U X :=
  if kind.puts objects v s then v else s

variable (kind objects) in
lemma select_mem (v : Variant U X) (l : List (Variant U X)) :
    l.foldl (kind.select objects) v ∈ v :: l := by
  induction l generalizing v with
  | nil => simp
  | cons w l ih =>
    rw [List.foldl_cons]
    rcases List.mem_cons.mp (ih (kind.select objects v w)) with h | h
    · rw [h, Extreme.select]
      split_ifs <;> simp
    · simp [h]

/-- **A selection that is an extreme** is put before the values that are not. -/
lemma puts_select {v : Variant U X} {l : List (Variant U X)}
    (hextreme : kind.IsExtreme (v :: l) (l.foldl (kind.select objects) v)) {w : Variant U X}
    (hw : w ∈ v :: l) (hnot : ¬ kind.IsExtreme (v :: l) w) :
    kind.puts objects (l.foldl (kind.select objects) v) w = true := by
  have hmin := @foldl_minimal _ _ (puts_asymm kind objects)
  generalize hr : l.foldl (kind.select objects) v = r at *
  obtain ⟨a, rfl, hall⟩ := hextreme
  obtain ⟨b, rfl, hord | heq⟩ := hall w hw
  swap
  · exact absurd (isExtreme_congr ⟨a, rfl, hall⟩ heq) hnot
  by_cases htype : a.dataType ∈ [DataType.int64, .uint64]
  swap
  · exact puts_of_order hord htype
  obtain ⟨t, ht, hunique⟩ := relationalOperand_text objects htype
  obtain ⟨t', ht', -⟩ := relationalOperand_text objects (hord.dataType ▸ htype)
  -- all the values are texts, so that the selection is the least text
  have htexts : ∀ u ∈ v :: l, ∃ t, relationalOperand objects u = .text t := by
    intro u hu
    obtain ⟨c, rfl, hc⟩ := hall u hu
    have hsame : a.dataType = c.dataType := hc.elim HasOrder.dataType HasOrder.dataType
    obtain ⟨t, ht, -⟩ := relationalOperand_text objects (hsame ▸ htype)
    exact ⟨t, ht⟩
  have hleast : kind.puts objects (.scalar b) (.scalar a) = false := by
    rw [← hr]
    refine (hmin htexts ?_).2 _ hw
    rintro x y z ⟨tx, hx⟩ ⟨ty, hy⟩ ⟨tz, hz⟩
    cases kind
    · simpa [Extreme.puts, lessValue, hx, hy, hz, Comparable.lessThan] using fun h h' => h.trans h'
    · simpa [Extreme.puts, lessValue, hx, hy, hz, Comparable.lessThan] using fun h h' => h'.trans h
  have hne : codeUnits t ≠ codeUnits t' := by
    intro hunits
    exact hord.ne_self (hunique b hord.dataType.symm (by rw [ht', codeUnits_inj hunits])).symm
  cases kind
  · simp only [Extreme.puts, lessValue, ht, ht', Comparable.lessThan, decide_eq_true_eq,
      decide_eq_false_iff_not, not_lt] at hleast ⊢
    exact lt_of_le_of_ne hleast hne
  · simp only [Extreme.puts, lessValue, ht, ht', Comparable.lessThan, decide_eq_true_eq,
      decide_eq_false_iff_not, not_lt] at hleast ⊢
    exact lt_of_le_of_ne hleast hne.symm

end

/-! ### The loop -/

section

variable (kind : Extreme) (objects : Objects U X) (interval : Interval U X)

/-- The predicate of an aggregate. -/
def Extreme.predicate (a b : Variant U X) : Choice :=
  if kind.puts objects b a then .select else if strictEqual objects a b then .equal else .reject

lemma Extreme.calculate_eq : kind.calculate objects interval =
    calculateIntervalMinOrMaxValue interval (kind.predicate objects) := by
  cases kind <;> rfl

/-- The value is neither good nor missing. -/
def isOther (d : BuiltIn.DataValue U X) : Bool :=
  !d.statusCode.isGood && d.statusCode ≠ .BadNoData

/-- **The variables after raw values.** -/
def ExtremeState.after (s : ExtremeState U X) (counter : ℕ) (l : List (BuiltIn.DataValue U X)) :
    ExtremeState U X where
  selectedValue := (l.filter fun d => d.statusCode.isGood).foldl (fun sel d =>
    some (match sel with | none => rawValue d | some v => kind.select objects v (rawValue d)))
    s.selectedValue
  counter := counter
  isPartial := s.isPartial || l.any fun d => d.statusCode = .BadNoData
  isRaw := s.isRaw
  hasBad := s.hasBad || l.any isOther

variable {s : ExtremeState U X}

lemma next_false (hcounter : s.counter ≤ 1) (d : BuiltIn.DataValue U X) : ∃ c ≤ 1,
    s.next interval (kind.predicate objects) false d = .ok (s.after kind objects c [d]) := by
  obtain ⟨selectedValue, counter, isPartial, isRaw, hasBad⟩ := s
  unfold ExtremeState.next
  by_cases hno : d.statusCode = .BadNoData
  · have hgood : StatusCode.BadNoData.isGood = false := rfl
    exact ⟨counter, hcounter, by simp [hno, hgood, ExtremeState.after, isOther]⟩
  cases hgood : d.statusCode.isGood with
  | false => exact ⟨counter, hcounter, by simp [hno, hgood, ExtremeState.after, isOther]⟩
  | true =>
    cases selectedValue with
    | none => exact ⟨1, le_rfl, by simp [hno, hgood, ExtremeState.after, isOther]; rfl⟩
    | some v =>
      simp only [hno, Extreme.predicate]
      cases hputs : kind.puts objects (rawValue d) v with
      | true =>
        exact ⟨1, le_rfl, by simp [hno, hgood, ExtremeState.after, isOther, Extreme.select, hputs]⟩
      | false =>
        cases strictEqual objects v (rawValue d) with
        | true =>
          exact ⟨1, le_rfl, by simp [hno, hgood, ExtremeState.after, isOther, Extreme.select, hputs]⟩
        | false =>
          exact ⟨counter, hcounter,
            by simp [hno, hgood, ExtremeState.after, isOther, Extreme.select, hputs]⟩

lemma after_cons (c c' : ℕ) (d : BuiltIn.DataValue U X) (l : List (BuiltIn.DataValue U X)) :
    (s.after kind objects c [d]).after kind objects c' l = s.after kind objects c' (d :: l) := by
  simp only [ExtremeState.after, List.filter_cons, List.filter_nil, List.any_cons, List.any_nil,
    Bool.or_false, Bool.or_assoc]
  split_ifs <;> rfl

lemma extremeLoop_false (hcounter : s.counter ≤ 1) (l : List (BuiltIn.DataValue U X)) : ∃ c ≤ 1,
    extremeLoop interval (kind.predicate objects) false s l = .ok (s.after kind objects c l) := by
  induction l generalizing s with
  | nil => exact ⟨s.counter, hcounter, by simp [extremeLoop, ExtremeState.after]⟩
  | cons d l ih =>
    obtain ⟨c, hc, hnext⟩ := next_false kind objects interval hcounter d
    obtain ⟨c', hc', hloop⟩ := ih (s := s.after kind objects c [d]) hc
    refine ⟨c', hc', ?_⟩
    rw [extremeLoop, hnext]
    exact hloop.trans (congrArg _ (after_cons kind objects c c' d l))

lemma ne_badNoData {statusCode : StatusCode} (h : statusCode.isGood = true) :
    statusCode ≠ .BadNoData := by
  rintro rfl
  cases h

lemma calculate_untimed {d : BuiltIn.DataValue U X} (hhead : interval.values.head? = some d)
    (hgood : d.statusCode.isGood = true) (htime : d.sourceTimestamp = none) :
    ∃ message, kind.calculate objects interval = .error message := by
  obtain ⟨l, hl⟩ := List.head?_eq_some_iff.mp hhead
  exact ⟨_, by
    rw [Extreme.calculate_eq, calculateIntervalMinOrMaxValue, hl, extremeLoop, ExtremeState.next,
      if_neg (ne_badNoData hgood), if_neg (by simp [hgood])]
    simp only [if_true, getSourceTime, htime]
    rfl⟩

/-- **All rounds.** -/
lemma extremeLoop_true (l : List (BuiltIn.DataValue U X))
    (htimed : ∀ d ∈ l.head?, d.statusCode.isGood = true → d.sourceTimestamp ≠ none) :
    ∃ c ≤ 1, ∃ isRaw, extremeLoop interval (kind.predicate objects) true
        ⟨none, 0, interval.isPartial, false, false⟩ l =
          .ok (ExtremeState.after kind objects ⟨none, 0, interval.isPartial, isRaw, false⟩ c l) ∧
      (isRaw = true ↔ ∃ d ∈ l.head?, d.statusCode.isGood = true ∧
        d.sourceTimestamp.map Date.getTime = some interval.startTime.getTime) := by
  cases l with
  | nil => exact ⟨0, zero_le_one, false, by simp [extremeLoop, ExtremeState.after], by simp⟩
  | cons d l =>
    cases hgood : d.statusCode.isGood with
    | false =>
      obtain ⟨c, hc, hloop⟩ := extremeLoop_false kind objects interval
        (s := ⟨none, 0, interval.isPartial, false, false⟩) zero_le_one (d :: l)
      refine ⟨c, hc, false, ?_, by simp [hgood]⟩
      rw [← hloop, extremeLoop, extremeLoop, ExtremeState.next, ExtremeState.next]
      simp [hgood]
    | true =>
      obtain ⟨date, hdate⟩ := Option.ne_none_iff_exists'.mp (htimed d rfl hgood)
      have hno := ne_badNoData hgood
      let isRaw := if date.getTime = interval.startTime.getTime then true else false
      obtain ⟨c, hc, hloop⟩ := extremeLoop_false kind objects interval
        (s := ExtremeState.after kind objects ⟨none, 0, interval.isPartial, isRaw, false⟩ 1 [d]) le_rfl l
      refine ⟨c, hc, isRaw, ?_, by simp [hgood, hdate, isRaw]⟩
      rw [← after_cons kind objects 1, ← hloop, extremeLoop, ExtremeState.next, if_neg hno,
        if_neg (by simp [hgood])]
      have hstep : (ExtremeState.after kind objects ⟨none, 0, interval.isPartial, isRaw, false⟩ 1 [d]) =
          ⟨some (rawValue d), 1, interval.isPartial, isRaw, false⟩ := by
        simp [ExtremeState.after, hgood, hno, isOther]
      rw [hstep]
      simp only [if_true, getSourceTime, hdate]
      rfl

/-- **The bits of the status.** -/
lemma extremeStatus_bits (hcounter : s.counter ≤ 1) :
    ((extremeStatus interval s).value &&& StatusCode.HistorianCalculated = 0 ↔ s.isRaw = true) ∧
    (extremeStatus interval s).value &&& HistorianMultiValue = 0 ∧
    ((extremeStatus interval s).value &&& StatusCode.HistorianPartial ≠ 0 ↔
      (s.isPartial || interval.isPartial) = true) ∧
    (isUncertain (extremeStatus interval s) = true ↔ s.hasBad = true) := by
  have hmulti : ¬ 1 < s.counter := Nat.not_lt.mpr hcounter
  simp only [extremeStatus, hmulti, if_false]
  cases s.isRaw <;> cases s.hasBad <;> cases s.isPartial || interval.isPartial <;> decide

lemma foldl_after (ds : List (BuiltIn.DataValue U X)) (v : Variant U X) :
    ds.foldl (fun sel d => some (match sel with
      | none => rawValue d
      | some v => kind.select objects v (rawValue d))) (some v) =
      some ((ds.map rawValue).foldl (kind.select objects) v) := by
  induction ds generalizing v with
  | nil => rfl
  | cons d ds ih => exact ih _

end

end NodeOpcua
