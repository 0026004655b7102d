import NodeOpcua.AlarmsAndConditions.LimitAlarm
import NodeOpcua.Library.Mealy

set_option autoImplicit false

/-!
# The consistency of limit alarms

The limit states of an enabled alarm are to be those of the value of its input node, and the alarm
is to be active when a limit state is.

## Main definitions

* `LimitAlarm.Consistent`.
* `LimitAlarm.StepCondition`.

## Main results

* `LimitAlarm.keepsConsistent_iff`, `LimitAlarm.run_consistent_iff`.
-/

namespace NodeOpcua

open UANonExclusiveLimitAlarmImplBase (iState statesOf)
open AlarmCall (thrown andThen)
open Bool (not_eq_true)
open Function (update)
open List (append_assoc)
open String (toList_append ofList)

open LimitAlarm

/-! ### Messages -/

namespace Limit

lemma mem_all (l : Limit) : l ∈ all := by cases l <;> decide

lemma forall_iff {P : Limit → Prop} : (∀ l, P l) ↔ P highHigh ∧ P high ∧ P low ∧ P lowLow := by
  refine ⟨fun h => ⟨h _, h _, h _, h _⟩, ?_⟩
  rintro ⟨hhh, hh, hl, hll⟩ l
  cases l <;> assumption

lemma any_ne_iff {f g : Limit → Bool} : (all.any fun l => f l ≠ g l) = true ↔ f ≠ g := by
  rw [List.any_eq_true, Function.ne_iff]
  constructor
  · rintro ⟨l, -, h⟩
    exact ⟨l, by simpa using h⟩
  · rintro ⟨l, h⟩
    exact ⟨l, mem_all l, by simpa using h⟩

end Limit

lemma append_cons_inj_of_notMem {α : Type} {c : α} {x y u v : List α} (hu : c ∉ u) (hv : c ∉ v)
    (h : x ++ c :: u = y ++ c :: v) : u = v := by
  induction x generalizing y with
  | nil =>
    cases y with
    | nil => exact (List.cons.inj h).2
    | cons b y =>
      have htail : u = y ++ c :: v := (List.cons.inj h).2
      exact absurd (htail ▸ List.mem_append_right _ List.mem_cons_self) hu
  | cons a x ih =>
    cases y with
    | nil =>
      have htail : x ++ c :: u = v := (List.cons.inj h).2
      exact absurd (htail ▸ List.mem_append_right _ List.mem_cons_self) hv
    | cons b y => exact ih (List.cons.inj h).2

/-- **The message of an active condition** has its states, when these are printed without a blank.
-/
lemma stateData_of_message {value value' stateData stateData' : String}
    (hblank : ' ' ∉ stateData.toList) (hblank' : ' ' ∉ stateData'.toList)
    (h : (activeCondition value stateData).message = (activeCondition value' stateData').message) :
    stateData = stateData' := by
  have hlast : " and state is ".toList = " and state is".toList ++ [' '] := rfl
  have hlist := congrArg String.toList h
  simp only [activeCondition, toList_append, hlast, append_assoc,
    List.singleton_append] at hlist
  rw [← append_assoc, ← append_assoc, ← append_assoc, ← append_assoc] at hlist
  exact String.toList_inj.mp (append_cons_inj_of_notMem hblank hblank' hlist)

namespace UANonExclusiveLimitAlarmImplBase

lemma stateText_append_inj {a b : Option Bool} {x y : List Char}
    (h : (stateText a).toList ++ x = (stateText b).toList ++ y) : a = b ∧ x = y := by
  have hunset : (stateText none).toList = ['"', 'u', 'n', 's', 'e', 't', '"'] := rfl
  have htrue : (stateText (some true)).toList = ['t', 'r', 'u', 'e'] := rfl
  have hfalse : (stateText (some false)).toList = ['f', 'a', 'l', 's', 'e'] := rfl
  rcases a with _ | _ | _ <;> rcases b with _ | _ | _
  all_goals simp only [hunset, htrue, hfalse] at h
  all_goals simp_all

variable {f g : Limit → Option Bool}

lemma surrounded_inj (p₀ p₁ p₂ p₃ p₄ : List Char)
    (h : p₀ ++ (stateText (f .highHigh)).toList ++ p₁ ++ (stateText (f .high)).toList ++ p₂ ++
        (stateText (f .low)).toList ++ p₃ ++ (stateText (f .lowLow)).toList ++ p₄ =
      p₀ ++ (stateText (g .highHigh)).toList ++ p₁ ++ (stateText (g .high)).toList ++ p₂ ++
        (stateText (g .low)).toList ++ p₃ ++ (stateText (g .lowLow)).toList ++ p₄) : f = g := by
  simp only [append_assoc, List.append_cancel_left_eq] at h
  obtain ⟨hhh, h⟩ := stateText_append_inj h
  obtain ⟨hh, h⟩ := stateText_append_inj (List.append_cancel_left h)
  obtain ⟨hl, h⟩ := stateText_append_inj (List.append_cancel_left h)
  obtain ⟨hll, -⟩ := stateText_append_inj (List.append_cancel_left h)
  funext l
  cases l <;> assumption

/-- **The printed states** are those of the limits. -/
lemma stringify_inj (h : stringify f = stringify g) : f = g := by
  have hlist := congrArg String.toList h
  unfold stringify at hlist
  simp only [toList_append] at hlist
  exact surrounded_inj _ _ _ _ _ hlist

lemma notMem_surrounded {c : Char} {p₀ p₁ p₂ p₃ p₄ a₁ a₂ a₃ a₄ : List Char}
    (hp : c ∉ p₀ ∧ c ∉ p₁ ∧ c ∉ p₂ ∧ c ∉ p₃ ∧ c ∉ p₄)
    (ha : c ∉ a₁ ∧ c ∉ a₂ ∧ c ∉ a₃ ∧ c ∉ a₄) :
    c ∉ p₀ ++ a₁ ++ p₁ ++ a₂ ++ p₂ ++ a₃ ++ p₃ ++ a₄ ++ p₄ := by
  simp only [List.mem_append, not_or]
  tauto

lemma blank_notMem_stringify (f : Limit → Option Bool) : ' ' ∉ (stringify f).toList := by
  have htext : ∀ a, ' ' ∉ (stateText a).toList := by
    rintro (_ | _ | _) <;> decide +kernel
  unfold stringify
  simp only [toList_append]
  refine notMem_surrounded ?_ ⟨htext _, htext _, htext _, htext _⟩
  decide +kernel

end UANonExclusiveLimitAlarmImplBase

namespace Limit

lemma blank_notMem_stateName (l : Limit) : ' ' ∉ l.stateName.toList := by cases l <;> decide

lemma stateName_inj {l l' : Limit} (h : l.stateName = l'.stateName) : l = l' := by
  cases l <;> cases l' <;> first | rfl | exact absurd h (by decide)

end Limit

/-! ### What an alarm is to be -/

namespace LimitStates

/-- A limit state is active. -/
def IsActive (limits : Limit → Option LimitProperty) : LimitStates → Limit → Prop
  | exclusive state, l => state = some l
  | nonExclusive states, l => iState limits states l = some true

instance (limits : Limit → Option LimitProperty) (states : LimitStates) (l : Limit) :
    Decidable (states.IsActive limits l) :=
  match states with
  | exclusive state => inferInstanceAs (Decidable (state = some l))
  | nonExclusive states => inferInstanceAs
      (Decidable (iState limits states l = some true))

/-- The value of the input exceeds a limit that the alarm has. -/
def Exceeds (limits : Limit → Option LimitProperty) (value : Option Number) (l : Limit) : Prop :=
  ∃ limit v, limits l = some limit ∧ value = some v ∧ l.exceeds limit.value v = true

/-- How severe it is that a limit is exceeded. -/
def rank : Limit → ℕ
  | .highHigh => 2
  | .high => 1
  | .low => 1
  | .lowLow => 2

section

variable (limits : Limit → Option LimitProperty)

/-- **The limit states are those of the value**: the state of an exclusive alarm is the most severe
limit that is exceeded, and each state of a non-exclusive one says if its limit is. -/
def Match (value : Option Number) : LimitStates → Prop
  | exclusive none => ∀ l, ¬ Exceeds limits value l
  | exclusive (some l) => Exceeds limits value l ∧ ∀ l', Exceeds limits value l' → rank l' ≤ rank l
  | nonExclusive states => ∀ l,
      iState limits states l = some true ↔ Exceeds limits value l

/-- The limits of an exclusive alarm are apart for a value: it is not too low for the one and too
high for the other one, unless it is too high for both. -/
def Apart (value : Number) : LimitStates → Prop
  | exclusive _ => Exceeds limits (some value) .lowLow → Exceeds limits (some value) .high →
      Exceeds limits (some value) .highHigh
  | nonExclusive _ => True

/-- The limit states that the source computes for a value. -/
def ofValue (value : Number) : LimitStates → LimitStates
  | exclusive _ => exclusive (UAExclusiveLimitAlarmImplBase.stateOf limits value)
  | nonExclusive states =>
    nonExclusive (statesOf limits states value)

/-- **The limit states stay as they are for a value**: in an exclusive alarm no limit before the
current one is exceeded, in the order in which the limits are looked at. -/
def Stays (value : Number) : LimitStates → Prop
  | exclusive none => ∀ l, ¬ Exceeds limits (some value) l
  | exclusive (some .highHigh) => Exceeds limits (some value) .highHigh
  | exclusive (some .high) =>
    Exceeds limits (some value) .high ∧ ¬ Exceeds limits (some value) .highHigh
  | exclusive (some .lowLow) =>
    Exceeds limits (some value) .lowLow ∧ ¬ Exceeds limits (some value) .high ∧
      ¬ Exceeds limits (some value) .highHigh
  | exclusive (some .low) =>
    Exceeds limits (some value) .low ∧ ¬ Exceeds limits (some value) .lowLow ∧
      ¬ Exceeds limits (some value) .high ∧ ¬ Exceeds limits (some value) .highHigh
  | nonExclusive states => ∀ l, iState limits states l = some true ↔
      Exceeds limits (some value) l

end

/-- The limit states when the input has no number. -/
def leave : LimitStates → LimitStates
  | exclusive _ => exclusive none
  | nonExclusive states => nonExclusive states

/-- The states as they are printed in the message of an active condition. -/
def stateData (limits : Limit → Option LimitProperty) : LimitStates → String
  | exclusive state => (state.map Limit.stateName).getD ""
  | nonExclusive states =>
    UANonExclusiveLimitAlarmImplBase.stringify
      (iState limits states)

end LimitStates

namespace InputDataValue

/-- The number that the limit states are computed from. -/
def number (dataValue : InputDataValue) : Option Number :=
  if dataValue.statusCode.isNotGood && dataValue.statusCode ≠ .UncertainInitialValue then none
  else dataValue.value

end InputDataValue

namespace LimitAlarm

open LimitStates

/-- **An alarm is consistent**: when it is enabled, its limit states are those of a good input, and
it is active when one of them is. -/
structure Consistent (alarm : LimitAlarm) : Prop where
  states : alarm.enabledState = true → alarm.inputNode.statusCode.isGood = true →
    alarm.limitStates.Match alarm.limits alarm.inputNode.value
  active : alarm.enabledState = true →
    (alarm.branch0.activeState = true ↔ ∃ l, alarm.limitStates.IsActive alarm.limits l)

variable (alarm : LimitAlarm)

/-- **An operation keeps an alarm consistent**, and throws nothing. -/
def KeepsConsistent (operation : Operation) : Prop :=
  (alarm.perform operation).thrown = none ∧ Consistent (alarm.perform operation).alarm

/-- **The input can be evaluated** by an enabled alarm: the value is still awaited, or there is none
and no state is left active, or it is a finite number, and the limits are apart for a good one. -/
def Evaluable : Prop :=
  alarm.inputNode.statusCode = .BadWaitingForInitialData ∨
    match alarm.inputNode.number with
    | none => ∀ l, ¬ alarm.limitStates.leave.IsActive alarm.limits l
    | some value => value.isFinite = true ∧ (alarm.inputNode.statusCode.isGood = true →
        alarm.limitStates.Apart alarm.limits value)

/-- The condition for a change of the input: an enabled alarm is monitored and gets a number, or it
is not monitored and has the states of the new value. -/
def InputCondition (dataValue : InputDataValue) : Prop :=
  alarm.inputNode.same dataValue = false → alarm.enabledState = true →
    if alarm.listeners = 0 then
      dataValue.statusCode.isGood = true → alarm.limitStates.Match alarm.limits dataValue.value
    else ({ alarm with inputNode := dataValue } : LimitAlarm).Evaluable ∧
      (dataValue.statusCode ≠ .BadWaitingForInitialData → dataValue.number ≠ none)

/-- The condition for a change of a limit: the alarm has the limit, and, when it is not disabled, the
input can be evaluated and is no news when there is no number. A disabled alarm is to have the states
of its input already. -/
def LimitCondition (l : Limit) (value : Number) (sourceTimestamp : ℕ) : Prop :=
  ∃ limit, alarm.limits l = some limit ∧
    (¬ (limit.sourceTimestamp = sourceTimestamp ∧ limit.value.strictEq value = true) →
      let updated : LimitAlarm :=
        { alarm with limits := update alarm.limits l (some { value, sourceTimestamp }) }
      if alarm.enabledState = true then
        updated.Evaluable ∧
          (alarm.inputNode.statusCode ≠ .BadWaitingForInitialData → alarm.inputNode.number = none →
            alarm.branch0.conditionInfo ≠ backToNormal)
      else alarm.inputNode.statusCode = .BadWaitingForInitialData ∨
        ∃ v, alarm.inputNode.number = some v ∧ v.isFinite = true ∧
          alarm.limitStates.Stays updated.limits v)

/-- **When an operation keeps an alarm consistent.** -/
def StepCondition : Operation → Prop
  | .setInputValue dataValue => alarm.InputCondition dataValue
  | .setLimit l value sourceTimestamp => alarm.LimitCondition l value sourceTimestamp
  | .setEnabledState requestedEnabledState =>
    requestedEnabledState = true → alarm.enabledState = false → alarm.Evaluable

end LimitAlarm

/-! ### Limit states and their values -/

namespace LimitStates

open UAExclusiveLimitAlarmImplBase UANonExclusiveLimitAlarmImplBase

lemma blank_notMem_stateData (limits : Limit → Option LimitProperty) (states : LimitStates) :
    ' ' ∉ (states.stateData limits).toList := by
  rcases states with (_ | l) | states
  · exact List.not_mem_nil
  · exact l.blank_notMem_stateName
  · exact blank_notMem_stringify _

variable {limits : Limit → Option LimitProperty} {value : Number}

lemma exceeds_some_iff {l : Limit} :
    Exceeds limits (some value) l ↔
      ((limits l).any fun limit => l.exceeds limit.value value) = true := by
  unfold Exceeds
  cases limits l <;> simp

section

variable (limits : Limit → Option LimitProperty) (value : Number) (states : LimitStates)

/-- **The states that are computed for a number** are those of the number, when the limits are
apart. -/
lemma match_ofValue_iff :
    (states.ofValue limits value).Match limits (some value) ↔ states.Apart limits value := by
  cases states with
  | exclusive state =>
    simp only [ofValue, Apart, stateOf]
    -- the state is the most severe one, unless it is `High` and the value is too low for `LowLow`
    generalize he : (fun l : Limit => (limits l).any fun limit => l.exceeds limit.value value) = e
    have hexceeds : ∀ l, Exceeds limits (some value) l ↔ e l = true := by
      intro l
      rw [exceeds_some_iff, ← he]
    cases hhh : e .highHigh <;> cases hh : e .high <;> cases hll : e .lowLow <;>
      cases hl : e .low <;>
      simp [List.find?, Match, rank, Limit.forall_iff, hexceeds, hhh, hh, hll, hl]
  | nonExclusive states =>
    refine iff_of_true (fun l => ?_) trivial
    rw [exceeds_some_iff, iState, statesOf]
    cases limits l <;> simp

/-- **The states that are computed for a number** are the current ones when these stay. -/
lemma ofValue_eq_iff : states.ofValue limits value = states ↔ states.Stays limits value := by
  cases states with
  | exclusive state =>
    simp only [ofValue, stateOf]
    generalize he : (fun l : Limit => (limits l).any fun limit => l.exceeds limit.value value) = e
    have hexceeds : ∀ l, Exceeds limits (some value) l ↔ e l = true := by
      intro l
      rw [exceeds_some_iff, ← he]
    rcases state with _ | _ | _ | _ | _ <;>
      cases hhh : e .highHigh <;> cases hh : e .high <;> cases hll : e .lowLow <;>
      cases hl : e .low <;>
      simp [List.find?, Stays, Limit.forall_iff, hexceeds, hhh, hh, hll, hl]
  | nonExclusive states =>
    simp only [ofValue, LimitStates.nonExclusive.injEq, Stays, funext_iff]
    refine forall_congr' fun l => ?_
    rw [exceeds_some_iff, iState, statesOf]
    cases limits l with
    | none => simp
    | some limit => simpa using (Bool.eq_iff_iff.trans Iff.comm)

end

variable {states : LimitStates}

lemma match_leave (h : ∀ l, ¬ states.leave.IsActive limits l) : states.leave.Match limits none := by
  have hno : ∀ l, ¬ Exceeds limits none l := by
    rintro l ⟨limit, v, -, hv, -⟩
    cases hv
  cases states with
  | exclusive state => exact hno
  | nonExclusive states => exact fun l => iff_of_false (h l) (hno l)

lemma exists_isActive_of_ne (hne : states.ofValue limits value ≠ states)
    (hno : ¬ ∃ l, (states.ofValue limits value).IsActive limits l) :
    ∃ l, states.IsActive limits l := by
  cases states with
  | exclusive state =>
    rcases state with _ | l
    · rcases hstate : stateOf limits value with _ | l
      · exact absurd (by rw [ofValue, hstate]) hne
      · exact absurd ⟨l, by rw [ofValue, hstate]; rfl⟩ hno
    · exact ⟨l, rfl⟩
  | nonExclusive states =>
    have hdiffer : statesOf limits states value ≠ states := fun h => hne (by rw [ofValue, h])
    obtain ⟨l, hl⟩ := Function.ne_iff.mp hdiffer
    refine ⟨l, ?_⟩
    have hl' : ¬ (ofValue limits value (nonExclusive states)).IsActive limits l :=
      fun h => hno ⟨l, h⟩
    rcases hlimit : limits l with _ | limit
    · simp [statesOf, hlimit] at hl
    · simp only [ofValue, IsActive, iState, hlimit, Option.map_some, Option.some.injEq,
        not_eq_true] at hl' ⊢
      rw [hl'] at hl
      simpa using hl.symm

/-- **States that differ are printed differently**, when they are active. -/
lemma stateData_ne
    (hne : states.ofValue limits value ≠ states) (hold : ∃ l, states.IsActive limits l)
    (hnew : ∃ l, (states.ofValue limits value).IsActive limits l) :
    (states.ofValue limits value).stateData limits ≠ states.stateData limits := by
  intro heq
  apply hne
  cases states with
  | exclusive state =>
    obtain ⟨l, rfl⟩ := hold
    obtain ⟨l', hl'⟩ := hnew
    have hstate : stateOf limits value = some l' := hl'
    simp only [ofValue, stateData, hstate, Option.map_some, Option.getD_some] at heq ⊢
    rw [Limit.stateName_inj heq]
  | nonExclusive states =>
    have hiState : iState limits (statesOf limits states value) = iState limits states :=
      stringify_inj heq
    rw [ofValue]
    congr 1
    funext l
    have hl := congrFun hiState l
    rcases hlimit : limits l with _ | limit
    · simp [statesOf, hlimit]
    · simpa [iState, hlimit] using hl

end LimitStates

/-! ### What a signal does -/

/-- **The current branch is that of the limit states**: it is active when one of them is, and then
its message has the states. -/
structure ConditionSnapshot.Matches (snapshot : ConditionSnapshot)
    (limits : Limit → Option LimitProperty) (states : LimitStates) : Prop where
  active : snapshot.activeState = true ↔ ∃ l, states.IsActive limits l
  severity : snapshot.conditionInfo.severity = if snapshot.activeState then 150 else 0
  message : snapshot.activeState = true → ∃ value,
    snapshot.conditionInfo.message = (activeCondition value (states.stateData limits)).message

namespace UAAlarmConditionImplBase

lemma _signalNewCondition_disabled (alarm : LimitAlarm) (h : alarm.enabledState = false)
    (newConditionInfo : ConditionInfo) (isActive : Bool) :
    (_signalNewCondition alarm newConditionInfo isActive).thrown ≠ none := by
  simp [_signalNewCondition, h]

lemma _signalNewCondition_same (alarm : LimitAlarm) (isActive : Bool) :
    (_signalNewCondition alarm alarm.branch0.conditionInfo isActive).thrown ≠ none := by
  cases h : alarm.enabledState <;> simp [_signalNewCondition, h]

/-- **A new condition** is that of the current branch afterwards. -/
lemma _signalNewCondition_eq (alarm : LimitAlarm) (hen : alarm.enabledState = true)
    {newConditionInfo : ConditionInfo} (hne : alarm.branch0.conditionInfo ≠ newConditionInfo)
    (isActive : Bool) :
    ∃ branches, _signalNewCondition alarm newConditionInfo isActive =
      ⟨{ alarm with
          branch0 :=
            { conditionInfo := newConditionInfo, activeState := isActive, ackedState := !isActive }
          branches }, none⟩ := by
  unfold _signalNewCondition
  rw [hen, if_neg (by decide), if_neg hne]
  cases isActive with
  | true => exact ⟨alarm.branches, by simp [raiseNewCondition, setActive, hen]⟩
  | false =>
    simp only [Bool.false_eq_true, if_false, raiseNewCondition, setActive, Bool.not_false]
    split_ifs <;> simp_all [createBranch]

end UAAlarmConditionImplBase

namespace LimitAlarm

open LimitStates

variable {value : Number}

lemma _setStateBasedOnInputValue_eq (alarm : LimitAlarm) (hfin : value.isFinite = true) :
    (alarm.limitStates.ofValue alarm.limits value = alarm.limitStates →
      alarm._setStateBasedOnInputValue value = ⟨alarm, none⟩) ∧
    (alarm.limitStates.ofValue alarm.limits value ≠ alarm.limitStates → ∃ isActive text,
      (isActive = true ↔
        ∃ l, (alarm.limitStates.ofValue alarm.limits value).IsActive alarm.limits l) ∧
      alarm._setStateBasedOnInputValue value = UAAlarmConditionImplBase._signalNewCondition
        { alarm with limitStates := alarm.limitStates.ofValue alarm.limits value }
        (if isActive then activeCondition text
          ((alarm.limitStates.ofValue alarm.limits value).stateData alarm.limits)
        else backToNormal) isActive) := by
  unfold _setStateBasedOnInputValue
  cases hstates : alarm.limitStates with
  | exclusive state =>
    simp only [ofValue, UAExclusiveLimitAlarmImplBase._setStateBasedOnInputValue, hfin,
      Bool.not_true, Bool.false_eq_true, if_false]
    constructor
    · intro h
      rw [if_neg (not_not.mpr (LimitStates.exclusive.inj h))]
    · intro h
      rw [if_pos fun heq => h (by rw [heq])]
      refine ⟨(UAExclusiveLimitAlarmImplBase.stateOf alarm.limits value).isSome,
        ofList (value.toFixed 3), ?_, ?_⟩
      · cases UAExclusiveLimitAlarmImplBase.stateOf alarm.limits value <;> simp [IsActive]
      · unfold UAExclusiveLimitAlarmImplBase._signalNewCondition
        cases UAExclusiveLimitAlarmImplBase.stateOf alarm.limits value <;> rfl
  | nonExclusive states =>
    simp only [ofValue, UANonExclusiveLimitAlarmImplBase._setStateBasedOnInputValue, hfin,
      Bool.not_true, Bool.false_eq_true, if_false]
    constructor
    · intro h
      have heq := LimitStates.nonExclusive.inj h
      rw [if_neg fun hany => Limit.any_ne_iff.mp hany heq]
    · intro h
      rw [if_pos (Limit.any_ne_iff.mpr fun heq => h (by rw [heq]))]
      refine ⟨Limit.all.any fun l => iState alarm.limits
          (statesOf alarm.limits states value) l = some true,
        ofList (value.toFixed 3), ?_, ?_⟩
      · simp [Limit.mem_all, IsActive]
      · unfold UANonExclusiveLimitAlarmImplBase._signalNewCondition2
          UANonExclusiveLimitAlarmImplBase._calculateConditionInfo
        cases Limit.all.any fun l => iState alarm.limits
          (statesOf alarm.limits states value) l = some true
        · rfl
        · rfl

variable {limits : Limit → Option LimitProperty} {snapshot : ConditionSnapshot}

lemma conditionInfo_ne {states : LimitStates} (hmatch : snapshot.Matches limits states)
    (hne : states.ofValue limits value ≠ states) {isActive : Bool}
    (hact : isActive = true ↔ ∃ l, (states.ofValue limits value).IsActive limits l)
    (text : String) :
    snapshot.conditionInfo ≠ if isActive then
      activeCondition text ((states.ofValue limits value).stateData limits) else backToNormal := by
  intro heq
  have hseverity := hmatch.severity
  rw [heq] at hseverity
  cases isActive with
  | true =>
    cases hold : snapshot.activeState with
    | false => simp [hold, activeCondition] at hseverity
    | true =>
      obtain ⟨value', hmsg⟩ := hmatch.message hold
      rw [heq, if_pos rfl] at hmsg
      exact stateData_ne hne (hmatch.active.mp hold) (hact.mp rfl)
        (stateData_of_message (blank_notMem_stateData _ _) (blank_notMem_stateData _ _) hmsg)
  | false =>
    have hold := hmatch.active.mpr
      (exists_isActive_of_ne hne fun h => absurd (hact.mpr h) (by decide))
    simp [hold, backToNormal] at hseverity

variable {alarm : LimitAlarm}

/-- **A number is evaluated**: an enabled alarm gets the limit states of the number. -/
lemma setState_enabled (hen : alarm.enabledState = true)
    (hmatch : alarm.branch0.Matches alarm.limits alarm.limitStates)
    (hfin : value.isFinite = true) :
    ∃ branch0 branches,
      branch0.Matches alarm.limits (alarm.limitStates.ofValue alarm.limits value) ∧
      alarm._setStateBasedOnInputValue value =
        ⟨{ alarm with
            limitStates := alarm.limitStates.ofValue alarm.limits value, branch0, branches },
          none⟩ := by
  obtain ⟨hsame, hnew⟩ := alarm._setStateBasedOnInputValue_eq hfin
  by_cases heq : alarm.limitStates.ofValue alarm.limits value = alarm.limitStates
  · refine ⟨alarm.branch0, alarm.branches, ?_, ?_⟩
    · rwa [heq]
    · rw [hsame heq, heq]
  · obtain ⟨isActive, text, hact, hcall⟩ := hnew heq
    obtain ⟨branches, hsignal⟩ := UAAlarmConditionImplBase._signalNewCondition_eq
      { alarm with limitStates := alarm.limitStates.ofValue alarm.limits value }
      hen (conditionInfo_ne hmatch heq hact text) isActive
    refine ⟨_, branches, ⟨hact, ?_, ?_⟩, hcall.trans hsignal⟩
    · cases isActive <;> rfl
    · intro h
      obtain rfl : isActive = true := h
      exact ⟨text, rfl⟩

lemma setState_disabled (hdis : alarm.enabledState = false) (hfin : value.isFinite = true)
    (hne : alarm.limitStates.ofValue alarm.limits value ≠ alarm.limitStates) :
    (alarm._setStateBasedOnInputValue value).thrown ≠ none := by
  obtain ⟨isActive, text, -, hcall⟩ := (alarm._setStateBasedOnInputValue_eq hfin).2 hne
  rw [hcall]
  exact UAAlarmConditionImplBase._signalNewCondition_disabled
    { alarm with limitStates := alarm.limitStates.ofValue alarm.limits value } hdis _ _

lemma setState_not_finite
    (hfin : value.isFinite = false) : (alarm._setStateBasedOnInputValue value).thrown ≠ none := by
  unfold _setStateBasedOnInputValue UAExclusiveLimitAlarmImplBase._setStateBasedOnInputValue
    UANonExclusiveLimitAlarmImplBase._setStateBasedOnInputValue
  cases alarm.limitStates <;> simp [hfin]

/-- **No number is signalled** as the condition of an alarm that is not active. -/
lemma _signalNewCondition_eq_signal (alarm : LimitAlarm) (value : String) :
    alarm._signalNewCondition value = UAAlarmConditionImplBase._signalNewCondition
      { alarm with limitStates := alarm.limitStates.leave } backToNormal false := by
  unfold _signalNewCondition
  cases hstates : alarm.limitStates with
  | exclusive state => rfl
  | nonExclusive states =>
    simp only [leave, UANonExclusiveLimitAlarmImplBase._calculateConditionInfo, Bool.not_false,
      if_true]
    rw [← hstates]

lemma _onInputDataValueChange_eq (alarm : LimitAlarm) (dataValue : InputDataValue) :
    alarm._onInputDataValueChange dataValue =
      if dataValue.statusCode = .BadWaitingForInitialData then ⟨alarm, none⟩
      else match dataValue.number with
        | none => UAAlarmConditionImplBase._signalNewCondition
            { alarm with limitStates := alarm.limitStates.leave } backToNormal false
        | some value => alarm._setStateBasedOnInputValue value := by
  unfold _onInputDataValueChange InputDataValue.number
  split_ifs
  · rfl
  · simp [_signalNewCondition_eq_signal]
  · cases dataValue.value <;> simp [_signalNewCondition_eq_signal]

/-! ### The evaluation of the input -/

/-- **What every reachable alarm has**: two listeners or none, the branch of its limit states, no
flag `Retain` while it is disabled, and the limit states of a good input while it is enabled. -/
structure Inv (alarm : LimitAlarm) : Prop where
  listeners : alarm.listeners = 0 ∨ alarm.listeners = 2
  snapshot : alarm.branch0.Matches alarm.limits alarm.limitStates
  retain : alarm.enabledState = false → alarm.branch0.conditionInfo.retain = false
  states : alarm.enabledState = true → alarm.inputNode.statusCode.isGood = true →
    alarm.limitStates.Match alarm.limits alarm.inputNode.value

lemma Inv.consistent (h : Inv alarm) : Consistent alarm :=
  ⟨h.states, fun _ => h.snapshot.active⟩

variable {dataValue : InputDataValue}

lemma value_of_number (h : dataValue.number = some value) : dataValue.value = some value := by
  unfold InputDataValue.number at h
  split_ifs at h
  exact h

lemma value_of_number_none (h : dataValue.number = none)
    (hgood : dataValue.statusCode.isGood = true) : dataValue.value = none := by
  have hnotGood : dataValue.statusCode.isNotGood = false := by
    simpa [StatusCode.isGood, StatusCode.isNotGood] using hgood
  simpa [InputDataValue.number, hnotGood] using h

lemma not_isGood_of_waiting {statusCode : StatusCode}
    (h : statusCode = .BadWaitingForInitialData) : ¬ statusCode.isGood = true := by
  rw [h]
  decide

/-- **The three outcomes** for an enabled alarm: nothing is done, the limit states are left, or they
are those of a number. -/
lemma updateState_cases (hen : alarm.enabledState = true)
    (hmatch : alarm.branch0.Matches alarm.limits alarm.limitStates)
    (hthrow : alarm.updateState.thrown = none) :
    (alarm.inputNode.statusCode = .BadWaitingForInitialData ∧
      alarm.updateState = ⟨alarm, none⟩) ∨
    (alarm.inputNode.statusCode ≠ .BadWaitingForInitialData ∧ alarm.inputNode.number = none ∧
      alarm.branch0.conditionInfo ≠ backToNormal ∧ ∃ branches, alarm.updateState =
        ⟨{ alarm with
            limitStates := alarm.limitStates.leave
            branch0 := { conditionInfo := backToNormal, activeState := false, ackedState := true }
            branches }, none⟩) ∨
    (alarm.inputNode.statusCode ≠ .BadWaitingForInitialData ∧
      ∃ value branch0 branches, alarm.inputNode.number = some value ∧ value.isFinite = true ∧
        branch0.Matches alarm.limits (alarm.limitStates.ofValue alarm.limits value) ∧
        alarm.updateState =
          ⟨{ alarm with
              limitStates := alarm.limitStates.ofValue alarm.limits value, branch0, branches },
            none⟩) := by
  unfold updateState at *
  rw [_onInputDataValueChange_eq] at *
  by_cases hwait : alarm.inputNode.statusCode = .BadWaitingForInitialData
  · rw [if_pos hwait]
    exact Or.inl ⟨hwait, rfl⟩
  · rw [if_neg hwait] at *
    cases hnum : alarm.inputNode.number with
    | none =>
      rw [hnum] at hthrow
      have hne : alarm.branch0.conditionInfo ≠ backToNormal := by
        intro heq
        have hsame := UAAlarmConditionImplBase._signalNewCondition_same
          { alarm with limitStates := alarm.limitStates.leave } false
        exact hsame (by rw [heq]; exact hthrow)
      obtain ⟨branches, hcall⟩ := UAAlarmConditionImplBase._signalNewCondition_eq
        { alarm with limitStates := alarm.limitStates.leave } hen hne false
      exact Or.inr (Or.inl ⟨hwait, rfl, hne, branches, hcall⟩)
    | some value =>
      rw [hnum] at hthrow
      have hfin : value.isFinite = true := by
        by_contra h
        exact setState_not_finite (not_eq_true _ ▸ h) hthrow
      obtain ⟨branch0, branches, hbranch, hcall⟩ := setState_enabled hen hmatch hfin
      exact Or.inr (Or.inr ⟨hwait, value, branch0, branches, rfl, hfin, hbranch, hcall⟩)

lemma updateState_thrown (alarm : LimitAlarm) (hen : alarm.enabledState = true)
    (hmatch : alarm.branch0.Matches alarm.limits alarm.limitStates) (hev : alarm.Evaluable)
    (hnews : alarm.inputNode.statusCode ≠ .BadWaitingForInitialData →
      alarm.inputNode.number = none → alarm.branch0.conditionInfo ≠ backToNormal) :
    alarm.updateState.thrown = none := by
  unfold updateState
  rw [_onInputDataValueChange_eq]
  by_cases hwait : alarm.inputNode.statusCode = .BadWaitingForInitialData
  · rw [if_pos hwait]
  · rw [if_neg hwait]
    have hcan := hev.resolve_left hwait
    cases hnum : alarm.inputNode.number with
    | none =>
      obtain ⟨branches, hcall⟩ := UAAlarmConditionImplBase._signalNewCondition_eq
        { alarm with limitStates := alarm.limitStates.leave } hen
        (hnews hwait hnum) false
      exact congrArg thrown hcall
    | some value =>
      rw [hnum] at hcan
      obtain ⟨branch0, branches, -, hcall⟩ := setState_enabled hen hmatch hcan.1
      exact congrArg thrown hcall

/-- **An evaluation keeps the invariant**. -/
lemma updateState_inv (alarm : LimitAlarm) (hlisteners : alarm.listeners = 0 ∨ alarm.listeners = 2)
    (hen : alarm.enabledState = true)
    (hmatch : alarm.branch0.Matches alarm.limits alarm.limitStates) (hev : alarm.Evaluable)
    (hthrow : alarm.updateState.thrown = none) : Inv alarm.updateState.alarm := by
  have hret : ∀ b : Bool, alarm.enabledState = false → b = false :=
    fun b h => absurd (hen.symm.trans h) (by decide)
  obtain ⟨hwait, hcall⟩ | ⟨hwait, hnum, -, branches, hcall⟩ |
    ⟨hwait, value, branch0, branches, hnum, -, hbranch, hcall⟩ :=
      updateState_cases hen hmatch hthrow
  · rw [hcall]
    refine ⟨hlisteners, hmatch, hret _, fun _ hgood => ?_⟩
    exact absurd hgood (not_isGood_of_waiting hwait)
  · have hno := hev.resolve_left hwait
    rw [hnum] at hno
    rw [hcall]
    refine ⟨hlisteners, ⟨?_, rfl, nofun⟩, hret _, fun _ hgood => ?_⟩
    · exact iff_of_false Bool.false_ne_true fun ⟨l, hl⟩ => hno l hl
    · have hnull := value_of_number_none hnum hgood
      rw [hnull]
      exact match_leave hno
  · have hcan := hev.resolve_left hwait
    rw [hnum] at hcan
    rw [hcall]
    refine ⟨hlisteners, hbranch, hret _, fun _ hgood => ?_⟩
    rw [value_of_number hnum]
    exact (match_ofValue_iff _ _ _).mpr (hcan.2 hgood)

/-- **An evaluation that leaves a consistent alarm** was one that can be done. -/
lemma evaluable_of_updateState (alarm : LimitAlarm) (hen : alarm.enabledState = true)
    (hmatch : alarm.branch0.Matches alarm.limits alarm.limitStates)
    (hthrow : alarm.updateState.thrown = none) (hcons : Consistent alarm.updateState.alarm) :
    alarm.Evaluable ∧ (alarm.inputNode.statusCode ≠ .BadWaitingForInitialData →
      alarm.inputNode.number = none → alarm.branch0.conditionInfo ≠ backToNormal) := by
  obtain ⟨hwait, -⟩ | ⟨-, hnum, hne, branches, hcall⟩ |
    ⟨-, value, branch0, branches, hnum, hfin, -, hcall⟩ :=
      updateState_cases hen hmatch hthrow
  · exact ⟨Or.inl hwait, fun h => absurd hwait h⟩
  · refine ⟨Or.inr ?_, fun _ _ => hne⟩
    rw [hnum]
    rw [hcall] at hcons
    intro l hl
    exact Bool.false_ne_true ((hcons.active hen).mpr ⟨l, hl⟩)
  · refine ⟨Or.inr ?_, fun _ h => absurd (hnum.symm.trans h) nofun⟩
    rw [hnum]
    rw [hcall] at hcons
    refine ⟨hfin, fun hgood => ?_⟩
    have hstates := hcons.states hen hgood
    rw [value_of_number hnum] at hstates
    exact (match_ofValue_iff _ _ _).mp hstates

/-! ### The operations -/

lemma same_eq {v1 v2 : InputDataValue} (h : v1.same v2 = true) :
    v1.statusCode = v2.statusCode ∧ v1.value = v2.value := by
  unfold InputDataValue.same at h
  simp only [Bool.and_eq_true, decide_eq_true_eq] at h
  refine ⟨h.1.1, ?_⟩
  cases h1 : v1.value <;> cases h2 : v2.value <;> simp_all [Number.strictEq]

lemma callListeners_disabled (hdis : alarm.enabledState = false)
    (dataValue : InputDataValue) (n : ℕ) :
    callListeners (inputListener dataValue) n alarm = ⟨alarm, none⟩ := by
  induction n with
  | zero => rfl
  | succ n ih =>
    rw [callListeners, inputListener, hdis, Bool.not_false, if_pos rfl]
    exact ih

lemma ofValue_ofValue (limits : Limit → Option LimitProperty) (value : Number)
    (states : LimitStates) :
    (states.ofValue limits value).ofValue limits value = states.ofValue limits value := by
  cases states with
  | exclusive state => rfl
  | nonExclusive states =>
    simp only [ofValue, LimitStates.nonExclusive.injEq]
    funext l
    unfold statesOf
    cases limits l <;> rfl

lemma inputListener_enabled (alarm : LimitAlarm) (hen : alarm.enabledState = true)
    (dataValue : InputDataValue) :
    inputListener dataValue alarm = alarm._onInputDataValueChange dataValue := by
  rw [inputListener, hen, Bool.not_true, if_neg Bool.false_ne_true]

lemma andThen_thrown {call : AlarmCall} {f : LimitAlarm → AlarmCall}
    (h : (call.andThen f).thrown = none) : call.thrown = none := by
  unfold andThen at h
  split at h
  · assumption
  · exact h

section

variable (alarm : LimitAlarm) (hen : alarm.enabledState = true)
  (hmatch : alarm.branch0.Matches alarm.limits alarm.limitStates)
include hen hmatch

/-- **A second listener** throws when there is no number. -/
lemma number_of_callListeners
    (hthrow : (callListeners (inputListener alarm.inputNode) 2 alarm).thrown = none) :
    alarm.updateState.thrown = none ∧
      (alarm.inputNode.statusCode ≠ .BadWaitingForInitialData → alarm.inputNode.number ≠ none) := by
  rw [callListeners, inputListener_enabled alarm hen] at hthrow
  have hfirst : alarm.updateState.thrown = none := andThen_thrown hthrow
  refine ⟨hfirst, fun hwait hnum => ?_⟩
  obtain ⟨h, -⟩ | ⟨-, -, -, branches, hcall⟩ | ⟨-, value, -, -, h, -⟩ :=
    updateState_cases hen hmatch hfirst
  · exact hwait h
  · -- the condition is no news for the second listener
    have heval : alarm._onInputDataValueChange alarm.inputNode = alarm.updateState := rfl
    rw [heval, hcall] at hthrow
    set second : LimitAlarm :=
      { alarm with
        limitStates := alarm.limitStates.leave
        branch0 := { conditionInfo := backToNormal, activeState := false, ackedState := true }
        branches }
    have hsnd : (inputListener alarm.inputNode second).thrown = none := andThen_thrown hthrow
    rw [inputListener_enabled second hen, _onInputDataValueChange_eq, if_neg hwait,
      hnum] at hsnd
    exact UAAlarmConditionImplBase._signalNewCondition_same
      { second with limitStates := second.limitStates.leave } false hsnd
  · exact absurd (hnum.symm.trans h) nofun

/-- **A second listener** has nothing to do when there is a number. -/
lemma callListeners_two (hthrow : alarm.updateState.thrown = none)
    (hnum : alarm.inputNode.statusCode ≠ .BadWaitingForInitialData →
      alarm.inputNode.number ≠ none) :
    callListeners (inputListener alarm.inputNode) 2 alarm = alarm.updateState := by
  have heval : alarm._onInputDataValueChange alarm.inputNode = alarm.updateState := rfl
  rw [callListeners, inputListener_enabled alarm hen, heval]
  obtain ⟨hwait, hcall⟩ | ⟨hwait, h, -⟩ |
    ⟨hwait, value, branch0, branches, hvalue, hfin, hbranch, hcall⟩ :=
      updateState_cases hen hmatch hthrow
  · rw [hcall]
    dsimp only [andThen, callListeners]
    rw [inputListener_enabled alarm hen, _onInputDataValueChange_eq, if_pos hwait]
  · exact absurd h (hnum hwait)
  · rw [hcall]
    set second : LimitAlarm :=
      { alarm with limitStates := alarm.limitStates.ofValue alarm.limits value, branch0, branches }
    have hsnd : inputListener alarm.inputNode second = ⟨second, none⟩ := by
      rw [inputListener_enabled second hen, _onInputDataValueChange_eq, if_neg hwait,
        hvalue]
      exact (second._setStateBasedOnInputValue_eq hfin).1 (ofValue_ofValue _ _ _)
    dsimp only [andThen, callListeners]
    rw [hsnd]

end

lemma setInputValue_new (h : alarm.inputNode.same dataValue = false) :
    alarm.setInputValue dataValue = callListeners (inputListener dataValue) alarm.listeners
      { alarm with inputNode := dataValue } := by
  unfold setInputValue
  rw [h, if_neg Bool.false_ne_true]

lemma setInputValue_same (hinv : Inv alarm) (h : alarm.inputNode.same dataValue = true) :
    (alarm.setInputValue dataValue).thrown = none ∧ Inv (alarm.setInputValue dataValue).alarm := by
  obtain ⟨hstatus, hvalue⟩ := same_eq h
  unfold setInputValue
  rw [h, if_pos rfl]
  refine ⟨rfl, hinv.listeners, hinv.snapshot, hinv.retain, fun hen hgood => ?_⟩
  have hstates := hinv.states hen (hstatus ▸ hgood)
  rwa [hvalue] at hstates

/-- **A change of the input** under its condition. -/
lemma setInputValue_inv (h : Inv alarm) (hc : alarm.InputCondition dataValue) :
    (alarm.setInputValue dataValue).thrown = none ∧ Inv (alarm.setInputValue dataValue).alarm := by
  by_cases hsame : alarm.inputNode.same dataValue = true
  · exact setInputValue_same h hsame
  · have hnew : alarm.inputNode.same dataValue = false := not_eq_true _ ▸ hsame
    rw [setInputValue_new hnew]
    set updated : LimitAlarm := { alarm with inputNode := dataValue }
    by_cases hen : alarm.enabledState = true
    · have hcond := hc hnew hen
      rcases h.listeners with hzero | htwo
      · rw [if_pos hzero] at hcond
        rw [hzero]
        exact ⟨rfl, h.listeners, h.snapshot, h.retain, fun _ => hcond⟩
      · rw [if_neg (by omega)] at hcond
        have hthrow := updateState_thrown updated hen h.snapshot hcond.1
          fun hwait hnone => absurd hnone (hcond.2 hwait)
        have hcall : callListeners (inputListener dataValue) 2 updated = updated.updateState :=
          callListeners_two updated hen h.snapshot hthrow hcond.2
        rw [htwo, hcall]
        exact ⟨hthrow, updateState_inv updated h.listeners hen h.snapshot hcond.1 hthrow⟩
    · have hdis : updated.enabledState = false := not_eq_true _ ▸ hen
      rw [callListeners_disabled hdis]
      exact ⟨rfl, h.listeners, h.snapshot, h.retain, fun he => absurd he hen⟩

lemma inputCondition_of_keepsConsistent (h : Inv alarm)
    (hk : alarm.KeepsConsistent (.setInputValue dataValue)) :
    alarm.InputCondition dataValue := by
  intro hnew hen
  unfold KeepsConsistent perform at hk
  dsimp only at hk
  rw [setInputValue_new hnew] at hk
  obtain ⟨hthrow, hcons⟩ := hk
  set updated : LimitAlarm := { alarm with inputNode := dataValue }
  rcases h.listeners with hzero | htwo
  · rw [if_pos hzero]
    rw [hzero] at hcons
    exact hcons.states hen
  · rw [if_neg (by omega)]
    rw [htwo] at hthrow hcons
    obtain ⟨hfirst, hnum⟩ :=
      number_of_callListeners updated hen h.snapshot hthrow
    have hcall : callListeners (inputListener dataValue) 2 updated = updated.updateState :=
      callListeners_two updated hen h.snapshot hfirst hnum
    rw [hcall] at hcons
    exact ⟨(evaluable_of_updateState updated hen h.snapshot hfirst hcons).1, hnum⟩

variable {l : Limit}

section

variable {old : LimitProperty} (h : limits l = some old) (new : LimitProperty)
include h

lemma iState_update (states : Limit → Bool) :
    iState (update limits l (some new)) states =
      iState limits states := by
  funext l'
  unfold iState
  by_cases hl : l' = l
  · rw [hl, Function.update_self, h]
    rfl
  · rw [Function.update_of_ne hl]

lemma matches_update {states : LimitStates} (hmatch : snapshot.Matches limits states) :
    snapshot.Matches (update limits l (some new)) states := by
  obtain ⟨hact, hseverity, hmsg⟩ := hmatch
  cases states with
  | exclusive state => exact ⟨hact, hseverity, hmsg⟩
  | nonExclusive states =>
    refine ⟨?_, hseverity, ?_⟩
    · simpa only [IsActive, iState_update h] using hact
    · simpa only [stateData, iState_update h] using hmsg

end

/-- **A disabled alarm** throws nothing when it has nothing to signal, and stays as it is. -/
lemma updateState_disabled (hdis : alarm.enabledState = false) :
    alarm.updateState.thrown = none ↔
      alarm.inputNode.statusCode = .BadWaitingForInitialData ∨
        ∃ v, alarm.inputNode.number = some v ∧ v.isFinite = true ∧
          alarm.limitStates.Stays alarm.limits v := by
  unfold updateState
  rw [_onInputDataValueChange_eq]
  by_cases hwait : alarm.inputNode.statusCode = .BadWaitingForInitialData
  · rw [if_pos hwait]
    exact iff_of_true rfl (Or.inl hwait)
  · rw [if_neg hwait, or_iff_right hwait]
    cases hnum : alarm.inputNode.number with
    | none =>
      refine iff_of_false ?_ fun ⟨_, h, _⟩ => nomatch h
      exact UAAlarmConditionImplBase._signalNewCondition_disabled
        { alarm with limitStates := alarm.limitStates.leave } hdis _ _
    | some value =>
      constructor
      · intro hthrow
        have hfin : value.isFinite = true := by
          by_contra h
          exact setState_not_finite (not_eq_true _ ▸ h) hthrow
        refine ⟨value, rfl, hfin, (ofValue_eq_iff _ _ _).mp ?_⟩
        by_contra h
        exact setState_disabled hdis hfin h hthrow
      · rintro ⟨v, hv, hfin, hstays⟩
        obtain rfl : value = v := Option.some.inj hv
        exact congrArg thrown
          ((alarm._setStateBasedOnInputValue_eq hfin).1 ((ofValue_eq_iff _ _ _).mpr hstays))

lemma updateState_disabled_alarm (hdis : alarm.enabledState = false)
    (hthrow : alarm.updateState.thrown = none) : alarm.updateState.alarm = alarm := by
  have hcases := (updateState_disabled hdis).mp hthrow
  unfold updateState
  rw [_onInputDataValueChange_eq]
  by_cases hwait : alarm.inputNode.statusCode = .BadWaitingForInitialData
  · rw [if_pos hwait]
  · obtain ⟨v, hv, hfin, hstays⟩ := hcases.resolve_left hwait
    rw [if_neg hwait, hv]
    exact congrArg AlarmCall.alarm
      ((alarm._setStateBasedOnInputValue_eq hfin).1 ((ofValue_eq_iff _ _ _).mpr hstays))

/-- **A change of a limit** under its condition. -/
lemma setLimit_inv (h : Inv alarm)
    {sourceTimestamp : ℕ} (hc : alarm.LimitCondition l value sourceTimestamp) :
    (alarm.setLimit l value sourceTimestamp).thrown = none ∧
      Inv (alarm.setLimit l value sourceTimestamp).alarm := by
  obtain ⟨limit, hlimit, hc⟩ := hc
  unfold setLimit
  rw [hlimit]
  dsimp only
  by_cases hsame : limit.sourceTimestamp = sourceTimestamp ∧ limit.value.strictEq value = true
  · rw [if_pos hsame]
    have hvalue : limit.value ≠ .nan ∧ limit.value = value := by
      simpa [Number.strictEq] using hsame.2
    have hlimits :
        update alarm.limits l (some { value, sourceTimestamp }) = alarm.limits := by
      rw [Function.update_eq_self_iff, hlimit, ← hvalue.2, ← hsame.1]
    rw [hlimits]
    exact ⟨rfl, h⟩
  · rw [if_neg hsame]
    have hmatch := matches_update hlimit { value, sourceTimestamp } h.snapshot
    have hcond := hc hsame
    set updated : LimitAlarm :=
      { alarm with limits := update alarm.limits l (some { value, sourceTimestamp }) }
    by_cases hen : alarm.enabledState = true
    · rw [if_pos hen] at hcond
      have hthrow := updateState_thrown updated hen hmatch hcond.1 hcond.2
      exact ⟨hthrow, updateState_inv updated h.listeners hen hmatch hcond.1 hthrow⟩
    · rw [if_neg hen] at hcond
      have hdis : updated.enabledState = false := not_eq_true _ ▸ hen
      have hthrow := (updateState_disabled hdis).mpr hcond
      rw [updateState_disabled_alarm hdis hthrow]
      exact ⟨hthrow, h.listeners, hmatch, h.retain, fun he => absurd he hen⟩

lemma limitCondition_of_keepsConsistent (h : Inv alarm) {sourceTimestamp : ℕ}
    (hk : alarm.KeepsConsistent (.setLimit l value sourceTimestamp)) :
    alarm.LimitCondition l value sourceTimestamp := by
  unfold KeepsConsistent perform at hk
  dsimp only at hk
  unfold setLimit at hk
  cases hlimit : alarm.limits l with
  | none =>
    rw [hlimit] at hk
    exact absurd hk.1 nofun
  | some limit =>
    refine ⟨limit, hlimit, fun hsame => ?_⟩
    rw [hlimit] at hk
    dsimp only at hk
    rw [if_neg hsame] at hk
    obtain ⟨hthrow, hcons⟩ := hk
    have hmatch := matches_update hlimit { value, sourceTimestamp } h.snapshot
    set updated : LimitAlarm :=
      { alarm with limits := update alarm.limits l (some { value, sourceTimestamp }) }
    by_cases hen : alarm.enabledState = true
    · rw [if_pos hen]
      exact evaluable_of_updateState updated hen hmatch hthrow hcons
    · rw [if_neg hen]
      have hdis : updated.enabledState = false := not_eq_true _ ▸ hen
      exact (updateState_disabled hdis).mp hthrow

/-- The flag `Retain` does not matter for the invariant of an enabled alarm. -/
lemma Inv.setRetain (h : Inv alarm) (hen : alarm.enabledState = true)
    (retain : Bool) : Inv (alarm.setRetain retain) :=
  ⟨h.listeners, ⟨h.snapshot.active, h.snapshot.severity, h.snapshot.message⟩,
    fun hd => absurd (hen.symm.trans hd) (by decide), h.states⟩

lemma updateState_enabledState (hen : alarm.enabledState = true)
    (hmatch : alarm.branch0.Matches alarm.limits alarm.limitStates)
    (hthrow : alarm.updateState.thrown = none) :
    alarm.updateState.alarm.enabledState = true := by
  obtain ⟨-, hcall⟩ | ⟨-, -, -, branches, hcall⟩ | ⟨-, value, branch0, branches, -, -, -, hcall⟩ :=
    updateState_cases hen hmatch hthrow
  · rw [hcall]
    exact hen
  · rw [hcall]
    exact hen
  · rw [hcall]
    exact hen

lemma andThen_eq {call : AlarmCall} (h : call.thrown = none) (f : LimitAlarm → AlarmCall) :
    call.andThen f = f call.alarm := by
  unfold andThen
  rw [h]

/-- **An alarm is enabled or disabled** under its condition. -/
lemma setEnabledState_inv (h : Inv alarm) {requested : Bool}
    (hc : requested = true → alarm.enabledState = false → alarm.Evaluable) :
    (alarm.setEnabledState requested).thrown = none ∧
      Inv (alarm.setEnabledState requested).alarm := by
  unfold setEnabledState
  by_cases hsame : alarm.enabledState = requested
  · rw [if_pos hsame]
    exact ⟨rfl, h⟩
  · rw [if_neg hsame]
    cases requested with
    | false =>
      refine ⟨rfl, h.listeners, ?_, fun _ => rfl, fun he => absurd he Bool.false_ne_true⟩
      exact ⟨h.snapshot.active, h.snapshot.severity, h.snapshot.message⟩
    | true =>
      have hdis : alarm.enabledState = false := not_eq_true _ ▸ hsame
      set enabled : LimitAlarm := { alarm with enabledState := true }
      have hthrow : enabled.updateState.thrown = none := by
        refine updateState_thrown enabled rfl h.snapshot (hc rfl hdis) fun _ _ heq => ?_
        -- the flag `Retain` is not set while the alarm is disabled
        have hret := h.retain hdis
        have hbranch : alarm.branch0.conditionInfo = backToNormal := heq
        rw [hbranch] at hret
        exact Bool.false_ne_true hret.symm
      rw [andThen_eq hthrow]
      have hinv : Inv enabled.updateState.alarm :=
        updateState_inv enabled h.listeners rfl h.snapshot (hc rfl hdis) hthrow
      exact ⟨rfl, hinv.setRetain (updateState_enabledState rfl h.snapshot hthrow) _⟩

lemma evaluable_of_keepsConsistent (h : Inv alarm)
    (hk : alarm.KeepsConsistent (.setEnabledState true)) (hdis : alarm.enabledState = false) :
    alarm.Evaluable := by
  unfold KeepsConsistent perform at hk
  dsimp only at hk
  unfold setEnabledState at hk
  rw [hdis, if_neg Bool.false_ne_true, Bool.not_true, if_neg Bool.false_ne_true] at hk
  obtain ⟨hthrow, hcons⟩ := hk
  set enabled : LimitAlarm := { alarm with enabledState := true }
  have hfirst : enabled.updateState.thrown = none := andThen_thrown hthrow
  rw [andThen_eq hfirst] at hcons
  have hafter : Consistent enabled.updateState.alarm :=
    ⟨hcons.states, hcons.active⟩
  exact (evaluable_of_updateState enabled rfl h.snapshot hfirst hafter).1

/-! ### Runs -/

/-- **One operation** keeps a consistent alarm consistent, and throws nothing, when the condition of
the operation is met. -/
lemma step_inv (h : Inv alarm) {operation : Operation} (hc : alarm.StepCondition operation) :
    (alarm.perform operation).thrown = none ∧ Inv (alarm.perform operation).alarm := by
  cases operation with
  | setInputValue dataValue => exact setInputValue_inv h hc
  | setLimit l value sourceTimestamp => exact setLimit_inv h hc
  | setEnabledState requested => exact setEnabledState_inv h hc

/-- **The condition of an operation** is met exactly when it keeps the alarm consistent. -/
theorem keepsConsistent_iff (h : Inv alarm) (operation : Operation) :
    alarm.KeepsConsistent operation ↔ alarm.StepCondition operation := by
  constructor
  · intro hk
    cases operation with
    | setInputValue dataValue => exact inputCondition_of_keepsConsistent h hk
    | setLimit l value sourceTimestamp => exact limitCondition_of_keepsConsistent h hk
    | setEnabledState requested =>
      rintro rfl
      exact evaluable_of_keepsConsistent h hk
  · intro hc
    obtain ⟨hthrow, hinv⟩ := step_inv h hc
    exact ⟨hthrow, hinv.consistent⟩

section Runs

variable (kind : Kind) (browseName : String) (inputNodeOption : InputNodeOption)
  (inputNode : InputDataValue) (limits : Limit → Option LimitProperty)

lemma initial_matches :
    (initial kind browseName inputNodeOption inputNode limits).branch0.Matches limits
      (initial kind browseName inputNodeOption inputNode limits).limitStates := by
  refine ⟨iff_of_false Bool.false_ne_true ?_, rfl, nofun⟩
  rintro ⟨l, hl⟩
  cases kind with
  | exclusive => cases hl
  | nonExclusive =>
    simp only [initial, IsActive, iState] at hl
    cases h : limits l <;> simp [h] at hl

lemma initial_listeners :
    (initial kind browseName inputNodeOption inputNode limits).listeners = 0 ∨
      (initial kind browseName inputNodeOption inputNode limits).listeners = 2 := by
  cases inputNodeOption with
  | node => exact Or.inr rfl
  | nodeId => exact Or.inl rfl

/-- **A new alarm** is consistent when it has a limit and its input can be evaluated. -/
lemma instantiate_iff :
    ((instantiate kind browseName inputNodeOption inputNode limits).thrown = none ∧
        Consistent (instantiate kind browseName inputNodeOption inputNode limits).alarm) ↔
      (∃ l, limits l ≠ none) ∧
        (initial kind browseName inputNodeOption inputNode limits).Evaluable := by
  have hmatch := initial_matches kind browseName inputNodeOption inputNode limits
  unfold instantiate
  by_cases hnone : (Limit.all.all fun l => (limits l).isNone) = true
  · rw [if_pos hnone]
    refine iff_of_false (fun h => nomatch h.1) ?_
    rintro ⟨⟨l, hl⟩, -⟩
    have hall := List.all_eq_true.mp hnone l (Limit.mem_all l)
    exact hl (Option.isNone_iff_eq_none.mp hall)
  · rw [if_neg hnone]
    have hsome : ∃ l, limits l ≠ none := by
      by_contra h
      push Not at h
      exact hnone (List.all_eq_true.mpr fun l _ => by rw [h l]; rfl)
    rw [and_iff_right hsome]
    have hmsg : "" ≠ "Back to normal" := by decide
    have hne : (initial kind browseName inputNodeOption inputNode limits).branch0.conditionInfo ≠
        backToNormal := fun h => hmsg (congrArg ConditionInfo.message h)
    constructor
    · rintro ⟨hthrow, hcons⟩
      exact (evaluable_of_updateState _ rfl hmatch hthrow hcons).1
    · intro hev
      have hthrow := updateState_thrown _ rfl hmatch hev fun _ _ => hne
      have hinv := updateState_inv _
        (initial_listeners kind browseName inputNodeOption inputNode limits) rfl hmatch hev hthrow
      exact ⟨hthrow, hinv.consistent⟩

lemma instantiate_inv (h : (∃ l, limits l ≠ none) ∧
      (initial kind browseName inputNodeOption inputNode limits).Evaluable)
    (hthrow : (instantiate kind browseName inputNodeOption inputNode limits).thrown = none) :
    Inv (instantiate kind browseName inputNodeOption inputNode limits).alarm := by
  obtain ⟨⟨l, hl⟩, hev⟩ := h
  unfold instantiate at hthrow ⊢
  have hsome : ¬ (Limit.all.all fun l => (limits l).isNone) = true := by
    intro hall
    exact hl (Option.isNone_iff_eq_none.mp (List.all_eq_true.mp hall l (Limit.mem_all l)))
  rw [if_neg hsome] at hthrow ⊢
  exact updateState_inv _ (initial_listeners kind browseName inputNodeOption inputNode limits) rfl
    (initial_matches kind browseName inputNodeOption inputNode limits) hev hthrow

/-- **The runs of a limit alarm**: a new alarm is consistent, and every operation keeps it so and
throws nothing, exactly when the alarm has a limit, its first input can be evaluated and every
operation meets its condition. -/
theorem run_consistent_iff (operations : List Operation) :
    ((instantiate kind browseName inputNodeOption inputNode limits).thrown = none ∧
        Consistent (instantiate kind browseName inputNodeOption inputNode limits).alarm ∧
        Mealy.Along step KeepsConsistent
          (instantiate kind browseName inputNodeOption inputNode limits).alarm operations) ↔
      ((∃ l, limits l ≠ none) ∧
        (initial kind browseName inputNodeOption inputNode limits).Evaluable) ∧
        Mealy.Along step StepCondition
          (instantiate kind browseName inputNodeOption inputNode limits).alarm operations := by
  rw [← and_assoc, instantiate_iff]
  refine and_congr_right fun hstart => ?_
  have hthrow := ((instantiate_iff kind browseName inputNodeOption inputNode limits).mpr hstart).1
  refine Mealy.along_iff step (I := Inv) ?_ ?_
    (instantiate_inv kind browseName inputNodeOption inputNode limits hstart hthrow) operations
  · intro alarm operation hinv hk
    exact (step_inv hinv ((keepsConsistent_iff hinv operation).mp hk)).2
  · exact fun alarm operation hinv => keepsConsistent_iff hinv operation

end Runs

/-- **Three runs that fail**, of an alarm with the limit `High` of 50. A bad value throws, since the
second listener has no news to signal. A null value leaves a non-exclusive alarm with an active state
while it is not active itself. A limit of a disabled alarm cannot be changed when its state would be
another one. -/
theorem runs_not_consistent :
    let limits : Limit → Option LimitProperty := fun l =>
      if l = .high then some ⟨.ofNat 50, 0⟩ else none
    let start (kind : Kind) (value : ℕ) : AlarmCall :=
      instantiate kind "Alarm" .node ⟨.Good, some (.ofNat value), 0⟩ limits
    (¬ Mealy.Along step KeepsConsistent (start .exclusive 10).alarm
        [.setInputValue ⟨.BadCommunicationError, some (.ofNat 10), 1⟩]) ∧
      (¬ Consistent (Mealy.run step (start .nonExclusive 60).alarm
        [.setInputValue ⟨.Good, none, 1⟩]).1) ∧
      ¬ Mealy.Along step KeepsConsistent (start .exclusive 10).alarm
        [.setEnabledState false, .setLimit .high (.ofNat 5) 1] := by
  refine ⟨fun h => ?_, fun h => ?_, fun h => ?_⟩
  · exact absurd h.1.1 (by decide +kernel)
  · exact absurd ((h.active (by decide +kernel)).mpr ⟨.high, by decide +kernel⟩) (by decide +kernel)
  · exact absurd h.2.1.1 (by decide +kernel)

end LimitAlarm

end NodeOpcua
