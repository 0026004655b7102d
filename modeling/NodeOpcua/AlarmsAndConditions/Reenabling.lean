import NodeOpcua.AlarmsAndConditions.LimitAlarmConsistency

set_option autoImplicit false

/-!
# Limit alarms that are enabled again

A limit alarm does not look at its input while it is disabled, and is evaluated when it is enabled
again. This file has the condition events that an operation raises, and says what an alarm is to be
right after it is enabled.

## Main definitions

* `LimitAlarm.raisedEvents`, `LimitAlarm.KeepsReevaluation`, `LimitAlarm.ReevaluationCondition`.

## Design

* A condition event is the branch that it is raised for. The identifiers of events are left out.
-/

namespace NodeOpcua

open LimitStates

/-! ### The events of an operation -/

/-- The events of `UAAlarmConditionImplBase._signalNewCondition`: that of a new branch, if one is
created, and that of the new condition. -/
def UAAlarmConditionImplBase.signalEvents (alarm : LimitAlarm) (newConditionInfo : ConditionInfo)
    (isActive : Bool) : List ConditionSnapshot :=
  if !alarm.enabledState then []
  else if alarm.branch0.conditionInfo = newConditionInfo then []
  else
    (if !isActive && !alarm.branch0.ackedState && alarm.branch0.conditionInfo.retain then
      [alarm.branch0] else []) ++
      [{ conditionInfo := newConditionInfo, activeState := isActive, ackedState := !isActive }]

open UAAlarmConditionImplBase (signalEvents _signalNewCondition_eq)

/-- The events of `UAExclusiveLimitAlarmImplBase._setStateBasedOnInputValue`. -/
def UAExclusiveLimitAlarmImplBase.stateEvents (alarm : LimitAlarm) (oldState : Option Limit)
    (value : Number) : List ConditionSnapshot :=
  if !value.isFinite then []
  else
    let state := stateOf alarm.limits value
    if state ≠ oldState then
      signalEvents { alarm with limitStates := .exclusive state }
        (UAAlarmConditionImplBase._calculateConditionInfo (state.map Limit.stateName)
          (String.ofList (value.toFixed 3))) state.isSome
    else []

/-- The events of `UANonExclusiveLimitAlarmImplBase._setStateBasedOnInputValue`. -/
def UANonExclusiveLimitAlarmImplBase.stateEvents (alarm : LimitAlarm) (oldStates : Limit → Bool)
    (value : Number) : List ConditionSnapshot :=
  if !value.isFinite then []
  else
    let states := statesOf alarm.limits oldStates value
    let isActive := Limit.all.any fun l => iState alarm.limits states l = some true
    if Limit.all.any fun l => states l ≠ oldStates l then
      signalEvents { alarm with limitStates := .nonExclusive states }
        (_calculateConditionInfo (some (stringify (iState alarm.limits states))) isActive
          (String.ofList (value.toFixed 3))) isActive
    else []

namespace LimitAlarm

/-- The events of `_onInputDataValueChange`. -/
def inputEvents (alarm : LimitAlarm) (dataValue : InputDataValue) : List ConditionSnapshot :=
  if dataValue.statusCode = .BadWaitingForInitialData then []
  else
    match dataValue.number with
    | none =>
      signalEvents { alarm with limitStates := alarm.limitStates.leave }
        backToNormal false
    | some value =>
      match alarm.limitStates with
      | .exclusive state => UAExclusiveLimitAlarmImplBase.stateEvents alarm state value
      | .nonExclusive states => UANonExclusiveLimitAlarmImplBase.stateEvents alarm states value

/-- The events of the listeners on the input node, up to the first one that throws. -/
def listenerEvents (newDataValue : InputDataValue) : ℕ → LimitAlarm → List ConditionSnapshot
  | 0, _ => []
  | n + 1, alarm =>
    (if !alarm.enabledState then [] else alarm.inputEvents newDataValue) ++
      match (inputListener newDataValue alarm).thrown with
      | none => listenerEvents newDataValue n (inputListener newDataValue alarm).alarm
      | some _ => []

/-- **The condition events** that an operation raises. An alarm that is disabled or enabled raises one
at the end, which is that of the new branch state or the one that is sent again. -/
def raisedEvents (alarm : LimitAlarm) : Operation → List ConditionSnapshot
  | .setInputValue dataValue =>
    if alarm.inputNode.same dataValue then []
    else listenerEvents dataValue alarm.listeners { alarm with inputNode := dataValue }
  | .setLimit l value sourceTimestamp =>
    match alarm.limits l with
    | none => []
    | some limit =>
      if limit.sourceTimestamp = sourceTimestamp ∧ limit.value.strictEq value = true then []
      else
        inputEvents
          { alarm with limits := Function.update alarm.limits l (some { value, sourceTimestamp }) }
          alarm.inputNode
  | .setEnabledState requestedEnabledState =>
    if alarm.enabledState = requestedEnabledState then []
    else if !requestedEnabledState then [(alarm.setEnabledState false).alarm.branch0]
    else
      let enabled : LimitAlarm := { alarm with enabledState := true }
      enabled.inputEvents enabled.inputNode ++
        match (alarm.setEnabledState true).thrown with
        | none => [(alarm.setEnabledState true).alarm.branch0]
        | some _ => []

/-! ### What is expected of an operation -/

/-- Whether the input and the limits make the alarm active. They do not say while the first value is
awaited. -/
def inputActive (alarm : LimitAlarm) : Option Bool :=
  if alarm.inputNode.statusCode = .BadWaitingForInitialData then none
  else
    match alarm.inputNode.number with
    | none => some false
    | some value => some (Limit.all.any fun l =>
        (alarm.limits l).any fun limit => l.exceeds limit.value value)

/-- A branch is of interest to clients when it is active or unacknowledged. -/
def OfInterest (snapshot : ConditionSnapshot) : Prop :=
  snapshot.activeState = true ∨ snapshot.ackedState = false

/-- **What is expected of an operation**: an alarm that is enabled again is active when its input says
so, and retained when it is of interest; a disabled alarm is not retained, and raises nothing but the
notification that it is disabled. -/
structure KeepsReevaluation (alarm : LimitAlarm) (operation : Operation) : Prop where
  returns : operation = .setEnabledState true → alarm.enabledState = false →
    (alarm.perform operation).thrown = none
  active : operation = .setEnabledState true → alarm.enabledState = false →
    ∀ active ∈ alarm.inputActive, (alarm.perform operation).alarm.branch0.activeState = active
  retained : operation = .setEnabledState true → alarm.enabledState = false →
    OfInterest (alarm.perform operation).alarm.branch0 →
      (alarm.perform operation).alarm.branch0.conditionInfo.retain = true
  masked : (alarm.perform operation).alarm.enabledState = false →
    (alarm.perform operation).alarm.branch0.conditionInfo.retain = false
  silent : alarm.enabledState = false → operation ≠ .setEnabledState true →
    alarm.raisedEvents operation = []
  notified : alarm.enabledState = true → operation = .setEnabledState false →
    alarm.raisedEvents operation = [(alarm.perform operation).alarm.branch0]

section

variable (alarm : LimitAlarm)

/-- **The condition for enabling**, on the flag `Retain` that was kept. It must be set if the alarm
becomes active. When the evaluation leaves the limit states as they are, the alarm must be active
already exactly when its input says so, and the flag must be set if the alarm is of interest. -/
def CanReenable : Prop :=
  if alarm.inputNode.statusCode = .BadWaitingForInitialData then
    OfInterest alarm.branch0 → alarm.previousRetainFlag = true
  else
    ∀ value ∈ alarm.inputNode.number, value.isFinite = true ∧
      (alarm.limitStates.Stays alarm.limits value →
        (alarm.branch0.activeState = true ↔ ∃ l, Exceeds alarm.limits (some value) l) ∧
        (OfInterest alarm.branch0 → alarm.previousRetainFlag = true)) ∧
      (¬ alarm.limitStates.Stays alarm.limits value → (∃ l, Exceeds alarm.limits (some value) l) →
        alarm.previousRetainFlag = true)

/-- **When an operation does what is expected.** -/
def ReevaluationCondition : Operation → Prop
  | .setEnabledState true => alarm.enabledState = false → alarm.CanReenable
  | _ => True

/-! ### Disabled alarms -/

lemma signalEvents_disabled (h : alarm.enabledState = false)
    (newConditionInfo : ConditionInfo) (isActive : Bool) :
    signalEvents alarm newConditionInfo isActive = [] := by
  simp [signalEvents, h]

lemma inputEvents_disabled (h : alarm.enabledState = false)
    (dataValue : InputDataValue) : alarm.inputEvents dataValue = [] := by
  unfold inputEvents
  split_ifs
  · rfl
  · split
    · exact signalEvents_disabled { alarm with limitStates := alarm.limitStates.leave } h _ _
    · split
      · unfold UAExclusiveLimitAlarmImplBase.stateEvents
        simp [signalEvents, h]
      · unfold UANonExclusiveLimitAlarmImplBase.stateEvents
        simp [signalEvents, h]

lemma _signalNewCondition_enabledState (newConditionInfo : ConditionInfo) (isActive : Bool) :
    (UAAlarmConditionImplBase._signalNewCondition alarm newConditionInfo
        isActive).alarm.enabledState = alarm.enabledState ∧
      (alarm.enabledState = false →
        (UAAlarmConditionImplBase._signalNewCondition alarm newConditionInfo
          isActive).alarm.branch0 = alarm.branch0) := by
  cases h : alarm.enabledState with
  | false => simp [UAAlarmConditionImplBase._signalNewCondition, h]
  | true =>
    refine ⟨?_, nofun⟩
    by_cases hne : alarm.branch0.conditionInfo = newConditionInfo
    · simp [UAAlarmConditionImplBase._signalNewCondition, h, hne]
    · obtain ⟨branches, heq⟩ :=
        _signalNewCondition_eq alarm h hne isActive
      rw [heq]
      exact h

/-- **An evaluation** does not enable or disable an alarm, and leaves the branch of a disabled one. -/
lemma _onInputDataValueChange_enabledState (dataValue : InputDataValue) :
    (alarm._onInputDataValueChange dataValue).alarm.enabledState = alarm.enabledState ∧
      (alarm.enabledState = false →
        (alarm._onInputDataValueChange dataValue).alarm.branch0 = alarm.branch0) := by
  rw [_onInputDataValueChange_eq]
  split_ifs
  · exact ⟨rfl, fun _ => rfl⟩
  · split
    · exact _signalNewCondition_enabledState { alarm with limitStates := alarm.limitStates.leave } _ _
    · rename_i value _
      by_cases hfin : value.isFinite = true
      · obtain ⟨hsame, hnew⟩ := alarm._setStateBasedOnInputValue_eq hfin
        by_cases heq : alarm.limitStates.ofValue alarm.limits value = alarm.limitStates
        · rw [hsame heq]
          exact ⟨rfl, fun _ => rfl⟩
        · obtain ⟨isActive, text, -, hcall⟩ := hnew heq
          rw [hcall]
          exact _signalNewCondition_enabledState
            { alarm with limitStates := alarm.limitStates.ofValue alarm.limits value } _ _
      · have hcall : alarm._setStateBasedOnInputValue value =
            ⟨alarm, (alarm._setStateBasedOnInputValue value).thrown⟩ := by
          unfold _setStateBasedOnInputValue UAExclusiveLimitAlarmImplBase._setStateBasedOnInputValue
            UANonExclusiveLimitAlarmImplBase._setStateBasedOnInputValue
          cases alarm.limitStates <;> simp [hfin]
        rw [hcall]
        exact ⟨rfl, fun _ => rfl⟩

end

lemma callListeners_enabledState (dataValue : InputDataValue) (n : ℕ) (alarm : LimitAlarm) :
    (callListeners (inputListener dataValue) n alarm).alarm.enabledState = alarm.enabledState ∧
      (alarm.enabledState = false →
        callListeners (inputListener dataValue) n alarm = ⟨alarm, none⟩) := by
  induction n generalizing alarm with
  | zero => exact ⟨rfl, fun _ => rfl⟩
  | succ n ih =>
    simp only [callListeners]
    cases h : alarm.enabledState with
    | false =>
      have hlsn : inputListener dataValue alarm = ⟨alarm, none⟩ := by simp [inputListener, h]
      rw [hlsn]
      exact ⟨(ih alarm).1.trans h, fun _ => (ih alarm).2 h⟩
    | true =>
      refine ⟨?_, Bool.noConfusion⟩
      have hlsn : inputListener dataValue alarm = alarm._onInputDataValueChange dataValue := by
        simp [inputListener, h]
      have hstep := (alarm._onInputDataValueChange_enabledState dataValue).1.trans h
      rw [hlsn]
      unfold AlarmCall.andThen
      split
      · exact (ih _).1.trans hstep
      · exact hstep

variable {alarm : LimitAlarm}

lemma listenerEvents_disabled (dataValue : InputDataValue) (n : ℕ)
    (h : alarm.enabledState = false) : listenerEvents dataValue n alarm = [] := by
  induction n with
  | zero => rfl
  | succ n ih =>
    have hlsn : inputListener dataValue alarm = ⟨alarm, none⟩ := by simp [inputListener, h]
    simp [listenerEvents, hlsn, h, ih]

/-- **A disabled alarm raises nothing** before it is enabled. -/
lemma raisedEvents_disabled (h : alarm.enabledState = false)
    {operation : Operation} (hop : operation ≠ .setEnabledState true) :
    alarm.raisedEvents operation = [] := by
  cases operation with
  | setInputValue dataValue =>
    simp only [raisedEvents]
    split_ifs
    · rfl
    · exact listenerEvents_disabled dataValue _ h
  | setLimit l value sourceTimestamp =>
    simp only [raisedEvents]
    split
    · rfl
    · split_ifs
      · rfl
      · exact inputEvents_disabled { alarm with
          limits := Function.update alarm.limits l (some { value, sourceTimestamp }) } h _
  | setEnabledState requested =>
    cases requested with
    | true => exact absurd rfl hop
    | false =>
      simp only [raisedEvents]
      rw [if_pos h]

/-! ### Enabling -/

lemma exists_isActive_ofValue_iff (limits : Limit → Option LimitProperty) (value : Number)
    (states : LimitStates) :
    (∃ l, (states.ofValue limits value).IsActive limits l) ↔
      ∃ l, Exceeds limits (some value) l := by
  cases states with
  | exclusive state =>
    simp only [ofValue, IsActive, UAExclusiveLimitAlarmImplBase.stateOf, exceeds_some_iff]
    rw [← Option.isSome_iff_exists, List.find?_isSome]
    constructor
    · rintro ⟨l, -, h⟩
      exact ⟨l, h⟩
    · rintro ⟨l, h⟩
      exact ⟨l, by cases l <;> simp, h⟩
  | nonExclusive states =>
    refine exists_congr fun l => ?_
    rw [exceeds_some_iff]
    simp only [ofValue, IsActive, UANonExclusiveLimitAlarmImplBase.iState,
      UANonExclusiveLimitAlarmImplBase.statesOf]
    cases limits l <;> simp

lemma inputActive_eq_some {value : Number}
    (hwait : alarm.inputNode.statusCode ≠ .BadWaitingForInitialData)
    (hnum : alarm.inputNode.number = some value) (active : Bool) :
    active ∈ alarm.inputActive ↔
      (active = true ↔ ∃ l, Exceeds alarm.limits (some value) l) := by
  unfold inputActive
  rw [if_neg hwait, hnum]
  simp only [Option.mem_def, Option.some.injEq, exceeds_some_iff]
  rw [eq_comm, Bool.eq_iff_iff, List.any_eq_true]
  simp [Limit.mem_all]

/-- **The evaluation of an alarm that was just enabled**: nothing is signalled, or the branch is new and
active as the limits say, or a number is not finite. -/
lemma updateState_of_enabled (alarm : LimitAlarm) (hen : alarm.enabledState = true)
    (hret : alarm.branch0.conditionInfo.retain = false) :
    (alarm.inputNode.statusCode = .BadWaitingForInitialData → alarm.updateState = ⟨alarm, none⟩) ∧
    (alarm.inputNode.statusCode ≠ .BadWaitingForInitialData → alarm.inputNode.number = none →
      ∃ branches limitStates, alarm.updateState =
        ⟨{ alarm with limitStates, branch0 := ⟨backToNormal, false, true⟩, branches }, none⟩) ∧
    ∀ value, alarm.inputNode.statusCode ≠ .BadWaitingForInitialData →
      alarm.inputNode.number = some value →
      (value.isFinite = false → alarm.updateState.thrown ≠ none) ∧
      (value.isFinite = true → alarm.limitStates.Stays alarm.limits value →
        alarm.updateState = ⟨alarm, none⟩) ∧
      (value.isFinite = true → ¬ alarm.limitStates.Stays alarm.limits value →
        ∃ branches limitStates conditionInfo isActive,
          (isActive = true ↔ ∃ l, Exceeds alarm.limits (some value) l) ∧ alarm.updateState =
          ⟨{ alarm with limitStates, branch0 := ⟨conditionInfo, isActive, !isActive⟩, branches },
            none⟩) := by
  unfold updateState
  rw [_onInputDataValueChange_eq]
  refine ⟨fun hwait => if_pos hwait, fun hwait hnum => ?_,
    fun value hwait hnum => ⟨fun hfin => ?_, fun hfin hstays => ?_,
      fun hfin hstays => ?_⟩⟩
  all_goals rw [if_neg hwait, hnum]
  · have hne : alarm.branch0.conditionInfo ≠ backToNormal := by
      intro heq
      rw [heq] at hret
      cases hret
    obtain ⟨branches, heq⟩ := _signalNewCondition_eq
      { alarm with limitStates := alarm.limitStates.leave } hen hne false
    exact ⟨branches, _, heq⟩
  · exact setState_not_finite hfin
  · exact (alarm._setStateBasedOnInputValue_eq hfin).1 ((ofValue_eq_iff _ _ _).mpr hstays)
  · obtain ⟨isActive, text, hact, hcall⟩ := (alarm._setStateBasedOnInputValue_eq hfin).2
      (mt (ofValue_eq_iff _ _ _).mp hstays)
    rw [exists_isActive_ofValue_iff] at hact
    have hne : alarm.branch0.conditionInfo ≠ if isActive then activeCondition text
        ((alarm.limitStates.ofValue alarm.limits value).stateData alarm.limits)
        else backToNormal := by
      intro heq
      rw [heq] at hret
      cases isActive <;> cases hret
    obtain ⟨branches, heq⟩ := _signalNewCondition_eq
      { alarm with limitStates := alarm.limitStates.ofValue alarm.limits value } hen hne
      isActive
    exact ⟨branches, _, _, isActive, hact, hcall.trans heq⟩

/-- What is expected of an alarm right after it is enabled. -/
structure Reenabled (alarm : LimitAlarm) (call : AlarmCall) : Prop where
  returns : call.thrown = none
  active : ∀ active ∈ alarm.inputActive, call.alarm.branch0.activeState = active
  retained : OfInterest call.alarm.branch0 → call.alarm.branch0.conditionInfo.retain = true

lemma setEnabledState_of_updateState {alarm evaluated : LimitAlarm}
    (hdis : alarm.enabledState = false)
    (h : ({ alarm with enabledState := true } : LimitAlarm).updateState = ⟨evaluated, none⟩) :
    alarm.setEnabledState true = ⟨evaluated.setRetain evaluated.previousRetainFlag, none⟩ := by
  unfold setEnabledState
  rw [hdis, if_neg Bool.false_ne_true, Bool.not_true, if_neg Bool.false_ne_true, h]
  rfl

/-- **An alarm is enabled again** as it is expected exactly when it meets the condition.

**Proof sketch.** The evaluation leaves the branch, or makes a new one that is acknowledged when it is
not active. The flag `Retain` is the one that was kept in either case. -/
lemma reenabled_iff (hdis : alarm.enabledState = false)
    (hret : alarm.branch0.conditionInfo.retain = false) :
    Reenabled alarm (alarm.setEnabledState true) ↔ alarm.CanReenable := by
  obtain ⟨hwait, hnone, hsome⟩ :=
    updateState_of_enabled { alarm with enabledState := true } rfl hret
  unfold CanReenable
  by_cases hwaiting : alarm.inputNode.statusCode = .BadWaitingForInitialData
  · rw [if_pos hwaiting, setEnabledState_of_updateState hdis (hwait hwaiting)]
    have hinput : alarm.inputActive = none := if_pos hwaiting
    exact ⟨fun h => h.retained, fun h => ⟨rfl, by simp [hinput], h⟩⟩
  · rw [if_neg hwaiting]
    cases hnum : alarm.inputNode.number with
    | none =>
      obtain ⟨branches, limitStates, heq⟩ := hnone hwaiting hnum
      rw [setEnabledState_of_updateState hdis heq]
      have hinput : alarm.inputActive = some false := by
        unfold inputActive
        rw [if_neg hwaiting, hnum]
      refine iff_of_true ⟨rfl, fun active hact => ?_, ?_⟩ (by simp)
      · rw [hinput] at hact
        exact Option.some.inj hact
      · rintro (h | h) <;> cases h
    | some value =>
      obtain ⟨hinfinite, hstays, hnew⟩ := hsome value hwaiting hnum
      simp only [Option.mem_def, Option.some.injEq, forall_eq']
      cases hfin : value.isFinite with
      | false =>
        refine iff_of_false (fun h => hinfinite hfin ?_) (by simp)
        have hreturns := h.returns
        unfold setEnabledState at hreturns
        rw [hdis, if_neg Bool.false_ne_true, Bool.not_true, if_neg Bool.false_ne_true]
          at hreturns
        exact andThen_thrown hreturns
      | true =>
        rw [and_iff_right rfl]
        by_cases hstay : alarm.limitStates.Stays alarm.limits value
        · rw [setEnabledState_of_updateState hdis (hstays hfin hstay)]
          constructor
          · intro h
            refine ⟨fun _ => ⟨?_, h.retained⟩, fun hleave => absurd hstay hleave⟩
            -- the input says that the alarm is active, or that it is not
            obtain ⟨active, hact⟩ : ∃ active, active ∈ alarm.inputActive := by
              unfold inputActive
              rw [if_neg hwaiting, hnum]
              exact ⟨_, rfl⟩
            have hstate : alarm.branch0.activeState = active := h.active active hact
            rw [hstate]
            exact (inputActive_eq_some hwaiting hnum active).mp hact
          · rintro ⟨h, -⟩
            obtain ⟨hact, hkept⟩ := h hstay
            refine ⟨rfl, fun active hmem => ?_, hkept⟩
            have hiff := (inputActive_eq_some hwaiting hnum active).mp hmem
            exact Bool.eq_iff_iff.mpr (hact.trans hiff.symm)
        · obtain ⟨branches, limitStates, conditionInfo, isActive, hact, heq⟩ :=
            hnew hfin hstay
          rw [setEnabledState_of_updateState hdis heq]
          constructor
          · intro h
            refine ⟨fun hstay' => absurd hstay' hstay, fun _ hexceeds => ?_⟩
            exact h.retained (Or.inl (hact.mpr hexceeds))
          · rintro ⟨-, h⟩
            refine ⟨rfl, fun active hmem => ?_, fun hinterest => h hstay (hact.mp ?_)⟩
            · have hiff := (inputActive_eq_some hwaiting hnum active).mp hmem
              exact Bool.eq_iff_iff.mpr (hact.trans hiff.symm)
            · rcases hinterest with hon | hunacked
              · exact hon
              · have hnot : (!isActive) = false := hunacked
                simpa using hnot

/-! ### Runs -/

/-- The flag `Retain` is not set while the alarm is disabled. -/
def Masked (alarm : LimitAlarm) : Prop :=
  alarm.enabledState = false → alarm.branch0.conditionInfo.retain = false

lemma updateState_masked (alarm : LimitAlarm) (h : alarm.Masked) :
    alarm.updateState.alarm.Masked := by
  obtain ⟨hen, hbranch⟩ := alarm._onInputDataValueChange_enabledState alarm.inputNode
  intro hdis
  have hbefore : alarm.enabledState = false := hen.symm.trans hdis
  unfold updateState
  rw [hbranch hbefore]
  exact h hbefore

/-- **Every operation** masks the flag `Retain` while the alarm is disabled. -/
lemma perform_masked (h : alarm.Masked) (operation : Operation) :
    (alarm.perform operation).alarm.Masked := by
  cases operation with
  | setInputValue dataValue =>
    simp only [perform, setInputValue]
    split_ifs
    · exact h
    · obtain ⟨hen, hunch⟩ := callListeners_enabledState dataValue alarm.listeners
        { alarm with inputNode := dataValue }
      intro hdis
      have hbefore : alarm.enabledState = false := hen.symm.trans hdis
      rw [hunch hbefore]
      exact h hbefore
  | setLimit l value sourceTimestamp =>
    simp only [perform, setLimit]
    split
    · exact h
    · split_ifs
      · exact h
      · exact updateState_masked { alarm with
          limits := Function.update alarm.limits l (some { value, sourceTimestamp }) } h
  | setEnabledState requested =>
    simp only [perform, setEnabledState]
    split_ifs with hsame hreq
    · exact h
    · exact fun _ => rfl
    · intro hdis
      -- an evaluation does not disable the alarm
      have hen := (({ alarm with enabledState := true } : LimitAlarm)
        |>._onInputDataValueChange_enabledState alarm.inputNode).1
      have hstill : (({ alarm with enabledState := true } : LimitAlarm).updateState.andThen
          fun alarm => ⟨alarm.setRetain alarm.previousRetainFlag, none⟩).alarm.enabledState =
          true := by
        unfold AlarmCall.andThen
        split
        · exact hen
        · exact hen
      exact absurd (hstill.symm.trans hdis) (by decide)

/-- **An operation** does what is expected exactly when it meets its condition. -/
theorem keepsReevaluation_iff (h : alarm.Masked) (operation : Operation) :
    alarm.KeepsReevaluation operation ↔ alarm.ReevaluationCondition operation := by
  have hmasked := perform_masked h operation
  by_cases henable : operation = .setEnabledState true ∧ alarm.enabledState = false
  · obtain ⟨rfl, hdis⟩ := henable
    have hiff := reenabled_iff hdis (h hdis)
    constructor
    · intro hk _
      exact hiff.mp ⟨hk.returns rfl hdis, hk.active rfl hdis, hk.retained rfl hdis⟩
    · intro hcond
      obtain ⟨hreturns, hact, hret⟩ := hiff.mpr (hcond hdis)
      exact ⟨fun _ _ => hreturns, fun _ _ => hact, fun _ _ => hret, hmasked,
        fun _ hne => absurd rfl hne, fun hen => absurd (hdis.symm.trans hen) (by decide)⟩
  · have hno : operation = .setEnabledState true → alarm.enabledState = false → False :=
      fun hop hdis => henable ⟨hop, hdis⟩
    refine iff_of_true ⟨fun hop hd => (hno hop hd).elim, fun hop hd => (hno hop hd).elim,
      fun hop hd => (hno hop hd).elim, hmasked, fun hd hop => raisedEvents_disabled hd hop, ?_⟩ ?_
    · rintro hen rfl
      simp only [raisedEvents, perform, hen]
      rfl
    · unfold ReevaluationCondition
      split
      · exact fun hdis => (hno rfl hdis).elim
      · trivial

/-- **The operations of a run** of a new alarm do what is expected exactly when each of them meets its
condition. -/
theorem run_keepsReevaluation_iff (kind : Kind) (browseName : String)
    (inputNodeOption : InputNodeOption) (inputNode : InputDataValue)
    (limits : Limit → Option LimitProperty) (operations : List Operation) :
    Mealy.Along step KeepsReevaluation
        (instantiate kind browseName inputNodeOption inputNode limits).alarm operations ↔
      Mealy.Along step ReevaluationCondition
        (instantiate kind browseName inputNodeOption inputNode limits).alarm operations := by
  have hinit : (initial kind browseName inputNodeOption inputNode limits).Masked :=
    fun hdis => absurd (show true = false from hdis) (by decide)
  have hstart : (instantiate kind browseName inputNodeOption inputNode limits).alarm.Masked := by
    unfold instantiate
    split_ifs
    · exact hinit
    · exact updateState_masked _ hinit
  exact Mealy.along_iff step (I := Masked) (fun _ operation h _ => perform_masked h operation)
    (fun _ operation h => keepsReevaluation_iff h operation) hstart operations

/-- **Not every run reevaluates the alarm**: an alarm that has exceeded its limit while it was disabled
is active and not retained when it is enabled. -/
theorem runs_not_keepsReevaluation :
    let limits : Limit → Option LimitProperty := fun l =>
      if l = .high then some ⟨.ofNat 50, 0⟩ else none
    ¬ Mealy.Along step KeepsReevaluation
      (instantiate .exclusive "Alarm" .node ⟨.Good, some (.ofNat 10), 0⟩ limits).alarm
      [.setEnabledState false, .setInputValue ⟨.Good, some (.ofNat 60), 1⟩,
        .setEnabledState true] := by
  intro limits h
  have hret := h.2.2.1.retained rfl (by decide +kernel) (Or.inl (by decide +kernel))
  exact absurd hret (by decide +kernel)

end LimitAlarm

end NodeOpcua
