import NodeOpcua.Library.NumberArithmetic
import NodeOpcua.StatusCode

set_option autoImplicit false

/-!
# Limit alarms

A limit alarm watches the value of its input node, and is active when the value exceeds a limit. An
exclusive alarm is in one limit state at most, a non-exclusive one has a state for each of its
limits.

## Main definitions

* `LimitAlarm`, `UAAlarmConditionImplBase._signalNewCondition`,
  `UAExclusiveLimitAlarmImplBase._signalNewCondition`,
  `UANonExclusiveLimitAlarmImplBase._signalNewCondition2`, `LimitAlarm._onInputDataValueChange`,
  `LimitAlarm.instantiate`, `LimitAlarm.step`.

## Design

* An input value is a number, or null. Data values that follow each other are compared by their
  status, their value and their source timestamp, which is a counter here.
* The events that are raised, and the fields of a condition that no state depends on, are left out.
  A listener that throws keeps the listeners after it from being called.
-/

namespace NodeOpcua

/-! ### The parts of an alarm -/

/-- The limits of an alarm, in the order of `IState`. -/
inductive Limit
  | highHigh
  | high
  | low
  | lowLow
  deriving DecidableEq, Repr

namespace Limit

/-- The limits, in the order of `IState`. -/
def all : List Limit := [highHigh, high, low, lowLow]

/-- The name of the state of a limit. -/
def stateName : Limit → String
  | highHigh => "HighHigh"
  | high => "High"
  | low => "Low"
  | lowLow => "LowLow"

/-- The key of a limit in `IState`. -/
def key : Limit → String
  | highHigh => "highHigh"
  | high => "high"
  | low => "low"
  | lowLow => "lowLow"

/-- A value exceeds the limit. -/
def exceeds : Limit → Number → Number → Bool
  | highHigh, limit, value => limit.lt value
  | high, limit, value => limit.lt value
  | low, limit, value => value.lt limit
  | lowLow, limit, value => value.lt limit

end Limit

/-- A data value of the input node. -/
structure InputDataValue where
  statusCode : StatusCode
  value : Option Number
  sourceTimestamp : ℕ

/-- `sameDataValue`. -/
def InputDataValue.same (v1 v2 : InputDataValue) : Bool :=
  v1.statusCode = v2.statusCode && v1.sourceTimestamp = v2.sourceTimestamp &&
    match v1.value, v2.value with
    | none, none => true
    | some x, some y => x.strictEq y
    | _, _ => false

/-- The property that has a limit. -/
structure LimitProperty where
  value : Number
  sourceTimestamp : ℕ

/-- `ConditionInfoImpl`. -/
structure ConditionInfo where
  message : String
  quality : StatusCode
  severity : ℕ
  retain : Bool
  deriving DecidableEq, Repr

/-- The part of a `ConditionSnapshotImpl` that the state of an alarm depends on. -/
structure ConditionSnapshot where
  conditionInfo : ConditionInfo
  activeState : Bool
  ackedState : Bool
  deriving DecidableEq, Repr

/-- **The limit states of an alarm**: the current state of its state machine, or a state for each of
its limits. -/
inductive LimitStates
  | exclusive (limitState : Option Limit)
  | nonExclusive (states : Limit → Bool)

/-- **A limit alarm**, with its input node and the number of the listeners that it has there. -/
structure LimitAlarm where
  browseName : String
  inputNode : InputDataValue
  listeners : ℕ
  limits : Limit → Option LimitProperty
  limitStates : LimitStates
  enabledState : Bool
  previousRetainFlag : Bool
  branch0 : ConditionSnapshot
  branches : List ConditionSnapshot

/-- **What a call leaves**: the alarm, and what is thrown. -/
structure AlarmCall where
  alarm : LimitAlarm
  thrown : Option String := none

/-- The rest of a call, when nothing was thrown. -/
def AlarmCall.andThen (call : AlarmCall) (f : LimitAlarm → AlarmCall) : AlarmCall :=
  match call.thrown with
  | none => f call.alarm
  | some _ => call

namespace LimitAlarm

/-- The message of a failed assertion that has none. -/
def assertionFailed : String := ""

/-- `setActiveState` and `setAckedState` of the current branch. -/
def setActive (alarm : LimitAlarm) (activeState ackedState : Bool) : LimitAlarm :=
  { alarm with branch0 := { alarm.branch0 with activeState, ackedState } }

/-- `setRetain` of the current branch. -/
def setRetain (alarm : LimitAlarm) (retain : Bool) : LimitAlarm :=
  { alarm with
    branch0 :=
      { alarm.branch0 with conditionInfo := { alarm.branch0.conditionInfo with retain } } }

/-- `createBranch`: a snapshot of the current branch. -/
def createBranch (alarm : LimitAlarm) : LimitAlarm :=
  { alarm with branches := alarm.branches ++ [alarm.branch0] }

/-- `raiseNewCondition`. -/
def raiseNewCondition (alarm : LimitAlarm) (conditionInfo : ConditionInfo) : AlarmCall :=
  if !alarm.enabledState then
    ⟨alarm, some "UACondition#raiseNewCondition Condition is not enabled"⟩
  else ⟨{ alarm with branch0 := { alarm.branch0 with conditionInfo } }, none⟩

/-- The condition of an alarm that is not active. -/
def backToNormal : ConditionInfo where
  message := "Back to normal"
  quality := .Good
  severity := 0
  retain := true

/-- The condition of an active alarm, for the printed value and the printed states. -/
def activeCondition (value stateData : String) : ConditionInfo where
  message := "Condition is " ++ value ++ " and state is " ++ stateData
  quality := .Good
  severity := 150
  retain := true

end LimitAlarm

open LimitAlarm

/-! ### A new condition -/

namespace UAAlarmConditionImplBase

/-- `_calculateConditionInfo`. -/
def _calculateConditionInfo (stateData : Option String) (value : String) : ConditionInfo :=
  match stateData with
  | none => backToNormal
  | some stateData => activeCondition value stateData

/-- **`_signalNewCondition`**, with the condition that `_calculateConditionInfo` gives. -/
def _signalNewCondition (alarm : LimitAlarm) (newConditionInfo : ConditionInfo) (isActive : Bool) :
    AlarmCall :=
  if !alarm.enabledState then ⟨alarm, some assertionFailed⟩
  else if alarm.branch0.conditionInfo = newConditionInfo then
    ⟨alarm, some ("condition values have not change, shall we really raise an event ? alarm " ++
      alarm.browseName)⟩
  else if isActive then (alarm.setActive true false).raiseNewCondition newConditionInfo
  else
    let alarm :=
      if !alarm.branch0.ackedState && alarm.branch0.conditionInfo.retain then alarm.createBranch
      else alarm
    (alarm.setActive false true).raiseNewCondition newConditionInfo

end UAAlarmConditionImplBase

namespace UAExclusiveLimitAlarmImplBase

/-- `_signalNewCondition`: the state machine is set before the condition is signalled. -/
def _signalNewCondition (alarm : LimitAlarm) (state : Option Limit) (isActive : Bool)
    (value : String) : AlarmCall :=
  UAAlarmConditionImplBase._signalNewCondition { alarm with limitStates := .exclusive state }
    (UAAlarmConditionImplBase._calculateConditionInfo (state.map Limit.stateName) value) isActive

/-- The state of a value: the first limit that it exceeds, in the order of the source. -/
def stateOf (limits : Limit → Option LimitProperty) (value : Number) : Option Limit :=
  [Limit.highHigh, .high, .lowLow, .low].find? fun l =>
    (limits l).any fun limit => l.exceeds limit.value value

/-- `_setStateBasedOnInputValue`. -/
def _setStateBasedOnInputValue (alarm : LimitAlarm) (oldState : Option Limit) (value : Number) :
    AlarmCall :=
  if !value.isFinite then ⟨alarm, some assertionFailed⟩
  else
    let state := stateOf alarm.limits value
    if state ≠ oldState then
      _signalNewCondition alarm state state.isSome (String.ofList (value.toFixed 3))
    else ⟨alarm, none⟩

end UAExclusiveLimitAlarmImplBase

namespace UANonExclusiveLimitAlarmImplBase

/-- `_calculateConditionInfo`: the states do not matter when the alarm is not active. -/
def _calculateConditionInfo (state : Option String) (isActive : Bool) (value : String) :
    ConditionInfo :=
  if !isActive then backToNormal else activeCondition value (state.getD "null")

/-- `IState`: the state of a limit, which is unset when the alarm has no such limit. -/
def iState (limits : Limit → Option LimitProperty) (states : Limit → Bool) (l : Limit) :
    Option Bool :=
  (limits l).map fun _ => states l

/-- A state as it is printed in `IState`. -/
def stateText : Option Bool → String
  | none => "\"unset\""
  | some true => "true"
  | some false => "false"

/-- `JSON.stringify(states)`. -/
def stringify (states : Limit → Option Bool) : String :=
  "\x7b\"highHigh\":" ++ stateText (states .highHigh) ++ ",\"high\":" ++ stateText (states .high) ++
    ",\"low\":" ++ stateText (states .low) ++ ",\"lowLow\":" ++ stateText (states .lowLow) ++ "\x7d"

/-- `_signalNewCondition2`: the states are set before the condition is signalled. -/
def _signalNewCondition2 (alarm : LimitAlarm) (states : Limit → Bool) (isActive : Bool)
    (value : String) : AlarmCall :=
  UAAlarmConditionImplBase._signalNewCondition { alarm with limitStates := .nonExclusive states }
    (_calculateConditionInfo (some (stringify (iState alarm.limits states))) isActive value) isActive

/-- The states of a value. The state of a limit that the alarm does not have stays as it is. -/
def statesOf (limits : Limit → Option LimitProperty) (states : Limit → Bool) (value : Number)
    (l : Limit) : Bool :=
  match limits l with
  | none => states l
  | some limit => l.exceeds limit.value value

/-- `_setStateBasedOnInputValue`. -/
def _setStateBasedOnInputValue (alarm : LimitAlarm) (oldStates : Limit → Bool) (value : Number) :
    AlarmCall :=
  if !value.isFinite then ⟨alarm, some "expecting a valid value here"⟩
  else
    let states := statesOf alarm.limits oldStates value
    let isActive := Limit.all.any fun l => iState alarm.limits states l = some true
    if Limit.all.any fun l => states l ≠ oldStates l then
      _signalNewCondition2 alarm states isActive (String.ofList (value.toFixed 3))
    else ⟨alarm, none⟩

end UANonExclusiveLimitAlarmImplBase

/-! ### The three triggers -/

namespace LimitAlarm

/-- `this._signalNewCondition(null, false, …)`: only an exclusive alarm leaves its limit state. -/
def _signalNewCondition (alarm : LimitAlarm) (value : String) : AlarmCall :=
  match alarm.limitStates with
  | .exclusive _ => UAExclusiveLimitAlarmImplBase._signalNewCondition alarm none false value
  | .nonExclusive _ =>
    UAAlarmConditionImplBase._signalNewCondition alarm
      (UANonExclusiveLimitAlarmImplBase._calculateConditionInfo none false value) false

/-- `this._setStateBasedOnInputValue`. -/
def _setStateBasedOnInputValue (alarm : LimitAlarm) (value : Number) : AlarmCall :=
  match alarm.limitStates with
  | .exclusive state =>
    UAExclusiveLimitAlarmImplBase._setStateBasedOnInputValue alarm state value
  | .nonExclusive states =>
    UANonExclusiveLimitAlarmImplBase._setStateBasedOnInputValue alarm states value

/-- **`_onInputDataValueChange`**. -/
def _onInputDataValueChange (alarm : LimitAlarm) (dataValue : InputDataValue) : AlarmCall :=
  if dataValue.statusCode = .BadWaitingForInitialData then ⟨alarm, none⟩
  else if dataValue.statusCode.isNotGood && dataValue.statusCode ≠ .UncertainInitialValue then
    alarm._signalNewCondition "Input node value is not good"
  else
    match dataValue.value with
    | none => alarm._signalNewCondition "Input node value is null"
    | some value => alarm._setStateBasedOnInputValue value

/-- `updateState`. -/
def updateState (alarm : LimitAlarm) : AlarmCall := alarm._onInputDataValueChange alarm.inputNode

/-- A listener on the input node. -/
def inputListener (newDataValue : InputDataValue) (alarm : LimitAlarm) : AlarmCall :=
  if !alarm.enabledState then ⟨alarm, none⟩ else alarm._onInputDataValueChange newDataValue

/-- The listeners are called one after the other. -/
def callListeners (listener : LimitAlarm → AlarmCall) : ℕ → LimitAlarm → AlarmCall
  | 0, alarm => ⟨alarm, none⟩
  | n + 1, alarm => (listener alarm).andThen (callListeners listener n)

/-- `setValueFromSource` of the input node. -/
def setInputValue (alarm : LimitAlarm) (dataValue : InputDataValue) : AlarmCall :=
  let updated := { alarm with inputNode := dataValue }
  if alarm.inputNode.same dataValue then ⟨updated, none⟩
  else callListeners (inputListener dataValue) alarm.listeners updated

/-- `setHighHighLimit`, `setHighLimit`, `setLowLimit` and `setLowLowLimit`. -/
def setLimit (alarm : LimitAlarm) (l : Limit) (value : Number) (sourceTimestamp : ℕ) : AlarmCall :=
  match alarm.limits l with
  | none => ⟨alarm, some ("LimitAlarm instance must expose the optional " ++ l.stateName ++
      "Limit property")⟩
  | some limit =>
    let updated :=
      { alarm with limits := Function.update alarm.limits l (some { value, sourceTimestamp }) }
    if limit.sourceTimestamp = sourceTimestamp ∧ limit.value.strictEq value = true then
      ⟨updated, none⟩
    else updated.updateState

/-- `_setEnabledState`: the flag `Retain` is kept while the alarm is disabled. The status code is
`BadConditionAlreadyEnabled` or `BadConditionAlreadyDisabled` when there is nothing to do. -/
def setEnabledState (alarm : LimitAlarm) (requestedEnabledState : Bool) : AlarmCall :=
  if alarm.enabledState = requestedEnabledState then ⟨alarm, none⟩
  else if !requestedEnabledState then
    ⟨({ alarm with
        enabledState := false
        previousRetainFlag := alarm.branch0.conditionInfo.retain } : LimitAlarm).setRetain false,
      none⟩
  else
    -- `evaluateConditionsAfterEnabled`
    ({ alarm with enabledState := true } : LimitAlarm).updateState.andThen fun alarm =>
      ⟨alarm.setRetain alarm.previousRetainFlag, none⟩

/-! ### Alarms and what may be done with them -/

/-- The two kinds of limit alarms. -/
inductive Kind
  | exclusive
  | nonExclusive
  deriving DecidableEq, Repr

/-- `options.inputNode`: the node, or its identifier. -/
inductive InputNodeOption
  | node
  | nodeId
  deriving DecidableEq, Repr

/-- The listeners that `installInputNodeMonitoring` puts on the input node: it is called twice, and
puts none when it is given an identifier. -/
def InputNodeOption.listeners : InputNodeOption → ℕ
  | .node => 2
  | .nodeId => 0

section

variable (kind : Kind) (browseName : String) (inputNodeOption : InputNodeOption)
  (inputNode : InputDataValue) (limits : Limit → Option LimitProperty)

/-- The alarm before its state is computed for the first time. -/
def initial : LimitAlarm where
  browseName := browseName
  inputNode := inputNode
  listeners := inputNodeOption.listeners
  limits := limits
  limitStates :=
    match kind with
    | .exclusive => .exclusive none
    | .nonExclusive => .nonExclusive fun _ => false
  enabledState := true
  previousRetainFlag := false
  branch0 :=
    { conditionInfo := { message := "", quality := .Good, severity := 0, retain := false }
      activeState := false
      ackedState := false }
  branches := []

/-- **`instantiate`** of both kinds. -/
def instantiate : AlarmCall :=
  let alarm := initial kind browseName inputNodeOption inputNode limits
  if Limit.all.all fun l => (limits l).isNone then ⟨alarm, some "at least one limit is required"⟩
  else alarm.updateState

end

/-- What may be done with an alarm. -/
inductive Operation
  | setInputValue (dataValue : InputDataValue)
  | setLimit (l : Limit) (value : Number) (sourceTimestamp : ℕ)
  | setEnabledState (requestedEnabledState : Bool)

/-- **One operation**. -/
def perform (alarm : LimitAlarm) : Operation → AlarmCall
  | .setInputValue dataValue => alarm.setInputValue dataValue
  | .setLimit l value sourceTimestamp => alarm.setLimit l value sourceTimestamp
  | .setEnabledState requestedEnabledState => alarm.setEnabledState requestedEnabledState

/-- The operations as steps of a machine, whose output is what is thrown. -/
def step (alarm : LimitAlarm) (operation : Operation) : LimitAlarm × List String :=
  ((alarm.perform operation).alarm, (alarm.perform operation).thrown.toList)

end LimitAlarm

end NodeOpcua
