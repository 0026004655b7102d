import NodeOpcua.AlarmsAndConditions.LimitAlarm

set_option autoImplicit false

/-!
# Acknowledgeable conditions

An alarm that returns to normal before it was acknowledged keeps the earlier state as a branch of its
own, which clients acknowledge, and confirm when the alarm has the state `ConfirmedState`, by the
identifier of the last event of the branch.

## Main definitions

* `ConditionSnapshotImpl`, `AcknowledgeableAlarm`, `AcknowledgeableAlarm._signalNewCondition`,
  `AcknowledgeableAlarm._acknowledge_method`, `AcknowledgeableAlarm._confirm_method`,
  `AcknowledgeableAlarm.instantiate`, `AcknowledgeableAlarm.step`.

## Design

* The identifier of an event is a random prefix and a counter of the address space, which is
  what is kept of it; numbers that the counter does not reach stand for all other identifiers. A
  branch identifier is random: a number that was not given before, where 0 is the null identifier.
* The setters of a branch change the branch that is at hand, which is stored before anything can
  throw; a branch that was deleted is stored nowhere.
* The events themselves and the listeners are left out, and so are `activateAlarm` and
  `deactivateAlarm`, which set flags of the current branch and signal nothing.
-/

namespace NodeOpcua

/-- `ConditionInfoImpl`, as it is given for a new condition: what is null is left as it is. -/
structure ConditionInfoOptions where
  message : Option String
  quality : Option StatusCode
  severity : Option ℕ
  retain : Option Bool
  deriving DecidableEq, Repr

/-- A condition as options. -/
def ConditionInfo.toOptions (info : ConditionInfo) : ConditionInfoOptions :=
  ⟨some info.message, some info.quality, some info.severity, some info.retain⟩

/-- The condition after the values that are given were set. -/
def ConditionInfo.set (info : ConditionInfo) (options : ConditionInfoOptions) : ConditionInfo where
  message := options.message.getD info.message
  quality := options.quality.getD info.quality
  severity := options.severity.getD info.severity
  retain := options.retain.getD info.retain

/-- **`ConditionSnapshotImpl`**: a branch. -/
structure ConditionSnapshotImpl where
  branchId : ℕ
  eventId : Option ℕ
  conditionInfo : ConditionInfo
  activeState : Bool
  ackedState : Bool
  confirmedState : Bool
  comment : String
  clientUserId : String
  deriving DecidableEq, Repr

namespace ConditionSnapshotImpl

variable (branch : ConditionSnapshotImpl)

/-- `getRetain`. -/
def getRetain : Bool := branch.conditionInfo.retain

/-- `setRetain`. -/
def setRetain (retain : Bool) : ConditionSnapshotImpl :=
  { branch with conditionInfo := { branch.conditionInfo with retain } }

/-- `isCurrentBranch`. -/
def isCurrentBranch : Bool := branch.branchId = 0

/-- `_setAckedState(true, …)`. -/
def _setAckedState : StatusCode × ConditionSnapshotImpl :=
  if branch.ackedState then (.BadConditionBranchAlreadyAcked, branch)
  else (.Good, { branch with ackedState := true })

end ConditionSnapshotImpl

/-- **An acknowledgeable alarm**, with the counter of its address space. -/
structure AcknowledgeableAlarm where
  browseName : String
  enabledState : Bool
  hasConfirmedState : Bool
  eventIdCounter : ℕ
  nextBranchId : ℕ
  branch0 : ConditionSnapshotImpl
  branches : List ConditionSnapshotImpl
  deriving DecidableEq

/-- **What a call leaves**: the alarm, and what the call returns or throws. -/
structure ConditionCall (α : Type) where
  alarm : AcknowledgeableAlarm
  result : Except String α

/-- The rest of a call, when nothing was thrown. -/
def ConditionCall.andThen {α β : Type} (call : ConditionCall α)
    (f : α → AcknowledgeableAlarm → ConditionCall β) : ConditionCall β :=
  match call.result with
  | .ok a => f a call.alarm
  | .error message => ⟨call.alarm, .error message⟩

@[simp] lemma ConditionCall.andThen_ok {α β : Type} (alarm : AcknowledgeableAlarm) (a : α)
    (f : α → AcknowledgeableAlarm → ConditionCall β) :
    ConditionCall.andThen ⟨alarm, .ok a⟩ f = f a alarm := rfl

@[simp] lemma ConditionCall.andThen_error {α β : Type} (alarm : AcknowledgeableAlarm)
    (message : String) (f : α → AcknowledgeableAlarm → ConditionCall β) :
    ConditionCall.andThen ⟨alarm, .error message⟩ f = ⟨alarm, .error message⟩ := rfl

namespace AcknowledgeableAlarm

/-- The largest value that `writeInt32BE` takes. -/
def maxInt32 : ℕ := 2147483647

section

variable (alarm : AcknowledgeableAlarm)

/-- **`generateEventId`**: the counter is increased. -/
def generateEventId : ConditionCall ℕ :=
  if alarm.eventIdCounter < maxInt32 then
    ⟨{ alarm with eventIdCounter := alarm.eventIdCounter + 1 }, .ok (alarm.eventIdCounter + 1)⟩
  else ⟨alarm, .error "The value of \"value\" is out of range."⟩

/-! ### Branches -/

/-- A branch as it is from now on. -/
def store (branch : ConditionSnapshotImpl) : AcknowledgeableAlarm :=
  if branch.isCurrentBranch then { alarm with branch0 := branch }
  else
    { alarm with
      branches := alarm.branches.map fun b => if b.branchId = branch.branchId then branch else b }

/-- `createBranch`: a snapshot of the current branch. -/
def createBranch : AcknowledgeableAlarm × ConditionSnapshotImpl :=
  let snapshot := { alarm.branch0 with branchId := alarm.nextBranchId }
  ({ alarm with
      nextBranchId := alarm.nextBranchId + 1
      branches := alarm.branches ++ [snapshot] }, snapshot)

/-- `deleteBranch`. -/
def deleteBranch (branch : ConditionSnapshotImpl) :
    ConditionCall Unit :=
  if branch.isCurrentBranch then ⟨alarm, .error "cannot delete branch zero"⟩
  else if !alarm.branches.any fun b => b.branchId = branch.branchId then
    ⟨alarm, .error LimitAlarm.assertionFailed⟩
  else
    ⟨{ alarm with branches := alarm.branches.filter fun b => b.branchId ≠ branch.branchId }, .ok ()⟩

/-- **`findBranchForEventId`**. -/
def findBranchForEventId (eventId : Option ℕ) :
    Except String (Option ConditionSnapshotImpl) :=
  if alarm.branch0.eventId = eventId then .ok (some alarm.branch0)
  else
    match alarm.branches.filter fun branch => branch.eventId = eventId with
    | [] => .ok none
    | [branch] => .ok (some branch)
    | _ => .error "cannot have 2 branches with same eventId"

/-! ### Events -/

/-- **`raiseConditionEvent`** with a renewed event identifier. -/
def raiseConditionEvent (branch : ConditionSnapshotImpl) :
    ConditionCall ConditionSnapshotImpl :=
  alarm.generateEventId.andThen fun eventId alarm =>
    let branch := { branch with eventId := some eventId }
    ⟨alarm.store branch, .ok branch⟩

/-- **`raiseNewBranchState`**: a branch that is not retained is deleted. -/
def raiseNewBranchState (branch : ConditionSnapshotImpl) :
    ConditionCall ConditionSnapshotImpl :=
  (alarm.raiseConditionEvent branch).andThen fun branch alarm =>
    if !branch.isCurrentBranch && !branch.getRetain then
      (alarm.deleteBranch branch).andThen fun _ alarm => ⟨alarm, .ok branch⟩
    else ⟨alarm, .ok branch⟩

end

/-- `raiseNewCondition`, for the current branch with the states that it has by then. -/
def raiseNewCondition (alarm : AcknowledgeableAlarm) (conditionInfo : ConditionInfoOptions) :
    ConditionCall Unit :=
  if !alarm.enabledState then
    ⟨alarm, .error "UACondition#raiseNewCondition Condition is not enabled"⟩
  else
    let branch :=
      { alarm.branch0 with conditionInfo := alarm.branch0.conditionInfo.set conditionInfo }
    ((alarm.store branch).raiseConditionEvent branch).andThen fun _ alarm => ⟨alarm, .ok ()⟩

section

variable (alarm : AcknowledgeableAlarm)

/-- `raiseEvent` of an audit event, which has an identifier of its own. -/
def raiseAuditEvent : ConditionCall Unit :=
  alarm.generateEventId.andThen fun _ alarm => ⟨alarm, .ok ()⟩

/-! ### A new condition -/

/-- `setActiveState` and `setAckedState` of the current branch. -/
def setActive (activeState ackedState : Bool) :
    AcknowledgeableAlarm :=
  { alarm with branch0 := { alarm.branch0 with activeState, ackedState } }

/-- **`_signalNewCondition`**, with the condition that `_calculateConditionInfo` gives. -/
def _signalNewCondition (newConditionInfo : ConditionInfoOptions)
    (isActive : Bool) : ConditionCall Unit :=
  if !alarm.enabledState then ⟨alarm, .error LimitAlarm.assertionFailed⟩
  else if alarm.branch0.conditionInfo.toOptions = newConditionInfo then
    ⟨alarm, .error ("condition values have not change, shall we really raise an event ? alarm " ++
      alarm.browseName)⟩
  else if isActive then (alarm.setActive true false).raiseNewCondition newConditionInfo
  else
    -- the earlier state gets a branch, when it is not acknowledged yet
    let kept : ConditionCall Unit :=
      if !alarm.branch0.ackedState && alarm.branch0.getRetain then
        let (alarm, newBranch) := alarm.createBranch
        (alarm.raiseNewBranchState newBranch).andThen fun _ alarm => ⟨alarm, .ok ()⟩
      else ⟨alarm, .ok ()⟩
    kept.andThen fun _ alarm => (alarm.setActive false true).raiseNewCondition newConditionInfo

/-! ### The methods -/

/-- **`_acknowledge_branch`**, with the branch that it leaves. -/
def _acknowledge_branch (comment : String)
    (branch : ConditionSnapshotImpl) : ConditionCall (StatusCode × ConditionSnapshotImpl) :=
  let (statusCode, branch) := branch._setAckedState
  if statusCode.isNotGood then ⟨alarm, .ok (statusCode, branch)⟩
  else
    let branch :=
      if alarm.hasConfirmedState then { branch with confirmedState := false }.setRetain true
      else branch.setRetain false
    let branch := { branch with comment }
    ((alarm.store branch).raiseNewBranchState branch).andThen fun branch alarm =>
      alarm.raiseAuditEvent.andThen fun _ alarm => ⟨alarm, .ok (.Good, branch)⟩

/-- **`_confirm_branch`**, with the branch that it leaves: there are two audit events. -/
def _confirm_branch (comment : String)
    (branch : ConditionSnapshotImpl) : ConditionCall ConditionSnapshotImpl :=
  let branch := { ({ branch with confirmedState := true }.setRetain false) with comment }
  (alarm.store branch).raiseAuditEvent.andThen fun _ alarm =>
    alarm.raiseAuditEvent.andThen fun _ alarm => alarm.raiseNewBranchState branch

/-- **`with_condition_method`**: what is done with the branch gives a status and the branch as it
leaves it. -/
def with_condition_method (eventId : Option ℕ) (userName : String)
    (inner_func : ConditionSnapshotImpl → ConditionCall (StatusCode × ConditionSnapshotImpl)) :
    ConditionCall StatusCode :=
  if !alarm.enabledState then ⟨alarm, .ok .BadConditionDisabled⟩
  else
    match alarm.findBranchForEventId eventId with
    | .error message => ⟨alarm, .error message⟩
    | .ok none => ⟨alarm, .ok .BadEventIdUnknown⟩
    | .ok (some branch) =>
      (inner_func branch).andThen fun result alarm =>
        ⟨alarm.store { result.2 with clientUserId := userName }, .ok result.1⟩

/-- **`_acknowledge_method`**. -/
def _acknowledge_method (eventId : Option ℕ)
    (comment userName : String) : ConditionCall StatusCode :=
  alarm.with_condition_method eventId userName fun branch =>
    (alarm._acknowledge_branch comment branch).andThen fun result alarm =>
      ⟨alarm, .ok (.Good, result.2)⟩

/-- **`_confirm_method`**. -/
def _confirm_method (eventId : Option ℕ) (comment userName : String) : ConditionCall StatusCode :=
  alarm.with_condition_method eventId userName fun branch =>
    if eventId.isNone then ⟨alarm, .error LimitAlarm.assertionFailed⟩
    else if !alarm.hasConfirmedState then ⟨alarm, .error "Must have a confirmed state"⟩
    else if branch.confirmedState then
      ⟨alarm, .ok (.BadConditionBranchAlreadyConfirmed, branch)⟩
    else
      (alarm._confirm_branch comment branch).andThen fun branch alarm => ⟨alarm, .ok (.Good, branch)⟩

end

/-! ### Alarms and what may be done with them -/

/-- **`instantiate`**: a new alarm, of an address space that has given some event identifiers. -/
def instantiate (browseName : String) (hasConfirmedState : Bool) (eventIdCounter : ℕ) :
    AcknowledgeableAlarm where
  browseName := browseName
  enabledState := true
  hasConfirmedState := hasConfirmedState
  eventIdCounter := eventIdCounter
  nextBranchId := 1
  branch0 :=
    { branchId := 0
      eventId := none
      conditionInfo := { message := "", quality := .Good, severity := 0, retain := false }
      activeState := false
      ackedState := false
      confirmedState := false
      comment := ""
      clientUserId := "" }
  branches := []

/-- What may be done with an alarm. -/
inductive Operation
  | _signalNewCondition (newConditionInfo : ConditionInfoOptions) (isActive : Bool)
  | acknowledge (eventId : Option ℕ) (comment userName : String)
  | confirm (eventId : Option ℕ) (comment userName : String)

/-- **One operation**: the methods answer with a status. -/
def perform (alarm : AcknowledgeableAlarm) : Operation → ConditionCall (Option StatusCode)
  | ._signalNewCondition newConditionInfo isActive =>
    (alarm._signalNewCondition newConditionInfo isActive).andThen fun _ alarm => ⟨alarm, .ok none⟩
  | .acknowledge eventId comment userName =>
    (alarm._acknowledge_method eventId comment userName).andThen fun statusCode alarm =>
      ⟨alarm, .ok (some statusCode)⟩
  | .confirm eventId comment userName =>
    (alarm._confirm_method eventId comment userName).andThen fun statusCode alarm =>
      ⟨alarm, .ok (some statusCode)⟩

/-- The operations as steps of a machine, whose output is what they return or throw. -/
def step (alarm : AcknowledgeableAlarm) (operation : Operation) :
    AcknowledgeableAlarm × List (Except String (Option StatusCode)) :=
  ((alarm.perform operation).alarm, [(alarm.perform operation).result])

end AcknowledgeableAlarm

end NodeOpcua
