import NodeOpcua.Library.Mealy
import NodeOpcua.Library.NumberArithmetic
import NodeOpcua.StatusCode

set_option autoImplicit false

/-!
# The shelving of alarms

A shelved alarm is not displayed for some time. Its state machine has methods that shelve and
unshelve the alarm, and a timer that unshelves it.

## Main definitions

* `UAShelvedStateMachineEx`, `UAShelvedStateMachineEx.step`,
  `UAShelvedStateMachineEx.KeepsShelving`, `UAShelvedStateMachineEx.StepCondition`.

## Design

* Shelvings are numbered, and a scheduled timeout has the number of the shelving that armed it. No
  function of the source looks at these numbers.
* Time is left out: a timeout that is scheduled may expire at any step.
-/

namespace NodeOpcua

/-- The states of the state machine. -/
inductive ShelvingState
  | unshelved
  | timedShelved
  | oneShotShelved
  deriving DecidableEq, Repr

/-- A timeout that is scheduled, with the shelving that armed it. -/
structure ShelvingTimeout where
  id : ℕ
  shelving : ℕ
  deriving DecidableEq, Repr

/-- **The state machine of an alarm**, with the property `MaxTimeShelved` of the alarm, the scheduled
timeouts and the number of the last shelving. -/
structure UAShelvedStateMachineEx where
  currentState : Option ShelvingState
  _timer : Option ℕ
  maxTimeShelved : Option Number
  timeouts : List ShelvingTimeout
  nextTimeout : ℕ
  shelving : ℕ

namespace UAShelvedStateMachineEx

/-- **What a call leaves**: the state machine, and the answer or what is thrown. -/
structure Call where
  machine : UAShelvedStateMachineEx
  answer : Except String StatusCode

/-- `UAAlarmConditionImplBase.MaxDuration`. -/
def MaxDuration : Number := .ofNat (2 ^ 31)

/-- The message of a failed assertion that has none. -/
def assertionFailed : String := ""

section

variable (machine : UAShelvedStateMachineEx)

/-- `getMaxTimeShelved`. -/
def getMaxTimeShelved : Number :=
  match machine.maxTimeShelved with
  | none => MaxDuration
  | some value => if value = .nan then .ofNat 0 else value

/-- `setState`. -/
def setState (state : ShelvingState) :
    UAShelvedStateMachineEx :=
  { machine with
    currentState := some state
    shelving := if state = .unshelved then machine.shelving else machine.shelving + 1 }

/-- `_clear_timer_if_any`. -/
def _clear_timer_if_any : UAShelvedStateMachineEx :=
  match machine._timer with
  | none => machine
  | some timer =>
    { machine with
      _timer := none
      timeouts := machine.timeouts.filter fun timeout => timeout.id ≠ timer }

/-- `setTimeout`, whose result is the timer. -/
def setTimeout : UAShelvedStateMachineEx :=
  { machine with
    _timer := some machine.nextTimeout
    timeouts := machine.timeouts ++ [⟨machine.nextTimeout, machine.shelving⟩]
    nextTimeout := machine.nextTimeout + 1 }

/-- `_start_timer_for_automatic_unshelve`. -/
def _start_timer_for_automatic_unshelve (duration : Number) :
    Call :=
  if duration.lt (.ofNat 10) || duration.ge MaxDuration then
    ⟨machine, .error (" Invalid maxTimeShelved duration: " ++ String.ofList duration.toChars ++
      "  must be [10,2**31] ")⟩
  else if machine._timer.isSome then ⟨machine, .error assertionFailed⟩
  else if !duration.strictEq MaxDuration then ⟨machine.setTimeout, .ok .Good⟩
  else ⟨machine, .ok .Good⟩

/-- **`_timedShelve_method`**. -/
def _timedShelve_method (proposedDuration : Number) : Call :=
  if machine.currentState ≠ some .unshelved then ⟨machine, .ok .BadConditionAlreadyShelved⟩
  else
    let maxTimeShelved := machine.getMaxTimeShelved
    if !maxTimeShelved.isFinite then ⟨machine, .error assertionFailed⟩
    else if maxTimeShelved.lt proposedDuration then ⟨machine, .ok .BadShelvingTimeOutOfRange⟩
    else if proposedDuration.lt (.ofNat 0) then ⟨machine, .ok .BadShelvingTimeOutOfRange⟩
    else
      -- the state is set before the duration is looked at once more
      (machine._clear_timer_if_any.setState .timedShelved)._start_timer_for_automatic_unshelve
        proposedDuration

/-- **`_oneShotShelve_method`**. -/
def _oneShotShelve_method : Call :=
  if machine.currentState = some .oneShotShelved then ⟨machine, .ok .BadConditionAlreadyShelved⟩
  else
    let maxTimeShelved := machine.getMaxTimeShelved
    if !maxTimeShelved.isFinite then ⟨machine, .error assertionFailed⟩
    else if maxTimeShelved.strictEq MaxDuration then ⟨machine, .error assertionFailed⟩
    else
      (machine._clear_timer_if_any.setState .oneShotShelved)._start_timer_for_automatic_unshelve
        maxTimeShelved

/-- **`_unshelve_method`**. -/
def _unshelve_method : Call :=
  if machine.currentState = some .unshelved then ⟨machine, .ok .BadConditionNotShelved⟩
  else ⟨(machine.setState .unshelved)._clear_timer_if_any, .ok .Good⟩

/-- **`_automatically_unshelve`**. -/
def _automatically_unshelve : Call :=
  if machine._timer.isNone then ⟨machine, .error "expecting timerId to be set"⟩
  else if machine.currentState = some .unshelved then
    ⟨{ machine with _timer := none }, .ok .Good⟩
  else ⟨({ machine with _timer := none } : UAShelvedStateMachineEx).setState .unshelved, .ok .Good⟩

end

/-- What may happen to the state machine. -/
inductive Operation
  | timedShelve (proposedDuration : Number)
  | oneShotShelve
  | unshelve
  | expire (timeout : ShelvingTimeout)

/-- **One operation**. Only a timeout that is scheduled expires, and it is not scheduled any more
when its callback runs. -/
def perform (machine : UAShelvedStateMachineEx) : Operation → Call
  | .timedShelve proposedDuration => machine._timedShelve_method proposedDuration
  | .oneShotShelve => machine._oneShotShelve_method
  | .unshelve => machine._unshelve_method
  | .expire timeout =>
    if timeout ∈ machine.timeouts then
      { machine with timeouts := machine.timeouts.erase timeout }._automatically_unshelve
    else ⟨machine, .ok .Good⟩

/-- The operations as steps of a machine, whose output is the answer. -/
def step (machine : UAShelvedStateMachineEx) (operation : Operation) :
    UAShelvedStateMachineEx × List (Except String StatusCode) :=
  ((machine.perform operation).machine, [(machine.perform operation).answer])

/-- `promote`: a state machine that has no state yet, or is unshelved. -/
def promote (maxTimeShelved : Option Number) (unshelved : Bool) : UAShelvedStateMachineEx where
  currentState := if unshelved then some .unshelved else none
  _timer := none
  maxTimeShelved := maxTimeShelved
  timeouts := []
  nextTimeout := 0
  shelving := 0

/-! ### What is expected of a step -/

/-- **What is expected of an operation**: it throws nothing and changes nothing when the answer is
bad; one timeout is scheduled afterwards when the alarm is shelved for a time, and none when it is
not shelved; a timeout unshelves the shelving that armed it only. -/
structure KeepsShelving (machine : UAShelvedStateMachineEx) (operation : Operation) : Prop where
  answered : ∃ statusCode, (machine.perform operation).answer = .ok statusCode
  bad : ∀ statusCode, (machine.perform operation).answer = .ok statusCode →
    statusCode ≠ .Good → (machine.perform operation).machine = machine
  timedShelved : (machine.perform operation).machine.currentState = some .timedShelved →
    ∃ timeout, (machine.perform operation).machine.timeouts = [timeout] ∧
      (machine.perform operation).machine._timer = some timeout.id
  unshelved : (machine.perform operation).machine.currentState = some .unshelved →
    (machine.perform operation).machine.timeouts = []
  expired : ∀ timeout, operation = .expire timeout →
    (machine.perform operation).machine.currentState ≠ machine.currentState →
      timeout.shelving = machine.shelving

/-- A duration that a timer can be started with. -/
def ValidDuration (duration : Number) : Prop :=
  duration.lt (.ofNat 10) = false ∧ duration.ge MaxDuration = false

/-- **When a step does what is expected.** An alarm that is unshelved is shelved for a time that is
out of range, or that a timer can be started with, where `MaxTimeShelved` is finite. An alarm is
shelved once when a timer can be started with `MaxTimeShelved`, or when it is already. -/
def StepCondition (machine : UAShelvedStateMachineEx) : Operation → Prop
  | .timedShelve proposedDuration => machine.currentState = some .unshelved →
      machine.getMaxTimeShelved.isFinite = true ∧
        (machine.getMaxTimeShelved.lt proposedDuration = true ∨
          proposedDuration.lt (.ofNat 0) = true ∨ ValidDuration proposedDuration)
  | .oneShotShelve => machine.currentState ≠ some .oneShotShelved →
      machine.getMaxTimeShelved.isFinite = true ∧ ValidDuration machine.getMaxTimeShelved
  | .unshelve => True
  | .expire _ => True

/-- **What every reachable state machine has**: the timer, if any, is the one timeout that is
scheduled, armed by the last shelving; there is one when the alarm is shelved, and none when it is
not. -/
structure Inv (machine : UAShelvedStateMachineEx) : Prop where
  timeouts : machine.timeouts = (machine._timer.map fun id => ⟨id, machine.shelving⟩).toList
  unshelved : machine.currentState = some .unshelved → machine._timer = none
  timedShelved : machine.currentState = some .timedShelved → machine._timer ≠ none

/-! ### The parts of a step -/

variable {machine : UAShelvedStateMachineEx}

lemma clear_eq (h : machine.Inv) :
    machine._clear_timer_if_any = { machine with _timer := none, timeouts := [] } := by
  obtain ⟨currentState, timer, maxTimeShelved, timeouts, nextTimeout, shelving⟩ := machine
  have htime := h.timeouts
  cases timer with
  | none =>
    obtain rfl : timeouts = [] := htime
    rfl
  | some id =>
    obtain rfl : timeouts = [⟨id, shelving⟩] := htime
    simp [_clear_timer_if_any]

lemma not_valid_maxDuration : ¬ ValidDuration MaxDuration := by
  intro h
  have hne : MaxDuration ≠ .nan := by decide +kernel
  simp [ValidDuration, Number.ge, hne] at h

variable {duration : Number}

lemma strictEq_maxDuration (h : ValidDuration duration) :
    duration.strictEq MaxDuration = false := by
  have hne : duration ≠ MaxDuration := by
    rintro rfl
    exact not_valid_maxDuration h
  simp [Number.strictEq, hne]

/-- **A timer is started** with a valid duration, and with no other one. -/
lemma start_timer_eq (machine : UAShelvedStateMachineEx) (htimer : machine._timer = none)
    (duration : Number) :
    (ValidDuration duration →
      machine._start_timer_for_automatic_unshelve duration = ⟨machine.setTimeout, .ok .Good⟩) ∧
    (¬ ValidDuration duration → ∃ message,
      machine._start_timer_for_automatic_unshelve duration = ⟨machine, .error message⟩) := by
  unfold _start_timer_for_automatic_unshelve
  constructor
  · intro h
    rw [h.1, h.2, htimer, strictEq_maxDuration h]
    rfl
  · intro h
    have hinval : (duration.lt (.ofNat 10) || duration.ge MaxDuration) = true := by
      by_contra hvalid
      rw [Bool.not_eq_true, Bool.or_eq_false_iff] at hvalid
      exact h hvalid
    rw [if_pos hinval]
    exact ⟨_, rfl⟩

/-- **A new shelving**: the state is set, and its timeout is the one that is scheduled. -/
lemma shelve_inv (h : machine.Inv) {state : ShelvingState} (hstate : state ≠ .unshelved) :
    (machine._clear_timer_if_any.setState state).setTimeout.Inv := by
  rw [clear_eq h]
  refine ⟨?_, fun hunshelved => ?_, fun _ => Option.some_ne_none _⟩
  · rfl
  · exact absurd (Option.some.inj hunshelved) hstate

lemma unshelved_inv (htimer : machine._timer = none)
    (htime : machine.timeouts = []) : (machine.setState .unshelved).Inv := by
  refine ⟨?_, fun _ => htimer, fun h => nomatch h⟩
  simp only [setState, htimer, htime]
  rfl

lemma keepsShelving_of_inv {operation : Operation} (hinv : (machine.perform operation).machine.Inv)
    (hans : (machine.perform operation).answer = .ok .Good ∨
      ∃ status, machine.perform operation = ⟨machine, .ok status⟩)
    (hexp : ∀ timeout, operation = .expire timeout →
      (machine.perform operation).machine.currentState ≠ machine.currentState →
        timeout.shelving = machine.shelving) : machine.KeepsShelving operation where
  answered := by
    rcases hans with h | ⟨status, h⟩
    · exact ⟨_, h⟩
    · exact ⟨status, congrArg Call.answer h⟩
  bad := by
    intro status hstatus hbad
    rcases hans with h | ⟨_, h⟩
    · exact absurd (Except.ok.inj (hstatus.symm.trans h)) hbad
    · exact congrArg Call.machine h
  timedShelved := by
    intro h
    obtain ⟨id, hid⟩ := Option.ne_none_iff_exists'.mp (hinv.timedShelved h)
    have htime := hinv.timeouts
    rw [hid] at htime
    exact ⟨_, htime, hid⟩
  unshelved := by
    intro h
    rw [hinv.timeouts, hinv.unshelved h]
    rfl
  expired := hexp

/-! ### The operations -/

section

variable (h : machine.Inv)
include h

/-- **`TimedShelve`** under its condition. -/
lemma timedShelve_inv (hc : machine.StepCondition (.timedShelve duration)) :
    (machine._timedShelve_method duration).machine.Inv ∧
      ((machine._timedShelve_method duration).answer = .ok .Good ∨
        ∃ statusCode, machine._timedShelve_method duration = ⟨machine, .ok statusCode⟩) := by
  unfold _timedShelve_method
  by_cases hstate : machine.currentState = some .unshelved
  · obtain ⟨hfin, hduration⟩ := hc hstate
    rw [if_neg (not_not.mpr hstate)]
    dsimp only
    rw [hfin, if_neg (by decide)]
    split_ifs with hlong hneg
    · exact ⟨h, Or.inr ⟨_, rfl⟩⟩
    · exact ⟨h, Or.inr ⟨_, rfl⟩⟩
    · have hvalid := (hduration.resolve_left hlong).resolve_left hneg
      have htimer : (machine._clear_timer_if_any.setState .timedShelved)._timer = none := by
        rw [clear_eq h]
        rfl
      rw [(start_timer_eq _ htimer duration).1 hvalid]
      exact ⟨shelve_inv h (by decide), Or.inl rfl⟩
  · rw [if_pos hstate]
    exact ⟨h, Or.inr ⟨_, rfl⟩⟩

/-- `TimedShelve` throws when its condition is not met. -/
lemma timedShelve_throws (hc : ¬ machine.StepCondition (.timedShelve duration)) :
    ∃ message, (machine._timedShelve_method duration).answer = .error message := by
  unfold StepCondition at hc
  push Not at hc
  obtain ⟨hstate, hc⟩ := hc
  unfold _timedShelve_method
  rw [if_neg (not_not.mpr hstate)]
  dsimp only
  cases hfin : machine.getMaxTimeShelved.isFinite with
  | false => exact ⟨_, rfl⟩
  | true =>
    obtain ⟨hlong, hneg, hvalid⟩ := hc hfin
    rw [if_neg (by decide), if_neg hlong, if_neg hneg]
    have htimer : (machine._clear_timer_if_any.setState .timedShelved)._timer = none := by
      rw [clear_eq h]
      rfl
    obtain ⟨message, hcall⟩ := (start_timer_eq _ htimer duration).2 hvalid
    exact ⟨message, congrArg Call.answer hcall⟩

/-- **`OneShotShelve`** under its condition. -/
lemma oneShotShelve_inv (hc : machine.StepCondition .oneShotShelve) :
    machine._oneShotShelve_method.machine.Inv ∧
      (machine._oneShotShelve_method.answer = .ok .Good ∨
        ∃ statusCode, machine._oneShotShelve_method = ⟨machine, .ok statusCode⟩) := by
  unfold _oneShotShelve_method
  by_cases hstate : machine.currentState = some .oneShotShelved
  · rw [if_pos hstate]
    exact ⟨h, Or.inr ⟨_, rfl⟩⟩
  · obtain ⟨hfin, hvalid⟩ := hc hstate
    have htimer : (machine._clear_timer_if_any.setState .oneShotShelved)._timer = none := by
      rw [clear_eq h]
      rfl
    rw [if_neg hstate]
    dsimp only
    rw [hfin, if_neg (by decide), strictEq_maxDuration hvalid, if_neg (by decide),
      (start_timer_eq _ htimer _).1 hvalid]
    exact ⟨shelve_inv h (by decide), Or.inl rfl⟩

/-- `OneShotShelve` throws when its condition is not met. -/
lemma oneShotShelve_throws (hc : ¬ machine.StepCondition .oneShotShelve) :
    ∃ message, machine._oneShotShelve_method.answer = .error message := by
  unfold StepCondition at hc
  push Not at hc
  obtain ⟨hstate, hc⟩ := hc
  unfold _oneShotShelve_method
  rw [if_neg hstate]
  dsimp only
  cases hfin : machine.getMaxTimeShelved.isFinite with
  | false => exact ⟨_, rfl⟩
  | true =>
    rw [if_neg (by decide)]
    split_ifs
    · exact ⟨_, rfl⟩
    · have htimer : (machine._clear_timer_if_any.setState .oneShotShelved)._timer = none := by
        rw [clear_eq h]
        rfl
      obtain ⟨message, hcall⟩ := (start_timer_eq _ htimer _).2 (hc hfin)
      exact ⟨message, congrArg Call.answer hcall⟩

/-- **`Unshelve`**. -/
lemma unshelve_inv :
    machine._unshelve_method.machine.Inv ∧
      (machine._unshelve_method.answer = .ok .Good ∨
        ∃ statusCode, machine._unshelve_method = ⟨machine, .ok statusCode⟩) := by
  unfold _unshelve_method
  split_ifs
  · exact ⟨h, Or.inr ⟨_, rfl⟩⟩
  · have hcomm : (machine.setState .unshelved)._clear_timer_if_any =
        machine._clear_timer_if_any.setState .unshelved := by
      obtain ⟨_, _ | timer, _⟩ := machine
      · rfl
      · rfl
    refine ⟨?_, Or.inl rfl⟩
    rw [hcomm, clear_eq h]
    exact unshelved_inv rfl rfl

/-- **A timeout expires**: it is the one of the last shelving, which it ends. -/
lemma expire_inv (timeout : ShelvingTimeout) :
    (machine.perform (.expire timeout)).machine.Inv ∧
      (machine.perform (.expire timeout)).answer = .ok .Good ∧
      ((machine.perform (.expire timeout)).machine.currentState ≠ machine.currentState →
        timeout.shelving = machine.shelving) := by
  unfold perform
  dsimp only
  by_cases hmem : timeout ∈ machine.timeouts
  · rw [if_pos hmem]
    have htime := h.timeouts
    rw [htime] at hmem
    cases htimer : machine._timer with
    | none =>
      rw [htimer] at hmem
      exact absurd hmem List.not_mem_nil
    | some id =>
      rw [htimer] at hmem htime
      obtain rfl : timeout = ⟨id, machine.shelving⟩ := List.mem_singleton.mp hmem
      have hshelved : machine.currentState ≠ some .unshelved := by
        intro hunshelved
        rw [h.unshelved hunshelved] at htimer
        cases htimer
      have herase : machine.timeouts.erase ⟨id, machine.shelving⟩ = [] := by
        rw [htime]
        exact List.erase_cons_head ..
      unfold _automatically_unshelve
      rw [if_neg (by simp), if_neg hshelved, herase]
      exact ⟨unshelved_inv rfl rfl, rfl, fun _ => rfl⟩
  · rw [if_neg hmem]
    exact ⟨h, rfl, fun hne => absurd rfl hne⟩

/-- **One operation** under its condition keeps the invariant and does what is expected. -/
lemma step_inv {operation : Operation} (hc : machine.StepCondition operation) :
    (machine.perform operation).machine.Inv ∧ machine.KeepsShelving operation := by
  cases operation with
  | timedShelve duration =>
    obtain ⟨hinv, hans⟩ := timedShelve_inv h hc
    exact ⟨hinv, keepsShelving_of_inv hinv hans nofun⟩
  | oneShotShelve =>
    obtain ⟨hinv, hans⟩ := oneShotShelve_inv h hc
    exact ⟨hinv, keepsShelving_of_inv hinv hans nofun⟩
  | unshelve =>
    obtain ⟨hinv, hans⟩ := unshelve_inv h
    exact ⟨hinv, keepsShelving_of_inv hinv hans nofun⟩
  | expire timeout =>
    obtain ⟨hinv, hans, hexp⟩ := expire_inv h timeout
    refine ⟨hinv, keepsShelving_of_inv hinv (Or.inl hans) ?_⟩
    rintro _ ⟨⟩
    exact hexp

/-- **The condition of an operation** is met exactly when it does what is expected. -/
theorem keepsShelving_iff (operation : Operation) :
    machine.KeepsShelving operation ↔ machine.StepCondition operation := by
  refine ⟨fun hk => ?_, fun hc => (step_inv h hc).2⟩
  by_contra hc
  obtain ⟨status, hans⟩ := hk.answered
  cases operation with
  | timedShelve duration =>
    obtain ⟨message, hthrows⟩ := timedShelve_throws h hc
    exact nomatch hans.symm.trans hthrows
  | oneShotShelve =>
    obtain ⟨message, hthrows⟩ := oneShotShelve_throws h hc
    exact nomatch hans.symm.trans hthrows
  | unshelve => exact hc trivial
  | expire timeout => exact hc trivial

end

lemma promote_inv (maxTimeShelved : Option Number) (unshelved : Bool) :
    (promote maxTimeShelved unshelved).Inv := by
  refine ⟨rfl, fun _ => rfl, ?_⟩
  cases unshelved <;> exact nofun

/-- **The runs of the state machine**: every method call and every timeout does what is expected
exactly when each of them meets its condition. -/
theorem run_keepsShelving_iff (maxTimeShelved : Option Number) (unshelved : Bool)
    (operations : List Operation) :
    Mealy.Along step KeepsShelving (promote maxTimeShelved unshelved) operations ↔
      Mealy.Along step StepCondition (promote maxTimeShelved unshelved) operations := by
  refine Mealy.along_iff step (I := Inv) ?_ ?_ (promote_inv maxTimeShelved unshelved) operations
  · intro machine operation hinv hk
    exact (step_inv hinv ((keepsShelving_iff hinv operation).mp hk)).1
  · exact fun machine operation hinv => keepsShelving_iff hinv operation

/-- **Two runs that fail**, of an alarm without `MaxTimeShelved`. It is shelved for 5 milliseconds,
which throws and leaves it shelved with no timer. It is shelved once, which throws. -/
theorem runs_not_keepsShelving :
    (¬ Mealy.Along step KeepsShelving (promote none true) [.timedShelve (.ofNat 5)]) ∧
      (Mealy.run step (promote none true) [.timedShelve (.ofNat 5)]).1.currentState =
        some .timedShelved ∧
      (Mealy.run step (promote none true) [.timedShelve (.ofNat 5)]).1.timeouts = [] ∧
      ¬ Mealy.Along step KeepsShelving (promote none true) [.oneShotShelve] := by
  refine ⟨fun h => ?_, by decide +kernel, by decide +kernel, fun h => ?_⟩
  · obtain ⟨statusCode, hans⟩ := h.1.answered
    have hok : ((promote none true).perform (.timedShelve (.ofNat 5))).answer.isOk = true := by
      rw [hans]
      rfl
    exact absurd hok (by decide +kernel)
  · obtain ⟨statusCode, hans⟩ := h.1.answered
    have hok : ((promote none true).perform .oneShotShelve).answer.isOk = true := by
      rw [hans]
      rfl
    exact absurd hok (by decide +kernel)

end UAShelvedStateMachineEx

end NodeOpcua
