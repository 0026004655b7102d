import NodeOpcua.StateMachine.FiniteStateMachine

set_option autoImplicit false

/-!
# What a state machine shows of its state

The current state is shown in up to five places and the last transition in up to six. This file says
when they agree, and which calls of `setState` leave them so.

## Main definitions

* `UAStateMachineEx.Coherent`, `UAStateMachineEx.KeepsCoherence`, `UAStateMachineEx.StepCondition`.

## Main results

* `UAStateMachineEx.keepsCoherence_iff`, `UAStateMachineEx.run_keepsCoherence_iff`,
  `UAStateMachineEx.run_coherent`.

## Design

* The null state is shown by null values. Two texts that differ only in that one is null and the other
  one empty are the same.
* That a call changes nothing means that it writes no variable.
-/

namespace NodeOpcua

open BuiltIn
open NumberProperty (readValue)
open Option (mem_def map_some)

variable {N : Type} {U : CaseMapping}

/-! ### What there is to show -/

/-- Two texts are the same. -/
def SameText (a b : LocalizedText) : Prop :=
  a.locale = b.locale ∧ a.text.getD "" = b.text.getD ""

lemma SameText.refl (a : LocalizedText) : SameText a a := ⟨rfl, rfl⟩

lemma sameText_effectiveText (node : StateNode U) :
    SameText node.currentStateText node.effectiveText := by
  unfold StateNode.currentStateText StateNode.effectiveText
  cases node.displayName with
  | nil => exact ⟨rfl, rfl⟩
  | cons displayName rest => exact SameText.refl displayName

/-- **What is to be shown** of a state. -/
structure StateImage (U : CaseMapping) where
  text : LocalizedText
  id : NodeId U
  name : QualifiedName
  number : NumberProperty

/-- The image of a state, and that of the null state. -/
def StateImage.of : Option (StateNode U) → StateImage U
  | none => ⟨nullLocalizedText, nullNodeId, ⟨0, none⟩, .value 0⟩
  | some node => ⟨node.effectiveText, node.nodeId, node.browseName, node.stateNumber⟩

/-- The properties of `CurrentState` show the image of a state. -/
structure CurrentStateVariable.PropertiesShow (currentState : CurrentStateVariable U)
    (image : StateImage U) : Prop where
  id : ∀ id ∈ currentState.id, id = image.id
  name : ∀ name ∈ currentState.name, name = image.name
  number : ∀ number ∈ currentState.number, image.number = .value number
  effectiveDisplayName : ∀ text ∈ currentState.effectiveDisplayName, SameText text image.text

/-- `CurrentState` and its properties show the image of a state. -/
structure CurrentStateVariable.Shows (currentState : CurrentStateVariable U)
    (image : StateImage U) : Prop where
  value : SameText currentState.value image.text
  properties : currentState.PropertiesShow image

/-- `LastTransition` and its properties show a transition that was made at a time. -/
structure LastTransitionVariable.Shows (lastTransition : LastTransitionVariable U)
    (transition : TransitionNode N U) (time : ℕ) : Prop where
  value : lastTransition.value = transition.lastTransitionText
  id : ∀ id ∈ lastTransition.id, id = transition.nodeId
  transitionTime : ∀ t ∈ lastTransition.transitionTime, t = time
  effectiveTransitionTime : ∀ t ∈ lastTransition.effectiveTransitionTime, t = time
  name : ∀ name ∈ lastTransition.name, name = transition.browseName
  number : ∀ number ∈ lastTransition.number, transition.transitionNumber = .value number

/-- Two transitions look alike in `LastTransition` with the properties it has. -/
structure LastTransitionVariable.Alike (lastTransition : LastTransitionVariable U)
    (transition transition' : TransitionNode N U) : Prop where
  value : transition.lastTransitionText = transition'.lastTransitionText
  id : lastTransition.id.isSome → transition.nodeId = transition'.nodeId
  name : lastTransition.name.isSome → transition.browseName = transition'.browseName
  number : lastTransition.number.isSome → transition.transitionNumber = transition'.transitionNumber

/-- The property has a number. -/
def NumberProperty.HasValue (property : NumberProperty) : Prop :=
  ∃ number, property = .value number

variable {property : NumberProperty}

lemma readValue_bind_eq_ok_iff {number : UInt32} :
    property.readValue >>= coerceNumber = .ok number ↔ property = .value number := by
  cases property with
  | missing => simp [readValue, bind, Except.bind]
  | null | value n => simp [readValue, coerceNumber, bind, Except.bind]

lemma readValue_eq_ok (h : property ≠ .missing) :
    ∃ number, property.readValue = .ok number := by
  cases property with
  | missing => exact absurd rfl h
  | null => exact ⟨none, rfl⟩
  | value number => exact ⟨some number, rfl⟩

/-! ### The variable `CurrentState` -/

/-- **The properties of `CurrentState`** are all written when there is a number for them. -/
lemma applyCurrentStateOptionalProps_thrown_iff (currentState : CurrentStateVariable U)
    (node : StateNode U) :
    (currentState.applyCurrentStateOptionalProps (some node)).2 = none ↔
      (currentState.number.isSome → node.stateNumber.HasValue) := by
  unfold CurrentStateVariable.applyCurrentStateOptionalProps
  dsimp only
  cases hnum : currentState.number with
  | none => simp
  | some old =>
    cases hread : node.stateNumber.readValue >>= coerceNumber with
    | error msg =>
      simp only [reduceCtorEq, Option.isSome_some, forall_const, false_iff]
      rintro ⟨number, h⟩
      rw [readValue_bind_eq_ok_iff.mpr h] at hread
      cases hread
    | ok number => exact iff_of_true rfl fun _ => ⟨number, readValue_bind_eq_ok_iff.mp hread⟩

lemma applyCurrentStateOptionalProps_shows {currentState : CurrentStateVariable U}
    {node : StateNode U} (hvalue : currentState.value = node.currentStateText)
    (h : (currentState.applyCurrentStateOptionalProps (some node)).2 = none) :
    (currentState.applyCurrentStateOptionalProps (some node)).1.Shows (.of (some node)) := by
  revert h
  unfold CurrentStateVariable.applyCurrentStateOptionalProps
  dsimp only
  cases hnum : currentState.number with
  | none =>
    intro _
    exact ⟨hvalue ▸ sameText_effectiveText node, by simp [StateImage.of], by simp [StateImage.of],
      by simp, by simp [StateImage.of, SameText.refl]⟩
  | some old =>
    cases hread : node.stateNumber.readValue >>= coerceNumber with
    | error msg => exact fun h => absurd h (by simp)
    | ok number =>
      intro _
      exact ⟨hvalue ▸ sameText_effectiveText node, by simp [StateImage.of], by simp [StateImage.of],
        by simp [StateImage.of, readValue_bind_eq_ok_iff.mp hread],
        by simp [StateImage.of, SameText.refl]⟩

/-! ### The variable `LastTransition` -/

/-- **The properties of `LastTransition`** are all written when there is a number for them. -/
lemma applyLastTransitionOptionalProps_thrown_iff (last : LastTransitionVariable U)
    (transition : TransitionNode N U) (time : ℕ) :
    (last.applyLastTransitionOptionalProps transition time).2 = none ↔
      (last.number.isSome → transition.transitionNumber.HasValue) := by
  unfold LastTransitionVariable.applyLastTransitionOptionalProps
  cases hnum : last.number with
  | none => simp
  | some old =>
    cases hread : transition.transitionNumber.readValue >>= coerceNumber with
    | error msg =>
      simp only [reduceCtorEq, Option.isSome_some, forall_const, false_iff]
      rintro ⟨number, h⟩
      rw [readValue_bind_eq_ok_iff.mpr h] at hread
      cases hread
    | ok number => exact iff_of_true rfl fun _ => ⟨number, readValue_bind_eq_ok_iff.mp hread⟩

variable {lastTransition : LastTransitionVariable U} {transition : TransitionNode N U} {time : ℕ}

lemma applyLastTransitionOptionalProps_eq
    (h : (lastTransition.applyLastTransitionOptionalProps transition time).2 = none) :
    ∃ number : Option UInt32,
      (∀ n ∈ number, transition.transitionNumber = .value n) ∧
      number.isSome = lastTransition.number.isSome ∧
      (lastTransition.applyLastTransitionOptionalProps transition time).1 =
        { value := transition.lastTransitionText
          id := lastTransition.id.map fun _ => transition.nodeId
          transitionTime := lastTransition.transitionTime.map fun _ => time
          effectiveTransitionTime := lastTransition.effectiveTransitionTime.map fun _ => time
          name := lastTransition.name.map fun _ => transition.browseName
          number := number } := by
  revert h
  unfold LastTransitionVariable.applyLastTransitionOptionalProps
  cases hnum : lastTransition.number with
  | none => exact fun _ => ⟨none, by simp, rfl, rfl⟩
  | some old =>
    cases hread : transition.transitionNumber.readValue >>= coerceNumber with
    | error msg => exact fun h => absurd h (by simp)
    | ok number =>
      intro _
      refine ⟨some number, ?_, rfl, rfl⟩
      simp [readValue_bind_eq_ok_iff.mp hread]

/-- **What `LastTransition` shows** afterwards are the transitions that look like the one written. -/
lemma applyLastTransitionOptionalProps_shows_iff (transition' : TransitionNode N U)
    (h : (lastTransition.applyLastTransitionOptionalProps transition time).2 = none) :
    (lastTransition.applyLastTransitionOptionalProps transition time).1.Shows transition' time ↔
      lastTransition.Alike transition transition' := by
  obtain ⟨number, hnum, hsome, heq⟩ := applyLastTransitionOptionalProps_eq h
  rw [heq]
  constructor
  · intro hshows
    refine ⟨hshows.value, fun hid => ?_, fun hname => ?_, fun hn => ?_⟩
    · obtain ⟨id, hid⟩ := Option.isSome_iff_exists.mp hid
      exact hshows.id _ (by simp [hid])
    · obtain ⟨name, hname⟩ := Option.isSome_iff_exists.mp hname
      exact hshows.name _ (by simp [hname])
    · obtain ⟨n, hn⟩ := Option.isSome_iff_exists.mp (hsome.trans hn)
      rw [hnum n hn]
      exact (hshows.number n hn).symm
  · intro halike
    refine ⟨halike.value, ?_, by simp, by simp, ?_, fun n hn => ?_⟩
    · simp only [mem_def, Option.map_eq_some_iff]
      rintro _ ⟨id, hid, rfl⟩
      exact halike.id (by simp [hid])
    · simp only [mem_def, Option.map_eq_some_iff]
      rintro _ ⟨name, hname, rfl⟩
      exact halike.name (by simp [hname])
    · rw [← halike.number (hsome ▸ Option.isSome_iff_exists.mpr ⟨n, hn⟩)]
      exact hnum n hn

/-- `LastTransition` is as before when it showed the transition already. -/
lemma applyLastTransitionOptionalProps_eq_self_iff
    (h : (lastTransition.applyLastTransitionOptionalProps transition time).2 = none) :
    (lastTransition.applyLastTransitionOptionalProps transition time).1 = lastTransition ↔
      lastTransition.Shows transition time := by
  constructor
  · intro hself
    rw [← hself]
    exact (applyLastTransitionOptionalProps_shows_iff transition h).mpr
      ⟨rfl, fun _ => rfl, fun _ => rfl, fun _ => rfl⟩
  · intro hshows
    obtain ⟨number, hnum, hsome, heq⟩ := applyLastTransitionOptionalProps_eq h
    rw [heq]
    obtain ⟨value, id, transitionTime, effectiveTransitionTime, name, old⟩ := lastTransition
    have hmap : ∀ {α : Type} (o : Option α) (b : α), (∀ a ∈ o, a = b) → o.map (fun _ => b) = o := by
      intro α o b ho
      cases o with
      | none => rfl
      | some a => rw [ho a rfl]; rfl
    simp only [LastTransitionVariable.mk.injEq]
    refine ⟨hshows.value.symm, hmap _ _ hshows.id, hmap _ _ hshows.transitionTime,
      hmap _ _ hshows.effectiveTransitionTime, hmap _ _ hshows.name, ?_⟩
    cases old with
    | none => simpa using hsome
    | some n =>
      obtain ⟨n', rfl⟩ := Option.isSome_iff_exists.mp hsome
      have := (hnum n' rfl).symm.trans (hshows.number n rfl)
      rw [NumberProperty.value.inj this]

namespace UAStateMachineEx

variable [DecidableEq N] (type : FiniteStateMachineType N U)

/-! ### What is expected of a call -/

/-- The transitions from a state to another one. -/
def transitionsBetween (fromState toState : N) : List (TransitionNode N U) :=
  (type.fromState fromState).filter fun transition => transition.toState = [toState]

omit [DecidableEq N] in
/-- **The machine is coherent**: `CurrentState` and its properties show the current state. -/
def Coherent (machine : UAStateMachineEx N U) : Prop :=
  machine.currentState.Shows (.of (machine.currentStateNode.map type.node))

/-- `LastTransition` is as before, or shows a transition from the state before to the one after. -/
def ShowsTransition (machine machine' : UAStateMachineEx N U) (time : ℕ) : Prop :=
  machine'.lastTransition = machine.lastTransition ∨
    ∃ fromState toState, machine.currentStateNode = some fromState ∧
      machine'.currentStateNode = some toState ∧
      ∃ transition ∈ transitionsBetween type fromState toState,
        ∀ lastTransition ∈ machine'.lastTransition, lastTransition.Shows transition time

/-- **What is expected of a call**: one that returns leaves the machine coherent and shows a transition
that was made, and one that throws changes nothing. -/
structure SetStateCall.Keeps (machine : UAStateMachineEx N U) (time : ℕ) (call : SetStateCall N U) :
    Prop where
  coherent : call.thrown = none → Coherent type call.machine
  transition : call.thrown = none → ShowsTransition type machine call.machine time
  unchanged : call.thrown ≠ none → call.written = false ∧ call.machine = machine

/-- The call of `setState` does what is expected. -/
def KeepsCoherence (machine : UAStateMachineEx N U) (request : SetStateRequest N U) : Prop :=
  (machine.setState type request.toStateNode request.predicate request.transitionTime).Keeps type
    machine request.transitionTime

/-! ### When a call does what is expected -/

/-- The transition to take: the only one there is, or the one chosen among several. -/
def chosen (fromState toState : N) (predicate : TransitionSelector N U) :
    Except String (Option (TransitionNode N U)) :=
  match transitionsBetween type fromState toState with
  | [] => .ok none
  | [transition] => .ok (some transition)
  | transitions => predicate transitions fromState toState

/-- A transition can be shown: the numbers of the event are there, the number that `LastTransition`
shows has a value, and the transition looks like one between the two states, or it is shown
already. -/
structure CanShow (machine : UAStateMachineEx N U) (fromState toState : N)
    (transition : TransitionNode N U) (time : ℕ) : Prop where
  transitionNumber : transition.transitionNumber ≠ .missing
  fromNumber : (type.node fromState).stateNumber ≠ .missing
  toNumber : (type.node toState).stateNumber ≠ .missing
  number : ∀ lastTransition ∈ machine.lastTransition, lastTransition.number.isSome →
    transition.transitionNumber.HasValue
  alike : ∀ lastTransition ∈ machine.lastTransition, lastTransition.Shows transition time ∨
    ∃ transition' ∈ transitionsBetween type fromState toState,
      lastTransition.Alike transition transition'

/-- A state can be left for another one: both are states, every transition that leaves the first leads
to an object, and what is chosen can be shown. -/
structure CanLeave (machine : UAStateMachineEx N U) (fromState toState : N)
    (request : SetStateRequest N U) : Prop where
  fromObject : (type.node fromState).nodeClass = .Object
  fromStateType : (type.node fromState).isStateType = true
  toStateType : (type.node toState).isStateType = true
  leadsToObject : ∀ transition ∈ type.fromState fromState, type.leadsToObject transition = true
  chosen : ∃ choice, chosen type fromState toState request.predicate = .ok choice ∧
    ∀ transition ∈ choice, CanShow type machine fromState toState transition request.transitionTime

/-- **The condition of a call**: the null state is set when no property shows anything; and the node
of another state has the number that `CurrentState` shows, and can be entered from the current
state. -/
def StepCondition (machine : UAStateMachineEx N U) (request : SetStateRequest N U) : Prop :=
  if request.toStateNode.isNull then machine.currentState.PropertiesShow (.of none)
  else
    ∀ toState, type.coerceState request.toStateNode = .ok toState →
      (machine.currentState.number.isSome → (type.node toState).stateNumber.HasValue) ∧
      ∀ fromState ∈ machine.currentStateNode, CanLeave type machine fromState toState request

/-! ### The parts of a call -/

lemma findTransitionNode_eq_ok_iff {fromState toState : N} {predicate : TransitionSelector N U}
    (hto : (type.node toState).nodeClass = .Object) {choice : Option (TransitionNode N U)} :
    findTransitionNode type (some fromState) toState predicate = .ok choice ↔
      (type.node fromState).nodeClass = .Object ∧ (type.node fromState).isStateType = true ∧
      (type.node toState).isStateType = true ∧
      (∀ transition ∈ type.fromState fromState, type.leadsToObject transition = true) ∧
      chosen type fromState toState predicate = .ok choice := by
  simp only [findTransitionNode]
  rw [← List.all_eq_true, if_neg (not_not_intro hto)]
  by_cases hobj : (type.node fromState).nodeClass = .Object
  · rw [if_neg (not_not_intro hobj)]
    cases hfrom : (type.node fromState).isStateType with
    | false => simp
    | true =>
      cases hstate : (type.node toState).isStateType with
      | false => simp
      | true =>
        cases hall : (type.fromState fromState).all type.leadsToObject with
        | false => simp
        | true =>
          simp only [hobj, true_and]
          exact Iff.rfl
  · simp [hobj]

lemma transitionEventData_eq_ok_iff {N U} (transition : TransitionNode N U)
    (fromState toState : StateNode U) :
    (∃ event, transitionEventData transition (some fromState) toState = .ok event) ↔
      transition.transitionNumber ≠ .missing ∧ fromState.stateNumber ≠ .missing ∧
        toState.stateNumber ≠ .missing := by
  unfold transitionEventData
  constructor
  · rintro ⟨event, h⟩
    refine ⟨fun hm => ?_, fun hm => ?_, fun hm => ?_⟩
    · simp [hm, readValue, bind, Except.bind] at h
    · cases hread : transition.transitionNumber <;>
        simp [hm, hread, readValue, bind, Except.bind] at h
    · cases hread : transition.transitionNumber <;> cases hread' : fromState.stateNumber <;>
        simp [hm, hread, hread', readValue, bind, Except.bind] at h
  · rintro ⟨ht, hf, hto⟩
    obtain ⟨a, ha⟩ := readValue_eq_ok ht
    obtain ⟨b, hb⟩ := readValue_eq_ok hf
    obtain ⟨c, hc⟩ := readValue_eq_ok hto
    simp [ha, hb, hc, bind, Except.bind, pure, Except.pure]

variable {machine : UAStateMachineEx N U} {time : ℕ} {call : SetStateCall N U}

lemma SetStateCall.keeps_iff_of_returned (h : call.thrown = none) :
    call.Keeps type machine time ↔
      Coherent type call.machine ∧ ShowsTransition type machine call.machine time :=
  ⟨fun hk => ⟨hk.coherent h, hk.transition h⟩,
    fun hk => ⟨fun _ => hk.1, fun _ => hk.2, fun hne => absurd h hne⟩⟩

lemma SetStateCall.not_keeps_of_written (h : call.thrown ≠ none) (hwrit : call.written = true) :
    ¬ call.Keeps type machine time := by
  intro hk
  rw [(hk.unchanged h).1] at hwrit
  cases hwrit

variable {toState : N}

section

variable (machine : UAStateMachineEx N U)

/-- **A state is entered** when `CurrentState` can be written: the machine is coherent, and what
follows is about the transition. -/
lemma enterState_eq (predicate : TransitionSelector N U) (time : ℕ)
    (hnum : machine.currentState.number.isSome → (type.node toState).stateNumber.HasValue) :
    ∃ entered : UAStateMachineEx N U, Coherent type entered ∧
      entered.currentStateNode = some toState ∧ entered.lastTransition = machine.lastTransition ∧
      machine.enterState type toState predicate time =
        match findTransitionNode type machine.currentStateNode toState predicate with
        | .error msg => ⟨entered, true, none, some msg⟩
        | .ok none => ⟨entered, true, none, none⟩
        | .ok (some transition) =>
          entered.applyTransition type machine.currentStateNode toState transition time := by
  set written : CurrentStateVariable U :=
    { machine.currentState with
      value := (type.node toState).currentStateText
      statusCode := .Good } with hwrit
  have hthrow := (applyCurrentStateOptionalProps_thrown_iff written (type.node toState)).mpr hnum
  have hshows := applyCurrentStateOptionalProps_shows (by rfl) hthrow
  cases happlied : written.applyCurrentStateOptionalProps (some (type.node toState)) with
  | mk currentState thrown =>
    rw [happlied] at hthrow hshows
    obtain rfl : thrown = none := hthrow
    refine ⟨{ machine with
      currentStateNode := some toState
      currentState
      mainMachine := machine.mainMachine.map fun mainMachine =>
        mainMachine.applyTransitionOptionalPropsPhase1 time }, hshows, rfl, rfl, ?_⟩
    simp only [enterState, ← hwrit]
    exact happlied ▸ rfl

/-- Without the number that `CurrentState` shows, the call throws after it has written the value. -/
lemma not_keeps_enterState (predicate : TransitionSelector N U) (time : ℕ)
    (hnum : ¬ (machine.currentState.number.isSome → (type.node toState).stateNumber.HasValue)) :
    ¬ (machine.enterState type toState predicate time).Keeps type machine time := by
  set written : CurrentStateVariable U :=
    { machine.currentState with
      value := (type.node toState).currentStateText
      statusCode := .Good } with hwrit
  have hthrow :=
    mt (applyCurrentStateOptionalProps_thrown_iff written (type.node toState)).mp hnum
  cases happlied : written.applyCurrentStateOptionalProps (some (type.node toState)) with
  | mk currentState thrown =>
    rw [happlied] at hthrow
    obtain ⟨msg, rfl⟩ := Option.ne_none_iff_exists'.mp hthrow
    simp only [enterState]
    rw [← hwrit, happlied]
    exact SetStateCall.not_keeps_of_written type (by simp) rfl

omit [DecidableEq N] in
/-- What `LastTransition` is after a transition. -/
lemma applyTransition_machine (fromState : Option N) (toState : N)
    (transition : TransitionNode N U) (time : ℕ) :
    (machine.applyTransition type fromState toState transition time).machine =
      { machine with
        lastTransition := machine.lastTransition.map fun last =>
          (last.applyLastTransitionOptionalProps transition time).1 } ∧
      (machine.applyTransition type fromState toState transition time).written = true := by
  unfold applyTransition
  dsimp only
  rw [Option.map_map]
  split
  · exact ⟨rfl, rfl⟩
  · split <;> exact ⟨rfl, rfl⟩

omit [DecidableEq N] in
/-- **A transition is shown** without a throw when the numbers are there. -/
lemma applyTransition_thrown_iff (fromState toState : N)
    (transition : TransitionNode N U) (time : ℕ) :
    (machine.applyTransition type (some fromState) toState transition time).thrown = none ↔
      (transition.transitionNumber ≠ .missing ∧ (type.node fromState).stateNumber ≠ .missing ∧
        (type.node toState).stateNumber ≠ .missing) ∧
      ∀ last ∈ machine.lastTransition, last.number.isSome →
        transition.transitionNumber.HasValue := by
  have hlast : (machine.lastTransition.map fun last =>
      last.applyLastTransitionOptionalProps transition time).bind Prod.snd = none ↔
      ∀ last ∈ machine.lastTransition, last.number.isSome →
        transition.transitionNumber.HasValue := by
    cases machine.lastTransition with
    | none => simp
    | some last =>
      simp only [map_some, Option.bind_some, mem_def, Option.some.injEq]
      rw [applyLastTransitionOptionalProps_thrown_iff]
      exact ⟨fun h l hl => hl ▸ h, fun h => h _ rfl⟩
  rw [← hlast, ← transitionEventData_eq_ok_iff]
  unfold applyTransition
  dsimp only
  cases (machine.lastTransition.map fun last =>
    last.applyLastTransitionOptionalProps transition time).bind Prod.snd with
  | some msg => simp
  | none =>
    rw [map_some]
    cases transitionEventData transition (some (type.node fromState)) (type.node toState) with
    | error msg => simp
    | ok event => simp

end

/-- `LastTransition` after a transition that can be written shows one between the two states exactly
when the transition looks like one, or was shown already. -/
lemma showsTransition_applyTransition_iff {machine entered : UAStateMachineEx N U}
    {fromState toState : N} {transition : TransitionNode N U}
    (hfrom : machine.currentStateNode = some fromState)
    (hto : entered.currentStateNode = some toState)
    (hlast : entered.lastTransition = machine.lastTransition)
    (hnum : ∀ last ∈ machine.lastTransition, last.number.isSome →
      transition.transitionNumber.HasValue) :
    ShowsTransition type machine
        (entered.applyTransition type (some fromState) toState transition time).machine time ↔
      ∀ last ∈ machine.lastTransition, last.Shows transition time ∨
        ∃ transition' ∈ transitionsBetween type fromState toState,
          last.Alike transition transition' := by
  rw [(applyTransition_machine type entered (some fromState) toState transition time).1]
  simp only [ShowsTransition, hfrom, hto, hlast, Option.some.injEq]
  cases hold : machine.lastTransition with
  | none => simp
  | some last =>
    have hthrow := (applyLastTransitionOptionalProps_thrown_iff last transition time).mpr
      (hnum _ hold)
    simp only [map_some, Option.some.injEq, mem_def]
    rw [applyLastTransitionOptionalProps_eq_self_iff hthrow]
    constructor
    · rintro (hshows | ⟨f, t, rfl, rfl, transition', hmem', hshows⟩) l rfl
      · exact Or.inl hshows
      · refine Or.inr ⟨transition', hmem', ?_⟩
        exact (applyLastTransitionOptionalProps_shows_iff transition' hthrow).mp (hshows _ rfl)
    · intro h
      rcases h _ rfl with hshows | ⟨transition', hmem', halike⟩
      · exact Or.inl hshows
      · refine Or.inr ⟨fromState, toState, rfl, rfl, transition', hmem', ?_⟩
        rintro _ rfl
        exact (applyLastTransitionOptionalProps_shows_iff transition' hthrow).mpr halike

/-- **A state is entered** as expected exactly when `CurrentState` can show it and the current state
can be left for it. -/
lemma enterState_keeps_iff (machine : UAStateMachineEx N U)
    (request : SetStateRequest N U) (hto : (type.node toState).nodeClass = .Object) :
    (machine.enterState type toState request.predicate request.transitionTime).Keeps type machine
        request.transitionTime ↔
      (machine.currentState.number.isSome → (type.node toState).stateNumber.HasValue) ∧
      ∀ fromState ∈ machine.currentStateNode, CanLeave type machine fromState toState request := by
  by_cases hnum : machine.currentState.number.isSome → (type.node toState).stateNumber.HasValue
  swap
  · exact iff_of_false (not_keeps_enterState type machine _ _ hnum) fun h => hnum h.1
  rw [and_iff_right hnum]
  obtain ⟨entered, hcoh, hcur, hlast, heq⟩ :=
    enterState_eq type machine request.predicate request.transitionTime hnum
  rw [heq]
  cases hfrom : machine.currentStateNode with
  | none =>
    rw [SetStateCall.keeps_iff_of_returned type rfl]
    exact iff_of_true ⟨hcoh, Or.inl hlast⟩ (by simp)
  | some fromState =>
    simp only [mem_def, Option.some.injEq, forall_eq']
    cases hfind : findTransitionNode type (some fromState) toState request.predicate with
    | error msg =>
      refine iff_of_false (SetStateCall.not_keeps_of_written type (by simp) rfl) fun hleave => ?_
      obtain ⟨choice, hchoice, -⟩ := hleave.chosen
      rw [(findTransitionNode_eq_ok_iff type hto).mpr ⟨hleave.fromObject, hleave.fromStateType,
        hleave.toStateType, hleave.leadsToObject, hchoice⟩] at hfind
      cases hfind
    | ok choice =>
      obtain ⟨hobj, hfromType, htoType, hleads, hchoice⟩ :=
        (findTransitionNode_eq_ok_iff type hto).mp hfind
      have hleave : CanLeave type machine fromState toState request ↔ ∀ transition ∈ choice,
          CanShow type machine fromState toState transition request.transitionTime := by
        refine ⟨fun hleave => ?_, fun h => ⟨hobj, hfromType, htoType, hleads, choice, hchoice, h⟩⟩
        obtain ⟨choice', hchoice', h⟩ := hleave.chosen
        rw [hchoice] at hchoice'
        exact Except.ok.inj hchoice' ▸ h
      rw [hleave]
      cases choice with
      | none =>
        rw [SetStateCall.keeps_iff_of_returned type rfl]
        exact iff_of_true ⟨hcoh, Or.inl hlast⟩ (by simp)
      | some transition =>
        simp only [mem_def, Option.some.injEq, forall_eq']
        have hthrow := applyTransition_thrown_iff type entered fromState toState transition
          request.transitionTime
        obtain ⟨hmachine, hwrit⟩ := applyTransition_machine type entered (some fromState) toState
          transition request.transitionTime
        by_cases hnone : (entered.applyTransition type (some fromState) toState transition
            request.transitionTime).thrown = none
        swap
        · refine iff_of_false (SetStateCall.not_keeps_of_written type hnone hwrit) fun h => ?_
          exact hnone (hthrow.mpr
            ⟨⟨h.transitionNumber, h.fromNumber, h.toNumber⟩, hlast ▸ h.number⟩)
        · obtain ⟨⟨ht, hf, hs⟩, hnumbers⟩ := hthrow.mp hnone
          rw [hlast] at hnumbers
          rw [SetStateCall.keeps_iff_of_returned type hnone,
            showsTransition_applyTransition_iff type hfrom hcur hlast hnumbers, hmachine]
          exact ⟨fun h => ⟨ht, hf, hs, hnumbers, h.2⟩, fun h => ⟨hcoh, h.alike⟩⟩

omit [DecidableEq N] in
lemma nodeClass_of_coerceState {argument : StateArgument N}
    (h : type.coerceState argument = .ok toState) : (type.node toState).nodeClass = .Object := by
  unfold FiniteStateMachineType.coerceState at h
  split at h
  · cases h
  · split at h
    · cases h
    · cases h
    · split at h
      · rename_i hobj
        exact Except.ok.inj h ▸ hobj
      · cases h
  · split at h
    · rename_i hobj
      exact Except.ok.inj h ▸ hobj
    · cases h

/-- **A call of `setState`** does what is expected exactly when it meets its condition.

**Proof sketch.** The null state writes the value alone, so the properties must show nothing already.
An argument that is refused changes nothing. Any other state is entered. -/
theorem keepsCoherence_iff (machine : UAStateMachineEx N U) (request : SetStateRequest N U) :
    KeepsCoherence type machine request ↔ StepCondition type machine request := by
  unfold KeepsCoherence StepCondition setState
  by_cases hnull : request.toStateNode.isNull
  · rw [if_pos hnull, if_pos hnull, SetStateCall.keeps_iff_of_returned type rfl]
    constructor
    · rintro ⟨⟨-, hid, hname, hn, htext⟩, -⟩
      exact ⟨hid, hname, hn, htext⟩
    · rintro ⟨hid, hname, hn, htext⟩
      exact ⟨⟨SameText.refl _, hid, hname, hn, htext⟩, Or.inl rfl⟩
  · rw [if_neg hnull, if_neg hnull]
    cases hcoerce : type.coerceState request.toStateNode with
    | error msg =>
      exact iff_of_true ⟨fun h => absurd h (by simp), fun h => absurd h (by simp),
        fun _ => ⟨rfl, rfl⟩⟩ (by simp)
    | ok toState =>
      simp only [Except.ok.injEq, forall_eq']
      exact enterState_keeps_iff type machine request (nodeClass_of_coerceState type hcoerce)

/-! ### Runs -/

/-- **The calls of a run** do what is expected exactly when each of them meets its condition. -/
theorem run_keepsCoherence_iff (machine : UAStateMachineEx N U)
    (requests : List (SetStateRequest N U)) :
    Mealy.Along (step type) (KeepsCoherence type) machine requests ↔
      Mealy.Along (step type) (StepCondition type) machine requests :=
  Mealy.along_iff (step type) (I := fun _ => True) (fun _ _ _ _ => trivial)
    (fun machine request _ => keepsCoherence_iff type machine request) trivial requests

/-- **A coherent machine stays coherent** in a run whose calls all meet their condition: a call that
throws leaves it as it is. -/
theorem run_coherent {requests : List (SetStateRequest N U)}
    (h : Coherent type machine) (hrun : Mealy.Along (step type) (StepCondition type) machine requests) :
    Coherent type (Mealy.run (step type) machine requests).1 := by
  refine Mealy.run_invariant (step type) (I := Coherent type) (fun machine request hs ha => ?_) h hrun
  have hkeeps := (keepsCoherence_iff type machine request).mpr ha
  by_cases hthrow : (machine.setState type request.toStateNode request.predicate
      request.transitionTime).thrown = none
  · exact hkeeps.coherent hthrow
  · change Coherent type (machine.setState type request.toStateNode request.predicate
      request.transitionTime).machine
    rw [(hkeeps.unchanged hthrow).2]
    exact hs

/-- **Not every run keeps the machine coherent**: the null state leaves the property `Id` of the state
before it; and a node that is no state is entered before `setState` throws. -/
theorem runs_not_keepsCoherence :
    let node : Bool → StateNode .ascii := fun isStateType =>
      { nodeId := ⟨1, .numeric 1⟩
        browseName := ⟨1, some "State1"⟩
        displayName := [⟨none, some "State1"⟩]
        nodeClass := .Object
        isStateType := isStateType
        stateNumber := .value 1 }
    let type : FiniteStateMachineType Bool .ascii :=
      { node := node
        states := [true]
        fromState := fun _ => [] }
    let machine : UAStateMachineEx Bool .ascii :=
      { currentStateNode := none
        currentState :=
          { value := nullLocalizedText
            statusCode := .BadStateNotActive
            id := some nullNodeId
            name := none
            number := none
            effectiveDisplayName := none }
        lastTransition := none
        mainMachine := none }
    let call := fun argument : StateArgument Bool =>
      (⟨argument, defaultPredicate, 0⟩ : SetStateRequest Bool .ascii)
    ¬ Mealy.Along (step type) (KeepsCoherence type) machine [call (.name "State1"), call .null] ∧
      ¬ Mealy.Along (step type) (KeepsCoherence type) machine
        [call (.name "State1"), call (.node false)] := by
  refine ⟨fun h => ?_, fun h => ?_⟩
  · have hid := (h.2.1.coherent rfl).properties.id _ rfl
    exact absurd hid (by decide)
  · exact absurd (h.2.1.unchanged (by decide)).1 (by decide)

end UAStateMachineEx

end NodeOpcua
