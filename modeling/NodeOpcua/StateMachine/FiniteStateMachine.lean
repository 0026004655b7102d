import NodeOpcua.Library.Mealy
import NodeOpcua.NodeClass
import NodeOpcua.Variant.Basic

set_option autoImplicit false

/-!
# Finite state machines

An instance of a finite state machine shows its current state and its last transition in variables
whose properties are optional. This file has the machine and `setState`.

## Main definitions

* `FiniteStateMachineType`.
* `UAStateMachineEx`.
* `UAStateMachineEx.findTransitionNode`, `UAStateMachineEx.setState`.

## Design

* A node is given by a reference of type `N`, and two references are those of one node when they are
  equal.
* A property that the instance does not have is `none`. A variable without a value has the null value
  of its type.
* The event that is raised is what the call gives out. Listeners are left out, and so is the
  notification that the methods may have become executable.
-/

namespace NodeOpcua

open BuiltIn

/-! ### The type of the machine -/

/-- The property `StateNumber` of a state, or `TransitionNumber` of a transition: it may be missing,
and its value may be null. -/
inductive NumberProperty
  | missing
  | null
  | value (number : UInt32)
  deriving DecidableEq, Repr

/-- `readValue().value.value`. -/
def NumberProperty.readValue : NumberProperty → Except String (Option UInt32)
  | .missing => .error "Cannot read properties of undefined (reading 'readValue')"
  | .null => .ok none
  | .value number => .ok (some number)

/-- The conversion to a number that `setValueFromSource` makes. -/
def coerceNumber : Option UInt32 → Except String UInt32
  | none => .error "expecting a number NaN"
  | some number => .ok number

section

variable (N : Type) (U : CaseMapping)

/-- A node that may be a state: it is one when its type is a subtype of `StateType`. -/
structure StateNode where
  nodeId : NodeId U
  browseName : QualifiedName
  displayName : List LocalizedText
  nodeClass : NodeClass
  isStateType : Bool
  stateNumber : NumberProperty

/-- A node with a reference `FromState`, with the targets of its references `ToState`. -/
structure TransitionNode where
  nodeId : NodeId U
  browseName : QualifiedName
  displayName : List LocalizedText
  transitionNumber : NumberProperty
  toState : List N

/-- **The type of a state machine**: the nodes, the states of the type, and the nodes with a reference
`FromState` to a node. -/
structure FiniteStateMachineType where
  node : N → StateNode U
  states : List N
  fromState : N → List (TransitionNode N U)

/-- `TransitionSelector`: it chooses among several transitions between two states, and may throw. -/
abbrev TransitionSelector :=
  List (TransitionNode N U) → N → N → Except String (Option (TransitionNode N U))

/-- The argument of `setState`. -/
inductive StateArgument
  | null
  | name (name : String)
  | node (node : N)
  deriving DecidableEq

/-- The variable `CurrentState` with its properties. -/
structure CurrentStateVariable where
  value : LocalizedText
  statusCode : StatusCode
  id : Option (NodeId U)
  name : Option QualifiedName
  number : Option UInt32
  effectiveDisplayName : Option LocalizedText
  deriving DecidableEq

/-- The variable `LastTransition` with its properties. -/
structure LastTransitionVariable where
  value : LocalizedText
  id : Option (NodeId U)
  transitionTime : Option ℕ
  effectiveTransitionTime : Option ℕ
  name : Option QualifiedName
  number : Option UInt32
  deriving DecidableEq

/-- The state machine of which this one is a submachine: the state that has this submachine, the
current state, and the property `EffectiveTransitionTime` of its last transition. -/
structure MainStateMachine where
  mainState : Option (NodeId U)
  currentStateNode : Option (NodeId U)
  effectiveTransitionTime : Option ℕ
  deriving DecidableEq

/-- **An instance of a state machine.** -/
structure UAStateMachineEx where
  currentStateNode : Option N
  currentState : CurrentStateVariable U
  lastTransition : Option (LastTransitionVariable U)
  mainMachine : Option (MainStateMachine U)
  deriving DecidableEq

end

/-- The data of a `TransitionEventType`. -/
structure TransitionEvent where
  transition : LocalizedText
  transitionId : Option UInt32
  fromState : LocalizedText
  fromStateId : Option UInt32
  toState : LocalizedText
  toStateId : Option UInt32
  deriving DecidableEq

variable {N : Type} {U : CaseMapping}

/-- The null `LocalizedText`. -/
def nullLocalizedText : LocalizedText := ⟨none, none⟩

/-- `NodeId.nullNodeId`. -/
def nullNodeId : NodeId U := ⟨0, .numeric 0⟩

/-- The value of `CurrentState` in a state. -/
def StateNode.currentStateText (node : StateNode U) : LocalizedText :=
  match node.displayName with
  | displayName :: _ => displayName
  | [] => ⟨none, some (node.browseName.name.getD "")⟩

/-- The value of `EffectiveDisplayName` in a state. -/
def StateNode.effectiveText (node : StateNode U) : LocalizedText :=
  match node.displayName with
  | displayName :: _ => displayName
  | [] => ⟨none, node.browseName.name⟩

/-- The value of `LastTransition` after a transition. -/
def TransitionNode.lastTransitionText (transition : TransitionNode N U) : LocalizedText :=
  match transition.displayName with
  | displayName :: _ => displayName
  | [] => ⟨none, some (transition.browseName.name.getD "")⟩

namespace FiniteStateMachineType

variable (type : FiniteStateMachineType N U)

/-- `getFiniteStateMachineTypeStateByName`. -/
def getStateByName (name : String) : Except String (Option N) :=
  match type.states.filter fun state => (type.node state).browseName.name = some name with
  | [] => .ok none
  | [state] => .ok (some state)
  | _ => .error "" -- an assertion without a message

/-- What `setState` does with an argument that is not null before it changes anything: the node with
the name is found, and it must be an object. -/
def coerceState : StateArgument N → Except String N
  | .null => .error ""
  | .name name =>
    match type.getStateByName name with
    | .error message => .error message
    | .ok none => .error ("Cannot find state with name " ++ name)
    | .ok (some state) =>
      if (type.node state).nodeClass = .Object then .ok state else .error ""
  | .node node => if (type.node node).nodeClass = .Object then .ok node else .error ""

/-- The assertion on a transition: `toStateNode` is an object. It asserts itself that there are not
several of them. -/
def leadsToObject (transition : TransitionNode N U) : Bool :=
  match transition.toState with
  | [toState] => (type.node toState).nodeClass = .Object
  | _ => false

end FiniteStateMachineType

/-- `defaultPredicate`, on several transitions. -/
def defaultPredicate : TransitionSelector N U := fun transitions _ _ => .ok transitions.head?

/-- An argument that is not truthy. -/
def StateArgument.isNull : StateArgument N → Bool
  | .null => true
  | .name stateName => stateName = ""
  | .node _ => false

/-! ### The variables -/

/-- **`applyCurrentStateOptionalProps`**, and what it throws. -/
def CurrentStateVariable.applyCurrentStateOptionalProps (currentState : CurrentStateVariable U)
    (currentStateNode : Option (StateNode U)) : CurrentStateVariable U × Option String :=
  let nodeId := match currentStateNode with
    | some node => node.nodeId
    | none => nullNodeId
  let browseName := match currentStateNode with
    | some node => node.browseName
    | none => ⟨0, none⟩
  let stateNumber := match currentStateNode with
    | some node => node.stateNumber
    | none => .value 0
  let effectiveText := match currentStateNode with
    | some node => node.effectiveText
    | none => ⟨none, some ""⟩
  let currentState :=
    { currentState with
      id := currentState.id.map fun _ => nodeId
      name := currentState.name.map fun _ => browseName }
  let finish := fun currentState : CurrentStateVariable U =>
    { currentState with
      effectiveDisplayName := currentState.effectiveDisplayName.map fun _ => effectiveText }
  match currentState.number with
  | none => (finish currentState, none)
  | some _ =>
    match stateNumber.readValue >>= coerceNumber with
    | .error message => (currentState, some message)
    | .ok number => (finish { currentState with number := some number }, none)

/-- **`applyLastTransitionOptionalProps`**, and what it throws. -/
def LastTransitionVariable.applyLastTransitionOptionalProps (lastTransition : LastTransitionVariable U)
    (transitionNode : TransitionNode N U) (transitionTime : ℕ) :
    LastTransitionVariable U × Option String :=
  let lastTransition :=
    { lastTransition with
      value := transitionNode.lastTransitionText
      id := lastTransition.id.map fun _ => transitionNode.nodeId
      transitionTime := lastTransition.transitionTime.map fun _ => transitionTime
      effectiveTransitionTime := lastTransition.effectiveTransitionTime.map fun _ => transitionTime
      name := lastTransition.name.map fun _ => transitionNode.browseName }
  match lastTransition.number with
  | none => (lastTransition, none)
  | some _ =>
    match transitionNode.transitionNumber.readValue >>= coerceNumber with
    | .error message => (lastTransition, some message)
    | .ok number => ({ lastTransition with number := some number }, none)

/-- **`applyTransitionOptionalPropsPhase1`**: the main machine has entered a substate. -/
def MainStateMachine.applyTransitionOptionalPropsPhase1 (mainMachine : MainStateMachine U)
    (transitionTime : ℕ) : MainStateMachine U :=
  match mainMachine.mainState, mainMachine.currentStateNode with
  | some mainState, some currentStateNode =>
    if mainState = currentStateNode then
      { mainMachine with
        effectiveTransitionTime := mainMachine.effectiveTransitionTime.map fun _ => transitionTime }
    else mainMachine
  | _, _ => mainMachine

namespace UAStateMachineEx

/-! ### Setting the state -/

variable [DecidableEq N] (type : FiniteStateMachineType N U)

/-- **`findTransitionNode`**. -/
def findTransitionNode (fromStateNode : Option N) (toStateNode : N)
    (predicate : TransitionSelector N U) : Except String (Option (TransitionNode N U)) :=
  match fromStateNode with
  | none => .ok none
  | some fromStateNode =>
    if (type.node fromStateNode).nodeClass ≠ .Object then .error "Internal Error"
    else if (type.node toStateNode).nodeClass ≠ .Object then .error "Internal Error"
    else if !(type.node fromStateNode).isStateType then .error ""
    else if !(type.node toStateNode).isStateType then .error ""
    else if !(type.fromState fromStateNode).all type.leadsToObject then .error ""
    else
      match (type.fromState fromStateNode).filter fun t => t.toState = [toStateNode] with
      | [] => .ok none
      | [transition] => .ok (some transition)
      | transitions => predicate transitions fromStateNode toStateNode

/-- The data of the event that `setState` raises. -/
def transitionEventData (transitionNode : TransitionNode N U) (fromStateNode : Option (StateNode U))
    (toStateNode : StateNode U) : Except String TransitionEvent := do
  let transitionId ← transitionNode.transitionNumber.readValue
  let fromStateId ← match fromStateNode with
    | some node => node.stateNumber.readValue
    | none => .ok none
  let toStateId ← toStateNode.stateNumber.readValue
  return {
    transition := transitionNode.displayName.head?.getD nullLocalizedText
    transitionId := transitionId
    fromState := match fromStateNode with
      | some node => node.displayName.head?.getD nullLocalizedText
      | none => ⟨none, some ""⟩
    fromStateId := fromStateId
    toState := toStateNode.displayName.head?.getD nullLocalizedText
    toStateId := toStateId }

/-- **What a call of `setState` leaves**: the machine, whether a variable was written, the event that
was raised, and what is thrown. -/
structure SetStateCall (N : Type) (U : CaseMapping) where
  machine : UAStateMachineEx N U
  written : Bool
  event : Option TransitionEvent
  thrown : Option String

section

variable (machine : UAStateMachineEx N U)

/-- The last part of `setState`, for a transition. -/
def applyTransition (fromStateNode : Option N) (toStateNode : N)
    (transitionNode : TransitionNode N U) (transitionTime : ℕ) : SetStateCall N U :=
  let applied := machine.lastTransition.map fun lastTransition =>
    lastTransition.applyLastTransitionOptionalProps transitionNode transitionTime
  let machine := { machine with lastTransition := applied.map Prod.fst }
  match applied.bind Prod.snd with
  | some message => ⟨machine, true, none, some message⟩
  | none =>
    match transitionEventData transitionNode (fromStateNode.map type.node)
        (type.node toStateNode) with
    | .error message => ⟨machine, true, none, some message⟩
    | .ok event => ⟨machine, true, some event, none⟩

/-- `setState` from where the node of the state is known. -/
def enterState (toStateNode : N)
    (predicate : TransitionSelector N U) (transitionTime : ℕ) : SetStateCall N U :=
  let fromStateNode := machine.currentStateNode
  let currentState :=
    { machine.currentState with
      value := (type.node toStateNode).currentStateText
      statusCode := .Good }
  let machine := { machine with currentStateNode := some toStateNode }
  match currentState.applyCurrentStateOptionalProps (some (type.node toStateNode)) with
  | (currentState, some message) => ⟨{ machine with currentState }, true, none, some message⟩
  | (currentState, none) =>
    let machine :=
      { machine with
        currentState
        mainMachine := machine.mainMachine.map fun mainMachine =>
          mainMachine.applyTransitionOptionalPropsPhase1 transitionTime }
    match findTransitionNode type fromStateNode toStateNode predicate with
    | .error message => ⟨machine, true, none, some message⟩
    | .ok none => ⟨machine, true, none, none⟩
    | .ok (some transitionNode) =>
      machine.applyTransition type fromStateNode toStateNode transitionNode transitionTime

/-- **`setState`**. -/
def setState (toStateNode : StateArgument N)
    (predicate : TransitionSelector N U) (transitionTime : ℕ) : SetStateCall N U :=
  if toStateNode.isNull then
    -- the properties are not looked at
    ⟨{ machine with
        currentStateNode := none
        currentState :=
          { machine.currentState with value := nullLocalizedText, statusCode := .BadStateNotActive } },
      true, none, none⟩
  else
    match type.coerceState toStateNode with
    | .error message => ⟨machine, false, none, some message⟩
    | .ok toStateNode => machine.enterState type toStateNode predicate transitionTime

end

/-- A call of `setState`. -/
structure SetStateRequest (N : Type) (U : CaseMapping) where
  toStateNode : StateArgument N
  predicate : TransitionSelector N U
  transitionTime : ℕ

/-- The step of the machine: a call, and the event that it raises. -/
def step (machine : UAStateMachineEx N U) (request : SetStateRequest N U) :
    UAStateMachineEx N U × List TransitionEvent :=
  let call := machine.setState type request.toStateNode request.predicate request.transitionTime
  (call.machine, call.event.toList)

end UAStateMachineEx

end NodeOpcua
