import NodeOpcua.Library.Mealy
import NodeOpcua.StatusCode

set_option autoImplicit false

/-!
# Reading a variable asynchronously

`readValueAsync` refreshes a variable and then reads it. Callers that come while a read is in
progress are put in a list and get the result of that read.

## Main definitions

* `VariableServices`.
* `VariableReads`, `VariableServices.readValueAsync`, `asyncRefresh`, `satisfy_callbacks`.
* `VariableServices.step`.

## Design

* The settings of the node, which may change at any time, the contexts and the data values are of
  any type. Data values that are equal stand for the same object.
* The calls that are not finished are a stack of frames, so that an exception reaches the handlers
  that the source has. What a callback does is a part of the run: it may read again, and it may
  throw.
* The refresh function calls back once, while it is called or later. It may throw, and it may hand
  what its callback throws back as an error, as the one for getters does.
* The callers are numbered, and each keeps what its own context is allowed; and the callbacks are
  kept that stay in the list although they were called. Nothing depends on these.
-/

namespace NodeOpcua

/-! ### The variable -/

/-- **What a read asks of a variable**, for the settings of the node and a context. -/
structure VariableServices (A C D : Type) where
  isAccessRestricted : A → C → Bool
  isReadable : A → C → Bool
  /-- `checkPermissionPrivate`, for the permission to read. -/
  hasReadPermission : A → C → Bool
  isUserReadable : A → C → Bool
  /-- `SessionContext.defaultContext`. -/
  defaultContext : C
  /-- A data value with a status code only. -/
  ofStatusCode : StatusCode → D
  /-- The data value is not good, or its value is one that the variable may have. -/
  isCompatible : D → Bool
  /-- The server timestamp is not before the clock. -/
  isFresh : D → ℕ → Bool
  /-- A copy with the clock as the server timestamp. -/
  stamp : D → ℕ → D
  /-- The synchronous getter: the data value it leaves. -/
  get : D → Except Unit D
  /-- `_internal_set_dataValue`, on the present and the new data value. -/
  setDataValue : D → D → Except Unit D
  hasRefreshFunc : Bool
  /-- The refresh function hands what its callback throws back as an error. -/
  returnsErrors : Bool

/-- What a refresh function calls back with. -/
inductive RefreshOutcome (D : Type)
  | failed
  | missing
  | unchanged
  | data (dataValue : D)

/-- What a caller is called back with. -/
inductive ReadAnswer (D : Type)
  /-- `BadNodeIdUnknown`, since the node is disposed. -/
  | unknown
  /-- The status code of a check. -/
  | refused (statusCode : StatusCode)
  | result (err : Bool) (dataValue : Option D)
  deriving DecidableEq

/-- **A caller**: whether the node is disposed when it calls, and what a check of its own context
gives. -/
structure ReadCaller where
  number : ℕ
  disposed : Bool
  refusal : Option StatusCode
  deriving DecidableEq

/-- **A function that is being called.** -/
inductive ReadFrame (D : Type)
  /-- `readValueAsync`, in the block that is tried. -/
  | reading
  /-- `asyncRefresh`, which is calling the refresh function; this may still have to call back. -/
  | refreshing (waits : Bool)
  /-- The callback of the refresh function, called later. -/
  | settling
  /-- `satisfy_callbacks`, with the callbacks that are left. -/
  | delivering (rest : List ReadCaller) (answer : ReadAnswer D)
  deriving DecidableEq

/-- **A variable with its reads**: the callbacks in `__waiting_callbacks`, the number of the refreshes
that have still to call back, and the calls that are not finished, the innermost one first. -/
structure VariableReads (A D : Type) where
  settings : A
  disposed : Bool
  dataValue : D
  waiting : List ReadCaller
  refreshes : ℕ
  frames : List (ReadFrame D)
  calls : ℕ
  /-- The callbacks that were called and stay in the list. -/
  left : List ReadCaller

/-- A variable before the first read. -/
def VariableReads.initial {A D : Type} (settings : A) (dataValue : D) : VariableReads A D where
  settings
  disposed := false
  dataValue
  waiting := []
  refreshes := 0
  frames := []
  calls := 0
  left := []

/-- **What may happen**: a read starts, the innermost call goes on or throws, a refresh function calls
back, or the node changes. -/
inductive ReadEvent (A C D : Type)
  | read (context : Option C) (clock : ℕ)
  | next
  | throws
  | refreshed (synchronously : Bool) (outcome : RefreshOutcome D)
  | dispose
  | configure (settings : A)
  | write (dataValue : D)

namespace VariableServices

variable {A C D : Type} (V : VariableServices A C D)

/-! ### The synchronous read -/

/-- **The checks of a read**, in the order of the source: the status code with which a context is
refused. -/
def refusal (settings : A) (context : C) : Option StatusCode :=
  if V.isAccessRestricted settings context then some .BadSecurityModeInsufficient
  else if !V.isReadable settings context then some .BadNotReadable
  else if !V.hasReadPermission settings context then some .BadUserAccessDenied
  else if !V.isUserReadable settings context then some .BadNotReadable
  else none

/-- `readValue`, without a range and an encoding: what is answered, and the data value it leaves. -/
def readValue (settings : A) (dataValue : D) (context : C) : Except Unit (D × D) :=
  match V.refusal settings context with
  | some statusCode => .ok (V.ofStatusCode statusCode, dataValue)
  | none => (V.get dataValue).map fun dataValue => (dataValue, dataValue)

/-! ### Callbacks and exceptions -/

/-- `satisfy_callbacks`: the list is emptied before the callbacks are called. -/
def satisfy_callbacks (s : VariableReads A D) (answer : ReadAnswer D) : VariableReads A D :=
  { s with waiting := [], left := [], frames := .delivering s.waiting answer :: s.frames }

/-- **An exception passes the frames** until one of them handles it. -/
def unwind (s : VariableReads A D) : List (ReadFrame D) → VariableReads A D
  | [] => { s with frames := [] }
  | .delivering _ _ :: frames => unwind s frames
  | .settling :: frames =>
    if V.returnsErrors then { s with frames, refreshes := s.refreshes + 1 } else unwind s frames
  | .refreshing _ :: frames =>
    match V.setDataValue s.dataValue (V.ofStatusCode .BadInternalError) with
    | .ok dataValue =>
      satisfy_callbacks { s with frames, dataValue } (.result true (some dataValue))
    | .error _ => unwind s frames
  | .reading :: frames => satisfy_callbacks { s with frames } (.result true none)

/-! ### The asynchronous read -/

section

variable (s : VariableReads A D)

/-- `asyncRefresh`, when there is a refresh function. -/
def asyncRefresh (clock : ℕ) : VariableReads A D :=
  if !V.isCompatible s.dataValue then V.unwind s s.frames
  else if V.isFresh s.dataValue clock then
    match V.readValue s.settings s.dataValue V.defaultContext with
    | .ok (answer, dataValue) =>
      satisfy_callbacks { s with dataValue } (.result false (some (V.stamp answer clock)))
    | .error _ => V.unwind s s.frames
  else { s with frames := .refreshing true :: s.frames }

/-- The callback that `asyncRefresh` gives to the refresh function. -/
def settle : RefreshOutcome D → VariableReads A D
  | .unchanged => satisfy_callbacks s (.result false (some s.dataValue))
  | .failed => set s (V.ofStatusCode .BadNoDataAvailable) true
  | .missing => set s (V.ofStatusCode .BadNoDataAvailable) false
  | .data dataValue => set s dataValue false
where
  /-- The data value is replaced, which may throw. -/
  set (s : VariableReads A D) (dataValue : D) (err : Bool) : VariableReads A D :=
    match V.setDataValue s.dataValue dataValue with
    | .ok dataValue => satisfy_callbacks { s with dataValue } (.result err (some dataValue))
    | .error _ => V.unwind s s.frames

/-- The caller that a read adds to the list. -/
def caller (context : Option C) : ReadCaller where
  number := s.calls
  disposed := s.disposed
  refusal := V.refusal s.settings (context.getD V.defaultContext)

/-- What the first caller in the list does when the node is not disposed. -/
def startRead (context : Option C) (clock : ℕ) : VariableReads A D :=
  let s := { s with frames := .reading :: s.frames }
  match V.refusal s.settings (context.getD V.defaultContext) with
  | some statusCode => satisfy_callbacks s (.refused statusCode)
  | none =>
    if V.hasRefreshFunc then V.asyncRefresh s clock
    else
      match V.readValue s.settings s.dataValue (context.getD V.defaultContext) with
      | .ok (answer, dataValue) => satisfy_callbacks { s with dataValue } (.result false (some answer))
      | .error _ => V.unwind s s.frames

/-- `readValueAsync`. -/
def readValueAsync (context : Option C) (clock : ℕ) : VariableReads A D :=
  let caller := V.caller s context
  let s := { s with waiting := s.waiting ++ [caller], calls := s.calls + 1 }
  if 2 ≤ s.waiting.length then s
  -- the callback stays in the list
  else if s.disposed then { s with left := [caller] }
  else V.startRead s context clock

end

/-- The innermost call goes on: a loop calls its next callback, or the call returns. -/
def next (s : VariableReads A D) : VariableReads A D :=
  match s.frames with
  | [] => s
  | .delivering (_ :: rest) answer :: frames =>
    { s with frames := .delivering rest answer :: frames }
  | .refreshing true :: frames => { s with frames, refreshes := s.refreshes + 1 }
  | _ :: frames => { s with frames }

/-- The refresh function calls back, while it is called or later. -/
def refreshed (s : VariableReads A D) (synchronously : Bool) (outcome : RefreshOutcome D) :
    VariableReads A D :=
  if synchronously then
    match s.frames with
    | .refreshing true :: frames => V.settle { s with frames := .refreshing false :: frames } outcome
    | _ => s
  else if s.refreshes = 0 then s
  else
    V.settle { s with refreshes := s.refreshes - 1, frames := .settling :: s.frames } outcome

/-- The state after an event. -/
def after (s : VariableReads A D) : ReadEvent A C D → VariableReads A D
  | .read context clock => V.readValueAsync s context clock
  | .next => next s
  | .throws => V.unwind s s.frames
  | .refreshed synchronously outcome => V.refreshed s synchronously outcome
  | .dispose => { s with disposed := true }
  | .configure settings => { s with settings }
  | .write dataValue => { s with dataValue }

/-- The callbacks that are called in an event. -/
def answered (s : VariableReads A D) : ReadEvent A C D → List (ReadCaller × ReadAnswer D)
  | .read context _ =>
    if s.waiting = [] ∧ s.disposed = true then [(V.caller s context, .unknown)] else []
  | .next =>
    match s.frames with
    | .delivering (caller :: _) answer :: _ => [(caller, answer)]
    | _ => []
  | _ => []

/-- **What may happen next**, with the callbacks that are called. -/
def step (s : VariableReads A D) (e : ReadEvent A C D) :
    VariableReads A D × List (ReadCaller × ReadAnswer D) :=
  (V.after s e, V.answered s e)

end VariableServices

end NodeOpcua
