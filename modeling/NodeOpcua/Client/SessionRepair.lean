import Mathlib.Data.List.Sort
import NodeOpcua.Client.ClientPublishEngine

set_option autoImplicit false

/-!
# The repair of a session

When the connection is back, a client activates its session again and asks the server to republish what
its subscriptions have missed. When the session cannot be activated, a new one is created, and the
subscriptions are transferred to it or recreated. What fails is tried again from the start.

## Main definitions

* `SessionRepair`.
* `SessionRepair.recreateSubscriptions`, `processAll`, `_ask_for_subscription_republish`.
* `SessionRepair.step`.

## Design

* A phase of the repair is what it waits for. The code between two answers runs without interruption.
* An error is known by what the code looks for in its message. `republish` calls back without an error.
* A subscription has a name that does not change, besides the number that the server gives to it.
* The server gives positive numbers to subscriptions, and answers a transfer with no more results than
  it was asked for. No subscription is terminated during a repair.
* When an assertion fails in the callback of a response, the repair does not go on.
-/

namespace NodeOpcua

/-! ### Subscriptions and answers -/

/-- A subscription of the client, with its number. -/
structure RegisteredSubscription where
  name : ℕ
  subscriptionId : ℕ
  deriving DecidableEq, Repr

/-- **The error of a Republish request**: what its message matches. -/
structure RepublishError where
  badSessionInvalid : Bool := false
  subscriptionIdInvalid : Bool := false
  badMessageNotAvailable : Bool := false
  deriving DecidableEq, Repr

/-- What `_sendRepublish` gets. -/
inductive RepublishAnswer
  | badMessageNotAvailable
  | notificationMessage
  | error (err : RepublishError)
  deriving DecidableEq, Repr

/-- The caller of `recreateSubscriptionAndMonitoredItem`. -/
inductive RecreationCaller
  /-- `recreateSubscriptions`, with the numbers that are left. -/
  | recreateSubscriptions (subscriptionIds : List ℕ)
  /-- `__askSubscriptionRepublish`, with the subscriptions that are left. -/
  | askSubscriptionRepublish (newSession : Bool) (entries : List RegisteredSubscription)
  deriving DecidableEq, Repr

/-- **What the repair waits for.** -/
inductive RepairPhase
  | idle
  | activating
  | creatingSession
  | activatingNewSession
  | closingNewSession
  | beforeSubscriptionRecreate
  | transferring (subscriptionIds : List ℕ)
  | creatingSubscription (subscription : RegisteredSubscription) (caller : RecreationCaller)
  | creatingMonitoredItems (subscription : RegisteredSubscription) (caller : RecreationCaller)
  /-- `setImmediate`, before a Republish request. -/
  | yielding (newSession : Bool) (subscription : RegisteredSubscription)
      (entries : List RegisteredSubscription)
  | republishing (newSession : Bool) (subscription : RegisteredSubscription)
      (entries : List RegisteredSubscription)
  /-- The timer is running. -/
  | retrying
  /-- An assertion has failed, or a promise is never settled. -/
  | stuck
  deriving DecidableEq, Repr

/-- **A session** with its repair. -/
structure SessionRepair where
  engine : ClientSidePublishEngine
  /-- The values of `engine.subscriptionMap`, in the order of their numbers. -/
  subscriptions : List RegisteredSubscription
  /-- There is a client. -/
  _client : Bool
  _closed : Bool
  _closeEventHasBeenEmitted : Bool
  /-- The client is usable and has a secure channel. -/
  usable : Bool
  isChannelValid : Bool
  /-- The client has the function `beforeSubscriptionRecreate`. -/
  hasBeforeSubscriptionRecreate : Bool
  phase : RepairPhase
  /-- The names of the subscriptions when the repair began. No function reads them. -/
  before : List ℕ
  /-- The names of the subscriptions that this attempt has republished to the end or recreated. No
  function reads them. -/
  recovered : List ℕ
  deriving DecidableEq, Repr

/-- What happens. -/
inductive RepairEvent
  | repair
  | activated (failed : Bool)
  | sessionCreated (failed : Bool)
  | newSessionClosed
  | hookDone (failed : Bool)
  /-- The results tell whether each subscription was transferred. -/
  | transferred (results : Option (List Bool))
  /-- The number and the timeout hint of the subscription. -/
  | subscriptionCreated (response : Option (ℕ × ℕ))
  | monitoredItemsCreated (failed : Bool)
  | immediate
  | republished (answer : RepublishAnswer)
  /-- The timer of the repair. -/
  | retry
  | closing
  | closeEvent
  | disposed
  | channelChange (usable isChannelValid : Bool)
  /-- A send of the publish engine is due. -/
  | publishImmediate
  | publishTimer
  | publishAnswer (position : ℕ) (result : Except PublishError (PublishResponse Unit))

/-- A repair calls back, with the session as it is then. -/
structure RepairReport where
  failed : Bool
  session : SessionRepair
  deriving DecidableEq, Repr

namespace SessionRepair

section

variable (s : SessionRepair)

/-- `hasBeenClosed`. -/
def hasBeenClosed : Bool :=
  !s._client || s._closed || s._closeEventHasBeenEmitted

/-- `_shouldNotContinue`. -/
def _shouldNotContinue : Bool := s.hasBeenClosed || !s.usable

/-- `_shouldNotContinue2`. -/
def _shouldNotContinue2 : Bool := !s.engine.session || s._shouldNotContinue

/-- `getSubscriptionIds`. -/
def getSubscriptionIds : List ℕ :=
  s.subscriptions.map RegisteredSubscription.subscriptionId

/-! ### The end of an attempt -/

/-- The repair calls back. -/
def callback (failed : Bool) : SessionRepair × List RepairReport :=
  ({ s with phase := .idle }, [⟨failed, { s with phase := .idle }⟩])

/-- The callback of `_repair_client_session`: an attempt is over. -/
def attemptDone (failed : Bool) : SessionRepair × List RepairReport :=
  if s._shouldNotContinue then s.callback true
  else if failed then
    if !s.hasBeenClosed then ({ s with phase := .retrying }, []) else s.callback false
  else s.callback false

/-- `repair_client_session_by_recreating_a_new_session_async`, after the subscriptions were republished.
-/
def startPublishing : SessionRepair × List RepairReport :=
  if s._shouldNotContinue then s.attemptDone true
  else attemptDone { s with engine := s.engine.suspend false s.isChannelValid } false

section

variable (newSession : Bool)

/-- The callback of `republish`. -/
def republishDone : SessionRepair × List RepairReport :=
  if s._shouldNotContinue then s.attemptDone true
  else
    let s :=
      if s.subscriptions ≠ [] then
        { s with engine := s.engine.replenish_publish_request_queue s.isChannelValid }
      else s
    if newSession then s.startPublishing else s.attemptDone false

/-! ### Republishing -/

/-- `processAll`, for the subscriptions that are left. -/
def processAll :
    List RegisteredSubscription → SessionRepair × List RepairReport
  | [] => s.republishDone newSession
  | subscription :: entries => ({ s with phase := .yielding newSession subscription entries }, [])

/-- `_ask_for_subscription_republish`. -/
def _ask_for_subscription_republish :
    SessionRepair × List RepairReport :=
  if s._shouldNotContinue then s.attemptDone true else s.processAll newSession s.subscriptions

/-- `__askSubscriptionRepublish`, after the loop. An exception ends `processAll`. -/
def checkAfterRepublish (entries : List RegisteredSubscription) :
    SessionRepair × List RepairReport :=
  if s._shouldNotContinue2 then s.republishDone newSession else s.processAll newSession entries

end

/-! ### Recreating -/

/-- A subscription is recovered. -/
def recover (subscription : RegisteredSubscription) : SessionRepair :=
  { s with recovered := subscription.name :: s.recovered }

end

/-- `unregisterSubscription`. -/
def unregisterSubscription (s : SessionRepair) (subscription : RegisteredSubscription) : SessionRepair :=
  { s with
    engine := s.engine.unregisterSubscription subscription.subscriptionId
    subscriptions := s.subscriptions.filter (·.subscriptionId ≠ subscription.subscriptionId) }

/-- `registerSubscription`. -/
def registerSubscription (s : SessionRepair) (subscription : RegisteredSubscription)
    (timeoutHint : ℕ) : SessionRepair :=
  { s with
    engine := s.engine.registerSubscription subscription.subscriptionId timeoutHint s.isChannelValid
    subscriptions := s.subscriptions.orderedInsert
      (fun a b => a.subscriptionId ≤ b.subscriptionId) subscription }

/-- The subscriptions are transferred or recreated. -/
def transferDone (s : SessionRepair) : SessionRepair × List RepairReport :=
  if s._shouldNotContinue then s.attemptDone true else s._ask_for_subscription_republish true

/-- `recreateSubscriptions`, for the numbers that are left. An exception of
`recreateSubscriptionAndMonitoredItem`, which does not create a subscription without a session, is
caught. -/
def recreateSubscriptions (s : SessionRepair) : List ℕ → SessionRepair × List RepairReport
  | [] => s.transferDone
  | subscriptionId :: subscriptionIds =>
    if s._shouldNotContinue then s.attemptDone true
    else
      match s.subscriptions.find? (·.subscriptionId = subscriptionId) with
      | none => s.recreateSubscriptions subscriptionIds
      | some subscription =>
        let s := s.unregisterSubscription subscription
        if !s.engine.session then s.recreateSubscriptions subscriptionIds
        else
          ({ s with
            phase := .creatingSubscription subscription (.recreateSubscriptions subscriptionIds) }, [])

section

variable (s : SessionRepair)

/-- `recreateSubscriptionAndMonitoredItem`, called by `__askSubscriptionRepublish`. -/
def recreateForRepublish (newSession : Bool) (subscription : RegisteredSubscription)
    (entries : List RegisteredSubscription) : SessionRepair × List RepairReport :=
  let s := s.unregisterSubscription subscription
  if !s.engine.session then s.republishDone newSession
  else
    ({ s with
      phase := .creatingSubscription subscription (.askSubscriptionRepublish newSession entries) }, [])

/-- `recreateSubscriptionAndMonitoredItem` throws. -/
def recreationFailed : RecreationCaller → SessionRepair × List RepairReport
  | .recreateSubscriptions subscriptionIds => s.recreateSubscriptions subscriptionIds
  | .askSubscriptionRepublish newSession _ => s.republishDone newSession

/-- `recreateSubscriptionAndMonitoredItem` returns. -/
def recreationDone : RecreationCaller → SessionRepair × List RepairReport
  | .recreateSubscriptions subscriptionIds => s.recreateSubscriptions subscriptionIds
  | .askSubscriptionRepublish newSession entries => s.processAll newSession entries

section

variable (subscription : RegisteredSubscription) (caller : RecreationCaller)

/-- `__create_subscription`, after the response, and `recreateSubscriptionAndMonitoredItem`, to the
creation of the monitored items. -/
def subscriptionCreated : Option (ℕ × ℕ) → SessionRepair × List RepairReport
  | none => s.recreationFailed caller
  | some (subscriptionId, timeoutHint) =>
    if !s.engine.session then s.recreationFailed caller
    else if subscriptionId ∈ s.getSubscriptionIds then ({ s with phase := .stuck }, [])
    else
      let subscription := { subscription with subscriptionId }
      let s := s.registerSubscription subscription timeoutHint
      if s._shouldNotContinue then s.recreationFailed caller
      else ({ s with phase := .creatingMonitoredItems subscription caller }, [])

/-- The end of `recreateSubscriptionAndMonitoredItem`. -/
def monitoredItemsCreated (failed : Bool) : SessionRepair × List RepairReport :=
  if failed then s.recreationFailed caller else (s.recover subscription).recreationDone caller

end

/-- `_republish` and `__askSubscriptionRepublish`, after an answer. -/
def republished (newSession : Bool) (subscription : RegisteredSubscription)
    (entries : List RegisteredSubscription) : RepublishAnswer → SessionRepair × List RepairReport
  | .badMessageNotAvailable => (s.recover subscription).checkAfterRepublish newSession entries
  | .notificationMessage => ({ s with phase := .yielding newSession subscription entries }, [])
  | .error err =>
    if s._shouldNotContinue2 then s.republishDone newSession
    else if err.badSessionInvalid then s.republishDone newSession
    else if err.subscriptionIdInvalid then s.recreateForRepublish newSession subscription entries
    else if err.badMessageNotAvailable then (s.recover subscription).processAll newSession entries
    else s.checkAfterRepublish newSession entries

/-! ### A new session -/

/-- `attempt_subscription_transfer`. -/
def attempt_subscription_transfer : SessionRepair × List RepairReport :=
  if s.getSubscriptionIds = [] then s.transferDone
  else ({ s with phase := .transferring s.getSubscriptionIds }, [])

end

/-- The numbers of the subscriptions that could not be transferred. -/
def subscriptionsToRecreate (subscriptionIds : List ℕ) (results : List Bool) : List ℕ :=
  ((subscriptionIds.zip results).filter fun result => !result.2).map Prod.fst

section

variable (s : SessionRepair)

/-- `attempt_subscription_transfer`, after the response. -/
def transferred (subscriptionIds : List ℕ) :
    Option (List Bool) → SessionRepair × List RepairReport
  | none => s.recreateSubscriptions subscriptionIds
  | some results => s.recreateSubscriptions (subscriptionsToRecreate subscriptionIds results)

/-- `activate_session`, after the response. The session that could not be activated is closed, if there
is a client. -/
def newSessionActivated (failed : Bool) : SessionRepair × List RepairReport :=
  if failed then ({ s with phase := if s._client then .closingNewSession else .stuck }, [])
  else if s._shouldNotContinue then s.attemptDone true
  else if s.hasBeforeSubscriptionRecreate then ({ s with phase := .beforeSubscriptionRecreate }, [])
  else s.attempt_subscription_transfer

/-! ### Steps -/

/-- `repeatedAction`. -/
def repeatedAction : SessionRepair × List RepairReport :=
  if s._shouldNotContinue then s.callback true
  else ({ s with phase := .activating, recovered := [] }, [])

/-- `repair_client_session`. -/
def repair_client_session : SessionRepair × List RepairReport :=
  if s.hasBeenClosed then s.callback false
  else
    repeatedAction { s with before := s.subscriptions.map RegisteredSubscription.name }

/-- The answer to `ActivateSession`, for the session that there was. -/
def activated (failed : Bool) : SessionRepair × List RepairReport :=
  if s._shouldNotContinue then s.attemptDone true
  else if failed then
    ({ s with
      engine := s.engine.suspend true s.isChannelValid
      phase := .creatingSession }, [])
  else s._ask_for_subscription_republish false

/-- A step of the publish engine. -/
def publish (input : ClientSidePublishEngine.Input Unit) :
    SessionRepair × List RepairReport :=
  ({ s with engine := (s.engine.step input).1 }, [])

end

/-- **What happens next.** -/
def step (s : SessionRepair) : RepairEvent → SessionRepair × List RepairReport
  | .repair => if s.phase = .idle then s.repair_client_session else (s, [])
  | .activated failed =>
    match s.phase with
    | .activating => s.activated failed
    | .activatingNewSession => s.newSessionActivated failed
    | _ => (s, [])
  | .sessionCreated failed =>
    if s.phase = .creatingSession then
      if s._shouldNotContinue || failed then s.attemptDone true
      else ({ s with phase := .activatingNewSession }, [])
    else (s, [])
  | .newSessionClosed =>
    if s.phase = .closingNewSession then s.attemptDone true else (s, [])
  | .hookDone failed =>
    if s.phase = .beforeSubscriptionRecreate then
      if s._shouldNotContinue || failed then s.attemptDone true else s.attempt_subscription_transfer
    else (s, [])
  | .transferred results =>
    match s.phase with
    | .transferring subscriptionIds =>
      if s._shouldNotContinue then s.attemptDone true else s.transferred subscriptionIds results
    | _ => (s, [])
  | .subscriptionCreated response =>
    match s.phase with
    | .creatingSubscription subscription caller => s.subscriptionCreated subscription caller response
    | _ => (s, [])
  | .monitoredItemsCreated failed =>
    match s.phase with
    | .creatingMonitoredItems subscription caller => s.monitoredItemsCreated subscription caller failed
    | _ => (s, [])
  | .immediate =>
    match s.phase with
    | .yielding newSession subscription entries =>
      if !s.engine.session || s._closeEventHasBeenEmitted then
        s.checkAfterRepublish newSession entries
      else ({ s with phase := .republishing newSession subscription entries }, [])
    | _ => (s, [])
  | .republished answer =>
    match s.phase with
    | .republishing newSession subscription entries =>
      s.republished newSession subscription entries answer
    | _ => (s, [])
  | .retry =>
    if s.phase = .retrying then
      if s._shouldNotContinue then s.callback true else s.repeatedAction
    else (s, [])
  | .closing => ({ s with _closed := true }, [])
  | .closeEvent => ({ s with _closed := true, _closeEventHasBeenEmitted := true }, [])
  | .disposed =>
    ({ s with
      _client := false
      _closed := true
      _closeEventHasBeenEmitted := true
      engine := { s.engine with session := false } }, [])
  | .channelChange usable isChannelValid => ({ s with usable, isChannelValid }, [])
  | .publishImmediate => s.publish .immediate
  | .publishTimer => s.publish (.timer s.isChannelValid)
  | .publishAnswer position result => s.publish (.answer position result s.isChannelValid)

end SessionRepair

end NodeOpcua
