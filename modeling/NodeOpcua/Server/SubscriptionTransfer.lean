import Mathlib.Logic.Function.Basic
import NodeOpcua.Library.Mealy
import NodeOpcua.Library.Throwing
import NodeOpcua.Server.TransferIdentity
import NodeOpcua.StatusCode

set_option autoImplicit false

/-!
# Where a subscription is registered

A subscription is in the publish engine of a session, or in the one for orphans once its session is
closed. It knows its engine and its session, and, as an orphan, the identity of its former session.

## Main definitions

* `SubscriptionPlaces`, `SubscriptionPlaces.closeSession`, `deleteSubscription`,
  `deleteOrphanSubscription`, `transferSubscription`, `SubscriptionPlaces.step`.

## Design

* An exception leaves the state as it was when it was thrown. A promise that is rejected, and that
  nobody waits for, is counted.
* `await` ends a step: a transfer and the deletion of an orphan go on in a step of their own, and
  anything may happen before that. The initial values are sent in between.
* A session has a publish engine until it is closed, so the sessions with one are those in
  `_sessions`. The order in which the subscriptions of an engine are kept makes no difference.
* The Publish requests and the notifications of an engine are in `PublishEngines`. Here it is only
  told of a subscription that is terminated whether it has notifications left.
-/

namespace NodeOpcua

/-! ### The state -/

/-- A publish engine: the one of a session, or the one for orphans. -/
inductive PublishEngineReference
  | session (session : ℕ)
  | orphan
  deriving DecidableEq, Repr

/-- **A subscription**, with the places where its owner is stored. -/
structure OwnedSubscription where
  /-- The state is `CLOSED`. -/
  closed : Bool
  timerId : Bool
  publishEngine : Option PublishEngineReference
  /-- `$session`. -/
  session : Option ℕ
  /-- `$transferSessionIdentity`. -/
  transferSessionIdentity : Option TransferSessionIdentity
  deriving DecidableEq

/-- Where a transfer waits. -/
inductive TransferStage
  /-- For the initial values. -/
  | resending
  /-- For `ServerSidePublishEngine.transferSubscription`. -/
  | answering
  deriving DecidableEq, Repr

/-- A transfer that waits. -/
structure WaitingTransfer where
  subscriptionId : ℕ
  session : ℕ
  srcPublishEngine : PublishEngineReference
  stage : TransferStage
  deriving DecidableEq

/-- **A server**, with what the subscriptions are registered in. -/
structure SubscriptionPlaces where
  sessions : ℕ → TransferSession
  sessionCount : ℕ
  /-- The sessions that are not closed. -/
  _sessions : List ℕ
  /-- There is an engine for orphans. -/
  _orphanPublishEngine : Bool
  /-- The ids in the table `_subscriptions` of an engine. -/
  engines : PublishEngineReference → List ℕ
  subscriptions : ℕ → OwnedSubscription
  next_subscriptionId : ℕ
  transfers : List WaitingTransfer
  /-- The orphans for which `_beforeDeleteSubscription` is called. -/
  deletions : List ℕ
  /-- The promises that were rejected and that nobody waits for. -/
  rejections : ℕ

/-- What is thrown. -/
inductive OwnershipFailure
  | assertion
  /-- A property of `null` is read. -/
  | typeError
  /-- There is no session with the token. -/
  | noSession
  deriving DecidableEq, Repr

/-- What comes out of a step. -/
inductive OwnershipOutput
  | answered (session subscriptionId : ℕ) (statusCode : StatusCode)
  | threw (failure : OwnershipFailure)
  deriving DecidableEq, Repr

/-- **What may happen.** -/
inductive OwnershipEvent
  | createSession (session : TransferSession)
  /-- The session is activated, or gets or loses its channel. -/
  | changeSession (number : ℕ) (session : TransferSession)
  | createSubscription (session : ℕ)
  | closeSession (session : ℕ) (deleteSubscriptions : Bool) (hasPendingNotifications : ℕ → Bool)
  | transferSubscription (session subscriptionId : ℕ) (sendInitialValues : Bool)
  /-- A transfer that waits goes on. -/
  | resumeTransfer (transfer : ℕ)
  | deleteSubscription (session subscriptionId : ℕ) (hasPendingNotifications : ℕ → Bool)
  | deleteOrphanSubscription (subscriptionId : ℕ)
  /-- `_beforeDeleteSubscription` is over. -/
  | resumeDeletion (deletion : ℕ) (hasPendingNotifications : ℕ → Bool)
  /-- The life time of a subscription has expired. -/
  | expire (subscriptionId : ℕ) (hasPendingNotifications : ℕ → Bool)

/-- What a server is configured with, and the function of another package. -/
structure TransferPolicy where
  makeSHA1Thumbprint : Buffer → String
  allowAnonymousSubscriptionTransferOnUnsecuredChannel : Bool

namespace SubscriptionPlaces

open Throwing

/-- A server without sessions. -/
def new (next_subscriptionId : ℕ) : SubscriptionPlaces where
  sessions := fun _ => ⟨none, none, none⟩
  sessionCount := 0
  _sessions := []
  _orphanPublishEngine := false
  engines := fun _ => []
  subscriptions := fun _ => ⟨true, false, none, none, none⟩
  next_subscriptionId
  transfers := []
  deletions := []
  rejections := 0

/-- A program on a server. -/
abbrev M := EStateM OwnershipFailure SubscriptionPlaces

/-- An assertion of the source. -/
def assert (condition : SubscriptionPlaces → Bool) : M PUnit := do
  check .assertion (condition (← get) = true)

/-- A subscription changes. -/
def setSubscription (s : SubscriptionPlaces) (subscriptionId : ℕ)
    (change : OwnedSubscription → OwnedSubscription) : SubscriptionPlaces :=
  { s with
      subscriptions := Function.update s.subscriptions subscriptionId
        (change (s.subscriptions subscriptionId)) }

section

variable (s : SubscriptionPlaces) (engine : PublishEngineReference)

/-- The table of an engine changes. -/
def setEngine (change : List ℕ → List ℕ) : SubscriptionPlaces :=
  { s with engines := Function.update s.engines engine (change (s.engines engine)) }

/-- `getSubscriptionById`. -/
def getSubscriptionById (subscriptionId : ℕ) : Bool :=
  s.engines engine |>.contains subscriptionId

end

/-! ### The end of a subscription -/

/-- `Subscription.dispose`. -/
def dispose (subscriptionId : ℕ) : M PUnit :=
  modify fun s => s.setSubscription subscriptionId fun subscription =>
    { subscription with publishEngine := none, session := none }

/-- `on_close_subscription`. -/
def on_close_subscription (engine : PublishEngineReference) (subscriptionId : ℕ)
    (hasPendingNotifications : ℕ → Bool) : M PUnit := do
  unless hasPendingNotifications subscriptionId do dispose subscriptionId
  modify fun s => s.setEngine engine fun table => table.erase subscriptionId

/-- `Subscription.terminate`. -/
def terminate (subscriptionId : ℕ) (hasPendingNotifications : ℕ → Bool) : M PUnit := do
  let subscription := (← get).subscriptions subscriptionId
  if subscription.closed then return
  modify fun s => s.setSubscription subscriptionId fun subscription =>
    { subscription with closed := true, timerId := false }
  match subscription.publishEngine with
  | none => return
  | some engine => on_close_subscription engine subscriptionId hasPendingNotifications

/-- `ServerSession.getSubscription`. -/
def getSubscription (s : SubscriptionPlaces) (session subscriptionId : ℕ) : Bool :=
  s._sessions.contains session && s.getSubscriptionById (.session session) subscriptionId &&
    !(s.subscriptions subscriptionId).closed

/-- `ServerSession.deleteSubscription`. -/
def deleteSubscription (session subscriptionId : ℕ) (hasPendingNotifications : ℕ → Bool) :
    M StatusCode := do
  if !(← get).getSubscription session subscriptionId then return .BadSubscriptionIdInvalid
  terminate subscriptionId hasPendingNotifications
  -- `cancelPendingPublishRequest` asserts that there is no subscription
  if (← get).engines (.session session) = [] then
    assert fun s => (s.engines (.session session)).length = 0
  return .Good

/-- `findSubscription`. -/
def findSubscription (s : SubscriptionPlaces) (subscriptionId : ℕ) : Bool :=
  (s._sessions.any fun session => s.getSubscriptionById (.session session) subscriptionId) ||
    s._orphanPublishEngine && s.getSubscriptionById .orphan subscriptionId

/-- `deleteOrphanSubscription`, of a subscription that was found. -/
def deleteOrphanSubscription (subscriptionId : ℕ) (hasPendingNotifications : ℕ → Bool) :
    M StatusCode := do
  if !(← get)._orphanPublishEngine then return .BadInternalError
  assert fun s => s.findSubscription subscriptionId
  let c := ((← get).engines .orphan).length
  terminate subscriptionId hasPendingNotifications
  dispose subscriptionId
  assert fun s => (s.engines .orphan).length + 1 = c
  return .Good

/-! ### Publish engines -/

section

variable (engine : PublishEngineReference) (subscriptionId : ℕ)

/-- `add_subscription` of `ServerSidePublishEngine`. -/
def addTo : M PUnit := do
  modify fun s => s.setSubscription subscriptionId fun subscription =>
    { subscription with publishEngine := some (subscription.publishEngine.getD engine) }
  assert fun s => (s.subscriptions subscriptionId).publishEngine = some engine
  assert fun s => !s.getSubscriptionById engine subscriptionId
  modify fun s => s.setEngine engine fun table => table ++ [subscriptionId]

/-- `detach_subscription`. -/
def detach_subscription : M PUnit := do
  assert fun s => (s.subscriptions subscriptionId).publishEngine = some engine
  assert fun s => s.getSubscriptionById engine subscriptionId
  modify fun s => s.setEngine engine fun table => table.erase subscriptionId
  modify fun s => s.setSubscription subscriptionId fun subscription =>
    { subscription with publishEngine := none }

end

/-- `assignSubscription`. -/
def assignSubscription (session subscriptionId : ℕ) : M PUnit := do
  assert fun s => (s.subscriptions subscriptionId).session = none
  modify fun s => s.setSubscription subscriptionId fun subscription =>
    { subscription with session := some session }
  -- `_exposeSubscriptionDiagnostics`
  assert fun s => (s.subscriptions subscriptionId).session = some session

/-- `createSubscription` of a session that is not closed. -/
def createSubscription (session : ℕ) : M PUnit := do
  let subscriptionId := (← get).next_subscriptionId
  modify fun s => { s with next_subscriptionId := subscriptionId + 1 }
  modify fun s => s.setSubscription subscriptionId fun _ =>
    ⟨false, true, some (.session session), none, none⟩
  addTo (.session session) subscriptionId
  assignSubscription session subscriptionId

variable (P : TransferPolicy)

/-- The identity of a session. -/
def identity (s : SubscriptionPlaces) (session : ℕ) : TransferSessionIdentity :=
  getTransferSessionIdentity P.makeSHA1Thumbprint (s.sessions session)

/-- `add_subscription`, which the engine for orphans overrides. -/
def add_subscription (engine : PublishEngineReference) (subscriptionId : ℕ) : M PUnit :=
  match engine with
  | .session _ => addTo engine subscriptionId
  | .orphan => do
    modify fun s => s.setSubscription subscriptionId fun subscription =>
      { subscription with
          transferSessionIdentity := (subscription.session.map (s.identity P)).or
            subscription.transferSessionIdentity
          session := none }
    addTo engine subscriptionId

/-- `ServerSidePublishEngine.transferSubscription`, before the initial values are sent: the engine
where the subscription was. -/
def moveSubscription (subscriptionId : ℕ) (destPublishEngine : PublishEngineReference) :
    M PublishEngineReference := do
  assert fun s => !s.getSubscriptionById destPublishEngine subscriptionId
  match ((← get).subscriptions subscriptionId).publishEngine with
  | none => throw .typeError
  | some srcPublishEngine =>
    assert fun s => s.getSubscriptionById srcPublishEngine subscriptionId
    detach_subscription srcPublishEngine subscriptionId
    add_subscription P destPublishEngine subscriptionId
    return srcPublishEngine

/-- `ServerSidePublishEngine.transferSubscription`, after the initial values were sent. -/
def assertMoved (subscriptionId : ℕ) (srcPublishEngine destPublishEngine : PublishEngineReference) :
    M PUnit := do
  assert fun s => s.getSubscriptionById destPublishEngine subscriptionId
  assert fun s => !s.getSubscriptionById srcPublishEngine subscriptionId

/-- A promise that nobody waits for. -/
def unawaited (program : M PUnit) : M PUnit := fun s =>
  match program s with
  | .ok _ s => .ok ⟨⟩ s
  | .error _ s => .ok ⟨⟩ { s with rejections := s.rejections + 1 }

/-- `transferSubscriptionsToOrphan`. -/
def transferSubscriptionsToOrphan (session : ℕ) : M PUnit := do
  ((← get).engines (.session session)).forM fun subscriptionId => do
    assert fun s => (s.subscriptions subscriptionId).publishEngine = some (.session session)
    unawaited do
      let srcPublishEngine ← moveSubscription P subscriptionId .orphan
      assertMoved subscriptionId srcPublishEngine .orphan
  assert fun s => (s.engines (.session session)).length = 0

/-- `ServerSession.close`, which always deletes the subscriptions that are left. -/
def close (session : ℕ) (hasPendingNotifications : ℕ → Bool) : M PUnit := do
  ((← get).engines (.session session)).forM fun subscriptionId =>
    discard (deleteSubscription session subscriptionId hasPendingNotifications)
  -- in `close`, and in `shutdown` and `dispose` of the engine
  assert fun s => (s.engines (.session session)).length = 0

/-- `ServerEngine.closeSession`. -/
def closeSession (session : ℕ) (deleteSubscriptions : Bool) (hasPendingNotifications : ℕ → Bool) :
    M PUnit := do
  check .noSession (session ∈ (← get)._sessions)
  unless deleteSubscriptions do
    modify fun s => { s with _orphanPublishEngine := true }
    transferSubscriptionsToOrphan P session
  close session hasPendingNotifications
  modify fun s => { s with _sessions := s._sessions.erase session }

/-! ### Transfers -/

/-- The identity with which the owner of a subscription is compared. -/
def sourceIdentity (s : SubscriptionPlaces) (subscriptionId : ℕ) : Option TransferSessionIdentity :=
  ((s.subscriptions subscriptionId).session.map (s.identity P)).or
    (s.subscriptions subscriptionId).transferSessionIdentity

section

variable (s : SubscriptionPlaces) (session subscriptionId : ℕ)

/-- The owner of a subscription and a session are compatible. -/
def compatible : Bool :=
  sessionsCompatibleForTransfer P.makeSHA1Thumbprint (s.sourceIdentity P subscriptionId)
    (s.sessions session) P.allowAnonymousSubscriptionTransferOnUnsecuredChannel

/-- The status code with which a transfer is refused. -/
def refusal : Option StatusCode :=
  if subscriptionId = 0 then some .BadSubscriptionIdInvalid
  else if !s.findSubscription subscriptionId then some .BadSubscriptionIdInvalid
  else if !s.compatible P session subscriptionId then some .BadUserAccessDenied
  else if (s.subscriptions subscriptionId).publishEngine = some (.session session) then
    some .BadNothingToDo
  else if (s.subscriptions subscriptionId).session = some session then some .BadNothingToDo
  else none

end

/-- `ServerEngine.transferSubscription`, before it waits. -/
def transferSubscription (session subscriptionId : ℕ) (sendInitialValues : Bool) :
    M (Option StatusCode) := do
  match (← get).refusal P session subscriptionId with
  | some statusCode => return some statusCode
  | none =>
    modify fun s => s.setSubscription subscriptionId fun subscription =>
      { subscription with session := some session }
    let srcPublishEngine ← moveSubscription P subscriptionId (.session session)
    unless sendInitialValues do assertMoved subscriptionId srcPublishEngine (.session session)
    let stage : TransferStage := if sendInitialValues then .resending else .answering
    modify fun s => { s with
      transfers := s.transfers ++ [⟨subscriptionId, session, srcPublishEngine, stage⟩] }
    return none

/-- A transfer goes on when the initial values were sent. -/
def resend (transfer : WaitingTransfer) : M PUnit := do
  -- the end of `resendInitialValues`: the state is `NORMAL`
  modify fun s => s.setSubscription transfer.subscriptionId fun subscription =>
    { subscription with closed := false }
  assertMoved transfer.subscriptionId transfer.srcPublishEngine (.session transfer.session)
  modify fun s => { s with transfers := s.transfers ++ [{ transfer with stage := .answering }] }

/-- The end of `ServerEngine.transferSubscription`. -/
def answer (transfer : WaitingTransfer) : M PUnit := do
  -- `_exposeSubscriptionDiagnostics`
  assert fun s => (s.subscriptions transfer.subscriptionId).session = some transfer.session
  assert fun s => s._sessions.contains transfer.session &&
    (s.subscriptions transfer.subscriptionId).publishEngine = some (.session transfer.session)

/-! ### Steps -/

/-- The state and the outputs after a program. -/
def outcome {α : Type} (outputs : α → List OwnershipOutput) :
    EStateM.Result OwnershipFailure SubscriptionPlaces α →
      SubscriptionPlaces × List OwnershipOutput
  | .ok a s => (s, outputs a)
  | .error failure s => (s, [.threw failure])

/-- **What may happen next.** -/
def step (s : SubscriptionPlaces) : OwnershipEvent → SubscriptionPlaces × List OwnershipOutput
  | .createSession session =>
    ({ s with
        sessions := Function.update s.sessions s.sessionCount session
        sessionCount := s.sessionCount + 1
        _sessions := s._sessions ++ [s.sessionCount] }, [])
  | .changeSession number session =>
    ({ s with sessions := Function.update s.sessions number session }, [])
  | .createSubscription session =>
    if session ∈ s._sessions then outcome (fun _ => []) (createSubscription session s) else (s, [])
  | .closeSession session deleteSubscriptions hasPendingNotifications =>
    outcome (fun _ => []) (closeSession P session deleteSubscriptions hasPendingNotifications s)
  | .transferSubscription session subscriptionId sendInitialValues =>
    if session ∈ s._sessions then
      outcome (fun statusCode => (statusCode.map (.answered session subscriptionId)).toList)
        (transferSubscription P session subscriptionId sendInitialValues s)
    else (s, [])
  | .resumeTransfer transfer =>
    match s.transfers[transfer]? with
    | none => (s, [])
    | some waiting =>
      let s := { s with transfers := s.transfers.eraseIdx transfer }
      match waiting.stage with
      | .resending => outcome (fun _ => []) (resend waiting s)
      | .answering =>
        outcome (fun _ => [.answered waiting.session waiting.subscriptionId .Good])
          (answer waiting s)
  | .deleteSubscription session subscriptionId hasPendingNotifications =>
    outcome (fun _ => []) (deleteSubscription session subscriptionId hasPendingNotifications s)
  | .deleteOrphanSubscription subscriptionId =>
    if s._orphanPublishEngine && s.getSubscriptionById .orphan subscriptionId then
      ({ s with deletions := s.deletions ++ [subscriptionId] }, [])
    else (s, [])
  | .resumeDeletion deletion hasPendingNotifications =>
    match s.deletions[deletion]? with
    | none => (s, [])
    | some subscriptionId =>
      outcome (fun _ => []) (deleteOrphanSubscription subscriptionId hasPendingNotifications
        { s with deletions := s.deletions.eraseIdx deletion })
  | .expire subscriptionId hasPendingNotifications =>
    if (s.subscriptions subscriptionId).timerId then
      outcome (fun _ => []) (terminate subscriptionId hasPendingNotifications s)
    else (s, [])

end SubscriptionPlaces

end NodeOpcua
