import Mathlib.Logic.Function.Iterate
import NodeOpcua.Library.Mealy
import NodeOpcua.Server.Notification

set_option autoImplicit false

/-!
# The publish engine of a client

A client keeps several Publish requests pending at the server, and acknowledges in them the messages
it has received. This file has the engine, with the sends that are scheduled and the requests that are
pending.

## Main definitions

* `ClientSidePublishEngine`.
* `ClientSidePublishEngine.send_publish_request`,
  `ClientSidePublishEngine.internalSendPublishRequest`, `ClientSidePublishEngine.publishCallback`.
* `ClientSidePublishEngine.step`.

## Design

* Whether the channel is valid is given with each input that asks for it.
* An error is known by what the engine looks for in its message.
* The scheduled sends are alike, so they are counted; a timer may expire at any step.
* What a subscription does with a message that it is handed is left out, and so is the time of the last
  request.
-/

namespace NodeOpcua

/-! ### Requests, errors and events -/

/-- `SubscriptionAcknowledgement`. -/
structure SubscriptionAcknowledgement where
  subscriptionId : ℕ
  sequenceNumber : ℕ
  deriving DecidableEq, Repr

/-- A Publish request of the client. -/
structure ClientPublishRequest where
  timeoutHint : ℕ
  subscriptionAcknowledgements : List SubscriptionAcknowledgement
  deriving DecidableEq, Repr

/-- **The error of a Publish request**: what its message matches. -/
structure PublishError where
  notConnected : Bool := false
  badNoSubscription : Bool := false
  badSessionClosed : Bool := false
  badSessionIdInvalid : Bool := false
  badTooManyPublishRequests : Bool := false
  badSecureChannelIdInvalid : Bool := false
  connectionBreak : Bool := false
  deriving DecidableEq, Repr

/-- **What the engine does**: it sends a request, with the number of pending requests and the limit at
that moment; a request with its acknowledgements is answered successfully; and a message for a
subscription is received. -/
inductive PublishEngineEvent (V : Type)
  | sent (request : ClientPublishRequest) (nbPendingPublishRequests : ℤ)
      (nbMaxPublishRequestsAcceptedByServer : ℤ)
  | acknowledged (subscriptionAcknowledgements : List SubscriptionAcknowledgement)
  | received (subscriptionId : ℕ) (notificationMessage : NotificationMessage V)
  deriving DecidableEq

/-- **The engine**, with the requests that are pending, and the numbers of sends that are scheduled by
`setImmediate` and by `setTimeout`. -/
structure ClientSidePublishEngine where
  /-- `session` is not null. -/
  session : Bool
  isSuspended : Bool
  timeoutHint : ℕ
  activeSubscriptionCount : ℤ
  nbPendingPublishRequests : ℤ
  nbMaxPublishRequestsAcceptedByServer : ℤ
  subscriptionAcknowledgements : List SubscriptionAcknowledgement
  /-- The keys of the map. -/
  subscriptionMap : List ℕ
  pendingRequests : List ClientPublishRequest
  immediates : ℕ
  timers : ℕ
  deriving DecidableEq, Repr

namespace ClientSidePublishEngine

/-- The constructor. -/
def new : ClientSidePublishEngine where
  session := true
  isSuspended := false
  timeoutHint := 10000
  activeSubscriptionCount := 0
  nbPendingPublishRequests := 0
  nbMaxPublishRequestsAcceptedByServer := 1000
  subscriptionAcknowledgements := []
  subscriptionMap := []
  pendingRequests := []
  immediates := 0
  timers := 0

/-- `publishRequestCountInPipeline`. -/
def publishRequestCountInPipeline : ℕ := 5

/-! ### Sending -/

section

variable (engine : ClientSidePublishEngine)

/-- **`send_publish_request`**: a send is scheduled. -/
def send_publish_request (isChannelValid : Bool) :
    ClientSidePublishEngine :=
  if engine.isSuspended then engine
  else if engine.nbMaxPublishRequestsAcceptedByServer ≤ engine.nbPendingPublishRequests then engine
  else if engine.session && !isChannelValid then { engine with timers := engine.timers + 1 }
  else { engine with immediates := engine.immediates + 1 }

/-- **`replenish_publish_request_queue`**. -/
def replenish_publish_request_queue (isChannelValid : Bool) :
    ClientSidePublishEngine :=
  Nat.iterate (fun engine => engine.send_publish_request isChannelValid)
    publishRequestCountInPipeline engine

/-- **`internalSendPublishRequest`**, up to the call of `publish`: the acknowledgements leave with the
request. -/
def internalSendPublishRequest :
    ClientSidePublishEngine × ClientPublishRequest :=
  let nbPendingPublishRequests := engine.nbPendingPublishRequests + 1
  let request : ClientPublishRequest :=
    { timeoutHint := min 0x7fffffff (nbPendingPublishRequests.toNat * engine.timeoutHint)
      subscriptionAcknowledgements := engine.subscriptionAcknowledgements }
  ({ engine with
      nbPendingPublishRequests
      subscriptionAcknowledgements := []
      pendingRequests := engine.pendingRequests ++ [request] }, request)

/-! ### Registering -/

/-- **`registerSubscription`**, which asserts that the subscription is not registered yet. -/
def registerSubscription (subscriptionId timeoutHint : ℕ)
    (isChannelValid : Bool) : ClientSidePublishEngine :=
  if subscriptionId ∈ engine.subscriptionMap then engine
  else
    replenish_publish_request_queue
      { engine with
        activeSubscriptionCount := engine.activeSubscriptionCount + 1
        subscriptionMap := engine.subscriptionMap ++ [subscriptionId]
        timeoutHint := min (max engine.timeoutHint timeoutHint) 0x7ffffff }
      isChannelValid

/-- **`unregisterSubscription`**, which asserts that the number is positive. -/
def unregisterSubscription (subscriptionId : ℕ) :
    ClientSidePublishEngine :=
  if subscriptionId = 0 then engine
  else
    { engine with
      activeSubscriptionCount := engine.activeSubscriptionCount - 1
      subscriptionMap := engine.subscriptionMap.erase subscriptionId }

/-- **`suspend`**. -/
def suspend (suspendedState isChannelValid : Bool) :
    ClientSidePublishEngine :=
  if engine.isSuspended = suspendedState then engine
  else
    let engine := { engine with isSuspended := suspendedState }
    if suspendedState then engine else engine.replenish_publish_request_queue isChannelValid

/-- `acknowledge_notification`. -/
def acknowledge_notification (subscriptionId : ℕ) (sequenceNumber : ℕ) : ClientSidePublishEngine :=
  { engine with
    subscriptionAcknowledgements :=
      engine.subscriptionAcknowledgements ++ [⟨subscriptionId, sequenceNumber⟩] }

/-- `cleanup_acknowledgment_for_subscription`. -/
def cleanup_acknowledgment_for_subscription (subscriptionId : ℕ) : ClientSidePublishEngine :=
  { engine with
    subscriptionAcknowledgements :=
      engine.subscriptionAcknowledgements.filter fun a => a.subscriptionId ≠ subscriptionId }

/-! ### Answers -/

end

variable {V : Type}

section

variable (engine : ClientSidePublishEngine)

/-- **`_receive_publish_response`**, up to the call of `onNotificationMessage`. A keep-alive message is
not acknowledged. -/
def _receive_publish_response (response : PublishResponse V) :
    ClientSidePublishEngine :=
  if response.notificationMessage.notificationData.length ≠ 0 then
    engine.acknowledge_notification response.subscriptionId
      response.notificationMessage.sequenceNumber
  else engine

/-- Whether a request goes on being renewed after an error. -/
def staysActive (err : PublishError) : Bool :=
  !(err.notConnected || (err.badNoSubscription && 1 ≤ engine.activeSubscriptionCount) ||
    err.badSessionClosed || err.badSessionIdInvalid || err.badTooManyPublishRequests ||
    err.badSecureChannelIdInvalid)

/-- **The callback of a Publish request**, for a request that is no longer pending. -/
def publishCallback (result : Except PublishError (PublishResponse V)) (isChannelValid : Bool) :
    ClientSidePublishEngine :=
  let engine :=
    { engine with nbPendingPublishRequests := engine.nbPendingPublishRequests - 1 }
  match result with
  | .ok response =>
    let engine := engine._receive_publish_response response
    if !engine.isSuspended && 0 < engine.activeSubscriptionCount then
      engine.send_publish_request isChannelValid
    else engine
  | .error err =>
    let engine :=
      if err.badTooManyPublishRequests then
        { engine with
          nbMaxPublishRequestsAcceptedByServer :=
            min engine.nbPendingPublishRequests engine.nbMaxPublishRequestsAcceptedByServer }
      else engine
    if !engine.isSuspended && engine.staysActive err && 0 < engine.activeSubscriptionCount &&
        !err.connectionBreak then
      engine.send_publish_request isChannelValid
    else engine

end

/-! ### Runs -/

/-- What may happen to the engine: it is called; a send that was scheduled is due; the pending request
at a position is answered; or a message is handed to a subscription by Republish. -/
inductive Input (V : Type)
  | registerSubscription (subscriptionId timeoutHint : ℕ) (isChannelValid : Bool)
  | unregisterSubscription (subscriptionId : ℕ)
  | suspend (suspendedState isChannelValid : Bool)
  | cleanup (subscriptionId : ℕ)
  | terminate
  | immediate
  | timer (isChannelValid : Bool)
  | answer (position : ℕ) (result : Except PublishError (PublishResponse V)) (isChannelValid : Bool)
  | republished (subscriptionId : ℕ) (notificationMessage : NotificationMessage V)

/-- The events of an answer. -/
def answerEvents (request : ClientPublishRequest) :
    Except PublishError (PublishResponse V) → List (PublishEngineEvent V)
  | .ok response =>
    [.acknowledged request.subscriptionAcknowledgements,
      .received response.subscriptionId response.notificationMessage]
  | .error _ => []

/-- **The step of the engine**. -/
def step (engine : ClientSidePublishEngine) :
    Input V → ClientSidePublishEngine × List (PublishEngineEvent V)
  | .registerSubscription subscriptionId timeoutHint isChannelValid =>
    (engine.registerSubscription subscriptionId timeoutHint isChannelValid, [])
  | .unregisterSubscription subscriptionId => (engine.unregisterSubscription subscriptionId, [])
  | .suspend suspendedState isChannelValid => (engine.suspend suspendedState isChannelValid, [])
  | .cleanup subscriptionId =>
    (engine.cleanup_acknowledgment_for_subscription subscriptionId, [])
  | .terminate => ({ engine with session := false }, [])
  | .immediate =>
    if engine.immediates = 0 then (engine, [])
    else
      let engine := { engine with immediates := engine.immediates - 1 }
      if !engine.session || engine.isSuspended then (engine, [])
      else
        let sent := engine.internalSendPublishRequest
        (sent.1, [.sent sent.2 sent.1.nbPendingPublishRequests
          sent.1.nbMaxPublishRequestsAcceptedByServer])
  | .timer isChannelValid =>
    if engine.timers = 0 then (engine, [])
    else
      let engine := { engine with timers := engine.timers - 1 }
      if engine.subscriptionMap.length ≠ 0 then (engine.send_publish_request isChannelValid, [])
      else (engine, [])
  | .answer position result isChannelValid =>
    match engine.pendingRequests[position]? with
    | none => (engine, [])
    | some request =>
      (publishCallback
          { engine with pendingRequests := engine.pendingRequests.eraseIdx position } result
          isChannelValid,
        answerEvents request result)
  | .republished subscriptionId notificationMessage =>
    (engine, [.received subscriptionId notificationMessage])

/-! ### What the parts of a step leave -/

/-- The counters of two engines are the same. -/
structure SameCounters (engine engine' : ClientSidePublishEngine) : Prop where
  nbPending : engine'.nbPendingPublishRequests = engine.nbPendingPublishRequests
  limit : engine'.nbMaxPublishRequestsAcceptedByServer = engine.nbMaxPublishRequestsAcceptedByServer
  active : engine'.activeSubscriptionCount = engine.activeSubscriptionCount
  pending : engine'.pendingRequests = engine.pendingRequests
  subscriptions : engine'.subscriptionMap = engine.subscriptionMap
  session : engine'.session = engine.session
  suspended : engine'.isSuspended = engine.isSuspended
  acknowledgements : engine'.subscriptionAcknowledgements = engine.subscriptionAcknowledgements

lemma SameCounters.refl (engine : ClientSidePublishEngine) : SameCounters engine engine :=
  ⟨rfl, rfl, rfl, rfl, rfl, rfl, rfl, rfl⟩

lemma SameCounters.trans {a b c : ClientSidePublishEngine} (h : SameCounters a b)
    (h' : SameCounters b c) : SameCounters a c :=
  ⟨h'.1.trans h.1, h'.2.trans h.2, h'.3.trans h.3, h'.4.trans h.4, h'.5.trans h.5, h'.6.trans h.6,
    h'.7.trans h.7, h'.8.trans h.8⟩

/-- **Scheduling a send** changes no counter, and removes no send. -/
lemma send_publish_request_same (engine : ClientSidePublishEngine) (valid : Bool) :
    SameCounters engine (engine.send_publish_request valid) ∧
      engine.immediates + engine.timers ≤
        (engine.send_publish_request valid).immediates +
          (engine.send_publish_request valid).timers := by
  unfold send_publish_request
  split_ifs
  · exact ⟨.refl engine, Nat.le_refl _⟩
  · exact ⟨.refl engine, Nat.le_refl _⟩
  · exact ⟨⟨rfl, rfl, rfl, rfl, rfl, rfl, rfl, rfl⟩, by dsimp only; omega⟩
  · exact ⟨⟨rfl, rfl, rfl, rfl, rfl, rfl, rfl, rfl⟩, by dsimp only; omega⟩

lemma send_publish_request_scheduled {engine : ClientSidePublishEngine} (valid : Bool)
    (hsusp : engine.isSuspended = false)
    (hlimit : engine.nbPendingPublishRequests < engine.nbMaxPublishRequestsAcceptedByServer) :
    0 < (engine.send_publish_request valid).immediates +
      (engine.send_publish_request valid).timers := by
  unfold send_publish_request
  rw [if_neg (by simp [hsusp]), if_neg (by omega)]
  split_ifs
  · dsimp only
    omega
  · dsimp only
    omega

lemma replenish_publish_request_queue_same (engine : ClientSidePublishEngine)
    (valid : Bool) :
    SameCounters engine (engine.replenish_publish_request_queue valid) := by
  unfold replenish_publish_request_queue
  generalize publishRequestCountInPipeline = n
  induction n generalizing engine with
  | zero => exact .refl engine
  | succ n ih => exact (send_publish_request_same engine valid).1.trans (ih _)

/-- The acknowledgement of a message: a keep-alive message has none. -/
def acknowledgementsOf (subscriptionId : ℕ) (notificationMessage : NotificationMessage V) :
    List SubscriptionAcknowledgement :=
  if notificationMessage.notificationData.length ≠ 0 then
    [⟨subscriptionId, notificationMessage.sequenceNumber⟩]
  else []

variable (engine : ClientSidePublishEngine)

lemma _receive_publish_response_eq (resp : PublishResponse V) :
    engine._receive_publish_response resp =
      { engine with
        subscriptionAcknowledgements := engine.subscriptionAcknowledgements ++
          acknowledgementsOf resp.subscriptionId resp.notificationMessage } := by
  unfold _receive_publish_response acknowledgementsOf acknowledge_notification
  split_ifs
  · rfl
  · rw [List.append_nil]

/-- **A response** counts one request less, and is received; a send is scheduled if there is one to
schedule. -/
lemma publishCallback_ok (resp : PublishResponse V) (valid : Bool) :
    SameCounters
        { engine with
          nbPendingPublishRequests := engine.nbPendingPublishRequests - 1
          subscriptionAcknowledgements := engine.subscriptionAcknowledgements ++
            acknowledgementsOf resp.subscriptionId resp.notificationMessage }
        (engine.publishCallback (.ok resp) valid) ∧
      (engine.isSuspended = false → 0 < engine.activeSubscriptionCount →
        engine.nbPendingPublishRequests - 1 < engine.nbMaxPublishRequestsAcceptedByServer →
        0 < (engine.publishCallback (.ok resp) valid).immediates +
          (engine.publishCallback (.ok resp) valid).timers) := by
  simp only [publishCallback, _receive_publish_response_eq]
  split_ifs with hsend
  · exact ⟨(send_publish_request_same _ valid).1,
      fun hs _ hl => send_publish_request_scheduled valid hs hl⟩
  · refine ⟨.refl _, fun hs ha _ => absurd ?_ hsend⟩
    simp only [hs, ha, Bool.not_false, decide_true, Bool.and_self]

/-- **An error** counts one request less, and may lower the limit. After `BadTooManyPublishRequests`
no send is scheduled. -/
lemma publishCallback_error (err : PublishError) (valid : Bool) :
    SameCounters
        { engine with
          nbPendingPublishRequests := engine.nbPendingPublishRequests - 1
          nbMaxPublishRequestsAcceptedByServer :=
            if err.badTooManyPublishRequests then
              min (engine.nbPendingPublishRequests - 1) engine.nbMaxPublishRequestsAcceptedByServer
            else engine.nbMaxPublishRequestsAcceptedByServer }
        (engine.publishCallback (V := V) (.error err) valid) ∧
      (err.badTooManyPublishRequests = true →
        (engine.publishCallback (V := V) (.error err) valid).immediates +
          (engine.publishCallback (V := V) (.error err) valid).timers =
            engine.immediates + engine.timers) := by
  cases htoo : err.badTooManyPublishRequests with
  | true =>
    have hstop : (engine.publishCallback (V := V) (.error err) valid) =
        { engine with
          nbPendingPublishRequests := engine.nbPendingPublishRequests - 1
          nbMaxPublishRequestsAcceptedByServer :=
            min (engine.nbPendingPublishRequests - 1)
              engine.nbMaxPublishRequestsAcceptedByServer } := by
      simp [publishCallback, htoo, staysActive]
    rw [hstop]
    exact ⟨.refl _, fun _ => rfl⟩
  | false =>
    refine ⟨?_, fun h => absurd h Bool.false_ne_true⟩
    simp only [publishCallback, htoo, Bool.false_eq_true, if_false]
    split_ifs
    · exact (send_publish_request_same _ valid).1
    · exact .refl _

end ClientSidePublishEngine

end NodeOpcua
