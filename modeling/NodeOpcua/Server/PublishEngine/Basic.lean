import Mathlib.Data.List.Sort
import NodeOpcua.Server.Subscription.Life

set_option autoImplicit false

/-!
# The publish engine of a session

The Publish requests of a session wait in a queue until a subscription has something to send. The
engine also keeps the closed subscriptions that still have notifications, and the status changes of
those that were transferred to another session.

## Main definitions

* `PublishData`.
* `PublishEngine`.
* `PublishEngine._on_PublishRequest`, `on_close_subscription`, `_tick`.

## Design

A call is `none` when one of its assertions fails. What the messages carry is a matter of the
subscriptions; here an answer is known by its kind, and the generator of the sequence numbers that a
`TransferredSubscription` shares is left out. `publishEngine` of a subscription is the engine that
lists it. Which late subscription is served first depends on the sorting of the source, whose
comparison is not an order; here the choice is an argument.
-/

namespace NodeOpcua

/-! ### Requests and answers -/

/-- `PublishRequest`. -/
structure PublishRequest where
  requestHandle : ℕ
  /-- In milliseconds, zero for no limit. -/
  timeoutHint : ℕ
  /-- The ids of subscriptions, with sequence numbers. -/
  subscriptionAcknowledgements : List (ℕ × ℕ)
  deriving DecidableEq, Repr

/-- **A Publish request** in the queue, with its number among the requests that the engine has
received. -/
structure PublishData where
  request : PublishRequest
  serverTimeWhenReceived : ℕ
  results : List StatusCode
  arrival : ℕ
  deriving DecidableEq, Repr

/-- What a request is answered with. -/
inductive PublishAnswer
  | publishResponse (subscriptionId : ℕ) (results : List StatusCode)
  | serviceFault (serviceResult : StatusCode)
  deriving DecidableEq, Repr

/-- **A call of `callback`**. -/
structure Answered where
  publishData : PublishData
  answer : PublishAnswer
  /-- The request has not waited in the queue. -/
  onArrival : Bool
  deriving DecidableEq, Repr

/-- `timeout_filter`. -/
def timeout_filter (now : ℕ) (publishData : PublishData) : Bool :=
  if publishData.request.timeoutHint = 0 then false
  else publishData.serverTimeWhenReceived + publishData.request.timeoutHint < now

/-! ### Closed and transferred subscriptions -/

/-- **`IClosedOrTransferredSubscription`**. -/
inductive ClosedOrTransferred (V I : Type)
  | closed (subscription : Subscription V I)
  /-- A `TransferredSubscription`, with `_pending_notification`. -/
  | transferred (id : ℕ) (_pending_notification : Bool)

namespace ClosedOrTransferred

variable {V I : Type}

/-- `id`. -/
def id : ClosedOrTransferred V I → ℕ
  | closed s => s.id
  | transferred id _ => id

/-- `hasPendingNotifications`. -/
def hasPendingNotifications : ClosedOrTransferred V I → Bool
  | closed s => s.hasPendingNotifications
  | transferred _ _pending_notification => _pending_notification

/-- `_publish_pending_notifications`, up to the call of `_send_response`. -/
def _publish_pending_notifications (pendingPublishRequestCount : ℕ) :
    ClosedOrTransferred V I → Option (ClosedOrTransferred V I)
  | closed s =>
    (s._publish_pending_notifications pendingPublishRequestCount).map fun outcome =>
      closed outcome.subscription
  | transferred id _pending_notification =>
    if _pending_notification then some (transferred id false) else none

end ClosedOrTransferred

/-! ### The engine -/

/-- **A publish engine**. The subscriptions are listed by their ids. -/
structure PublishEngine (V I : Type) where
  maxPublishRequestInQueue : ℕ
  isSessionClosed : Bool
  _publish_request_queue : List PublishData
  _subscriptions : List (Subscription V I)
  _closed_subscriptions : List (ClosedOrTransferred V I)
  /-- The number of the requests received so far. -/
  received : ℕ
  /-- The answers given so far. -/
  answered : List Answered

namespace PublishEngine

variable {V I : Type}

/-- `new ServerSidePublishEngine(options)`. -/
def new (maxPublishRequestInQueue : ℕ) : PublishEngine V I where
  maxPublishRequestInQueue :=
    if maxPublishRequestInQueue = 0 then 100 else maxPublishRequestInQueue
  isSessionClosed := false
  _publish_request_queue := []
  _subscriptions := []
  _closed_subscriptions := []
  received := 0
  answered := []

section

variable (e : PublishEngine V I)

/-- `pendingPublishRequestCount`. -/
def pendingPublishRequestCount : ℕ := e._publish_request_queue.length

/-- `subscriptionCount`. -/
def subscriptionCount : ℕ := e._subscriptions.length

/-- `getSubscriptionById`. -/
def getSubscriptionById (subscriptionId : ℕ) : Option (Subscription V I) :=
  e._subscriptions.find? fun s => s.id = subscriptionId

/-- The subscription takes the place of the one with its id. -/
def setSubscription (subscription : Subscription V I) :
    PublishEngine V I :=
  { e with
      _subscriptions := e._subscriptions.map fun s =>
        if s.id = subscription.id then subscription else s }

/-! ### Answers -/

/-- `_send_response_for_request`. -/
def _send_response_for_request (publishData : PublishData)
    (answer : PublishAnswer) (onArrival : Bool) : PublishEngine V I :=
  { e with answered := e.answered ++ [⟨publishData, answer, onArrival⟩] }

/-- `_send_error_for_request`. -/
def _send_error_for_request (publishData : PublishData)
    (statusCode : StatusCode) (onArrival : Bool) : PublishEngine V I :=
  e._send_response_for_request publishData (.serviceFault statusCode) onArrival

/-- The errors are sent one after the other. -/
def _send_error_for_requests (requests : List PublishData)
    (statusCode : StatusCode) : PublishEngine V I :=
  requests.foldl (fun e publishData => e._send_error_for_request publishData statusCode false) e

/-- `_send_response`, with the assertions on the queue and on the id of the subscription. -/
def _send_response (subscriptionId : ℕ) : Option (PublishEngine V I) :=
  match e._publish_request_queue with
  | [] => none
  | publishData :: queue =>
    if subscriptionId = 0xffffff then none
    else
      some ({ e with _publish_request_queue := queue }._send_response_for_request publishData
        (.publishResponse subscriptionId publishData.results) false)

/-- `_cancelPendingPublishRequest`. -/
def _cancelPendingPublishRequest (statusCode : StatusCode) :
    PublishEngine V I :=
  { e._send_error_for_requests e._publish_request_queue statusCode with
      _publish_request_queue := [] }

/-- `cancelPendingPublishRequest`. -/
def cancelPendingPublishRequest : Option (PublishEngine V I) :=
  if e.subscriptionCount = 0 then some (e._cancelPendingPublishRequest .BadNoSubscription)
  else none

/-- `cancelPendingPublishRequestBeforeChannelChange`. -/
def cancelPendingPublishRequestBeforeChannelChange : PublishEngine V I :=
  e._cancelPendingPublishRequest .BadSecureChannelClosed

/-- `onSessionClose`. -/
def onSessionClose : PublishEngine V I :=
  { e with isSessionClosed := true }._cancelPendingPublishRequest .BadSessionClosed

/-- `_on_tick`: the requests that have timed out are answered, wherever they are in the queue. -/
def _on_tick (now : ℕ) : PublishEngine V I :=
  { e with
      _publish_request_queue :=
        e._publish_request_queue.filter fun publishData => !timeout_filter now publishData
    }._send_error_for_requests (e._publish_request_queue.filter (timeout_filter now)) .BadTimeout

/-- `#_handle_too_many_requests`. -/
def _handle_too_many_requests : Option (PublishEngine V I) :=
  if e.pendingPublishRequestCount > e.maxPublishRequestInQueue then
    if e.pendingPublishRequestCount = e.maxPublishRequestInQueue + 1 then
      match e._publish_request_queue with
      | [] => some e
      | publishData :: queue =>
        some ({ e with _publish_request_queue := queue }._send_error_for_request publishData
          .BadTooManyPublishRequests false)
    else none
  else some e

/-! ### Closed subscriptions -/

/-- `#_feed_closed_subscription`. -/
def _feed_closed_subscription : Option (PublishEngine V I × Bool) :=
  if e.pendingPublishRequestCount = 0 then some (e, false)
  else
    match e._closed_subscriptions with
    | [] => some (e, false)
    | closed :: rest =>
      if closed.hasPendingNotifications then
        (closed._publish_pending_notifications e.pendingPublishRequestCount).bind fun closed' =>
          (e._send_response closed.id).map fun e =>
            ({ e with
                _closed_subscriptions :=
                  if closed'.hasPendingNotifications then closed' :: rest else rest }, true)
      else none

end

/-- `while (#_feed_closed_subscription())`, for the number of requests that wait. -/
def feedClosedSubscriptions : ℕ → PublishEngine V I → Option (PublishEngine V I)
  | 0, e => some e
  | n + 1, e =>
    e._feed_closed_subscription.bind fun r =>
      if r.2 then feedClosedSubscriptions n r.1 else some r.1

section

variable (e : PublishEngine V I)

/-- **`on_close_subscription`**. -/
def on_close_subscription (subscription : Subscription V I) :
    Option (PublishEngine V I) :=
  let e :=
    { e with
        _closed_subscriptions :=
          if subscription.hasPendingNotifications then
            e._closed_subscriptions ++ [.closed subscription]
          else e._closed_subscriptions
        _subscriptions := e._subscriptions.filter fun s => s.id ≠ subscription.id }
  (feedClosedSubscriptions e.pendingPublishRequestCount e).bind fun e =>
    if e.subscriptionCount = 0 && e._closed_subscriptions.isEmpty then
      e.cancelPendingPublishRequest
    else some e

/-! ### Subscriptions -/

/-- `add_subscription`. -/
def add_subscription (subscription : Subscription V I) :
    Option (PublishEngine V I) :=
  if (e.getSubscriptionById subscription.id).isSome then none
  else
    some { e with
      _subscriptions := e._subscriptions.orderedInsert (fun s t => s.id ≤ t.id) subscription }

/-- `detach_subscription`. -/
def detach_subscription (subscriptionId : ℕ) :
    Option (PublishEngine V I) :=
  if (e.getSubscriptionById subscriptionId).isSome then
    some { e with _subscriptions := e._subscriptions.filter fun s => s.id ≠ subscriptionId }
  else none

/-- `_purge_dangling_subscription`. -/
def _purge_dangling_subscription (subscriptionId : ℕ) :
    PublishEngine V I :=
  { e with _closed_subscriptions := e._closed_subscriptions.filter fun s => s.id ≠ subscriptionId }

/-- `findLateSubscriptions`. -/
def findLateSubscriptions : List (Subscription V I) :=
  e._subscriptions.filter fun s => (s.state = .LATE || !s.messageSent) && s.publishingEnabled

/-- What a call of a subscription does to the engine: the subscription changes, and its response
goes to the first request. -/
def afterCall (outcome : Outcome V I) : Option (PublishEngine V I) :=
  match outcome.response with
  | none => some (e.setSubscription outcome.subscription)
  | some response => (e.setSubscription outcome.subscription)._send_response response.subscriptionId

end

/-- `process_subscriptionAcknowledgements`. -/
def process_subscriptionAcknowledgements (e : PublishEngine V I) :
    List (ℕ × ℕ) → PublishEngine V I × List StatusCode
  | [] => (e, [])
  | (subscriptionId, sequenceNumber) :: subscriptionAcknowledgements =>
    let r : PublishEngine V I × StatusCode :=
      match e.getSubscriptionById subscriptionId with
      | none => (e, .BadSubscriptionIdInvalid)
      | some s =>
        let acknowledged := s.acknowledgeNotification sequenceNumber
        (e.setSubscription acknowledged.1, acknowledged.2)
    let rest := r.1.process_subscriptionAcknowledgements subscriptionAcknowledgements
    (rest.1, r.2 :: rest.2)

/-- **`_on_PublishRequest`**. The `setImmediate` of `#_feed_late_subscription` is a call of its
own. -/
def _on_PublishRequest (e : PublishEngine V I) (now : ℕ) (request : PublishRequest) :
    Option (PublishEngine V I) :=
  let acknowledged := e.process_subscriptionAcknowledgements request.subscriptionAcknowledgements
  let publishData : PublishData :=
    { request
      serverTimeWhenReceived := now
      results := acknowledged.2
      arrival := e.received }
  let e := { acknowledged.1 with received := e.received + 1 }
  let queued :=
    { e with _publish_request_queue := e._publish_request_queue ++ [publishData] }
  if e.isSessionClosed then some (e._send_error_for_request publishData .BadSessionClosed true)
  else if e.subscriptionCount = 0 then
    if (e._closed_subscriptions.head?.map ClosedOrTransferred.hasPendingNotifications).getD false
    then queued._feed_closed_subscription.map Prod.fst
    else some (e._send_error_for_request publishData .BadNoSubscription true)
  else if queued.pendingPublishRequestCount > 0 then
    queued._feed_closed_subscription.bind fun r => r.1._handle_too_many_requests
  else none

section MonitoredItems

variable [MonitoredItemInterface V I] (e : PublishEngine V I)

/-- The callback of `#_feed_late_subscription`, with the choice among the late subscriptions. -/
def _feed_late_subscription (choice : ℕ) : Option (PublishEngine V I) :=
  if e.pendingPublishRequestCount = 0 then some e
  else
    match e.findLateSubscriptions[choice % e.findLateSubscriptions.length]? with
    | none => some e
    | some starving_subscription =>
      (starving_subscription.process_subscription e.pendingPublishRequestCount).bind e.afterCall

/-- `terminate` of a subscription of the engine. -/
def terminateSubscription (subscription : Subscription V I) :
    Option (PublishEngine V I) :=
  if subscription.state = .CLOSED then some e else e.on_close_subscription subscription.terminate

/-- **`_tick`** of a subscription of the engine. -/
def tickSubscription (subscriptionId now : ℕ) :
    Option (PublishEngine V I) :=
  match e.getSubscriptionById subscriptionId with
  | none => some e
  | some s =>
    if s.state = .CLOSED then some e
    else
      let e := e._on_tick now
      (s._tick e.pendingPublishRequestCount).bind fun outcome =>
        if outcome.expired then e.on_close_subscription outcome.subscription
        else e.afterCall outcome

/-- `deleteSubscription` of a session. -/
def deleteSubscription (subscriptionId : ℕ) : Option (PublishEngine V I) :=
  match e.getSubscriptionById subscriptionId with
  | none => some e
  | some s =>
    if s.state = .CLOSED then some e
    else
      (e.terminateSubscription s).bind fun e =>
        if e.subscriptionCount = 0 then e.cancelPendingPublishRequest else some e

/-- `shutdown`: the subscriptions are terminated, and what is left is dropped. -/
def shutdown : Option (PublishEngine V I) :=
  (e._subscriptions.foldlM terminateSubscription e).bind fun e =>
    if e.subscriptionCount = 0 then
      some { e with _publish_request_queue := [], _closed_subscriptions := [] }
    else none

/-- `close` of a session: the requests are answered, the subscriptions are deleted, and the engine is
shut down and disposed of. -/
def closeSession : Option (PublishEngine V I) :=
  ((e._subscriptions.map Subscription.id).foldlM deleteSubscription e.onSessionClose).bind fun e =>
    e.shutdown.bind fun e =>
      if e.subscriptionCount = 0 && e._closed_subscriptions.isEmpty then some e else none

end MonitoredItems

end PublishEngine

end NodeOpcua
