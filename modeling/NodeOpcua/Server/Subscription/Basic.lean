import Mathlib.Data.Rat.Floor
import NodeOpcua.SecureChannel.SequenceNumber
import NodeOpcua.Server.Notification

set_option autoImplicit false

/-!
# Subscriptions

The `Subscription` class of `node-opcua-server`: the state machine of the publishing timer, the
queue of pending notifications, the messages kept for republishing and their acknowledgement.

## Main definitions

* `Subscription`, `Subscription._tick`, `Subscription.process_subscription`,
  `_publish_pending_notifications`, `Subscription.acknowledgeNotification`,
  `getMessageForSequenceNumber`.

## Design

A subscription sees its publish engine through the number of Publish requests that wait there, the
parameter `pendingPublishRequestCount`; it answers at most one of them in a call, the first one, and
the response is a field of the `Outcome` of the call. `none` is an assertion that fails, before
anything is changed. The monitored items are of any type with the operations of
`MonitoredItemInterface`. The diagnostics that nothing reads are left out.
-/

namespace NodeOpcua

/-- `SubscriptionState`. -/
inductive SubscriptionState
  | CLOSED
  | CREATING
  | NORMAL
  | LATE
  | KEEPALIVE
  deriving DecidableEq, Repr

/-! ### Revised parameters -/

def minimumPublishingInterval : ℚ := 50
def defaultPublishingInterval : ℚ := 1000
def maximumPublishingInterval : ℚ := 1000 * 60
def minimumLifetimeDuration : ℚ := 5 * 1000
def maximumLifetimeDuration : ℚ := 60 * 60 * 1000
def maxNotificationPerPublishHighLimit : ℕ := 1000
def minimumMaxKeepAliveCount : ℕ := 2
def maximumMaxKeepAliveCount : ℕ := 12000

/-- `_adjust_publishing_interval`: none is undefined or not a number. -/
def _adjust_publishing_interval (publishingInterval : Option ℚ) : ℚ :=
  min (max (publishingInterval.getD defaultPublishingInterval) minimumPublishingInterval)
    maximumPublishingInterval

/-- `_adjust_maxKeepAliveCount`. -/
def _adjust_maxKeepAliveCount (maxKeepAliveCount : ℕ) : ℕ :=
  let maxKeepAliveCount :=
    if maxKeepAliveCount = 0 then minimumMaxKeepAliveCount else maxKeepAliveCount
  min (max maxKeepAliveCount minimumMaxKeepAliveCount) maximumMaxKeepAliveCount

/-- `_adjust_lifeTimeCount`. -/
def _adjust_lifeTimeCount (lifeTimeCount maxKeepAliveCount : ℕ) (publishingInterval : ℚ) : ℕ :=
  let lifeTimeCount := if lifeTimeCount = 0 then 1 else lifeTimeCount
  let minTicks := ⌈minimumLifetimeDuration / publishingInterval⌉₊
  let maxTicks := ⌊maximumLifetimeDuration / publishingInterval⌋₊
  let lifeTimeCount := min maxTicks (max minTicks lifeTimeCount)
  max lifeTimeCount (min (maxKeepAliveCount * 3) 0xffffffff)

/-- `_adjust_maxNotificationsPerPublish`. -/
def _adjust_maxNotificationsPerPublish (maxNotificationsPerPublish : ℕ) : ℕ :=
  if maxNotificationsPerPublish = 0 then maxNotificationPerPublishHighLimit
  else min maxNotificationPerPublishHighLimit maxNotificationsPerPublish

/-- **Revised parameters**: what the adjustments guarantee. -/
structure RevisedParameters where
  publishingInterval : ℚ
  maxKeepAliveCount : ℕ
  lifeTimeCount : ℕ
  maxNotificationsPerPublish : ℕ
  two_le_maxKeepAliveCount : 2 ≤ maxKeepAliveCount
  three_mul_le_lifeTimeCount : 3 * maxKeepAliveCount ≤ lifeTimeCount
  maxNotificationsPerPublish_pos : 0 < maxNotificationsPerPublish

/-- The parameters of a subscription for the requested ones. -/
def RevisedParameters.adjust (publishingInterval : Option ℚ)
    (maxKeepAliveCount lifeTimeCount maxNotificationsPerPublish : ℕ) : RevisedParameters where
  publishingInterval := _adjust_publishing_interval publishingInterval
  maxKeepAliveCount := _adjust_maxKeepAliveCount maxKeepAliveCount
  lifeTimeCount := _adjust_lifeTimeCount lifeTimeCount (_adjust_maxKeepAliveCount maxKeepAliveCount)
    (_adjust_publishing_interval publishingInterval)
  maxNotificationsPerPublish := _adjust_maxNotificationsPerPublish maxNotificationsPerPublish
  two_le_maxKeepAliveCount := by
    unfold _adjust_maxKeepAliveCount minimumMaxKeepAliveCount maximumMaxKeepAliveCount
    dsimp only
    split_ifs <;> omega
  three_mul_le_lifeTimeCount := by
    have h : _adjust_maxKeepAliveCount maxKeepAliveCount ≤ 12000 := min_le_right _ _
    unfold _adjust_lifeTimeCount
    dsimp only
    omega
  maxNotificationsPerPublish_pos := by
    unfold _adjust_maxNotificationsPerPublish maxNotificationPerPublishHighLimit
    split_ifs <;> omega

/-! ### The state -/

/-- `ModifySubscriptionParameters`. -/
structure ModifySubscriptionParameters where
  requestedPublishingInterval : Option ℚ
  requestedLifetimeCount : ℕ
  requestedMaxKeepAliveCount : ℕ
  maxNotificationsPerPublish : ℕ
  priority : ℕ

/-- **A subscription.** The monitored items are listed by their ids, with increasing ids. -/
structure Subscription (V I : Type) extends RevisedParameters where
  id : ℕ
  priority : ℕ
  publishingEnabled : Bool
  state : SubscriptionState
  messageSent : Bool
  publishIntervalCount : ℕ
  _life_time_counter : ℕ
  _keep_alive_counter : ℕ
  _pending_notifications : List (InternalNotification V)
  _sent_notification_messages : List (NotificationMessage V)
  _sequence_number_generator : SequenceNumberGenerator
  monitoredItems : List (ℕ × I)
  timerId : Bool
  _hasUncollectedMonitoredItemNotifications : Bool
  /-- `subscriptionDiagnostics.unacknowledgedMessageCount`. -/
  unacknowledgedMessageCount : ℤ

/-- What a call does, beside the change of the subscription. -/
structure Outcome (V I : Type) where
  subscription : Subscription V I
  /-- The answer to the first Publish request of the engine. -/
  response : Option (PublishResponse V) := none
  /-- `setImmediate(_tick)` was called. -/
  retick : Bool := false
  /-- The subscription was terminated because its life time has expired. -/
  expired : Bool := false

variable {V I : Type}

namespace Subscription

/-- `new Subscription(options)`. -/
def new (id priority : ℕ) (parameters : RevisedParameters) (publishingEnabled : Bool) :
    Subscription V I where
  toRevisedParameters := parameters
  id := id
  priority := priority
  publishingEnabled := publishingEnabled
  state := .CREATING
  messageSent := false
  publishIntervalCount := 0
  _life_time_counter := 0
  _keep_alive_counter := parameters.maxKeepAliveCount - 1
  _pending_notifications := []
  _sent_notification_messages := []
  _sequence_number_generator := {}
  monitoredItems := []
  timerId := true
  _hasUncollectedMonitoredItemNotifications := false
  unacknowledgedMessageCount := 0

/-! ### Counters -/

section

variable (s : Subscription V I)

/-- `resetLifeTimeCounter`. -/
def resetLifeTimeCounter : Subscription V I :=
  { s with _life_time_counter := 0 }

/-- `resetKeepAliveCounter`. -/
def resetKeepAliveCounter : Subscription V I :=
  { s with _keep_alive_counter := 0 }

/-- `resetLifeTimeAndKeepAliveCounters`. -/
def resetLifeTimeAndKeepAliveCounters : Subscription V I :=
  s.resetLifeTimeCounter.resetKeepAliveCounter

/-- `increaseLifeTimeCounter`. -/
def increaseLifeTimeCounter : Subscription V I :=
  { s with _life_time_counter := s._life_time_counter + 1 }

/-- `increaseKeepAliveCounter`. -/
def increaseKeepAliveCounter : Subscription V I :=
  { s with _keep_alive_counter := s._keep_alive_counter + 1 }

/-- `lifeTimeHasExpired`. -/
def lifeTimeHasExpired : Bool := s._life_time_counter ≥ s.lifeTimeCount

/-- `keepAliveCounterHasExpired`. -/
def keepAliveCounterHasExpired : Bool :=
  s._keep_alive_counter ≥ s.maxKeepAliveCount || s.state = .LATE

/-- `timeToExpiration`. -/
def timeToExpiration : ℚ :=
  ((s.lifeTimeCount : ℚ) - s._life_time_counter) * s.publishingInterval

end

/-! ### Sent messages -/

/-- `maxNotificationMessagesInQueue`. -/
def maxNotificationMessagesInQueue : ℕ := 100

/-- `getAvailableSequenceNumbers`. -/
def getAvailableSequenceNumbers (s : Subscription V I) : List ℕ :=
  s._sent_notification_messages.map NotificationMessage.sequenceNumber

/-- `getMessageForSequenceNumber`. -/
def getMessageForSequenceNumber (s : Subscription V I) (sequenceNumber : ℕ) :
    Option (NotificationMessage V) :=
  s._sent_notification_messages.find? fun e => e.sequenceNumber = sequenceNumber

/-- The index of the last element with the property, as `forEach` finds it. -/
def foundIndex {α : Type} (p : α → Bool) : List α → Option ℕ
  | [] => none
  | a :: as =>
    match foundIndex p as with
    | some i => some (i + 1)
    | none => if p a then some 0 else none

section

variable (s : Subscription V I)

/-- `acknowledgeNotification`. -/
def acknowledgeNotification (sequenceNumber : ℕ) :
    Subscription V I × StatusCode :=
  match foundIndex (fun e => e.sequenceNumber = sequenceNumber) s._sent_notification_messages with
  | none => (s, .BadSequenceNumberUnknown)
  | some i =>
    ({ s with
        _sent_notification_messages := s._sent_notification_messages.eraseIdx i
        unacknowledgedMessageCount := s.unacknowledgedMessageCount - 1 }, .Good)

/-- `discardOldSentNotifications`. -/
def discardOldSentNotifications : Subscription V I :=
  if maxNotificationMessagesInQueue < s._sent_notification_messages.length then
    { s with
        _sent_notification_messages := s._sent_notification_messages.drop
          (s._sent_notification_messages.length - maxNotificationMessagesInQueue) }
  else s

/-! ### Pending notifications -/

/-- `hasPendingNotifications`. -/
def hasPendingNotifications : Bool := s._pending_notifications ≠ []

/-- `_addNotificationMessage`. -/
def _addNotificationMessage (notificationData : Notification V)
    (monitoredItemId : Option ℕ) : Subscription V I :=
  { s with
      _pending_notifications := s._pending_notifications ++
        [⟨monitoredItemId, notificationData, s.publishIntervalCount⟩] }

/-- `_removePendingNotificationsFor`. -/
def _removePendingNotificationsFor (monitoredItemId : ℕ) :
    Subscription V I :=
  { s with
      _pending_notifications :=
        s._pending_notifications.filter fun e => e.monitoredItemId ≠ some monitoredItemId }

/-- The subscription when a message of pending notifications is made: the message is kept for
republishing. -/
def messageKept : Subscription V I :=
  let popped := takeNotifications s.maxNotificationsPerPublish false s._pending_notifications
  { s with
      _pending_notifications := popped.2
      _sequence_number_generator := s._sequence_number_generator.next.2
      _sent_notification_messages := s._sent_notification_messages ++
        [{ sequenceNumber := s._sequence_number_generator.next.1
           notificationData := packNotifications popped.1 }] }

/-- The response with a message of pending notifications. -/
def publishResponse : PublishResponse V where
  subscriptionId := s.id
  availableSequenceNumbers := s.messageKept.getAvailableSequenceNumbers
  moreNotifications := s.messageKept.hasPendingNotifications
  notificationMessage :=
    { sequenceNumber := s._sequence_number_generator.next.1
      notificationData := packNotifications
        (takeNotifications s.maxNotificationsPerPublish false s._pending_notifications).1 }

/-- The subscription after a message of pending notifications was sent. -/
def messagePublished : Subscription V I :=
  let s : Subscription V I :=
    { s.messageKept with
        messageSent := true
        unacknowledgedMessageCount := s.unacknowledgedMessageCount + 1 }
  let s := s.resetLifeTimeAndKeepAliveCounters
  if s.state = .CLOSED then s else { s with state := .NORMAL }

variable (pendingPublishRequestCount : ℕ)

/-- `_publish_pending_notifications`. -/
def _publish_pending_notifications :
    Option (Outcome V I) :=
  if pendingPublishRequestCount = 0 || !s.hasPendingNotifications then none
  else some { subscription := s.messagePublished, response := some s.publishResponse }

/-! ### Keep-alive messages -/

/-- `send_keep_alive_response` of the publish engine, for a subscription of the engine: a message
without notifications that carries the number of the next one. -/
def send_keep_alive_response (future_sequence_number : ℕ) : Option (PublishResponse V) :=
  if pendingPublishRequestCount = 0 || s.hasPendingNotifications then none
  else
    some
      { subscriptionId := s.id
        availableSequenceNumbers := s.getAvailableSequenceNumbers
        moreNotifications := false
        notificationMessage := { sequenceNumber := future_sequence_number, notificationData := [] } }

/-- `_sendKeepAliveResponse`: none when the message cannot be sent. -/
def _sendKeepAliveResponse :
    Option (Outcome V I) :=
  (s.send_keep_alive_response pendingPublishRequestCount
      s._sequence_number_generator.future).map fun response =>
    { subscription := { s with messageSent := true, state := .KEEPALIVE }
      response := some response }

/-- `_process_keepAlive`. -/
def _process_keepAlive : Outcome V I :=
  let s := s.increaseKeepAliveCounter
  if s.keepAliveCounterHasExpired then
    match s._sendKeepAliveResponse pendingPublishRequestCount with
    | some outcome =>
      { outcome with subscription := outcome.subscription.resetLifeTimeAndKeepAliveCounters }
    | none =>
      { subscription :=
          if s.messageSent || s.keepAliveCounterHasExpired then { s with state := .LATE } else s }
  else { subscription := s }

/-! ### Monitored items -/

end

section MonitoredItems

variable [MonitoredItemInterface V I] (s : Subscription V I)

/-- `hasUncollectedMonitoredItemNotifications`: the answer, which is remembered when it is true. -/
def hasUncollectedMonitoredItemNotifications : Bool × Subscription V I :=
  if s._hasUncollectedMonitoredItemNotifications then (true, s)
  else if s.monitoredItems.any fun item => hasMonitoredItemNotifications item.2 then
    (true, { s with _hasUncollectedMonitoredItemNotifications := true })
  else (false, s)

/-- The notifications that the monitored items hand over. -/
def harvested : List (InternalNotification V) :=
  s.monitoredItems.flatMap fun item =>
    (extractMonitoredItemNotifications item.2).1.map fun chunk =>
      ⟨some item.1, .queueItem chunk, s.publishIntervalCount⟩

/-- `_harvestMonitoredItems`. -/
def _harvestMonitoredItems : Subscription V I :=
  { s with
      _pending_notifications := s._pending_notifications ++ s.harvested
      monitoredItems := s.monitoredItems.map fun item =>
        (item.1, (extractMonitoredItemNotifications item.2).2)
      _hasUncollectedMonitoredItemNotifications := false }

/-- `getMonitoredItem`. -/
def getMonitoredItem (monitoredItemId : ℕ) : Option I :=
  s.monitoredItems.lookup monitoredItemId

/-- `removeMonitoredItem`. -/
def removeMonitoredItem (monitoredItemId : ℕ) :
    Subscription V I × StatusCode :=
  match s.monitoredItems.lookup monitoredItemId with
  | none => (s, .BadMonitoredItemIdInvalid)
  | some _ =>
    ({ s with
        monitoredItems := s.monitoredItems.filter fun item => item.1 ≠ monitoredItemId
        }._removePendingNotificationsFor monitoredItemId, .Good)

/-- `terminate`, less the call of `on_close_subscription` of the publish engine: the monitored
items are removed one after the other. -/
def terminate : Subscription V I :=
  if s.state = .CLOSED then s
  else
    let s := (s.monitoredItems.map Prod.fst).foldl (fun s key => (s.removeMonitoredItem key).1)
      { s with timerId := false }
    { s with state := .CLOSED }

/-! ### The publishing timer -/

/-- Notifications are collected from the monitored items when none is pending. -/
def collect : Subscription V I :=
  if s.hasPendingNotifications then s
  else
    let u := s.hasUncollectedMonitoredItemNotifications
    if u.1 then u.2._harvestMonitoredItems else u.2

/-- `process_subscription`. -/
def process_subscription (pendingPublishRequestCount : ℕ) :
    Option (Outcome V I) :=
  if pendingPublishRequestCount = 0 then none
  else if !s.publishingEnabled then some (s._process_keepAlive pendingPublishRequestCount)
  else if s.collect.hasPendingNotifications then
    (s.collect._publish_pending_notifications pendingPublishRequestCount).map fun outcome =>
      { outcome with
          retick := outcome.subscription.state = .NORMAL ||
            outcome.subscription.state = .LATE && outcome.subscription.hasPendingNotifications }
  else some (s.collect._process_keepAlive pendingPublishRequestCount)

/-- The branches of `_tick` after the life time was checked. -/
def tickPublish (pendingPublishRequestCount : ℕ) : Option (Outcome V I) :=
  if s.hasPendingNotifications then
    if pendingPublishRequestCount = 0 then some { subscription := { s with state := .LATE } }
    else s.process_subscription pendingPublishRequestCount
  else
    let u := s.hasUncollectedMonitoredItemNotifications
    if u.1 then
      if pendingPublishRequestCount = 0 then some { subscription := { u.2 with state := .LATE } }
      else u.2.process_subscription pendingPublishRequestCount
    else if pendingPublishRequestCount > 0 then
      some (u.2._process_keepAlive pendingPublishRequestCount)
    else if u.2.state ≠ .LATE then some (u.2._process_keepAlive pendingPublishRequestCount)
    else some { subscription := u.2.resetKeepAliveCounter }

/-- The state of `_tick` when the life time is checked: a late subscription has spent one more
publishing interval. -/
def tickStart : Subscription V I :=
  let s := s.discardOldSentNotifications
  let s := { s with publishIntervalCount := s.publishIntervalCount + 1 }
  if s.state = .LATE then s.increaseLifeTimeCounter else s

/-- **`_tick`**, with the number of Publish requests that have not timed out. -/
def _tick (pendingPublishRequestCount : ℕ) : Option (Outcome V I) :=
  if s.state = .CLOSED then some { subscription := s }
  else
    let s := s.tickStart
    if s.lifeTimeHasExpired then
      some
        { subscription := (s._addNotificationMessage (.statusChange .BadTimeout) none).terminate
          expired := true }
    else s.tickPublish pendingPublishRequestCount

/-! ### Requests -/

/-- `modify`. The timer is started again. -/
def modify (param : ModifySubscriptionParameters) : Subscription V I :=
  let parameters := RevisedParameters.adjust (some (param.requestedPublishingInterval.getD 0))
    (if param.requestedMaxKeepAliveCount = 0 then s.maxKeepAliveCount
      else param.requestedMaxKeepAliveCount)
    (if param.requestedLifetimeCount = 0 then s.lifeTimeCount else param.requestedLifetimeCount)
    param.maxNotificationsPerPublish
  { s with
      toRevisedParameters := parameters
      priority := param.priority
      _life_time_counter := 0
      _keep_alive_counter := parameters.maxKeepAliveCount - 1
      timerId := true }

/-- `setPublishingMode`. -/
def setPublishingMode (publishingEnabled : Bool) : Subscription V I :=
  { s with
      publishingEnabled
      _life_time_counter := 0
      state := if !publishingEnabled && s.state ≠ .CLOSED then .NORMAL else s.state }

/-- `resendInitialValues`, for the monitored items with their initial values. -/
def resendInitialValues (monitoredItems : List (ℕ × I)) :
    Subscription V I :=
  { s with
      monitoredItems
      _keep_alive_counter := s.maxKeepAliveCount - 1
      state := .NORMAL }._harvestMonitoredItems

/-- `notifyTransfer`: with a Publish request the status change is published with the pending
notifications; otherwise it is left to a `TransferredSubscription`. -/
def notifyTransfer (pendingPublishRequestCount : ℕ) :
    Option (Outcome V I) :=
  if pendingPublishRequestCount > 0 then
    (s._addNotificationMessage (.statusChange .GoodSubscriptionTransferred)
      none)._publish_pending_notifications pendingPublishRequestCount
  else some { subscription := s }

/-- `_publish_pending_notifications` of a `TransferredSubscription`, which shares the generator of
the subscription. -/
def publishTransferred : Outcome V I :=
  let sequenceNumber := s._sequence_number_generator.next.1
  { subscription := { s with _sequence_number_generator := s._sequence_number_generator.next.2 }
    response := some
      { subscriptionId := s.id
        availableSequenceNumbers := [sequenceNumber]
        moreNotifications := false
        notificationMessage :=
          { sequenceNumber
            notificationData := [.statusChangeNotification .GoodSubscriptionTransferred] } } }

/-- `dispose`. -/
def dispose : Subscription V I :=
  { s with _pending_notifications := [], _sent_notification_messages := [] }

end MonitoredItems

/-! ### What the calls do -/

variable {s : Subscription V I}

/-- `hasPendingNotifications`. -/
lemma hasPendingNotifications_iff :
    s.hasPendingNotifications = true ↔ s._pending_notifications ≠ [] := decide_eq_true_iff

/-- `_publish_pending_notifications`, when its assertions hold. -/
lemma _publish_pending_notifications_eq {n : ℕ} (hn : n ≠ 0)
    (hpend : s._pending_notifications ≠ []) :
    s._publish_pending_notifications n =
      some { subscription := s.messagePublished, response := some s.publishResponse } := by
  apply if_neg
  simp [hn, hasPendingNotifications, hpend]

/-- **What `_publish_pending_notifications` does**. -/
lemma _publish_pending_notifications_cases {n : ℕ} {o : Outcome V I}
    (h : s._publish_pending_notifications n = some o) :
    n ≠ 0 ∧ s._pending_notifications ≠ [] ∧
      o = { subscription := s.messagePublished, response := some s.publishResponse } := by
  unfold _publish_pending_notifications at h
  split_ifs at h with hnone
  simp only [hasPendingNotifications, Bool.or_eq_true, decide_eq_true_eq, Bool.not_eq_true',
    decide_eq_false_iff_not, not_not, not_or] at hnone
  injection h with h
  exact ⟨hnone.1, hnone.2, h.symm⟩

section

variable (s : Subscription V I)

/-- `_addNotificationMessage` leaves a pending notification. -/
lemma _addNotificationMessage_ne_nil (notificationData : Notification V)
    (monitoredItemId : Option ℕ) :
    (s._addNotificationMessage notificationData monitoredItemId)._pending_notifications ≠ [] :=
  List.append_ne_nil_of_right_ne_nil _ (List.cons_ne_nil _ _)

/-- **What `notifyTransfer` does**. -/
lemma notifyTransfer_eq (n : ℕ) :
    s.notifyTransfer n = some
      (if n = 0 then { subscription := s }
      else
        let s := s._addNotificationMessage (.statusChange .GoodSubscriptionTransferred) none
        { subscription := s.messagePublished, response := some s.publishResponse }) := by
  unfold notifyTransfer
  by_cases hn : n = 0
  · rw [if_pos hn, if_neg (by omega)]
  · rw [if_neg hn, if_pos (by omega)]
    exact _publish_pending_notifications_eq hn (s._addNotificationMessage_ne_nil _ _)

/-- The keep-alive message. -/
def keepAliveResponse : PublishResponse V where
  subscriptionId := s.id
  availableSequenceNumbers := s.getAvailableSequenceNumbers
  moreNotifications := false
  notificationMessage :=
    { sequenceNumber := s._sequence_number_generator.future, notificationData := [] }

/-- **What `_process_keepAlive` does**: nothing is due, or the keep-alive message is sent, or it
cannot be sent. -/
lemma _process_keepAlive_cases (n : ℕ) :
    (s.increaseKeepAliveCounter.keepAliveCounterHasExpired = false ∧
      s._process_keepAlive n = { subscription := s.increaseKeepAliveCounter }) ∨
    (s.increaseKeepAliveCounter.keepAliveCounterHasExpired = true ∧ n ≠ 0 ∧
      s._pending_notifications = [] ∧
      s._process_keepAlive n =
        { subscription := { s with
            messageSent := true
            state := .KEEPALIVE }.resetLifeTimeAndKeepAliveCounters
          response := some s.keepAliveResponse }) ∨
    (s.increaseKeepAliveCounter.keepAliveCounterHasExpired = true ∧
      (n = 0 ∨ s._pending_notifications ≠ []) ∧
      s._process_keepAlive n =
        { subscription := { s.increaseKeepAliveCounter with state := .LATE } }) := by
  unfold _process_keepAlive
  by_cases hexp : s.increaseKeepAliveCounter.keepAliveCounterHasExpired = true
  · rw [if_pos hexp]
    right
    by_cases hsend : n = 0 ∨ s._pending_notifications ≠ []
    · have hnone : s.increaseKeepAliveCounter._sendKeepAliveResponse n = none := by
        apply congrArg (Option.map _) (if_pos _)
        rw [Bool.or_eq_true, decide_eq_true_eq]
        exact hsend.imp_right hasPendingNotifications_iff.mpr
      refine .inr ⟨hexp, hsend, ?_⟩
      rw [hnone]
      simp only [hexp, Bool.or_true, if_true]
    · have hsome : s.increaseKeepAliveCounter._sendKeepAliveResponse n = some
          { subscription := { s.increaseKeepAliveCounter with
              messageSent := true
              state := .KEEPALIVE }
            response := some s.keepAliveResponse } := by
        apply congrArg (Option.map _) (if_neg _)
        rw [Bool.or_eq_true, decide_eq_true_eq]
        exact fun h => hsend (h.imp_right hasPendingNotifications_iff.mp)
      obtain ⟨hn, hpend⟩ := not_or.mp hsend
      refine .inl ⟨hexp, hn, not_not.mp hpend, ?_⟩
      rw [hsome]
      rfl
  · rw [if_neg hexp]
    exact .inl ⟨Bool.not_eq_true _ ▸ hexp, rfl⟩

/-- What `removeMonitoredItem` may change. -/
lemma removeMonitoredItem_eq (monitoredItemId : ℕ) :
    ∃ pending items, (s.removeMonitoredItem monitoredItemId).1 =
      { s with _pending_notifications := pending, monitoredItems := items } := by
  unfold removeMonitoredItem
  split
  · exact ⟨_, _, rfl⟩
  · exact ⟨_, _, rfl⟩

/-- `removeMonitoredItem` deletes the item. -/
lemma removeMonitoredItem_monitoredItems (monitoredItemId : ℕ) :
    (s.removeMonitoredItem monitoredItemId).1.monitoredItems =
      s.monitoredItems.filter fun item => item.1 ≠ monitoredItemId := by
  unfold removeMonitoredItem
  split
  next hnone =>
    symm
    apply List.filter_eq_self.mpr
    intro item hitem
    have hne := List.lookup_eq_none_iff.mp hnone item hitem
    simpa using Ne.symm (by simpa using hne)
  next => rfl

/-- What `terminate` may change. -/
lemma terminate_eq :
    ∃ pending items timerId state, s.terminate =
      { s with
          _pending_notifications := pending
          monitoredItems := items
          timerId := timerId
          state := state } := by
  have hfold : ∀ (keys : List ℕ) (s : Subscription V I), ∃ pending items,
      keys.foldl (fun s key => (s.removeMonitoredItem key).1) s =
        { s with _pending_notifications := pending, monitoredItems := items } := by
    intro keys
    induction keys with
    | nil =>
      intro s
      exact ⟨_, _, rfl⟩
    | cons key keys ih =>
      intro s
      obtain ⟨pending, items, hrm⟩ := s.removeMonitoredItem_eq key
      rw [List.foldl_cons, hrm]
      exact ih _
  unfold terminate
  split_ifs
  · exact ⟨_, _, _, _, rfl⟩
  · obtain ⟨pending, items, h⟩ := hfold (s.monitoredItems.map Prod.fst) { s with timerId := false }
    rw [h]
    exact ⟨_, _, _, _, rfl⟩

end

/-- `terminate` of an open subscription deletes every item. -/
lemma terminate_monitoredItems (hopen : s.state ≠ .CLOSED) :
    s.terminate.monitoredItems = [] := by
  have hfold : ∀ (keys : List ℕ) (s : Subscription V I),
      (keys.foldl (fun s key => (s.removeMonitoredItem key).1) s).monitoredItems =
        s.monitoredItems.filter fun item => item.1 ∉ keys := by
    intro keys
    induction keys with
    | nil => simp
    | cons key keys ih =>
      intro s
      rw [List.foldl_cons, ih, removeMonitoredItem_monitoredItems, List.filter_filter]
      congr 1
      funext item
      simp [Bool.and_comm]
  unfold terminate
  rw [if_neg hopen]
  refine (hfold _ _).trans (List.filter_eq_nil_iff.mpr fun item hitem => ?_)
  simpa using ⟨item.2, hitem⟩

section MonitoredItems

variable [MonitoredItemInterface V I]

/-- What `hasUncollectedMonitoredItemNotifications` changes: it remembers a positive answer. -/
lemma hasUncollectedMonitoredItemNotifications_eq (s : Subscription V I) :
    s.hasUncollectedMonitoredItemNotifications.2 =
      { s with _hasUncollectedMonitoredItemNotifications :=
          s.hasUncollectedMonitoredItemNotifications.1 } := by
  unfold hasUncollectedMonitoredItemNotifications
  split_ifs with hflag
  · rw [← hflag]
  · rfl
  · rw [← Bool.eq_false_iff.mpr hflag]

/-- When `hasUncollectedMonitoredItemNotifications` is true. -/
lemma hasUncollectedMonitoredItemNotifications_iff (s : Subscription V I) :
    s.hasUncollectedMonitoredItemNotifications.1 = true ↔
      s._hasUncollectedMonitoredItemNotifications = true ∨
        ∃ item ∈ s.monitoredItems, hasMonitoredItemNotifications item.2 = true := by
  unfold hasUncollectedMonitoredItemNotifications
  split_ifs with hflag hany
  · simp [hflag]
  · simp only [true_iff]
    exact .inr (List.any_eq_true.mp hany)
  · simp only [false_iff, not_or]
    exact ⟨hflag, fun hexists => hany (List.any_eq_true.mpr hexists)⟩

/-- What `collect` may change. -/
lemma collect_eq (s : Subscription V I) :
    ∃ pending items flag, s.collect =
      { s with
          _pending_notifications := pending
          monitoredItems := items
          _hasUncollectedMonitoredItemNotifications := flag } := by
  unfold collect
  dsimp only
  rw [hasUncollectedMonitoredItemNotifications_eq]
  split_ifs
  · exact ⟨_, _, _, rfl⟩
  · exact ⟨_, _, _, rfl⟩
  · exact ⟨_, _, _, rfl⟩

/-- **What `process_subscription` does**. -/
lemma process_subscription_cases {s : Subscription V I} {n : ℕ} {o : Outcome V I}
    (h : s.process_subscription n = some o) :
    n ≠ 0 ∧
    ((s.publishingEnabled = false ∧ o = s._process_keepAlive n) ∨
    (s.publishingEnabled = true ∧ s.collect._pending_notifications ≠ [] ∧
      ∃ retick, o =
        { subscription := s.collect.messagePublished
          response := some s.collect.publishResponse
          retick := retick }) ∨
    (s.publishingEnabled = true ∧ s.collect._pending_notifications = [] ∧
      o = s.collect._process_keepAlive n)) := by
  unfold process_subscription at h
  split_ifs at h with hn hen hpend
  · injection h with h
    exact ⟨hn, .inl ⟨by simpa using hen, h.symm⟩⟩
  · rw [_publish_pending_notifications_eq hn (hasPendingNotifications_iff.mp hpend)] at h
    injection h with h
    exact ⟨hn, .inr (.inl ⟨by simpa using hen, hasPendingNotifications_iff.mp hpend, _,
      h.symm⟩)⟩
  · injection h with h
    refine ⟨hn, .inr (.inr ⟨by simpa using hen, ?_, h.symm⟩)⟩
    by_contra hne
    exact hpend (hasPendingNotifications_iff.mpr hne)

/-- **What `_tick` does after the life time was checked**. -/
lemma tickPublish_cases {s : Subscription V I} {n : ℕ} {o : Outcome V I}
    (h : s.tickPublish n = some o) :
    ∃ flag, (flag = true → s.hasUncollectedMonitoredItemNotifications.1 = true) ∧
    ((n = 0 ∧
      o = { subscription := { s with
        _hasUncollectedMonitoredItemNotifications := flag
        state := .LATE } }) ∨
    (n ≠ 0 ∧
      { s with _hasUncollectedMonitoredItemNotifications := flag }.process_subscription n =
        some o) ∨
    (s._pending_notifications = [] ∧ (n = 0 → s.state ≠ .LATE) ∧
      o = { s with _hasUncollectedMonitoredItemNotifications := flag }._process_keepAlive n) ∨
    (n = 0 ∧ s.state = .LATE ∧
      o = { subscription := { s with
        _hasUncollectedMonitoredItemNotifications := flag }.resetKeepAliveCounter })) := by
  have huncol := s.hasUncollectedMonitoredItemNotifications_eq
  have hremem : s._hasUncollectedMonitoredItemNotifications = true →
      s.hasUncollectedMonitoredItemNotifications.1 = true := fun hflag =>
    s.hasUncollectedMonitoredItemNotifications_iff.mpr (.inl hflag)
  unfold tickPublish at h
  dsimp only at h
  split_ifs at h with hpend hn hu hn hn hlate
  · injection h with h
    exact ⟨_, hremem, .inl ⟨hn, h.symm⟩⟩
  · exact ⟨_, hremem, .inr (.inl ⟨hn, h⟩)⟩
  · injection h with h
    rw [huncol] at h
    exact ⟨_, fun h => h, .inl ⟨hn, h.symm⟩⟩
  · rw [huncol] at h
    exact ⟨_, fun h => h, .inr (.inl ⟨hn, h⟩)⟩
  all_goals
    have hnil : s._pending_notifications = [] := by
      by_contra hne
      exact hpend (hasPendingNotifications_iff.mpr hne)
    injection h with h
    rw [huncol] at h
  · exact ⟨_, fun h => h, .inr (.inr (.inl ⟨hnil, fun hzero => absurd hzero hn.ne', h.symm⟩))⟩
  · rw [huncol] at hlate
    exact ⟨_, fun h => h, .inr (.inr (.inl ⟨hnil, fun _ => hlate, h.symm⟩))⟩
  · rw [huncol] at hlate
    exact ⟨_, fun h => h, .inr (.inr (.inr ⟨by omega, not_not.mp hlate, h.symm⟩))⟩

end MonitoredItems

end Subscription

end NodeOpcua
