import NodeOpcua.Server.Subscription.Life

set_option autoImplicit false

/-!
# The messages of a subscription

How the messages of a subscription are numbered, kept and acknowledged. What a subscription does
with its messages is a retransmission queue: a generator of numbers, the messages that were sent and
are not acknowledged, and their count. Every step of the life of a subscription is a step of its
retransmission queue.

## Main definitions

* `Retransmission`, `Retransmission.Answer`, `Retransmission.Step`.
-/

namespace NodeOpcua

/-! ### The retransmission queue -/

/-- **A retransmission queue**. -/
structure Retransmission (V : Type) where
  generator : SequenceNumberGenerator
  sent : List (NotificationMessage V)
  count : ℤ

variable {V I : Type}

namespace Retransmission

section

variable (q : Retransmission V)

/-- The numbers of the messages. -/
def available : List ℕ := q.sent.map NotificationMessage.sequenceNumber

/-- The next message, with the given data. -/
def message (data : List (NotificationData V)) : NotificationMessage V :=
  { sequenceNumber := q.generator.next.1, notificationData := data }

/-- A message is sent. -/
def publish (data : List (NotificationData V)) : Retransmission V where
  generator := q.generator.next.2
  sent := q.sent ++ [q.message data]
  count := q.count + 1

/-- The oldest messages go when there are more than a hundred. The count stays as it is. -/
def discard : Retransmission V :=
  { q with sent := q.sent.drop (q.sent.length - Subscription.maxNotificationMessagesInQueue) }

end

/-- An answer to a Publish request: none, a keep-alive message, or a message that is kept. -/
inductive Answer (q : Retransmission V) : Option (PublishResponse V) → Retransmission V → Prop
  | silent : Answer q none q
  | keepAlive (subscriptionId : ℕ) : Answer q
      (some
        { subscriptionId
          availableSequenceNumbers := q.available
          moreNotifications := false
          notificationMessage :=
            { sequenceNumber := q.generator.future, notificationData := [] } }) q
  | publish (subscriptionId : ℕ) (moreNotifications : Bool) (data : List (NotificationData V))
      (hdata : data ≠ []) : Answer q
      (some
        { subscriptionId
          availableSequenceNumbers := (q.publish data).available
          moreNotifications
          notificationMessage := q.message data }) (q.publish data)

/-- The answer to a Publish request, for the session. -/
def response (session : ℕ) (r : Option (PublishResponse V)) : List (SubscriptionOutput V) :=
  (r.map (.response session)).toList

/-- The events of the publishing timer. -/
def isTick : SubscriptionEvent V I → Prop
  | .timerTick _ | .reTick _ => True
  | _ => False

/-- What a step of the life does to the queue of the session. -/
inductive Step (session : ℕ) (q : Retransmission V) :
    SubscriptionEvent V I → List (SubscriptionOutput V) → Retransmission V → Prop
  | answer {event : SubscriptionEvent V I} {r : Option (PublishResponse V)}
      {q' : Retransmission V} (h : Answer q r q') :
      Step session q event (response session r) q'
  | tick {event : SubscriptionEvent V I} {r : Option (PublishResponse V)}
      {q' : Retransmission V} (hevent : isTick event) (h : Answer q.discard r q')
      (expired : Bool) :
      Step session q event (response session r ++ if expired then [.expired] else []) q'
  | acknowledge {i : ℕ} (n : ℕ)
      (h : Subscription.foundIndex (fun e => e.sequenceNumber = n) q.sent = some i) :
      Step session q (.acknowledge n) [.acknowledged n .Good]
        { q with sent := q.sent.eraseIdx i, count := q.count - 1 }
  | unknown (n : ℕ)
      (h : Subscription.foundIndex (fun e => e.sequenceNumber = n) q.sent = none) :
      Step session q (.acknowledge n) [.acknowledged n .BadSequenceNumberUnknown] q
  | republish (n : ℕ) :
      Step session q (.republish n)
        [.republished n (q.sent.find? fun e => e.sequenceNumber = n)] q
  | transferResult : Step session q .transferResult [.transferResult q.available] q
  | feedTransferred (transferred subscriptionId : ℕ) :
      Step session q (.feedTransferred transferred)
        [.response transferred
          { subscriptionId
            availableSequenceNumbers := [q.generator.next.1]
            moreNotifications := false
            notificationMessage :=
              q.message [.statusChangeNotification .GoodSubscriptionTransferred] }]
        { q with generator := q.generator.next.2 }
  | dispose : Step session q .dispose [] { q with sent := [] }

end Retransmission

/-! ### The calls -/

lemma packNotifications_ne_nil {taken : List (InternalNotification V)} (h : taken ≠ []) :
    packNotifications taken ≠ [] := by
  obtain ⟨n, taken, rfl⟩ := List.exists_cons_of_ne_nil h
  unfold packNotifications
  rcases n with ⟨id, (⟨clientHandle, value⟩ | ⟨clientHandle, fields⟩) | status, tick⟩ <;>
    simp [Notification.dataChange?, Notification.event?, Notification.status?]

namespace Subscription

/-- The retransmission queue of a subscription. -/
def retransmission (s : Subscription V I) : Retransmission V where
  generator := s._sequence_number_generator
  sent := s._sent_notification_messages
  count := s.unacknowledgedMessageCount

open Retransmission (Answer)

/-- What `discardOldSentNotifications` does to the queue. -/
lemma discardOldSentNotifications_retransmission (s : Subscription V I) :
    s.discardOldSentNotifications.retransmission = s.retransmission.discard := by
  unfold discardOldSentNotifications Retransmission.discard retransmission
  split_ifs with h
  · rfl
  · have hzero : s._sent_notification_messages.length - maxNotificationMessagesInQueue = 0 := by
      omega
    simp only [hzero, List.drop_zero]

/-- What `tickStart` does to the queue. -/
lemma tickStart_retransmission (s : Subscription V I) :
    s.tickStart.retransmission = s.retransmission.discard := by
  rw [← discardOldSentNotifications_retransmission]
  unfold tickStart
  dsimp only
  split_ifs <;> rfl

lemma messagePublished_retransmission (s : Subscription V I) :
    s.messagePublished.retransmission = s.retransmission.publish (packNotifications
      (takeNotifications s.maxNotificationsPerPublish false s._pending_notifications).1) := by
  unfold messagePublished
  dsimp only
  split_ifs <;> rfl

lemma publish_answer {s : Subscription V I} (hpend : s._pending_notifications ≠ []) :
    Answer s.retransmission (some s.publishResponse) s.messagePublished.retransmission := by
  rw [messagePublished_retransmission]
  exact .publish _ _ _
    (packNotifications_ne_nil (takeNotifications_ne_nil s.maxNotificationsPerPublish_pos hpend))

section

variable (s : Subscription V I)

/-- `notifyTransfer`. -/
lemma notifyTransfer_answer {n : ℕ} {o : Outcome V I} (h : s.notifyTransfer n = some o) :
    Answer s.retransmission o.response o.subscription.retransmission ∧ o.expired = false := by
  rw [notifyTransfer_eq] at h
  injection h with h
  subst h
  split_ifs
  · exact ⟨.silent, rfl⟩
  · exact ⟨publish_answer (s._addNotificationMessage_ne_nil _ _), rfl⟩

lemma _process_keepAlive_answer (n : ℕ) :
    Answer s.retransmission (s._process_keepAlive n).response
      (s._process_keepAlive n).subscription.retransmission ∧
    (s._process_keepAlive n).expired = false := by
  rcases s._process_keepAlive_cases n with ⟨-, h⟩ | ⟨-, -, -, h⟩ | ⟨-, -, h⟩ <;> rw [h]
  · exact ⟨.silent, rfl⟩
  · exact ⟨.keepAlive _, rfl⟩
  · exact ⟨.silent, rfl⟩

lemma removeMonitoredItem_retransmission (itemId : ℕ) :
    (s.removeMonitoredItem itemId).1.retransmission = s.retransmission := by
  obtain ⟨pending, items, h⟩ := s.removeMonitoredItem_eq itemId
  rw [h]
  rfl

/-- `terminate` leaves the queue alone. -/
lemma terminate_retransmission :
    s.terminate.retransmission = s.retransmission := by
  obtain ⟨pending, items, timerId, state, h⟩ := s.terminate_eq
  rw [h]
  rfl

end

section MonitoredItems

variable [MonitoredItemInterface V I]

lemma collect_retransmission (s : Subscription V I) :
    s.collect.retransmission = s.retransmission := by
  unfold collect
  dsimp only
  split_ifs
  · rfl
  · rw [hasUncollectedMonitoredItemNotifications_eq]
    rfl
  · rw [hasUncollectedMonitoredItemNotifications_eq]
    rfl

variable {s : Subscription V I} {o : Outcome V I}

/-- `process_subscription`. -/
lemma process_subscription_answer {n : ℕ} (h : s.process_subscription n = some o) :
    Answer s.retransmission o.response o.subscription.retransmission ∧ o.expired = false := by
  obtain ⟨-, ⟨-, rfl⟩ | ⟨-, hpend, retick, rfl⟩ | ⟨-, -, rfl⟩⟩ := process_subscription_cases h
  · exact s._process_keepAlive_answer n
  · rw [← collect_retransmission]
    exact ⟨publish_answer hpend, rfl⟩
  · rw [← collect_retransmission]
    exact s.collect._process_keepAlive_answer n

/-- The branches of `_tick` after the life time was checked. -/
lemma tickPublish_answer {n : ℕ} (h : s.tickPublish n = some o) :
    Answer s.retransmission o.response o.subscription.retransmission ∧ o.expired = false := by
  obtain ⟨flag, -, ⟨-, rfl⟩ | ⟨-, h⟩ | ⟨-, -, rfl⟩ | ⟨-, -, rfl⟩⟩ :=
    tickPublish_cases h
  · exact ⟨.silent, rfl⟩
  · exact process_subscription_answer
      (s := { s with _hasUncollectedMonitoredItemNotifications := flag }) h
  · exact _process_keepAlive_answer
      { s with _hasUncollectedMonitoredItemNotifications := flag } n
  · exact ⟨.silent, rfl⟩

/-- `_tick` of an open subscription. -/
lemma _tick_answer {n : ℕ} (hopen : s.state ≠ .CLOSED) (h : s._tick n = some o) :
    Answer s.retransmission.discard o.response o.subscription.retransmission := by
  rw [← tickStart_retransmission]
  unfold _tick at h
  rw [if_neg hopen] at h
  dsimp only at h
  split_ifs at h with hexp
  · injection h with h
    subst h
    rw [terminate_retransmission]
    exact .silent
  · exact (tickPublish_answer h).1

end MonitoredItems

end Subscription

/-! ### The life -/

namespace SubscriptionLife

open Retransmission

variable {event : SubscriptionEvent V I} {l : SubscriptionLife V I}

lemma call_answer {out : Option (Outcome V I)} (h : ∀ o, out = some o →
      Answer l.subscription.retransmission o.response o.subscription.retransmission ∧
        o.expired = false) :
    Step l.session l.subscription.retransmission event (l.call out).2
      (l.call out).1.subscription.retransmission := by
  cases out with
  | none => exact .answer .silent
  | some o =>
    obtain ⟨hans, hexp⟩ := h o rfl
    rw [call_some, outputs_of_not_expired l.session hexp]
    exact .answer hans

/-- `transferSubscription`. -/
lemma transfer_answer (l : SubscriptionLife V I) (sess n : ℕ) :
    Step l.session l.subscription.retransmission event (l.transfer sess n).2
      (l.transfer sess n).1.subscription.retransmission := by
  have h : Step l.session l.subscription.retransmission event
      (l.call (l.subscription.notifyTransfer n)).2
      (l.call (l.subscription.notifyTransfer n)).1.subscription.retransmission :=
    call_answer fun o ho => l.subscription.notifyTransfer_answer ho
  exact h

variable [MonitoredItemInterface V I]

/-- A call of `_tick`. -/
lemma call_tick (n : ℕ) (hopen : l.subscription.state ≠ .CLOSED) (hevent : isTick event) :
    Step l.session l.subscription.retransmission event (l.call (l.subscription._tick n)).2
      (l.call (l.subscription._tick n)).1.subscription.retransmission := by
  cases h : l.subscription._tick n with
  | none => exact .answer .silent
  | some o => exact .tick hevent (Subscription._tick_answer hopen h) o.expired

variable (l : SubscriptionLife V I) (event : SubscriptionEvent V I)

lemma stepOpen_retransmission (hopen : l.subscription.state ≠ .CLOSED) :
    Step l.session l.subscription.retransmission event (l.stepOpen event).2
      (l.stepOpen event).1.subscription.retransmission := by
  cases event with
  | timerTick n | reTick n => exact call_tick n hopen trivial
  | processSubscription n =>
    unfold stepOpen
    split_ifs
    · exact call_answer fun o ho => Subscription.process_subscription_answer ho
    · exact .answer .silent
  | acknowledge n =>
    unfold stepOpen Subscription.acknowledgeNotification
    dsimp only
    split
    next hnone => exact .unknown n hnone
    next i hsome => exact .acknowledge n hsome
  | republish n => exact .republish n
  | removeMonitoredItem itemId =>
    unfold stepOpen set
    rw [Subscription.removeMonitoredItem_retransmission]
    exact .answer .silent
  | createMonitoredItem itemId item | resendInitialValues items =>
    unfold stepOpen
    dsimp only
    split_ifs
    · exact .answer .silent
    · exact .answer .silent
  | transfer sess n =>
    unfold stepOpen
    dsimp only
    split_ifs
    · exact .answer .silent
    · exact transfer_answer l sess n
  | transferResult => exact .transferResult
  | terminate =>
    unfold stepOpen set
    rw [Subscription.terminate_retransmission]
    exact .answer .silent
  | _ => exact .answer .silent

/-- **Refinement**: a step of the life of a subscription is a step of its retransmission queue. -/
theorem step_retransmission :
    Step l.session l.subscription.retransmission event (l.step event).2
      (l.step event).1.subscription.retransmission := by
  rcases l.step_cases event with ⟨sess, -, rfl, h⟩ | ⟨-, n, rfl, h⟩ | ⟨-, -, rfl, h⟩ |
    ⟨hopen, h⟩ | h <;> rw [h]
  · exact .feedTransferred sess _
  · refine call_answer fun o ho => ?_
    obtain ⟨-, hpend, rfl⟩ := Subscription._publish_pending_notifications_cases ho
    exact ⟨Subscription.publish_answer hpend, rfl⟩
  · exact .dispose
  · exact l.stepOpen_retransmission event hopen
  · exact .answer .silent

end SubscriptionLife

end NodeOpcua
