import NodeOpcua.Library.Fifo
import NodeOpcua.Server.Subscription.LifeTime

set_option autoImplicit false

/-!
# The delivery of pending notifications

What the calls of a subscription do with the pending notifications: they add what the monitored
items hand over at the end of the queue, and take what they publish from its front.

## Main definitions

* `Subscription.Harvests`, `Subscription.Serves`, `Subscription.GoesOn`.

## Main results

* `unpackNotifications_perm`.
* `Subscription._tick_serves`, `process_subscription_serves`.
-/

namespace NodeOpcua

open SubscriptionState (noConfusion)

variable {V I : Type}

/-! ### Messages -/

/-- The notifications in the data of a message. -/
def NotificationData.notifications : NotificationData V → List (Notification V)
  | .dataChangeNotification monitoredItems => monitoredItems.map .queueItem
  | .eventNotificationList events => events.map .queueItem
  | .statusChangeNotification status => [.statusChange status]

/-- The notifications of a message. -/
def unpackNotifications (notificationData : List (NotificationData V)) : List (Notification V) :=
  notificationData.flatMap NotificationData.notifications

lemma unpackNotifications_pack (taken : List (InternalNotification V)) :
    unpackNotifications (packNotifications taken) =
      (taken.filterMap fun n => n.notification.dataChange?).map .queueItem ++
        (taken.filterMap fun n => n.notification.event?).map .queueItem ++
        (taken.filterMap fun n => n.notification.status?).map .statusChange := by
  have hstatus : ∀ statuses : List StatusCode,
      unpackNotifications (statuses.map .statusChangeNotification) =
        statuses.map (.statusChange (V := V)) := by
    intro statuses
    induction statuses with
    | nil => rfl
    | cons status statuses ih => exact congrArg (.statusChange status :: ·) ih
  unfold packNotifications
  rw [unpackNotifications, List.flatMap_append, List.flatMap_append]
  rw [show List.flatMap NotificationData.notifications _ = _ from hstatus _]
  congr 1
  congr 1
  · split_ifs with hnil
    · rw [hnil]
      rfl
    · exact List.flatMap_singleton _ _
  · split_ifs with hnil
    · rw [hnil]
      rfl
    · exact List.flatMap_singleton _ _

/-- **Unpacking**: a message has the notifications that it was packed of. -/
lemma unpackNotifications_perm (taken : List (InternalNotification V)) :
    (unpackNotifications (packNotifications taken)).Perm
      (taken.map InternalNotification.notification) := by
  rw [unpackNotifications_pack]
  induction taken with
  | nil => exact List.Perm.refl _
  | cons n taken ih =>
    rcases n with ⟨id, (⟨clientHandle, value⟩ | ⟨clientHandle, fields⟩) | status, tick⟩
    · exact ih.cons _
    · exact (List.perm_middle.append_right _).trans (ih.cons _)
    · exact List.perm_middle.trans (ih.cons _)

/-- The data of the message of a response, none of a keep-alive message. -/
def responseData (r : Option (PublishResponse V)) : List (NotificationData V) :=
  (r.map fun r => r.notificationMessage.notificationData).getD []

namespace Subscription

lemma messagePublished_pending (s : Subscription V I) :
    s.messagePublished._pending_notifications =
      (takeNotifications s.maxNotificationsPerPublish false s._pending_notifications).2 := by
  unfold messagePublished
  dsimp only
  split_ifs <;> rfl

lemma messagePublished_monitoredItems (s : Subscription V I) :
    s.messagePublished.monitoredItems = s.monitoredItems := by
  unfold messagePublished
  dsimp only
  split_ifs <;> rfl

section MonitoredItems

variable [MonitoredItemInterface V I]

section

variable (s : Subscription V I)

/-- The monitored items after they have handed over their notifications. -/
def extracted : List (ℕ × I) :=
  s.monitoredItems.map fun item => (item.1, (extractMonitoredItemNotifications item.2).2)

/-- **Collecting**: the monitored items hand over their notifications, or not. -/
def Harvests (pending : List (InternalNotification V)) (items : List (ℕ × I)) : Prop :=
  pending = s._pending_notifications ∧ items = s.monitoredItems ∨
    pending = s._pending_notifications ++ s.harvested ∧ items = s.extracted

/-- **Serving**: notifications are collected, and those at the front of the queue are published. -/
def Serves (o : Outcome V I) : Prop :=
  ∃ pending taken, s.Harvests pending o.subscription.monitoredItems ∧
    pending = taken ++ o.subscription._pending_notifications ∧
    responseData o.response = packNotifications taken

/-- `collect`. -/
lemma collect_harvests :
    s.Harvests s.collect._pending_notifications s.collect.monitoredItems := by
  unfold collect
  dsimp only
  rw [hasUncollectedMonitoredItemNotifications_eq]
  split_ifs
  · exact .inl ⟨rfl, rfl⟩
  · exact .inr ⟨rfl, rfl⟩
  · exact .inl ⟨rfl, rfl⟩

end

variable {s t : Subscription V I}

lemma publish_serves (h : s.Harvests t._pending_notifications t.monitoredItems) (retick : Bool) :
    s.Serves
      { subscription := t.messagePublished, response := some t.publishResponse, retick } := by
  refine ⟨t._pending_notifications, _, ?_, ?_, rfl⟩
  · dsimp only
    rw [messagePublished_monitoredItems]
    exact h
  · dsimp only
    rw [messagePublished_pending, takeNotifications_append]

lemma _process_keepAlive_serves (h : s.Harvests t._pending_notifications t.monitoredItems) (n : ℕ) :
    s.Serves (t._process_keepAlive n) := by
  rcases t._process_keepAlive_cases n with ⟨-, ho⟩ | ⟨-, -, -, ho⟩ | ⟨-, -, ho⟩ <;> rw [ho]
  · exact ⟨_, [], h, rfl, rfl⟩
  · exact ⟨_, [], h, rfl, rfl⟩
  · exact ⟨_, [], h, rfl, rfl⟩

variable {s : Subscription V I} {o : Outcome V I} {n : ℕ}

/-- `process_subscription`. -/
lemma process_subscription_serves (h : s.process_subscription n = some o) : s.Serves o := by
  obtain ⟨-, ⟨-, rfl⟩ | ⟨-, -, retick, rfl⟩ | ⟨-, -, rfl⟩⟩ := process_subscription_cases h
  · exact _process_keepAlive_serves (.inl ⟨rfl, rfl⟩) n
  · exact publish_serves s.collect_harvests retick
  · exact _process_keepAlive_serves s.collect_harvests n

/-- The branches of `_tick` after the life time was checked. -/
lemma tickPublish_serves (h : s.tickPublish n = some o) : s.Serves o := by
  obtain ⟨flag, -, ⟨-, rfl⟩ | ⟨-, h⟩ | ⟨-, -, rfl⟩ | ⟨-, -, rfl⟩⟩ :=
    tickPublish_cases h
  · exact ⟨_, [], .inl ⟨rfl, rfl⟩, rfl, rfl⟩
  · exact process_subscription_serves
      (s := { s with _hasUncollectedMonitoredItemNotifications := flag }) h
  · exact _process_keepAlive_serves
      (t := { s with _hasUncollectedMonitoredItemNotifications := flag }) (.inl ⟨rfl, rfl⟩) n
  · exact ⟨_, [], .inl ⟨rfl, rfl⟩, rfl, rfl⟩

/-- **`_tick`**, unless the life time expires. -/
lemma _tick_serves (hopen : s.state ≠ .CLOSED)
    (h : s._tick n = some o) (hexp : o.expired = false) : s.tickStart.Serves o := by
  unfold _tick at h
  rw [if_neg hopen] at h
  dsimp only at h
  split_ifs at h
  · injection h with h
    subst h
    cases hexp
  · exact tickPublish_serves h

lemma harvested_status (s : Subscription V I) :
    ∀ n ∈ s.harvested, n.notification.status? = none := by
  intro n hn
  obtain ⟨item, -, hn⟩ := List.mem_flatMap.mp hn
  obtain ⟨chunk, -, rfl⟩ := List.mem_map.mp hn
  rfl

lemma _tick_pending (hopen : s.state ≠ .CLOSED)
    (hctr : s._life_time_counter = 0) (hen : s.publishingEnabled = true)
    (hpend : s._pending_notifications ≠ []) :
    ∃ retick, s._tick 1 = some
      { subscription := s.tickStart.messagePublished
        response := some s.tickStart.publishResponse
        retick } := by
  have hstart : s.tickStart.publishingEnabled = true ∧
      s.tickStart.hasPendingNotifications = true := by
    rw [tickStart_eq, hasPendingNotifications_iff]
    exact ⟨hen, hpend⟩
  have hcoll : s.tickStart.collect = s.tickStart := if_pos hstart.2
  unfold _tick
  rw [if_neg hopen, if_neg (s.tickStart_not_expired hctr)]
  unfold tickPublish
  rw [if_pos hstart.2, if_neg Nat.one_ne_zero]
  unfold process_subscription
  rw [if_neg Nat.one_ne_zero, hstart.1, hcoll, if_pos hstart.2,
    _publish_pending_notifications_eq Nat.one_ne_zero (hasPendingNotifications_iff.mp hstart.2)]
  exact ⟨_, rfl⟩

/-- **Going on**: the subscription stays open, with publishing enabled or not as before. -/
def GoesOn (s t : Subscription V I) : Prop :=
  t.publishingEnabled = s.publishingEnabled ∧ (s.state ≠ .CLOSED → t.state ≠ .CLOSED)

omit [MonitoredItemInterface V I] in
lemma messagePublished_goesOn (s : Subscription V I) : s.GoesOn s.messagePublished := by
  unfold messagePublished
  dsimp only
  split_ifs
  · exact ⟨rfl, fun h => h⟩
  · exact ⟨rfl, fun _ => noConfusion⟩

omit [MonitoredItemInterface V I] in
lemma _process_keepAlive_goesOn (s : Subscription V I) (n : ℕ) :
    s.GoesOn (s._process_keepAlive n).subscription := by
  rcases s._process_keepAlive_cases n with ⟨-, h⟩ | ⟨-, -, -, h⟩ | ⟨-, -, h⟩ <;> rw [h]
  · exact ⟨rfl, fun h => h⟩
  · exact ⟨rfl, fun _ => noConfusion⟩
  · exact ⟨rfl, fun _ => noConfusion⟩

/-- `process_subscription`. -/
lemma process_subscription_goesOn
    (h : s.process_subscription n = some o) : s.GoesOn o.subscription := by
  have hcoll : s.GoesOn s.collect := by
    obtain ⟨pending, items, flag, hcoll⟩ := s.collect_eq
    rw [hcoll]
    exact ⟨rfl, fun h => h⟩
  have htrans : ∀ t : Subscription V I, s.collect.GoesOn t → s.GoesOn t := fun t ht =>
    ⟨ht.1.trans hcoll.1, fun hopen => ht.2 (hcoll.2 hopen)⟩
  obtain ⟨-, ⟨-, rfl⟩ | ⟨-, -, retick, rfl⟩ | ⟨-, -, rfl⟩⟩ := process_subscription_cases h
  · exact s._process_keepAlive_goesOn n
  · exact htrans _ s.collect.messagePublished_goesOn
  · exact htrans _ (s.collect._process_keepAlive_goesOn n)

/-- The branches of `_tick` after the life time was checked. -/
lemma tickPublish_goesOn (h : s.tickPublish n = some o) : s.GoesOn o.subscription := by
  obtain ⟨flag, -, ⟨-, rfl⟩ | ⟨-, h⟩ | ⟨-, -, rfl⟩ | ⟨-, -, rfl⟩⟩ :=
    tickPublish_cases h
  · exact ⟨rfl, fun _ => noConfusion⟩
  · exact process_subscription_goesOn
      (s := { s with _hasUncollectedMonitoredItemNotifications := flag }) h
  · exact _process_keepAlive_goesOn
      { s with _hasUncollectedMonitoredItemNotifications := flag } n
  · exact ⟨rfl, fun h => h⟩

/-- **`_tick`**, unless the life time expires. -/
lemma _tick_goesOn (hopen : s.state ≠ .CLOSED)
    (h : s._tick n = some o) (hexp : o.expired = false) : s.GoesOn o.subscription := by
  unfold _tick at h
  rw [if_neg hopen] at h
  dsimp only at h
  split_ifs at h
  · injection h with h
    subst h
    cases hexp
  · have hstart : s.GoesOn s.tickStart := by
      rw [tickStart_eq]
      exact ⟨rfl, fun h => h⟩
    have hgoesOn := tickPublish_goesOn h
    exact ⟨hgoesOn.1.trans hstart.1, fun hopen => hgoesOn.2 (hstart.2 hopen)⟩

end MonitoredItems

end Subscription

end NodeOpcua
