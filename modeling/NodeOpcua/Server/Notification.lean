import Mathlib.Data.Int.Notation
import Mathlib.Data.List.Basic
import Mathlib.Tactic.Common
import NodeOpcua.StatusCode

set_option autoImplicit false

/-!
# Notifications

What a subscription sends: the notifications that its monitored items hand over, the messages they
are packed into, and the responses that carry the messages.

## Main definitions

* `QueueItem`, `Notification`.
* `InternalNotification`.
* `MonitoredItemInterface`, `takeNotifications`, `PublishResponse`.
-/

namespace NodeOpcua

variable {V : Type}

/-- `DataValue`, with values of the type `V`. The timestamps of the server are left out. -/
structure DataValue (V : Type) where
  value : V
  statusCode : StatusCode := .Good
  sourceTimestamp : Option ℤ := none
  sourcePicoseconds : ℕ := 0
  deriving DecidableEq

/-- `QueueItem`: a data change or an event. -/
inductive QueueItem (V : Type)
  | monitoredItemNotification (clientHandle : ℕ) (value : DataValue V)
  | eventFieldList (clientHandle : ℕ) (eventFields : List V)
  deriving DecidableEq

/-- A notification: of a monitored item, or of a change of the subscription. -/
inductive Notification (V : Type)
  | queueItem (item : QueueItem V)
  | statusChange (status : StatusCode)
  deriving DecidableEq

/-- `InternalNotification`: a pending notification, with the item that it comes from. -/
structure InternalNotification (V : Type) where
  monitoredItemId : Option ℕ
  notification : Notification V
  start_tick : ℕ
  deriving DecidableEq

/-- The notification data of a message. -/
inductive NotificationData (V : Type)
  | dataChangeNotification (monitoredItems : List (QueueItem V))
  | eventNotificationList (events : List (QueueItem V))
  | statusChangeNotification (status : StatusCode)
  deriving DecidableEq

/-- `NotificationMessage`. -/
structure NotificationMessage (V : Type) where
  sequenceNumber : ℕ
  notificationData : List (NotificationData V)
  deriving DecidableEq

/-- `PublishResponse`, less the results of the acknowledgements, which are those of the request
that it answers. A keep-alive message has no notification data. -/
structure PublishResponse (V : Type) where
  subscriptionId : ℕ
  availableSequenceNumbers : List ℕ
  moreNotifications : Bool
  notificationMessage : NotificationMessage V
  deriving DecidableEq

/-- **What a subscription asks of its monitored items.** -/
class MonitoredItemInterface (V : outParam Type) (I : Type) where
  /-- `hasMonitoredItemNotifications`. -/
  hasMonitoredItemNotifications : I → Bool
  /-- `extractMonitoredItemNotifications`: the notifications, and the item without them. -/
  extractMonitoredItemNotifications : I → List (QueueItem V) × I

export MonitoredItemInterface (hasMonitoredItemNotifications extractMonitoredItemNotifications)

/-! ### The next message -/

/-- A data change, if the notification is one. -/
def Notification.dataChange? : Notification V → Option (QueueItem V)
  | .queueItem (.monitoredItemNotification clientHandle value) =>
    some (.monitoredItemNotification clientHandle value)
  | _ => none

/-- An event, if the notification is one. -/
def Notification.event? : Notification V → Option (QueueItem V)
  | .queueItem (.eventFieldList clientHandle eventFields) =>
    some (.eventFieldList clientHandle eventFields)
  | _ => none

/-- The status of a status change. -/
def Notification.status? : Notification V → Option StatusCode
  | .statusChange status => some status
  | _ => none

/-- The loop of `_popNotificationToSend`: the notifications of the next message, and those that
stay. At most `m` are taken. A status change ends the message: it is taken only when no other
notification was taken before it (`started`). -/
def takeNotifications :
    ℕ → Bool → List (InternalNotification V) →
      List (InternalNotification V) × List (InternalNotification V)
  | 0, _, pending => ([], pending)
  | _ + 1, _, [] => ([], [])
  | m + 1, started, n :: pending =>
    match n.notification with
    | .statusChange _ => if started then ([], n :: pending) else ([n], pending)
    | .queueItem _ =>
      let r := takeNotifications m true pending
      (n :: r.1, r.2)

/-- The notification data of `_popNotificationToSend`: the data changes, the events and the status
change that were taken. -/
def packNotifications (taken : List (InternalNotification V)) : List (NotificationData V) :=
  let monitoredItems := taken.filterMap fun n => n.notification.dataChange?
  let events := taken.filterMap fun n => n.notification.event?
  (if monitoredItems = [] then [] else [.dataChangeNotification monitoredItems]) ++
    (if events = [] then [] else [.eventNotificationList events]) ++
    (taken.filterMap fun n => n.notification.status?).map .statusChangeNotification

/-- **No notification is lost or reordered.** -/
lemma takeNotifications_append (m : ℕ) (started : Bool) (pending : List (InternalNotification V)) :
    (takeNotifications m started pending).1 ++ (takeNotifications m started pending).2 =
      pending := by
  induction pending generalizing m started with
  | nil => cases m <;> rfl
  | cons n pending ih =>
    cases m with
    | zero => rfl
    | succ m =>
      unfold takeNotifications
      cases n.notification with
      | queueItem item => exact congrArg (n :: ·) (ih m true)
      | statusChange status => cases started <;> rfl

variable {pending : List (InternalNotification V)}

/-- **A message has a notification.** -/
lemma takeNotifications_ne_nil {m : ℕ} (hm : 0 < m)
    (hpend : pending ≠ []) : (takeNotifications m false pending).1 ≠ [] := by
  obtain ⟨n, pending, rfl⟩ := List.exists_cons_of_ne_nil hpend
  obtain ⟨m, rfl⟩ := Nat.exists_eq_add_of_le' hm
  unfold takeNotifications
  cases n.notification <;> simp

lemma takeNotifications_started (m : ℕ) (pending : List (InternalNotification V)) :
    ∀ n ∈ (takeNotifications m true pending).1, n.notification.status? = none := by
  induction pending generalizing m with
  | nil => cases m <;> simp [takeNotifications]
  | cons n pending ih =>
    cases m with
    | zero => simp [takeNotifications]
    | succ m =>
      unfold takeNotifications
      cases hn : n.notification with
      | queueItem item =>
        simp only [List.forall_mem_cons, hn, Notification.status?, true_and]
        exact ih m
      | statusChange status => simp

variable {n : InternalNotification V}

lemma takeNotifications_status {m : ℕ} (hm : 0 < m) (pending : List (InternalNotification V))
    {status : StatusCode} (hn : n.notification = .statusChange status) :
    takeNotifications m false (n :: pending) = ([n], pending) := by
  obtain ⟨m, rfl⟩ := Nat.exists_eq_add_of_le' hm
  unfold takeNotifications
  rw [hn]
  rfl

lemma mem_takeNotifications_of_status (m : ℕ)
    (hpend : pending ≠ []) (hn : n.notification.status? ≠ none) :
    n ∈ (takeNotifications m false (pending ++ [n])).2 := by
  obtain ⟨first, pending, rfl⟩ := List.exists_cons_of_ne_nil hpend
  cases m with
  | zero => simp [takeNotifications]
  | succ m =>
    rw [List.cons_append]
    unfold takeNotifications
    cases first.notification with
    | statusChange status => simp
    | queueItem item =>
      have hmem : n ∈ (takeNotifications m true (pending ++ [n])).1 ++
          (takeNotifications m true (pending ++ [n])).2 := by
        rw [takeNotifications_append]
        simp
      rcases List.mem_append.mp hmem with htaken | hleft
      · exact absurd (takeNotifications_started m _ n htaken) hn
      · exact hleft

example : (takeNotifications 5 false
    [⟨some 1, .queueItem (.monitoredItemNotification 7 { value := true }), 0⟩,
      ⟨none, .statusChange .BadTimeout, 0⟩]).2 = [⟨none, .statusChange .BadTimeout, 0⟩] := rfl

end NodeOpcua
