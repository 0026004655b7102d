import Mathlib.Data.List.ModifyLast
import NodeOpcua.Library.Mealy
import NodeOpcua.Server.MonitoredItem.Basic

set_option autoImplicit false

/-!
# The law of the queue of a monitored item

The queue holds the notifications that the client has not had yet. When there are too many, one of them
is lost, and the notification next to the loss says so by its overflow bit.

## Main definitions

* `QueueLaw`.
* `MonitoredItem.queueStep`, `MonitoredItem.QueueGuarded`.

## Main results

* `QueueLaw.enqueueAll_discardOldest`, `QueueLaw.enqueueAll_discardNewest`,
  `MonitoredItem.run_queueLaw`.

## Design

The notification of an event has no status, and no overflow bit. A queue with room for one notification
has no overflow bit either.
-/

namespace NodeOpcua

variable {V : Type}

namespace QueueItem

/-- The notification with the overflow bit, when it has a status. -/
def withOverflowBit : QueueItem V → QueueItem V
  | .monitoredItemNotification clientHandle value =>
    .monitoredItemNotification clientHandle
      { value with
          statusCode := value.statusCode.makeStatusCode
            (StatusCode.Overflow ||| StatusCode.InfoTypeDataValue) }
  | .eventFieldList clientHandle eventFields => .eventFieldList clientHandle eventFields

/-- The overflow bit of a notification can be set: the status of its value is Good. -/
def Markable : QueueItem V → Prop
  | .monitoredItemNotification _ value => value.statusCode = .Good
  | .eventFieldList _ _ => True

instance : DecidablePred (Markable (V := V)) := fun
  | .monitoredItemNotification _ value => inferInstanceAs (Decidable (value.statusCode = .Good))
  | .eventFieldList _ _ => inferInstanceAs (Decidable True)

variable {notification : QueueItem V}

lemma _setOverflowBit_eq_some (h : notification.Markable) :
    notification._setOverflowBit = some notification.withOverflowBit := by
  cases notification with
  | monitoredItemNotification clientHandle value => exact if_pos h
  | eventFieldList clientHandle eventFields => rfl

lemma not_markable_withOverflowBit (clientHandle : ℕ) (value : DataValue V) :
    ¬ (monitoredItemNotification clientHandle value).withOverflowBit.Markable := by
  intro h
  have hvalue := congrArg (fun statusCode : StatusCode => statusCode.value.testBit 7) h
  simp [StatusCode.makeStatusCode, StatusCode.Overflow, StatusCode.InfoTypeDataValue,
    StatusCode.Good, Nat.testBit_or] at hvalue
  exact absurd hvalue.2 (by decide)

lemma unset_withOverflowBit (h : notification.Markable) :
    notification.withOverflowBit.unsetOverflowBit = notification.unsetOverflowBit := by
  cases notification with
  | monitoredItemNotification clientHandle value =>
    obtain ⟨v, statusCode, sourceTimestamp, sourcePicoseconds⟩ := value
    obtain rfl : statusCode = .Good := h
    have hset : (StatusCode.Good.makeStatusCode
        (StatusCode.Overflow ||| StatusCode.InfoTypeDataValue)).hasOverflowBit = true := by decide
    have hunset : (StatusCode.Good.makeStatusCode
        (StatusCode.Overflow ||| StatusCode.InfoTypeDataValue)).unset
        (StatusCode.Overflow ||| StatusCode.InfoTypeDataValue) = .Good := by decide
    have hgood : StatusCode.Good.hasOverflowBit = false := by decide
    simp only [withOverflowBit, unsetOverflowBit, hset, hunset, hgood, if_true, Bool.false_eq_true,
      if_false]
  | eventFieldList clientHandle eventFields => rfl

end QueueItem

/-! ### The queue as it should be -/

/-- **A notification that survives**, with the knowledge of whether one was lost next to it. -/
structure SurvivingNotification (V : Type) where
  notification : QueueItem V
  nextToLoss : Bool

/-- The notification as it is sent: with the overflow bit when one was lost next to it. -/
def SurvivingNotification.sent (e : SurvivingNotification V) : QueueItem V :=
  if e.nextToLoss then e.notification.withOverflowBit else e.notification

/-- **The queue as it should be.** -/
structure QueueLaw (V : Type) where
  queueSize : ℕ
  discardOldest : Bool
  monitoringMode : MonitoringMode
  entries : List (SurvivingNotification V)

/-- What happens to the queue of an item: a notification comes, the queue is harvested, or the size of
the queue and its policy are modified, with the other parameters. -/
inductive QueueEvent (V : Type)
  | enqueue (notification : QueueItem V)
  | harvest (bForce : Bool)
  | modify (monitoringParameters : MonitoringParameters)

namespace QueueLaw

/-- The first notification is next to a loss. -/
def lostBefore : List (SurvivingNotification V) → List (SurvivingNotification V)
  | [] => []
  | e :: entries => { e with nextToLoss := true } :: entries

/-- **A notification comes.** When the queue is full, the oldest notification is lost, or the newest. -/
def enqueue (queueSize : ℕ) (discardOldest : Bool) (entries : List (SurvivingNotification V))
    (notification : QueueItem V) : List (SurvivingNotification V) :=
  if queueSize ≤ 1 then [⟨notification, false⟩]
  else if entries.length < queueSize then entries ++ [⟨notification, false⟩]
  else if discardOldest then
    lostBefore ((entries ++ [SurvivingNotification.mk notification false]).drop
      (entries.length + 1 - queueSize))
  else entries.take (queueSize - 1) ++ [⟨notification, true⟩]

/-- What survives of a queue when its size is modified: the newest, or the oldest and the newest. -/
def survivors {α : Type} (queueSize : ℕ) (discardOldest : Bool) (queue : List α) : List α :=
  if queue.length ≤ queueSize then queue
  else if discardOldest then queue.drop (queue.length - queueSize)
  else queue.take (queueSize - 1) ++ queue.drop (queue.length - 1)

/-- The last notification is next to a loss. -/
def lostBeforeLast (entries : List (SurvivingNotification V)) : List (SurvivingNotification V) :=
  entries.modifyLast fun e => { e with nextToLoss := true }

section

variable (queueSize : ℕ) (discardOldest : Bool) (entries : List (SurvivingNotification V))

/-- The size of the queue is modified, with room for more than one notification. -/
def shrink :
    List (SurvivingNotification V) :=
  if entries.length ≤ queueSize then entries
  else if discardOldest then lostBefore (survivors queueSize discardOldest entries)
  else lostBeforeLast (survivors queueSize discardOldest entries)

/-- **The size of the queue is modified.** With room for one notification there is no overflow bit. -/
def resize :
    List (SurvivingNotification V) :=
  if queueSize ≤ 1 then
    (survivors queueSize discardOldest entries).map fun e =>
      { notification := e.notification.unsetOverflowBit, nextToLoss := false }
  else shrink queueSize discardOldest entries

end

/-- **What should happen to the queue.** -/
def step (l : QueueLaw V) : QueueEvent V → QueueLaw V
  | .enqueue notification =>
    { l with entries := enqueue l.queueSize l.discardOldest l.entries notification }
  | .harvest bForce =>
    if bForce || l.monitoringMode = .Reporting then { l with entries := [] } else l
  | .modify monitoringParameters =>
    let queueSize := _adjust_queue_size monitoringParameters.queueSize
    { l with
      queueSize
      discardOldest := monitoringParameters.discardOldest
      entries := resize queueSize monitoringParameters.discardOldest l.entries }

/-! ### What survives -/

/-- The notifications come one after the other, from an empty queue. -/
def enqueueAll (queueSize : ℕ) (discardOldest : Bool) (notifications : List (QueueItem V)) :
    List (SurvivingNotification V) :=
  notifications.foldl (enqueue queueSize discardOldest) []

/-- Notifications that are not next to a loss. -/
def unmarked (notifications : List (QueueItem V)) : List (SurvivingNotification V) :=
  notifications.map fun notification => ⟨notification, false⟩

@[simp] lemma length_unmarked (notifications : List (QueueItem V)) :
    (unmarked notifications).length = notifications.length := by
  simp [unmarked]

@[simp] lemma length_lostBefore (entries : List (SurvivingNotification V)) :
    (lostBefore entries).length = entries.length := by
  cases entries <;> rfl

lemma enqueueAll_concat (queueSize : ℕ) (discard : Bool) (notifications : List (QueueItem V))
    (notification : QueueItem V) :
    enqueueAll queueSize discard (notifications ++ [notification]) =
      enqueue queueSize discard (enqueueAll queueSize discard notifications)
        notification := by
  simp [enqueueAll]

variable {notifications : List (QueueItem V)} {queueSize : ℕ}

lemma enqueueAll_fits (hlarge : 1 < queueSize) (discard : Bool)
    (hfits : notifications.length ≤ queueSize) :
    enqueueAll queueSize discard notifications = unmarked notifications := by
  induction notifications using List.reverseRecOn with
  | nil => rfl
  | append_singleton notifications notification ih =>
    simp only [List.length_append, List.length_singleton] at hfits
    rw [enqueueAll_concat, ih (by omega)]
    simp only [enqueue, length_unmarked]
    rw [if_neg (by omega), if_pos (by omega)]
    simp [unmarked]

/-- **The oldest are lost**: the last `queueSize` notifications survive, and the first of them is next to
the loss. -/
theorem enqueueAll_discardOldest (hlarge : 1 < queueSize)
    (hlost : queueSize < notifications.length) :
    enqueueAll queueSize true notifications =
      lostBefore (unmarked (notifications.drop (notifications.length - queueSize))) := by
  induction notifications using List.reverseRecOn with
  | nil => simp at hlost
  | append_singleton notifications notification ih =>
    simp only [List.length_append, List.length_singleton] at hlost ⊢
    -- the first of the notifications that have survived is lost now, marked or not
    obtain ⟨entries, hentries, htail⟩ : ∃ entries,
        enqueueAll queueSize true notifications = entries ∧
          entries.length = queueSize ∧ entries.tail =
            (unmarked (notifications.drop (notifications.length - queueSize))).tail := by
      refine ⟨_, rfl, ?_⟩
      rcases Nat.lt_or_ge queueSize notifications.length with hlonger | hfits
      · rw [ih hlonger]
        refine ⟨by simp; omega, ?_⟩
        cases unmarked (notifications.drop (notifications.length - queueSize)) <;> rfl
      · rw [enqueueAll_fits hlarge true hfits]
        refine ⟨by simp; omega, ?_⟩
        rw [show notifications.length - queueSize = 0 by omega, List.drop_zero]
    obtain ⟨hlen, htail⟩ := htail
    rw [enqueueAll_concat, hentries]
    simp only [enqueue]
    rw [if_neg (by omega), if_neg (by omega), if_pos trivial,
      show entries.length + 1 - queueSize = 1 by omega]
    have hne : entries ≠ [] := by
      rintro rfl
      simp at hlen
      omega
    rw [List.drop_one, List.tail_append_of_ne_nil hne, htail, unmarked, unmarked, ← List.map_tail,
      List.tail_drop, List.drop_append_of_le_length (by omega), List.map_append,
      show notifications.length - queueSize + 1 = notifications.length + 1 - queueSize by omega]
    rfl

/-- **The newest are lost**: the first notifications survive, and the last, which is next to the loss. -/
theorem enqueueAll_discardNewest (hlarge : 1 < queueSize) (hfull : queueSize ≤ notifications.length)
    (notification : QueueItem V) :
    enqueueAll queueSize false (notifications ++ [notification]) =
      unmarked (notifications.take (queueSize - 1)) ++ [⟨notification, true⟩] := by
  -- the first notifications are never lost
  have hkept : ∀ notifications : List (QueueItem V), queueSize ≤ notifications.length →
      (enqueueAll queueSize false notifications).length = queueSize ∧
        (enqueueAll queueSize false notifications).take (queueSize - 1) =
          unmarked (notifications.take (queueSize - 1)) := by
    intro notifications
    induction notifications using List.reverseRecOn with
    | nil => exact fun h => absurd h (by simp; omega)
    | append_singleton notifications notification ih =>
      intro h
      rcases Nat.lt_or_ge notifications.length queueSize with hfits | hlonger
      · simp only [List.length_append, List.length_singleton] at h
        have hall : (notifications ++ [notification]).length ≤ queueSize := by simp; omega
        rw [enqueueAll_fits hlarge false hall]
        refine ⟨by simp; omega, ?_⟩
        simp [unmarked]
      · obtain ⟨hlen, htake⟩ := ih hlonger
        rw [enqueueAll_concat]
        simp only [enqueue]
        rw [if_neg (by omega), if_neg (by omega), if_neg Bool.false_ne_true, htake]
        refine ⟨by simp; omega, ?_⟩
        rw [List.take_append_of_le_length (by simp; omega),
          List.take_append_of_le_length (by omega), List.take_of_length_le (by simp)]
  obtain ⟨hlen, htake⟩ := hkept notifications hfull
  rw [enqueueAll_concat]
  simp only [enqueue]
  rw [if_neg (by omega), if_neg (by omega), if_neg Bool.false_ne_true, htake]

end QueueLaw

namespace MonitoredItem

/-- What a step reports. -/
inductive QueueOutcome
  | threw
  deriving DecidableEq, Repr

/-- The state after a method, and whether it has thrown. -/
def outcome (r : Except (MonitoredItem V) (MonitoredItem V)) : MonitoredItem V × List QueueOutcome :=
  match r with
  | .ok s => (s, [])
  | .error s => (s, [.threw])

/-- **What happens to the queue of an item.** -/
def queueStep (s : MonitoredItem V) : QueueEvent V → MonitoredItem V × List QueueOutcome
  | .enqueue notification => outcome (s._enqueue_notification notification)
  | .harvest bForce => ((s.extractMonitoredItemNotifications bForce).2, [])
  | .modify monitoringParameters => outcome (s.modify monitoringParameters)

/-- **The steps that reach no defect**: when a notification is lost, the one that gets the overflow bit
has a Good status; when some are lost because the queue becomes smaller, the one next to the loss has
the overflow bit already; and the sampling interval of the parameters is finite and not negative. -/
def QueueGuarded (s : MonitoredItem V) : QueueEvent V → Prop
  | .enqueue notification => s.queueSize ≠ 1 → s.queueSize ≤ s.queue.length →
      if s.discardOldest then ∀ front ∈ (s.queue ++ [notification]).tail.head?, front.Markable
      else notification.Markable
  | .harvest _ => True
  | .modify monitoringParameters =>
    (∃ samplingInterval, monitoringParameters.samplingInterval = some samplingInterval ∧
      0 ≤ samplingInterval) ∧
    (_adjust_queue_size monitoringParameters.queueSize ≠ 1 →
      _adjust_queue_size monitoringParameters.queueSize < s.queue.length →
      ∀ next ∈ (if monitoringParameters.discardOldest then
          (s.queue.drop
            (s.queue.length - _adjust_queue_size monitoringParameters.queueSize)).head?
        else s.queue.getLast?), next.withOverflowBit = next)

/-! ### The invariant -/

/-- What is known of a notification that is next to a loss. -/
def SoundEntry (e : SurvivingNotification V) : Prop :=
  e.notification.withOverflowBit.unsetOverflowBit = e.notification.unsetOverflowBit ∨
    e.nextToLoss = false

/-- **The invariant**: the queue of the item is the one that it should be. -/
structure FollowsLaw (s : MonitoredItem V) (l : QueueLaw V) : Prop where
  queueSize : s.queueSize = l.queueSize
  discardOldest : s.discardOldest = l.discardOldest
  monitoringMode : s.monitoringMode = l.monitoringMode
  queue : s.queue = l.entries.map SurvivingNotification.sent
  length_le : s.queue.length ≤ s.queueSize
  sound : ∀ e ∈ l.entries, SoundEntry e
  unmarked : s.queueSize = 1 → ∀ e ∈ l.entries, e.nextToLoss = false

variable {s : MonitoredItem V} {l : QueueLaw V} {e : SurvivingNotification V}

lemma sent_eq_of_markable (h : e.sent.Markable) :
    e.sent.withOverflowBit = e.notification.withOverflowBit := by
  unfold SurvivingNotification.sent at h ⊢
  split
  · next hmarked =>
    rw [if_pos hmarked] at h
    cases hnotif : e.notification with
    | monitoredItemNotification clientHandle value =>
      rw [hnotif] at h
      exact absurd h (QueueItem.not_markable_withOverflowBit clientHandle value)
    | eventFieldList clientHandle eventFields => rfl
  · rfl

lemma soundEntry_of_markable (h : e.sent.Markable) :
    e.notification.withOverflowBit.unsetOverflowBit = e.notification.unsetOverflowBit := by
  unfold SurvivingNotification.sent at h
  split at h
  · cases hnotif : e.notification with
    | monitoredItemNotification clientHandle value =>
      rw [hnotif] at h
      exact absurd h (QueueItem.not_markable_withOverflowBit clientHandle value)
    | eventFieldList clientHandle eventFields => rfl
  · exact QueueItem.unset_withOverflowBit h

lemma withOverflowBit_of_sent (h : e.sent.withOverflowBit = e.sent) :
    e.notification.withOverflowBit = e.sent := by
  unfold SurvivingNotification.sent at h ⊢
  split
  · rfl
  · next hunmarked =>
    rw [if_neg hunmarked] at h
    exact h

lemma soundEntry_of_withOverflowBit (he : SoundEntry e) (h : e.sent.withOverflowBit = e.sent) :
    e.notification.withOverflowBit.unsetOverflowBit = e.notification.unsetOverflowBit := by
  rcases he with he | hunmarked
  · exact he
  · have hsent : e.sent = e.notification := by
      unfold SurvivingNotification.sent
      rw [hunmarked]
      rfl
    rw [hsent] at h
    rw [h]

lemma unset_sent (he : SoundEntry e) :
    e.sent.unsetOverflowBit = e.notification.unsetOverflowBit := by
  unfold SurvivingNotification.sent
  split
  · next hmarked => exact he.resolve_right (by rw [hmarked]; nofun)
  · rfl

/-! ### Notifications that come -/

variable {notification : QueueItem V}

lemma FollowsLaw.enqueued (h : FollowsLaw s l) {entries : List (SurvivingNotification V)}
    (hlaw : QueueLaw.enqueue l.queueSize l.discardOldest l.entries notification = entries)
    {queue : List (QueueItem V)} {overflow : Bool}
    (hqueue : queue = entries.map SurvivingNotification.sent) (hle : queue.length ≤ s.queueSize)
    (hsound : ∀ e ∈ entries, SoundEntry e)
    (hunmarked : s.queueSize = 1 → ∀ e ∈ entries, e.nextToLoss = false) :
    FollowsLaw { s with queue, overflow } (l.step (.enqueue notification)) := by
  subst hlaw
  exact ⟨h.queueSize, h.discardOldest, h.monitoringMode, hqueue, hle, hsound, hunmarked⟩

section

variable (h : FollowsLaw s l) (hlarge : s.queueSize ≠ 1)
include h hlarge

lemma FollowsLaw.enqueue_oldest (hfull : s.queueSize ≤ s.queue.length) (hd : s.discardOldest = true)
    (hguard : ∀ front ∈ (s.queue ++ [notification]).tail.head?, front.Markable) :
    ∃ s', s._enqueue_notification notification = .ok s' ∧
      FollowsLaw s' (l.step (.enqueue notification)) := by
  have hpos := s.queueSize_pos
  have hlen : l.entries.length = s.queueSize := by
    have hle := h.length_le
    rw [h.queue, List.length_map] at hle hfull
    omega
  obtain ⟨lost, rest, hentries⟩ : ∃ lost rest, l.entries = lost :: rest :=
    List.exists_cons_of_length_pos (by omega)
  obtain ⟨front, tail, hrest⟩ : ∃ front tail, rest ++ [⟨notification, false⟩] = front :: tail :=
    List.exists_cons_of_length_pos (by simp)
  have htail : (s.queue ++ [notification]).tail = front.sent :: tail.map SurvivingNotification.sent := by
    have hmap := congrArg (List.map SurvivingNotification.sent) hrest
    rw [h.queue, hentries]
    simpa [SurvivingNotification.sent] using hmap
  have hmarkable : front.sent.Markable := hguard front.sent (by rw [htail]; rfl)
  have hlaw : QueueLaw.enqueue l.queueSize l.discardOldest l.entries notification =
      { front with nextToLoss := true } :: tail := by
    unfold QueueLaw.enqueue
    rw [← h.queueSize, ← h.discardOldest, if_neg (by omega), if_neg (by omega), if_pos hd, hlen,
      Nat.add_sub_cancel_left, hentries, List.cons_append, List.drop_succ_cons, List.drop_zero, hrest]
    rfl
  have hmem : ∀ e ∈ front :: tail, e ∈ l.entries ∨ e = ⟨notification, false⟩ := by
    intro e he
    rw [← hrest, List.mem_append, List.mem_singleton] at he
    exact he.imp_left fun he => by rw [hentries]; exact List.mem_cons_of_mem _ he
  have hcount : (front :: tail).length = s.queueSize := by
    rw [← hrest, List.length_append, List.length_singleton, ← hlen, hentries, List.length_cons]
  refine ⟨{ s with
    overflow := true
    queue := front.sent.withOverflowBit :: tail.map SurvivingNotification.sent }, ?_, ?_⟩
  · unfold MonitoredItem._enqueue_notification
    rw [if_neg hlarge, if_pos hd, if_pos (by omega), htail]
    dsimp only
    rw [QueueItem._setOverflowBit_eq_some hmarkable]
  · refine h.enqueued hlaw ?_ ?_ (fun e he => ?_) fun hone => absurd hone hlarge
    · rw [List.map_cons, sent_eq_of_markable hmarkable]
      rfl
    · rw [List.length_cons, List.length_map, ← hcount, List.length_cons]
    · rcases List.mem_cons.mp he with rfl | he
      · have hfront := soundEntry_of_markable hmarkable
        exact .inl hfront
      · rcases hmem e (List.mem_cons_of_mem _ he) with he | rfl
        · exact h.sound e he
        · exact .inr rfl

lemma FollowsLaw.enqueue_newest
    (hfull : s.queueSize ≤ s.queue.length) (hd : ¬ s.discardOldest = true)
    (hmarkable : notification.Markable) :
    ∃ s', s._enqueue_notification notification = .ok s' ∧
      FollowsLaw s' (l.step (.enqueue notification)) := by
  have hpos := s.queueSize_pos
  have hle := h.length_le
  have hlen : l.entries.length = s.queueSize := by
    rw [h.queue, List.length_map] at hle hfull
    omega
  have hlaw : QueueLaw.enqueue l.queueSize l.discardOldest l.entries notification =
      l.entries.take (s.queueSize - 1) ++ [⟨notification, true⟩] := by
    unfold QueueLaw.enqueue
    rw [← h.queueSize, ← h.discardOldest, if_neg (by omega), if_neg (by omega), if_neg hd]
  refine ⟨{ s with
    overflow := true
    queue := s.queue.dropLast ++ [notification.withOverflowBit] }, ?_, ?_⟩
  · unfold MonitoredItem._enqueue_notification
    rw [if_neg hlarge, if_neg hd, if_neg (by omega), QueueItem._setOverflowBit_eq_some hmarkable]
  · refine h.enqueued hlaw ?_ ?_ (fun e he => ?_) fun hone => absurd hone hlarge
    · rw [List.map_append, List.map_take, ← h.queue, List.dropLast_eq_take,
        show s.queue.length - 1 = s.queueSize - 1 by omega]
      rfl
    · rw [List.length_append, List.length_dropLast, List.length_singleton]
      omega
    · rcases List.mem_append.mp he with he | he
      · exact h.sound e (List.mem_of_mem_take he)
      · obtain rfl := List.mem_singleton.mp he
        exact .inl (QueueItem.unset_withOverflowBit hmarkable)

lemma FollowsLaw.enqueue_room (hroom : s.queue.length < s.queueSize) :
    ∃ s', s._enqueue_notification notification = .ok s' ∧
      FollowsLaw s' (l.step (.enqueue notification)) := by
  have hlen : l.entries.length = s.queue.length := by
    rw [h.queue, List.length_map]
  have hlaw : QueueLaw.enqueue l.queueSize l.discardOldest l.entries notification =
      l.entries ++ [⟨notification, false⟩] := by
    unfold QueueLaw.enqueue
    rw [← h.queueSize, if_neg (by omega), if_pos (by omega)]
  refine ⟨{ s with queue := s.queue ++ [notification] }, ?_, ?_⟩
  · unfold MonitoredItem._enqueue_notification
    rw [if_neg hlarge]
    by_cases hd : s.discardOldest = true
    · rw [if_pos hd, if_neg (by omega)]
    · rw [if_neg hd, if_pos hroom]
  · refine h.enqueued hlaw ?_ ?_ (fun e he => ?_) fun hone => absurd hone hlarge
    · rw [List.map_append, ← h.queue]
      rfl
    · rw [List.length_append, List.length_singleton]
      omega
    · rcases List.mem_append.mp he with he | he
      · exact h.sound e he
      · obtain rfl := List.mem_singleton.mp he
        exact .inr rfl

end

/-- **A notification comes.** -/
lemma FollowsLaw.enqueue (h : FollowsLaw s l) (hguard : QueueGuarded s (.enqueue notification)) :
    ∃ s', s._enqueue_notification notification = .ok s' ∧
      FollowsLaw s' (l.step (.enqueue notification)) := by
  by_cases hone : s.queueSize = 1
  · have hlaw : QueueLaw.enqueue l.queueSize l.discardOldest l.entries notification =
        [⟨notification, false⟩] := if_pos (by rw [← h.queueSize]; omega)
    have honly : ∀ e ∈ [(⟨notification, false⟩ : SurvivingNotification V)], e.nextToLoss = false := by
      intro e he
      obtain rfl := List.mem_singleton.mp he
      rfl
    exact ⟨{ s with queue := [notification] }, if_pos hone,
      h.enqueued hlaw rfl s.queueSize_pos (fun e he => .inr (honly e he)) fun _ => honly⟩
  by_cases hroom : s.queue.length < s.queueSize
  · exact h.enqueue_room hone hroom
  have hmark := hguard hone (not_lt.mp hroom)
  by_cases hd : s.discardOldest = true
  · rw [if_pos hd] at hmark
    exact h.enqueue_oldest hone (not_lt.mp hroom) hd hmark
  · rw [if_neg hd] at hmark
    exact h.enqueue_newest hone (not_lt.mp hroom) hd hmark

/-! ### Modifications -/

lemma map_survivors {α β : Type} (f : α → β) (queueSize : ℕ) (discard : Bool) (queue : List α) :
    QueueLaw.survivors queueSize discard (queue.map f) =
      (QueueLaw.survivors queueSize discard queue).map f := by
  unfold QueueLaw.survivors
  rw [List.length_map]
  split_ifs
  · rfl
  · rw [List.map_drop]
  · rw [List.map_append, List.map_take, List.map_drop]

lemma length_survivors_le {α : Type} {queueSize : ℕ} (hpos : 0 < queueSize) (discard : Bool)
    (queue : List α) : (QueueLaw.survivors queueSize discard queue).length ≤ queueSize := by
  unfold QueueLaw.survivors
  split_ifs with hle hd
  · exact hle
  · rw [List.length_drop]
    omega
  · rw [List.length_append, List.length_take, List.length_drop]
    omega

lemma mem_of_mem_survivors {α : Type} {queueSize : ℕ} {discard : Bool} {queue : List α} {a : α}
    (h : a ∈ QueueLaw.survivors queueSize discard queue) : a ∈ queue := by
  unfold QueueLaw.survivors at h
  split_ifs at h with hle hd
  · exact h
  · exact List.mem_of_mem_drop h
  · rcases List.mem_append.mp h with h | h
    · exact List.mem_of_mem_take h
    · exact List.mem_of_mem_drop h

/-- **The queue is adjusted**: what survives is kept, and a single notification loses its overflow
bit. -/
lemma adjust_queue (s : MonitoredItem V) :
    s._adjust_queue_to_match_new_queue_size.queue =
        (let kept := QueueLaw.survivors s.queueSize s.discardOldest s.queue
        if s.queueSize ≤ 1 then kept.map QueueItem.unsetOverflowBit else kept) ∧
      s._adjust_queue_to_match_new_queue_size.queueSize = s.queueSize ∧
      s._adjust_queue_to_match_new_queue_size.discardOldest = s.discardOldest ∧
      s._adjust_queue_to_match_new_queue_size.monitoringMode = s.monitoringMode := by
  have hpos := s.queueSize_pos
  have hkept : (if s.queueSize < s.queue.length then
      if s.discardOldest then { s with queue := s.queue.drop (s.queue.length - s.queueSize) }
      else { s with
        queue := (s.queue.take s.queueSize).dropLast ++ s.queue.drop (s.queue.length - 1) }
      else s) = { s with queue := QueueLaw.survivors s.queueSize s.discardOldest s.queue } := by
    unfold QueueLaw.survivors
    by_cases hlt : s.queueSize < s.queue.length
    · rw [if_pos hlt, if_neg (not_le.mpr hlt)]
      split_ifs
      · rfl
      · rw [List.dropLast_eq_take, List.take_take, List.length_take]
        congr 3
        omega
    · rw [if_neg hlt, if_pos (not_lt.mp hlt)]
  have hlen := length_survivors_le hpos s.discardOldest s.queue
  unfold _adjust_queue_to_match_new_queue_size
  rw [hkept]
  dsimp only
  by_cases hone : s.queueSize ≤ 1
  · rw [if_pos hone, if_pos hone]
    refine ⟨?_, rfl, rfl, rfl⟩
    split
    · rfl
    · have hnil : QueueLaw.survivors s.queueSize s.discardOldest s.queue = [] :=
        List.length_eq_zero_iff.mp (by omega)
      rw [hnil]
      rfl
  · rw [if_neg hone, if_neg hone]
    exact ⟨rfl, rfl, rfl, rfl⟩

lemma set_parameters_queue {params : MonitoringParameters} {sampling : ℚ}
    (hival : params.samplingInterval = some sampling)
    (hnonneg : 0 ≤ sampling) :
    ∃ s', s._set_parameters params = .ok s' ∧ s'.queue = s.queue ∧
      s'.queueSize = _adjust_queue_size params.queueSize ∧
      s'.discardOldest = params.discardOldest ∧ s'.monitoringMode = s.monitoringMode := by
  unfold _set_parameters
  rw [hival]
  dsimp only
  rw [if_neg (not_lt.mpr hnonneg)]
  refine ⟨_, rfl, ?_, rfl, rfl, ?_⟩
  · dsimp only
    split <;> rfl
  · dsimp only
    split <;> rfl

/-- **What a modification does to the queue.** -/
lemma modify_queue {params : MonitoringParameters} {sampling : ℚ}
    (hival : params.samplingInterval = some sampling)
    (hnonneg : 0 ≤ sampling) :
    ∃ s', s.modify params = .ok s' ∧
      s'.queueSize = _adjust_queue_size params.queueSize ∧
      s'.discardOldest = params.discardOldest ∧
      s'.monitoringMode = s.monitoringMode ∧
      s'.queue =
        (let kept := QueueLaw.survivors (_adjust_queue_size params.queueSize)
          params.discardOldest s.queue
        if _adjust_queue_size params.queueSize ≤ 1 then
          kept.map QueueItem.unsetOverflowBit else kept) := by
  -- the fastest sampling interval stands for 0
  obtain ⟨s1, hs1, hqueue, hsize, hpol, hmode⟩ : ∃ s1, s._set_parameters
      (if s.samplingInterval ≠ 0 && params.samplingInterval = some 0 then
        { params with samplingInterval := some minimumSamplingInterval }
      else params) = .ok s1 ∧ s1.queue = s.queue ∧
      s1.queueSize = _adjust_queue_size params.queueSize ∧
      s1.discardOldest = params.discardOldest ∧
      s1.monitoringMode = s.monitoringMode := by
    split
    · have hminimum : 0 ≤ minimumSamplingInterval := by
        unfold minimumSamplingInterval
        norm_num
      exact @set_parameters_queue V s
        { params with samplingInterval := some minimumSamplingInterval } _ rfl hminimum
    · exact set_parameters_queue hival hnonneg
  obtain ⟨hadjusted, hadjustedSize, hadjustedPolicy, hadjustedMode⟩ := adjust_queue s1
  have hmod : s.modify params =
      .ok (if s.samplingInterval ≠ s1._adjust_queue_to_match_new_queue_size.samplingInterval then
        s1._adjust_queue_to_match_new_queue_size._start_sampling false
      else s1._adjust_queue_to_match_new_queue_size) := by
    unfold modify
    dsimp only
    rw [hs1]
    rfl
  -- sampling does not change the queue
  have hstart : ∀ t : MonitoredItem V, (t._start_sampling false).queue = t.queue ∧
      (t._start_sampling false).queueSize = t.queueSize ∧
      (t._start_sampling false).discardOldest = t.discardOldest ∧
      (t._start_sampling false).monitoringMode = t.monitoringMode := by
    intro t
    unfold _start_sampling
    split <;> exact ⟨rfl, rfl, rfl, rfl⟩
  refine ⟨_, hmod, ?_⟩
  rw [← hsize, ← hpol, ← hqueue, ← hadjusted, ← hmode, ← hadjustedSize, ← hadjustedPolicy,
    ← hadjustedMode]
  split
  · obtain ⟨h1, h2, h3, h4⟩ := hstart s1._adjust_queue_to_match_new_queue_size
    exact ⟨h2, h3, h4, h1⟩
  · exact ⟨rfl, rfl, rfl, rfl⟩

lemma shrink_sent (hsound : ∀ e ∈ l.entries, SoundEntry e) {queueSize : ℕ} (hpos : 1 < queueSize)
    {discard : Bool}
    (hguard : queueSize < l.entries.length → ∀ next ∈ (if discard then
        ((l.entries.map SurvivingNotification.sent).drop (l.entries.length - queueSize)).head?
      else (l.entries.map SurvivingNotification.sent).getLast?), next.withOverflowBit = next) :
    (QueueLaw.shrink queueSize discard l.entries).map SurvivingNotification.sent =
        (QueueLaw.survivors queueSize discard l.entries).map SurvivingNotification.sent ∧
      ∀ e ∈ QueueLaw.shrink queueSize discard l.entries, SoundEntry e := by
  have hsurv : ∀ e ∈ QueueLaw.survivors queueSize discard l.entries, SoundEntry e :=
    fun e he => hsound e (mem_of_mem_survivors he)
  unfold QueueLaw.shrink
  by_cases hfits : l.entries.length ≤ queueSize
  · rw [if_pos hfits]
    have hkept : QueueLaw.survivors queueSize discard l.entries = l.entries := if_pos hfits
    rw [hkept]
    exact ⟨rfl, hsound⟩
  rw [if_neg hfits]
  have hnext := hguard (not_le.mp hfits)
  by_cases hd : discard = true
  · rw [if_pos hd] at hnext ⊢
    have hkept : QueueLaw.survivors queueSize discard l.entries =
        l.entries.drop (l.entries.length - queueSize) := by
      unfold QueueLaw.survivors
      rw [if_neg hfits, if_pos hd]
    obtain ⟨front, rest, hfront⟩ : ∃ front rest,
        l.entries.drop (l.entries.length - queueSize) = front :: rest :=
      List.exists_cons_of_length_pos (by rw [List.length_drop]; omega)
    rw [hkept, hfront] at hsurv ⊢
    have hbit : front.sent.withOverflowBit = front.sent := by
      apply hnext
      rw [← List.map_drop, hfront]
      rfl
    constructor
    · show front.notification.withOverflowBit :: rest.map _ = front.sent :: rest.map _
      rw [withOverflowBit_of_sent hbit]
    · intro e he
      rcases List.mem_cons.mp he with rfl | he
      · have hentry := soundEntry_of_withOverflowBit (hsurv front List.mem_cons_self) hbit
        exact .inl hentry
      · exact hsurv e (List.mem_cons_of_mem _ he)
  · rw [if_neg hd] at hnext ⊢
    obtain ⟨before, last, hlast⟩ : ∃ before last, l.entries = before ++ [last] := by
      have hne : l.entries ≠ [] := by
        intro hnil
        rw [hnil, List.length_nil] at hfits
        omega
      exact ⟨_, _, (List.dropLast_append_getLast hne).symm⟩
    have hkept : QueueLaw.survivors queueSize discard l.entries =
        l.entries.take (queueSize - 1) ++ [last] := by
      unfold QueueLaw.survivors
      rw [if_neg hfits, if_neg hd]
      congr 1
      rw [hlast, List.length_append, List.length_singleton, Nat.add_sub_cancel]
      exact List.drop_left' rfl
    rw [hkept] at hsurv ⊢
    have hbit : last.sent.withOverflowBit = last.sent := by
      apply hnext
      rw [hlast, List.map_append, List.map_singleton, List.getLast?_concat]
      rfl
    unfold QueueLaw.lostBeforeLast
    rw [List.modifyLast_concat]
    constructor
    · rw [List.map_append, List.map_append]
      show _ ++ [last.notification.withOverflowBit] = _ ++ [last.sent]
      rw [withOverflowBit_of_sent hbit]
    · intro e he
      rcases List.mem_append.mp he with he | he
      · exact hsurv e (List.mem_append_left _ he)
      · obtain rfl := List.mem_singleton.mp he
        have hentry := soundEntry_of_withOverflowBit
          (hsurv last (List.mem_append_right _ List.mem_cons_self)) hbit
        exact .inl hentry

lemma _adjust_queue_size_pos (queueSize : ℕ) : 0 < _adjust_queue_size queueSize := by
  unfold _adjust_queue_size
  omega

/-- **The queue is modified.** -/
lemma FollowsLaw.modify (h : FollowsLaw s l) {params : MonitoringParameters}
    (hguard : QueueGuarded s (.modify params)) :
    ∃ s', s.modify params = .ok s' ∧
      FollowsLaw s' (l.step (.modify params)) := by
  obtain ⟨⟨sampling, hival, hnonneg⟩, hlost⟩ := hguard
  obtain ⟨s', hmod, hsize, hpol, hmode, hqueue⟩ := modify_queue (s := s) hival hnonneg
  have hpos := _adjust_queue_size_pos params.queueSize
  refine ⟨s', hmod, ?_⟩
  generalize hsize' : _adjust_queue_size params.queueSize = queueSize at *
  generalize hpol' : params.discardOldest = discardOldest at *
  have hlaw : l.step (.modify params) = { l with
      queueSize
      discardOldest
      entries := QueueLaw.resize queueSize discardOldest l.entries } := by
    simp only [QueueLaw.step]
    rw [hsize', hpol']
  have hlengths : s.queue.length = l.entries.length := by
    rw [h.queue, List.length_map]
  have hfits : s'.queue.length ≤ s'.queueSize := by
    rw [hqueue, hsize]
    split
    · rw [List.length_map]
      exact length_survivors_le hpos _ _
    · exact length_survivors_le hpos _ _
  rw [h.queue, map_survivors] at hqueue
  rw [hlaw]
  by_cases hone : queueSize ≤ 1
  · have hresize : QueueLaw.resize queueSize discardOldest l.entries =
        (QueueLaw.survivors queueSize discardOldest l.entries).map fun e =>
          { notification := e.notification.unsetOverflowBit, nextToLoss := false } := if_pos hone
    rw [hresize]
    refine ⟨hsize, hpol, hmode.trans h.monitoringMode, ?_, hfits, fun e he => ?_, fun _ e he => ?_⟩
    · rw [hqueue, if_pos hone, List.map_map, List.map_map]
      exact List.map_congr_left fun e he => unset_sent (h.sound e (mem_of_mem_survivors he))
    · obtain ⟨e', -, rfl⟩ := List.mem_map.mp he
      exact .inr rfl
    · obtain ⟨e', -, rfl⟩ := List.mem_map.mp he
      rfl
  · have hresize : QueueLaw.resize queueSize discardOldest l.entries =
        QueueLaw.shrink queueSize discardOldest l.entries := if_neg hone
    rw [hresize]
    obtain ⟨hsent, hsound⟩ := @shrink_sent V l h.sound queueSize (not_le.mp hone) discardOldest (by
      intro hlt
      rw [← h.queue, ← hlengths]
      exact hlost (by omega) (by omega))
    refine ⟨hsize, hpol, hmode.trans h.monitoringMode, ?_, hfits, hsound, fun hone' => ?_⟩
    · rw [hqueue, if_neg hone, hsent]
    · rw [hsize] at hone'
      omega

/-! ### Runs -/

lemma harvest_queue (s : MonitoredItem V) (bForce : Bool) :
    (s.extractMonitoredItemNotifications bForce).2.queue =
        (if bForce || s.monitoringMode = .Reporting then [] else s.queue) ∧
      (s.extractMonitoredItemNotifications bForce).2.queueSize = s.queueSize ∧
      (s.extractMonitoredItemNotifications bForce).2.discardOldest = s.discardOldest ∧
      (s.extractMonitoredItemNotifications bForce).2.monitoringMode = s.monitoringMode := by
  unfold extractMonitoredItemNotifications
  split
  · next notifications htrig =>
    split at htrig
    · next hsampling =>
      rw [Bool.and_eq_true, Bool.not_eq_true', decide_eq_true_eq] at hsampling
      refine ⟨(if_neg ?_).symm, rfl, rfl, rfl⟩
      rw [hsampling.1, hsampling.2]
      nofun
    · cases htrig
  · split
    · next hkeeps =>
      rw [Bool.and_eq_true, Bool.not_eq_true', decide_eq_true_eq] at hkeeps
      refine ⟨(if_neg ?_).symm, rfl, rfl, rfl⟩
      rw [hkeeps.1, Bool.false_or, decide_eq_true_eq]
      exact hkeeps.2
    · next hempties =>
      have hempties' : (bForce || decide (s.monitoringMode = .Reporting)) = true := by
        cases bForce
        · rw [Bool.not_false, Bool.true_and, decide_eq_true_eq, not_not] at hempties
          rw [hempties]
          rfl
        · rfl
      rw [if_pos hempties']
      dsimp only
      split
      · split <;> exact ⟨rfl, rfl, rfl, rfl⟩
      · exact ⟨rfl, rfl, rfl, rfl⟩

lemma FollowsLaw.harvest (h : FollowsLaw s l) (bForce : Bool) :
    FollowsLaw (s.extractMonitoredItemNotifications bForce).2 (l.step (.harvest bForce)) := by
  obtain ⟨hqueue, hsize, hpol, hmode⟩ := harvest_queue s bForce
  simp only [QueueLaw.step]
  rw [← h.monitoringMode]
  by_cases hempties : (bForce || decide (s.monitoringMode = .Reporting)) = true
  · rw [if_pos hempties] at hqueue ⊢
    refine ⟨hsize.trans h.queueSize, hpol.trans h.discardOldest, hmode, hqueue, ?_,
      fun e he => absurd he List.not_mem_nil, fun _ e he => absurd he List.not_mem_nil⟩
    rw [hqueue]
    exact Nat.zero_le _
  · rw [if_neg hempties] at hqueue ⊢
    refine ⟨hsize.trans h.queueSize, hpol.trans h.discardOldest, hmode.trans h.monitoringMode,
      hqueue.trans h.queue, ?_, h.sound, fun hone => h.unmarked (hsize ▸ hone)⟩
    rw [hqueue, hsize]
    exact h.length_le

/-- **A guarded step follows the law**, and does not throw. -/
theorem followsLaw_step (h : FollowsLaw s l) {event : QueueEvent V} (hguard : QueueGuarded s event) :
    FollowsLaw (s.queueStep event).1 (l.step event) ∧ (s.queueStep event).2 = [] := by
  cases event with
  | enqueue notification =>
    obtain ⟨s', hok, hlaw⟩ := h.enqueue hguard
    simp only [queueStep, hok, outcome]
    exact ⟨hlaw, trivial⟩
  | harvest bForce => exact ⟨h.harvest bForce, rfl⟩
  | modify params =>
    obtain ⟨s', hok, hlaw⟩ := h.modify hguard
    simp only [queueStep, hok, outcome]
    exact ⟨hlaw, trivial⟩

/-- **A run of guarded steps** follows the law, and nothing is thrown. -/
lemma followsLaw_run (h : FollowsLaw s l) {events : List (QueueEvent V)}
    (hguarded : Mealy.Along queueStep QueueGuarded s events) :
    FollowsLaw (Mealy.run queueStep s events).1 (events.foldl QueueLaw.step l) ∧
      (Mealy.run queueStep s events).2 = [] := by
  induction events generalizing s l with
  | nil => exact ⟨h, rfl⟩
  | cons event events ih =>
    obtain ⟨hstep, hthrow⟩ := followsLaw_step h hguarded.1
    obtain ⟨hrun, hrunThrown⟩ := ih hstep hguarded.2
    refine ⟨hrun, ?_⟩
    rw [Mealy.run_cons_snd, hthrow, hrunThrown]
    rfl

/-- The parameters of an item with a small queue. -/
def smallQueue (queueSize : ℕ) (discardOldest : Bool) : MonitoringParameters :=
  { clientHandle := 1
    samplingInterval := some 0
    filter := none
    queueSize
    discardOldest }

/-- A value of a variable that is monitored comes. -/
def valueComes (value : ℕ) (statusCode : StatusCode) : QueueEvent ℕ :=
  .enqueue (.monitoredItemNotification 1 { value, statusCode })

lemma FollowsLaw.along_enqueue (h : FollowsLaw s l) (hd : l.discardOldest = false)
    {notifications : List (QueueItem V)} (hmarkable : ∀ n ∈ notifications, n.Markable) :
    Mealy.Along queueStep QueueGuarded s (notifications.map .enqueue) := by
  induction notifications generalizing s l with
  | nil => trivial
  | cons n notifications ih =>
    obtain ⟨hn, hrest⟩ := List.forall_mem_cons.mp hmarkable
    have hguard : QueueGuarded s (.enqueue n) := fun _ _ => by
      rw [h.discardOldest, hd]
      exact hn
    exact ⟨hguard, ih (followsLaw_step h hguard).1 hd hrest⟩

lemma foldl_enqueue (l : QueueLaw V) (notifications : List (QueueItem V)) :
    ((notifications.map .enqueue).foldl QueueLaw.step l).entries =
      notifications.foldl (QueueLaw.enqueue l.queueSize l.discardOldest) l.entries := by
  induction notifications generalizing l with
  | nil => rfl
  | cons n notifications ih => exact ih _

/-- **An item that discards the newest** keeps the first notifications and the last one, which has the
overflow bit, however many come. -/
theorem run_discardNewest (hempty : s.queue = []) (hd : s.discardOldest = false)
    (hlarge : 1 < s.queueSize) (notifications : List (QueueItem V)) (notification : QueueItem V)
    (hfull : s.queueSize ≤ notifications.length)
    (hmarkable : ∀ n ∈ notifications ++ [notification], n.Markable) :
    let reached := Mealy.run queueStep s ((notifications ++ [notification]).map .enqueue)
    reached.2 = [] ∧
      reached.1.queue = notifications.take (s.queueSize - 1) ++ [notification.withOverflowBit] := by
  have hinit : FollowsLaw s ⟨s.queueSize, s.discardOldest, s.monitoringMode, []⟩ :=
    ⟨rfl, rfl, rfl, hempty, by simp [hempty], nofun, fun _ => nofun⟩
  obtain ⟨hlaw, hthrow⟩ := followsLaw_run hinit (hinit.along_enqueue hd hmarkable)
  refine ⟨hthrow, hlaw.queue.trans ?_⟩
  have hentries := QueueLaw.enqueueAll_discardNewest hlarge hfull notification
  rw [foldl_enqueue, hd, ← QueueLaw.enqueueAll, hentries, QueueLaw.unmarked]
  simp [SurvivingNotification.sent, Function.comp_def]

theorem run_discardNewest_three :
    ∃ s : MonitoredItem ℕ,
      MonitoredItem.new 1 ⟨AttributeIds.Value, .empty, .Variable 0 1⟩ (smallQueue 2 false) = .ok s ∧
      (Mealy.run queueStep s [valueComes 1 .Good, valueComes 2 .Good, valueComes 3 .Good]).2 = [] := by
  refine ⟨_, rfl, (run_discardNewest rfl rfl (by decide) [.monitoredItemNotification 1 { value := 1 },
    .monitoredItemNotification 1 { value := 2 }] (.monitoredItemNotification 1 { value := 3 })
    (by decide) ?_).1⟩
  simp [QueueItem.Markable]

end MonitoredItem

end NodeOpcua
