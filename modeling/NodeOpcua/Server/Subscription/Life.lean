import NodeOpcua.Server.Subscription.Basic

set_option autoImplicit false

/-!
# The life of a subscription

A subscription as a machine: the ticks of its timer, the requests of the sessions, the changes of
its monitored items and its transfers reach it in any order.

## Main definitions

* `SubscriptionLife`.
* `SubscriptionEvent`, `SubscriptionLife.step`.

## Design

An event that involves the publish engine carries the number of Publish requests that wait there.
Some events happen right after others in the program, such as `dispose` after `terminate`; here
they are events of their own, which may also come later.
-/

namespace NodeOpcua

/-- **A subscription in the hands of the sessions**. -/
structure SubscriptionLife (V I : Type) where
  subscription : Subscription V I
  /-- The session whose publish engine has the subscription. -/
  session : ℕ
  /-- The sessions whose publish engine has a `TransferredSubscription` of it. -/
  transferred : List ℕ

/-- What happens to a subscription. -/
inductive SubscriptionEvent (V I : Type)
  | timerTick (pendingPublishRequestCount : ℕ)
  /-- A `setImmediate` of `process_subscription` runs. -/
  | reTick (pendingPublishRequestCount : ℕ)
  /-- `#_feed_late_subscription` has chosen the subscription. -/
  | processSubscription (pendingPublishRequestCount : ℕ)
  /-- `#_feed_closed_subscription` has chosen the subscription. -/
  | publishClosed (pendingPublishRequestCount : ℕ)
  | acknowledge (sequenceNumber : ℕ)
  | republish (sequenceNumber : ℕ)
  /-- A request for the subscription arrives at `_apply_on_Subscription`. -/
  | applyOnSubscription
  | setPublishingMode (publishingEnabled : Bool)
  | modify (param : ModifySubscriptionParameters)
  | createMonitoredItem (monitoredItemId : ℕ) (item : I)
  | removeMonitoredItem (monitoredItemId : ℕ)
  | monitoredItemChange (monitoredItemId : ℕ) (item : I)
  /-- The monitored items are given with their initial values. -/
  | resendInitialValues (items : List I)
  | transfer (session pendingPublishRequestCount : ℕ)
  | transferResult
  /-- `#_feed_closed_subscription` has chosen the `TransferredSubscription`. -/
  | feedTransferred (session : ℕ)
  | terminate
  | dispose

/-- What the sessions get from a subscription. -/
inductive SubscriptionOutput (V : Type)
  | response (session : ℕ) (response : PublishResponse V)
  | acknowledged (sequenceNumber : ℕ) (statusCode : StatusCode)
  | republished (sequenceNumber : ℕ) (notificationMessage : Option (NotificationMessage V))
  | transferResult (availableSequenceNumbers : List ℕ)
  | expired
  deriving DecidableEq

namespace SubscriptionLife

variable {V I : Type}

/-- A new subscription of a session. -/
def new (id priority : ℕ) (parameters : RevisedParameters) (publishingEnabled : Bool)
    (session : ℕ) : SubscriptionLife V I where
  subscription := Subscription.new id priority parameters publishingEnabled
  session := session
  transferred := []

/-- What a call gives to the session of the subscription. -/
def outputs (session : ℕ) (outcome : Outcome V I) : List (SubscriptionOutput V) :=
  (outcome.response.map (.response session)).toList ++ if outcome.expired then [.expired] else []

/-- A call of the subscription; one that fails an assertion changes nothing. -/
def call (l : SubscriptionLife V I) (outcome : Option (Outcome V I)) :
    SubscriptionLife V I × List (SubscriptionOutput V) :=
  match outcome with
  | none => (l, [])
  | some outcome => ({ l with subscription := outcome.subscription }, outputs l.session outcome)

lemma call_some (l : SubscriptionLife V I) (out : Outcome V I) :
    l.call (some out) =
      ({ l with subscription := out.subscription }, outputs l.session out) := rfl

lemma outputs_of_not_expired (sess : ℕ) {out : Outcome V I} (h : out.expired = false) :
    outputs sess out = (out.response.map (.response sess)).toList := by
  unfold outputs
  rw [h]
  exact List.append_nil _

/-- `transferSubscription`, up to the initial values. -/
def transfer (l : SubscriptionLife V I) (session pendingPublishRequestCount : ℕ) :
    SubscriptionLife V I × List (SubscriptionOutput V) :=
  let called := l.call (l.subscription.notifyTransfer pendingPublishRequestCount)
  let transferred := l.transferred.filter (· ≠ session)
  ({ subscription := called.1.subscription.resetLifeTimeCounter
     session
     transferred :=
       if pendingPublishRequestCount = 0 then transferred ++ [l.session] else transferred },
    called.2)

/-- The subscription is replaced. -/
def set (l : SubscriptionLife V I) (subscription : Subscription V I) :
    SubscriptionLife V I × List (SubscriptionOutput V) :=
  ({ l with subscription }, [])

variable [MonitoredItemInterface V I]

/-- An event that a subscription reacts to before it is closed. -/
def stepOpen (l : SubscriptionLife V I) :
    SubscriptionEvent V I → SubscriptionLife V I × List (SubscriptionOutput V)
  | .timerTick n | .reTick n => l.call (l.subscription._tick n)
  | .processSubscription n =>
    if (l.subscription.state = .LATE || !l.subscription.messageSent) &&
        l.subscription.publishingEnabled then
      l.call (l.subscription.process_subscription n)
    else (l, [])
  | .acknowledge n =>
    let r := l.subscription.acknowledgeNotification n
    ({ l with subscription := r.1 }, [.acknowledged n r.2])
  | .republish n => (l, [.republished n (l.subscription.getMessageForSequenceNumber n)])
  | .applyOnSubscription => l.set l.subscription.resetLifeTimeAndKeepAliveCounters
  | .setPublishingMode publishingEnabled =>
    l.set (l.subscription.setPublishingMode publishingEnabled)
  | .modify param => l.set (l.subscription.modify param)
  | .createMonitoredItem monitoredItemId item =>
    if (l.subscription.monitoredItems.lookup monitoredItemId).isSome then (l, [])
    else
      l.set
        { l.subscription with
            monitoredItems := l.subscription.monitoredItems ++ [(monitoredItemId, item)] }
  | .removeMonitoredItem monitoredItemId =>
    l.set (l.subscription.removeMonitoredItem monitoredItemId).1
  | .monitoredItemChange monitoredItemId item =>
    l.set
      { l.subscription with
          monitoredItems := l.subscription.monitoredItems.map fun e =>
            if e.1 = monitoredItemId then (monitoredItemId, item) else e }
  | .resendInitialValues items =>
    if items.length = l.subscription.monitoredItems.length then
      l.set (l.subscription.resendInitialValues
        ((l.subscription.monitoredItems.map Prod.fst).zip items))
    else (l, [])
  | .transfer session n => if session = l.session then (l, []) else l.transfer session n
  | .transferResult => (l, [.transferResult l.subscription.getAvailableSequenceNumbers])
  | .terminate => l.set l.subscription.terminate
  | .publishClosed _ | .feedTransferred _ | .dispose => (l, [])

/-- **The machine**. -/
def step (l : SubscriptionLife V I) (event : SubscriptionEvent V I) :
    SubscriptionLife V I × List (SubscriptionOutput V) :=
  match event with
  | .feedTransferred session =>
    if session ∈ l.transferred then
      let outcome := l.subscription.publishTransferred
      ({ l with
          subscription := outcome.subscription
          transferred := l.transferred.erase session }, outputs session outcome)
    else (l, [])
  | .publishClosed n =>
    if l.subscription.state = .CLOSED then
      l.call (l.subscription._publish_pending_notifications n)
    else (l, [])
  | .dispose =>
    if l.subscription.state = .CLOSED && !l.subscription.hasPendingNotifications then
      l.set l.subscription.dispose
    else (l, [])
  | event => if l.subscription.state = .CLOSED then (l, []) else l.stepOpen event

/-- **What a step does**: a `TransferredSubscription` publishes; a closed subscription publishes or
is disposed of; an open one reacts; or nothing happens. -/
lemma step_cases (l : SubscriptionLife V I) (event : SubscriptionEvent V I) :
    (∃ sess ∈ l.transferred, event = .feedTransferred sess ∧
      l.step event =
        ({ l with
            subscription := l.subscription.publishTransferred.subscription
            transferred := l.transferred.erase sess },
          outputs sess l.subscription.publishTransferred)) ∨
    (l.subscription.state = .CLOSED ∧ ∃ n, event = .publishClosed n ∧
      l.step event = l.call (l.subscription._publish_pending_notifications n)) ∨
    (l.subscription.state = .CLOSED ∧ l.subscription._pending_notifications = [] ∧
      event = .dispose ∧ l.step event = l.set l.subscription.dispose) ∨
    (l.subscription.state ≠ .CLOSED ∧ l.step event = l.stepOpen event) ∨
    l.step event = (l, []) := by
  by_cases hclo : l.subscription.state = .CLOSED
  · cases event with
    | feedTransferred sess =>
      by_cases hmem : sess ∈ l.transferred
      · exact .inl ⟨sess, hmem, rfl, if_pos hmem⟩
      · exact .inr (.inr (.inr (.inr (if_neg hmem))))
    | publishClosed n => exact .inr (.inl ⟨hclo, n, rfl, if_pos hclo⟩)
    | dispose =>
      by_cases hpend : l.subscription._pending_notifications = []
      · refine .inr (.inr (.inl ⟨hclo, hpend, rfl, if_pos ?_⟩))
        simp [hclo, Subscription.hasPendingNotifications, hpend]
      · refine .inr (.inr (.inr (.inr (if_neg ?_))))
        simp [Subscription.hasPendingNotifications, hpend]
    | _ => exact .inr (.inr (.inr (.inr (if_pos hclo))))
  · cases event with
    | feedTransferred sess =>
      by_cases hmem : sess ∈ l.transferred
      · exact .inl ⟨sess, hmem, rfl, if_pos hmem⟩
      · exact .inr (.inr (.inr (.inr (if_neg hmem))))
    | dispose =>
      refine .inr (.inr (.inr (.inr (if_neg ?_))))
      simp [hclo]
    | publishClosed n => exact .inr (.inr (.inr (.inr (if_neg hclo))))
    | _ => exact .inr (.inr (.inr (.inl ⟨hclo, if_neg hclo⟩)))

end SubscriptionLife

end NodeOpcua
