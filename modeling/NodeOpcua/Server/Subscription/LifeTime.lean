import NodeOpcua.Server.Subscription.Numbering

set_option autoImplicit false

/-!
# The life time of a subscription

The counter of the life time goes up at the ticks that find the subscription late. It is reset by
every message that is sent, so that it stays at zero as long as every such tick can send one: it
needs a Publish request, and a subscription whose publishing is disabled sends no keep-alive message
while notifications are pending.

## Main definitions

* `SubscriptionLife.RequestAvailable`, `SubscriptionLife.LateTickSends`.

## Main results

* `SubscriptionLife.never_expires`, `SubscriptionLife.expires_disabled`.
-/

namespace NodeOpcua

variable {V I : Type}

namespace Subscription

lemma six_le_lifeTimeCount (s : Subscription V I) : 6 ≤ s.lifeTimeCount := by
  have htwo := s.two_le_maxKeepAliveCount
  have hthree := s.three_mul_le_lifeTimeCount
  omega

lemma messagePublished_lifeTime (s : Subscription V I) :
    s.messagePublished._life_time_counter = 0 := by
  unfold messagePublished
  dsimp only
  split_ifs <;> rfl

lemma _process_keepAlive_lifeTime {s : Subscription V I} (n : ℕ)
    (hctr : s._life_time_counter = 0) :
    (s._process_keepAlive n).subscription._life_time_counter = 0 := by
  rcases s._process_keepAlive_cases n with ⟨-, h⟩ | ⟨-, -, -, h⟩ | ⟨-, -, h⟩ <;> rw [h]
  · exact hctr
  · rfl
  · exact hctr

lemma _process_keepAlive_late {s : Subscription V I} {n : ℕ} (hlate : s.state = .LATE)
    (hn : n ≠ 0) (hpend : s._pending_notifications = []) :
    (s._process_keepAlive n).subscription._life_time_counter = 0 := by
  have hexp : s.increaseKeepAliveCounter.keepAliveCounterHasExpired = true := by
    simp [keepAliveCounterHasExpired, increaseKeepAliveCounter, hlate]
  rcases s._process_keepAlive_cases n with ⟨h, -⟩ | ⟨-, -, -, h⟩ | ⟨-, h, -⟩
  · rw [hexp] at h
    cases h
  · rw [h]
    rfl
  · exact absurd h (not_or.mpr ⟨hn, not_not.mpr hpend⟩)

lemma tickStart_eq (s : Subscription V I) :
    s.tickStart =
      { s with
          _sent_notification_messages := s.discardOldSentNotifications._sent_notification_messages
          publishIntervalCount := s.publishIntervalCount + 1
          _life_time_counter :=
            if s.state = .LATE then s._life_time_counter + 1 else s._life_time_counter } := by
  unfold tickStart discardOldSentNotifications
  dsimp only
  split_ifs <;> rfl

lemma tickStart_not_expired (s : Subscription V I) (hctr : s._life_time_counter = 0) :
    ¬ s.tickStart.lifeTimeHasExpired = true := by
  have hsix := s.six_le_lifeTimeCount
  unfold lifeTimeHasExpired
  rw [tickStart_eq]
  simp only [hctr, decide_eq_true_eq, not_le]
  split_ifs <;> omega

section MonitoredItems

variable [MonitoredItemInterface V I] {s : Subscription V I} {o : Outcome V I} {n : ℕ}

/-- `process_subscription` keeps the counter at zero. -/
lemma process_subscription_lifeTime
    (h : s.process_subscription n = some o) (hctr : s._life_time_counter = 0) :
    o.subscription._life_time_counter = 0 := by
  obtain ⟨-, ⟨-, rfl⟩ | ⟨-, -, retick, rfl⟩ | ⟨-, -, rfl⟩⟩ := process_subscription_cases h
  · exact _process_keepAlive_lifeTime n hctr
  · exact messagePublished_lifeTime _
  · obtain ⟨pending, items, flag, hcoll⟩ := s.collect_eq
    rw [hcoll]
    exact _process_keepAlive_lifeTime n hctr

/-- `process_subscription` of a late subscription resets the counter. -/
lemma process_subscription_late (h : s.process_subscription n = some o) (hlate : s.state = .LATE)
    (hsends : s.publishingEnabled = true ∨ s._pending_notifications = []) :
    o.subscription._life_time_counter = 0 := by
  obtain ⟨hn, ⟨hdis, rfl⟩ | ⟨-, -, retick, rfl⟩ | ⟨-, hpend, rfl⟩⟩ :=
    process_subscription_cases h
  · refine _process_keepAlive_late hlate hn (hsends.resolve_left ?_)
    rw [hdis]
    exact Bool.false_ne_true
  · exact messagePublished_lifeTime _
  · obtain ⟨pending, items, flag, hcoll⟩ := s.collect_eq
    rw [hcoll] at hpend ⊢
    exact _process_keepAlive_late hlate hn hpend

lemma tickPublish_lifeTime (h : s.tickPublish n = some o) (hctr : s._life_time_counter = 0) :
    o.subscription._life_time_counter = 0 := by
  obtain ⟨flag, -, ⟨-, rfl⟩ | ⟨-, h⟩ | ⟨-, -, rfl⟩ | ⟨-, -, rfl⟩⟩ :=
    tickPublish_cases h
  · exact hctr
  · exact process_subscription_lifeTime h hctr
  · exact _process_keepAlive_lifeTime n hctr
  · exact hctr

lemma tickPublish_late (h : s.tickPublish n = some o) (hlate : s.state = .LATE) (hn : n ≠ 0)
    (hsends : s.publishingEnabled = true ∨ s._pending_notifications = []) :
    o.subscription._life_time_counter = 0 := by
  obtain ⟨flag, -, ⟨hzero, -⟩ | ⟨-, h⟩ | ⟨hpend, -, rfl⟩ | ⟨hzero, -⟩⟩ :=
    tickPublish_cases h
  · exact absurd hzero hn
  · exact process_subscription_late h hlate hsends
  · exact _process_keepAlive_late hlate hn hpend
  · exact absurd hzero hn

/-- **A tick** that can send a message when the subscription is late keeps the counter at zero, and
the life time does not expire. -/
lemma _tick_lifeTime (h : s._tick n = some o) (hctr : s._life_time_counter = 0)
    (hsends : s.state = .LATE →
      n ≠ 0 ∧ (s.publishingEnabled = true ∨ s._pending_notifications = [])) :
    o.subscription._life_time_counter = 0 ∧ o.expired = false := by
  unfold _tick at h
  split_ifs at h with hclo
  · injection h with h
    subst h
    exact ⟨hctr, rfl⟩
  · dsimp only at h
    rw [if_neg (s.tickStart_not_expired hctr)] at h
    refine ⟨?_, (tickPublish_answer h).2⟩
    rw [tickStart_eq] at h
    by_cases hlate : s.state = .LATE
    · obtain ⟨hn, hsends⟩ := hsends hlate
      exact tickPublish_late h hlate hn hsends
    · exact tickPublish_lifeTime h ((if_neg hlate).trans hctr)

end MonitoredItems

end Subscription

/-! ### Runs -/

namespace SubscriptionLife

variable {l : SubscriptionLife V I}

lemma call_lifeTime {out : Option (Outcome V I)}
    (hctr : l.subscription._life_time_counter = 0)
    (h : ∀ o, out = some o →
      o.subscription._life_time_counter = 0 ∧ o.expired = false) :
    (l.call out).1.subscription._life_time_counter = 0 ∧ .expired ∉ (l.call out).2 := by
  cases out with
  | none => exact ⟨hctr, List.not_mem_nil⟩
  | some o =>
    obtain ⟨ho, hexp⟩ := h o rfl
    rw [call_some, outputs_of_not_expired l.session hexp]
    refine ⟨ho, ?_⟩
    cases o.response <;> simp

variable [MonitoredItemInterface V I]

/-- **A Publish request waits** in the engine at each publishing tick. -/
def RequestAvailable (_ : SubscriptionLife V I) (event : SubscriptionEvent V I) : Prop :=
  ∀ n, event = .timerTick n → n ≠ 0

/-- **A tick of a late subscription sends a message**: a `setImmediate` finds a Publish request too,
and publishing is enabled unless nothing is pending. -/
def LateTickSends (l : SubscriptionLife V I) (event : SubscriptionEvent V I) : Prop :=
  Retransmission.isTick event → l.subscription.state = .LATE →
    (∀ n, event = .reTick n → n ≠ 0) ∧
    (l.subscription.publishingEnabled = true ∨ l.subscription._pending_notifications = [])

/-- The life time does not expire in a run. -/
def NeverExpires (l : SubscriptionLife V I) (events : List (SubscriptionEvent V I)) : Prop :=
  .expired ∉ (Mealy.run step l events).2

variable {event : SubscriptionEvent V I}

section

variable (hctr : l.subscription._life_time_counter = 0) (hreq : l.RequestAvailable event)
  (hsends : l.LateTickSends event)
include hctr hreq hsends

lemma stepOpen_lifeTime :
    (l.stepOpen event).1.subscription._life_time_counter = 0 ∧
      .expired ∉ (l.stepOpen event).2 := by
  have hkept : ∀ subscription : Subscription V I, subscription._life_time_counter = 0 →
      (l.set subscription).1.subscription._life_time_counter = 0 ∧
        .expired ∉ (l.set subscription).2 := fun _ h => ⟨h, List.not_mem_nil⟩
  cases event with
  | timerTick n =>
    refine call_lifeTime hctr fun o ho => Subscription._tick_lifeTime ho hctr fun hlate => ?_
    exact ⟨hreq n rfl, (hsends trivial hlate).2⟩
  | reTick n =>
    refine call_lifeTime hctr fun o ho => Subscription._tick_lifeTime ho hctr fun hlate => ?_
    exact ⟨(hsends trivial hlate).1 n rfl, (hsends trivial hlate).2⟩
  | processSubscription n =>
    unfold stepOpen
    split_ifs
    · refine call_lifeTime hctr fun o ho => ?_
      exact ⟨Subscription.process_subscription_lifeTime ho hctr,
        (Subscription.process_subscription_answer ho).2⟩
    · exact ⟨hctr, List.not_mem_nil⟩
  | acknowledge n =>
    unfold stepOpen Subscription.acknowledgeNotification
    dsimp only
    split <;> simp [hctr]
  | applyOnSubscription | setPublishingMode publishingEnabled | modify param => exact hkept _ rfl
  | createMonitoredItem itemId item =>
    unfold stepOpen
    dsimp only
    split_ifs
    · exact ⟨hctr, List.not_mem_nil⟩
    · exact hkept _ hctr
  | removeMonitoredItem itemId =>
    obtain ⟨pending, items, h⟩ := l.subscription.removeMonitoredItem_eq itemId
    refine hkept _ ?_
    rw [h]
    exact hctr
  | monitoredItemChange itemId item => exact hkept _ hctr
  | resendInitialValues items =>
    unfold stepOpen
    dsimp only
    split_ifs
    · exact hkept _ hctr
    · exact ⟨hctr, List.not_mem_nil⟩
  | transfer sess n =>
    unfold stepOpen
    dsimp only
    split_ifs
    · exact ⟨hctr, List.not_mem_nil⟩
    · have hcall : .expired ∉ (l.call (l.subscription.notifyTransfer n)).2 := by
        rw [Subscription.notifyTransfer_eq, call_some, outputs_of_not_expired]
        · split_ifs <;> simp
        · split_ifs <;> rfl
      exact ⟨rfl, hcall⟩
  | republish n | transferResult => simp [stepOpen, hctr]
  | terminate =>
    obtain ⟨pending, items, timerId, state, h⟩ := l.subscription.terminate_eq
    refine hkept _ ?_
    rw [h]
    exact hctr
  | publishClosed | feedTransferred | dispose => exact ⟨hctr, List.not_mem_nil⟩

lemma step_lifeTime :
    (l.step event).1.subscription._life_time_counter = 0 ∧ .expired ∉ (l.step event).2 := by
  rcases l.step_cases event with ⟨sess, -, -, h⟩ | ⟨-, n, -, h⟩ | ⟨-, -, -, h⟩ | ⟨-, h⟩ | h <;>
    rw [h]
  · refine ⟨hctr, ?_⟩
    simp [outputs, Subscription.publishTransferred]
  · refine call_lifeTime hctr fun o ho => ?_
    obtain ⟨-, -, rfl⟩ := Subscription._publish_pending_notifications_cases ho
    exact ⟨Subscription.messagePublished_lifeTime _, rfl⟩
  · exact ⟨hctr, List.not_mem_nil⟩
  · exact stepOpen_lifeTime hctr hreq hsends
  · exact ⟨hctr, List.not_mem_nil⟩

end

/-- **Life time**. With a Publish request at each publishing tick, and as long as the ticks of the late
subscription send a message, the life time does not expire. -/
theorem never_expires {id priority : ℕ} {parameters : RevisedParameters}
    {publishingEnabled : Bool} {session : ℕ} {events : List (SubscriptionEvent V I)}
    (hrequest : Mealy.Along step RequestAvailable
      (new id priority parameters publishingEnabled session) events)
    (hsends : Mealy.Along step LateTickSends
      (new id priority parameters publishingEnabled session) events) :
    NeverExpires (new id priority parameters publishingEnabled session) events := by
  intro hexp
  refine Mealy.run_output step
    (I := fun l : SubscriptionLife V I => l.subscription._life_time_counter = 0)
    (P := fun output => output ≠ .expired) (fun l event hctr h => ?_)
    (fun l event hctr h output hout heq => ?_) rfl
    ((Mealy.along_and step).mpr ⟨hrequest, hsends⟩) _ hexp rfl
  · exact (step_lifeTime hctr h.1 h.2).1
  · exact (step_lifeTime hctr h.1 h.2).2 (heq ▸ hout)

/-- A subscription that is late finds a Publish request at the next tick. -/
theorem never_expires_late :
    NeverExpires (ofSession 1 2 0)
      [.timerTick 1, .createMonitoredItem 1 (itemWithValues .Reporting [5, 6]), .reTick 0,
        .timerTick 1] :=
  never_expires ⟨by simp [RequestAvailable], nofun, nofun, by simp [RequestAvailable], trivial⟩
    ⟨fun _ hlate => absurd hlate (by decide +kernel), nofun,
      fun _ hlate => absurd hlate (by decide +kernel),
      fun _ _ => ⟨nofun, .inl (by decide +kernel)⟩, trivial⟩

/-- **The life time of a disabled subscription expires** when a notification is pending: no
keep-alive message is sent, though there is a Publish request at each tick. -/
theorem expires_disabled :
    ¬ ∀ (id priority : ℕ) (parameters : RevisedParameters) (publishingEnabled : Bool) (session : ℕ)
      (events : List (SubscriptionEvent ScalarVariant (MonitoredItem ScalarVariant))),
      Mealy.Along step RequestAvailable
        (new id priority parameters publishingEnabled session) events →
      NeverExpires (new id priority parameters publishingEnabled session) events := by
  intro h
  refine h 1 0 (.adjust none 2 0 1) true 1
    ([.createMonitoredItem 1 (itemWithValues .Reporting [5, 6]), .timerTick 1,
      .setPublishingMode false] ++ List.replicate 10 (.timerTick 1)) ?_ ?_
  · refine Mealy.along_of_forall step fun l event hevent n hn => ?_
    subst hn
    simp at hevent
    omega
  · decide +kernel

end SubscriptionLife

end NodeOpcua
