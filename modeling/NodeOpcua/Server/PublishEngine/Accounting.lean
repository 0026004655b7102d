import NodeOpcua.Library.Ledger
import NodeOpcua.Server.PublishEngine.Basic
import NodeOpcua.Server.Subscription.Delivery

set_option autoImplicit false

/-!
# The accounting of a publish engine

A publish engine keeps a ledger of its requests: each call takes the oldest requests of the queue,
except for those that time out and those that are refused when they arrive.

## Main definitions

* `PublishEngine.ledger`, `PublishEngine.Sound`, `PublishEngine.Goes`.

## Main results

* `PublishEngine._on_PublishRequest_sound`, `tickSubscription_goes`,
  `deleteSubscription_goes`, `closeSession_goes`.
-/

namespace NodeOpcua

variable {V I : Type}

/-! ### What the subscriptions ask of the engine -/

namespace Subscription

/-- **A response needs a request**, and it names the subscription. -/
def Answers (s : Subscription V I) (n : ℕ) (o : Outcome V I) : Prop :=
  o.subscription.id = s.id ∧ ∀ r ∈ o.response, n ≠ 0 ∧ r.subscriptionId = s.id

lemma messagePublished_id (s : Subscription V I) : s.messagePublished.id = s.id := by
  unfold messagePublished
  dsimp only
  split_ifs <;> rfl

variable {s t : Subscription V I}

lemma publish_answers {n : ℕ} (hn : n ≠ 0) (hid : t.id = s.id) (retick : Bool) :
    s.Answers n
      { subscription := t.messagePublished, response := some t.publishResponse, retick } := by
  refine ⟨t.messagePublished_id.trans hid, ?_⟩
  intro r hr
  injection hr with hr
  rw [← hr]
  exact ⟨hn, hid⟩

lemma _process_keepAlive_answers (n : ℕ) (hid : t.id = s.id) :
    s.Answers n (t._process_keepAlive n) := by
  rcases t._process_keepAlive_cases n with ⟨-, h⟩ | ⟨-, hn, -, h⟩ | ⟨-, -, h⟩ <;> rw [h]
  · exact ⟨hid, nofun⟩
  · refine ⟨hid, ?_⟩
    intro r hr
    injection hr with hr
    rw [← hr]
    exact ⟨hn, hid⟩
  · exact ⟨hid, nofun⟩

section MonitoredItems

variable [MonitoredItemInterface V I] {s : Subscription V I}

/-- `process_subscription`. -/
lemma process_subscription_answers {n : ℕ} {o : Outcome V I}
    (h : s.process_subscription n = some o) : s.Answers n o := by
  have hcoll : s.collect.id = s.id := by
    obtain ⟨pending, items, flag, hcoll⟩ := s.collect_eq
    rw [hcoll]
  obtain ⟨hn, ⟨-, rfl⟩ | ⟨-, -, retick, rfl⟩ | ⟨-, -, rfl⟩⟩ := process_subscription_cases h
  · exact _process_keepAlive_answers n rfl
  · exact publish_answers hn hcoll retick
  · exact _process_keepAlive_answers n hcoll

/-- The branches of `_tick` after the life time was checked. -/
lemma tickPublish_answers {n : ℕ} {o : Outcome V I}
    (h : s.tickPublish n = some o) : s.Answers n o := by
  obtain ⟨flag, -, ⟨-, rfl⟩ | ⟨-, h⟩ | ⟨-, -, rfl⟩ | ⟨-, -, rfl⟩⟩ := tickPublish_cases h
  · exact ⟨rfl, nofun⟩
  · exact process_subscription_answers
      (s := { s with _hasUncollectedMonitoredItemNotifications := flag }) h
  · exact _process_keepAlive_answers n rfl
  · exact ⟨rfl, nofun⟩

/-- `process_subscription` succeeds when a request waits. -/
lemma process_subscription_isSome (s : Subscription V I) {n : ℕ} (hn : n ≠ 0) :
    ∃ o, s.process_subscription n = some o := by
  unfold process_subscription
  rw [if_neg hn]
  split_ifs with hen hpend
  · exact ⟨_, rfl⟩
  · rw [_publish_pending_notifications_eq hn (hasPendingNotifications_iff.mp hpend)]
    exact ⟨_, rfl⟩
  · exact ⟨_, rfl⟩

/-- The branches of `_tick` after the life time was checked succeed. -/
lemma tickPublish_isSome (s : Subscription V I) (n : ℕ) : ∃ o, s.tickPublish n = some o := by
  unfold tickPublish
  dsimp only
  split_ifs with hpend hn huncol hn hpos hlate
  · exact ⟨_, rfl⟩
  · exact process_subscription_isSome _ hn
  · exact ⟨_, rfl⟩
  · exact process_subscription_isSome _ hn
  · exact ⟨_, rfl⟩
  · exact ⟨_, rfl⟩
  · exact ⟨_, rfl⟩

/-- **`_tick` of an open subscription**: it is terminated, or it answers and stays open. -/
lemma _tick_spec (hopen : s.state ≠ .CLOSED) (n : ℕ) :
    ∃ o, s._tick n = some o ∧ s.Answers n o ∧
      if o.expired then o.subscription.state = .CLOSED else o.subscription.state ≠ .CLOSED := by
  have hstart : s.tickStart.id = s.id ∧ s.tickStart.state ≠ .CLOSED := by
    rw [tickStart_eq]
    exact ⟨rfl, hopen⟩
  unfold _tick
  rw [if_neg hopen]
  by_cases hexp : s.tickStart.lifeTimeHasExpired = true
  · rw [if_pos hexp]
    refine ⟨_, rfl, ⟨?_, nofun⟩, ?_⟩
    · obtain ⟨pending, items, timerId, state, h⟩ := (s.tickStart._addNotificationMessage
        (.statusChange .BadTimeout) none).terminate_eq
      rw [h]
      exact hstart.1
    · show (Subscription.terminate _).state = .CLOSED
      unfold terminate
      split_ifs with hclo
      · exact hclo
      · rfl
  · rw [if_neg hexp]
    obtain ⟨o, ho⟩ := s.tickStart.tickPublish_isSome n
    obtain ⟨hid, hresp⟩ := tickPublish_answers ho
    rw [hstart.1] at hid hresp
    refine ⟨o, ho, ⟨hid, hresp⟩, ?_⟩
    rw [if_neg (by rw [(tickPublish_answer ho).2]; exact Bool.false_ne_true)]
    exact (tickPublish_goesOn ho).2 hstart.2

end MonitoredItems

end Subscription

/-! ### The ledger -/

namespace PublishEngine

/-- **Out of turn**: a request that has timed out is answered wherever it is in the queue, and one
that is refused for want of a subscription when it arrives. -/
def OutOfTurn (b : PublishAnswer × Bool) : Prop :=
  b.1 = .serviceFault .BadTimeout ∨ b = (.serviceFault .BadNoSubscription, true)

/-- The requests of an engine. -/
def ledger (e : PublishEngine V I) : Ledger (PublishAnswer × Bool) where
  received := e.received
  waiting := e._publish_request_queue.map PublishData.arrival
  answered := e.answered.map fun a => (a.publishData.arrival, (a.answer, a.onArrival))

/-- The history of an engine is one of a ledger. -/
def Accounted (e : PublishEngine V I) : Prop := Ledger.Reachable OutOfTurn e.ledger

lemma Accounted.answer {e e' : PublishEngine V I} (h : e.Accounted) {d : PublishData}
    {queue : List PublishData} (hqueue : e._publish_request_queue = d :: queue)
    (answer : PublishAnswer) (hrecv : e'.received = e.received)
    (hqueue' : e'._publish_request_queue = queue)
    (hansd : e'.answered = e.answered ++ [⟨d, answer, false⟩]) : e'.Accounted := by
  have hledger : e'.ledger =
      { e.ledger with
          waiting := queue.map PublishData.arrival
          answered := e.ledger.answered ++ [(d.arrival, (answer, false))] } := by
    unfold ledger
    rw [hrecv, hqueue', hansd, List.map_append]
    rfl
  unfold Accounted
  rw [hledger]
  refine Relation.ReflTransGen.tail h (.answer _ _ _ _ ?_)
  show e._publish_request_queue.map PublishData.arrival = _
  rw [hqueue]
  rfl

variable {e e' : PublishEngine V I} {d : PublishData}

lemma Accounted.receive (h : e.Accounted)
    (hd : d.arrival = e.received) (hrecv : e'.received = e.received + 1)
    (hqueue : e'._publish_request_queue = e._publish_request_queue ++ [d])
    (hansd : e'.answered = e.answered) : e'.Accounted := by
  have hledger : e'.ledger =
      { e.ledger with
          received := e.ledger.received + 1
          waiting := e.ledger.waiting ++ [e.ledger.received] } := by
    unfold ledger
    rw [hrecv, hqueue, hansd, List.map_append, List.map_singleton, hd]
  unfold Accounted
  rw [hledger]
  exact Relation.ReflTransGen.tail h (.receive _)

lemma Accounted.refuse (h : e.Accounted) (hd : d.arrival = e.received) (answer : PublishAnswer)
    (hturn : e._publish_request_queue = [] ∨ OutOfTurn (answer, true))
    (hrecv : e'.received = e.received + 1)
    (hqueue : e'._publish_request_queue = e._publish_request_queue)
    (hansd : e'.answered = e.answered ++ [⟨d, answer, true⟩]) : e'.Accounted := by
  have hledger : e'.ledger =
      { e.ledger with
          received := e.ledger.received + 1
          answered := e.ledger.answered ++ [(e.ledger.received, (answer, true))] } := by
    unfold ledger
    rw [hrecv, hqueue, hansd, List.map_append, List.map_singleton, hd]
  unfold Accounted
  rw [hledger]
  refine Relation.ReflTransGen.tail h (.refuse _ _ ?_)
  refine hturn.imp_left fun hnone => ?_
  show e._publish_request_queue.map PublishData.arrival = []
  rw [hnone]
  rfl

lemma _send_error_for_requests_eq (e : PublishEngine V I) (reqs : List PublishData)
    (status : StatusCode) :
    e._send_error_for_requests reqs status =
      { e with
          answered := e.answered ++ reqs.map fun d => ⟨d, .serviceFault status, false⟩ } := by
  unfold _send_error_for_requests
  induction reqs generalizing e with
  | nil => rw [List.foldl_nil, List.map_nil, List.append_nil]
  | cons d reqs ih =>
    rw [List.foldl_cons, ih, List.map_cons, List.append_cons]
    rfl

lemma _cancelPendingPublishRequest_eq (e : PublishEngine V I) (status : StatusCode) :
    e._cancelPendingPublishRequest status =
      { e with
          _publish_request_queue := []
          answered := e.answered ++
            e._publish_request_queue.map fun d => ⟨d, .serviceFault status, false⟩ } := by
  unfold _cancelPendingPublishRequest
  rw [_send_error_for_requests_eq]

variable {e : PublishEngine V I}

lemma Accounted.cancel (h : e.Accounted) (status : StatusCode) :
    (e._cancelPendingPublishRequest status).Accounted := by
  have hall := Ledger.Reachable.answerAll e._publish_request_queue
    ((PublishAnswer.serviceFault status, false)) h
  unfold Accounted ledger
  rw [_cancelPendingPublishRequest_eq, List.map_append, List.map_map]
  exact hall

lemma Accounted.on_tick (h : e.Accounted) (now : ℕ) :
    (e._on_tick now).Accounted := by
  have hall := Ledger.Reachable.passAll e._publish_request_queue
    ((PublishAnswer.serviceFault .BadTimeout, false)) (.inl rfl) (timeout_filter now) [] h
  unfold Accounted _on_tick
  rw [_send_error_for_requests_eq]
  unfold ledger
  rw [List.map_append, List.map_map]
  exact hall

/-! ### The invariant -/

/-- The ids of the subscriptions. -/
def ids (e : PublishEngine V I) : List ℕ := e._subscriptions.map Subscription.id

/-- **The invariant**, but for what holds between the calls only: the history is one of a ledger, the
queue is not too long, every closed subscription has something to send, and the others are open. -/
structure Consistent (e : PublishEngine V I) : Prop where
  accounted : e.Accounted
  bound : e._publish_request_queue.length ≤ e.maxPublishRequestInQueue
  pending : ∀ c ∈ e._closed_subscriptions, c.hasPendingNotifications = true ∧ c.id ≠ 0xffffff
  subscriptions : ∀ s ∈ e._subscriptions, s.state ≠ .CLOSED ∧ s.id ≠ 0xffffff
  nodup : e.ids.Nodup
  sessionClosed : e.isSessionClosed = true → e._publish_request_queue = []

/-- **The invariant**: moreover, no request waits while a closed subscription has something to
send. -/
structure Sound (e : PublishEngine V I) : Prop extends Consistent e where
  idle : e._publish_request_queue = [] ∨ e._closed_subscriptions = []

/-- **What a call leaves**: the invariant holds, no subscription is added, and no request has
arrived. -/
structure Follows (e e' : PublishEngine V I) : Prop where
  sound : e'.Sound
  ids : e'.ids.Sublist e.ids
  received : e'.received = e.received
  isSessionClosed : e'.isSessionClosed = e.isSessionClosed

lemma Follows.trans {e₁ e₂ e₃ : PublishEngine V I} (h : e₁.Follows e₂) (h' : e₂.Follows e₃) :
    e₁.Follows e₃ where
  sound := h'.sound
  ids := h'.ids.trans h.ids
  received := h'.received.trans h.received
  isSessionClosed := h'.isSessionClosed.trans h.isSessionClosed

/-- **A call goes well**: no assertion fails. -/
def Goes (e : PublishEngine V I) (o : Option (PublishEngine V I)) : Prop :=
  ∃ e', o = some e' ∧ e.Follows e'

lemma Sound.goes (h : e.Sound) : e.Goes (some e) :=
  ⟨e, rfl, h, List.Sublist.refl _, rfl, rfl⟩

variable {o : Option (PublishEngine V I)}

lemma Follows.goes (h : e.Follows e') (ho : e'.Goes o) : e.Goes o := by
  obtain ⟨e'', rfl, hfol⟩ := ho
  exact ⟨e'', rfl, h.trans hfol⟩

lemma new_sound (maxPublishRequestInQueue : ℕ) :
    (PublishEngine.new (V := V) (I := I) maxPublishRequestInQueue).Sound where
  accounted := Relation.ReflTransGen.refl
  bound := Nat.zero_le _
  pending := List.forall_mem_nil _
  subscriptions := List.forall_mem_nil _
  nodup := List.nodup_nil
  sessionClosed := nofun
  idle := .inl rfl

variable {s : Subscription V I} {subscriptionId : ℕ}

lemma mem_of_getSubscriptionById (h : e.getSubscriptionById subscriptionId = some s) :
    s ∈ e._subscriptions ∧ s.id = subscriptionId := by
  refine ⟨List.mem_of_find?_eq_some h, ?_⟩
  simpa using List.find?_some h

lemma setSubscription_ids (e : PublishEngine V I) (s : Subscription V I) :
    (e.setSubscription s).ids = e.ids := by
  unfold ids setSubscription
  rw [List.map_map]
  apply List.map_congr_left
  intro t _
  show (if t.id = s.id then s else t).id = t.id
  split_ifs with hid
  · exact hid.symm
  · rfl

lemma Sound.setSubscription (h : e.Sound)
    (hopen : s.state ≠ .CLOSED) (hid : s.id ≠ 0xffffff) : (e.setSubscription s).Sound where
  accounted := h.accounted
  bound := h.bound
  pending := h.pending
  subscriptions := by
    intro t ht
    obtain ⟨u, hu, rfl⟩ := List.mem_map.mp ht
    split_ifs
    · exact ⟨hopen, hid⟩
    · exact h.subscriptions u hu
  nodup := by
    rw [setSubscription_ids]
    exact h.nodup
  sessionClosed := h.sessionClosed
  idle := h.idle

lemma Sound.send_response (h : e.Sound) (hqueue : e.pendingPublishRequestCount ≠ 0)
    (hid : subscriptionId ≠ 0xffffff) : e.Goes (e._send_response subscriptionId) := by
  unfold _send_response
  cases hq : e._publish_request_queue with
  | nil => exact absurd (congrArg List.length hq) hqueue
  | cons d queue =>
    dsimp only
    rw [if_neg hid]
    have hbound := h.bound
    rw [hq, List.length_cons] at hbound
    refine ⟨_, rfl, ?_, List.Sublist.refl _, rfl, rfl⟩
    exact
      { h with
        accounted := h.accounted.answer hq _ rfl rfl rfl
        bound := Nat.le_of_succ_le hbound
        sessionClosed := fun hclo => absurd (hq.symm.trans (h.sessionClosed hclo))
          (List.cons_ne_nil _ _)
        idle := .inr (h.idle.resolve_left fun hnone =>
          absurd (hq.symm.trans hnone) (List.cons_ne_nil _ _)) }

/-- **What a call of a subscription does** to the engine. -/
lemma Sound.afterCall (h : e.Sound) {o : Outcome V I} (hid : s.id ≠ 0xffffff)
    (hans : s.Answers e.pendingPublishRequestCount o)
    (hopen : o.subscription.state ≠ .CLOSED) : e.Goes (e.afterCall o) := by
  obtain ⟨hid', hresp⟩ := hans
  have hset : e.Follows (e.setSubscription o.subscription) :=
    ⟨h.setSubscription hopen (hid' ▸ hid),
      (e.setSubscription_ids o.subscription) ▸ List.Sublist.refl _, rfl, rfl⟩
  unfold PublishEngine.afterCall
  cases hr : o.response with
  | none => exact ⟨_, rfl, hset⟩
  | some r =>
    obtain ⟨hqueue, hsub⟩ := hresp r hr
    dsimp only
    rw [hsub]
    exact hset.goes (hset.sound.send_response hqueue hid)

lemma Sound.cancel (h : e.Sound) (status : StatusCode) :
    e.Goes (some (e._cancelPendingPublishRequest status)) := by
  have hacc := h.accounted.cancel status
  rw [_cancelPendingPublishRequest_eq] at hacc ⊢
  refine ⟨_, rfl, ?_, List.Sublist.refl _, rfl, rfl⟩
  exact
    { h with
      accounted := hacc
      bound := Nat.zero_le _
      sessionClosed := fun _ => rfl
      idle := .inl rfl }

lemma Sound.on_tick (h : e.Sound) (now : ℕ) :
    e.Follows (e._on_tick now) := by
  have hacc := h.accounted.on_tick now
  have hle : (e._publish_request_queue.filter fun d => !timeout_filter now d).length ≤
      e._publish_request_queue.length := List.length_filter_le _ _
  have hnone : e._publish_request_queue = [] →
      (e._publish_request_queue.filter fun d => !timeout_filter now d) = [] := by
    intro hnone
    rw [hnone]
    rfl
  unfold _on_tick at hacc ⊢
  rw [_send_error_for_requests_eq] at hacc ⊢
  refine ⟨?_, List.Sublist.refl _, rfl, rfl⟩
  exact
    { h with
      accounted := hacc
      bound := hle.trans h.bound
      sessionClosed := fun hclo => hnone (h.sessionClosed hclo)
      idle := h.idle.imp_left hnone }

/-! ### Closed subscriptions -/

lemma publish_closed {c : ClosedOrTransferred V I} (hpend : c.hasPendingNotifications = true)
    {n : ℕ} (hn : n ≠ 0) :
    ∃ c', c._publish_pending_notifications n = some c' ∧ c'.id = c.id := by
  cases c with
  | closed s =>
    have hne : s._pending_notifications ≠ [] :=
      Subscription.hasPendingNotifications_iff.mp hpend
    refine ⟨.closed s.messagePublished, ?_, s.messagePublished_id⟩
    show (s._publish_pending_notifications n).map _ = _
    rw [Subscription._publish_pending_notifications_eq hn hne]
    rfl
  | transferred id _pending_notification => exact ⟨.transferred id false, if_pos hpend, rfl⟩

/-- **What `#_feed_closed_subscription` does**: nothing, or it answers the first request. -/
lemma _feed_closed_subscription_cases (hpend : ∀ c ∈ e._closed_subscriptions,
      c.hasPendingNotifications = true ∧ c.id ≠ 0xffffff) :
    ((e._publish_request_queue = [] ∨ e._closed_subscriptions = []) ∧
      e._feed_closed_subscription = some (e, false)) ∨
    ∃ d queue answer closed, e._publish_request_queue = d :: queue ∧
      (∀ c ∈ closed, c.hasPendingNotifications = true ∧ c.id ≠ 0xffffff) ∧
      e._feed_closed_subscription = some
        ({ e with
            _publish_request_queue := queue
            _closed_subscriptions := closed
            answered := e.answered ++ [⟨d, answer, false⟩] }, true) := by
  unfold _feed_closed_subscription pendingPublishRequestCount
  cases hqueue : e._publish_request_queue with
  | nil => exact .inl ⟨.inl rfl, if_pos rfl⟩
  | cons d queue =>
    have hn : (d :: queue).length ≠ 0 := Nat.succ_ne_zero _
    cases hclo : e._closed_subscriptions with
    | nil => exact .inl ⟨.inr rfl, rfl⟩
    | cons c rest =>
      rw [hclo] at hpend
      obtain ⟨hc, hid⟩ := hpend c List.mem_cons_self
      obtain ⟨c', hpublish, hid'⟩ := publish_closed hc hn
      have hrest : ∀ c ∈ rest, c.hasPendingNotifications = true ∧ c.id ≠ 0xffffff :=
        fun c hmem => hpend c (List.mem_cons_of_mem _ hmem)
      refine .inr ⟨d, queue, .publishResponse c.id d.results,
        if c'.hasPendingNotifications then c' :: rest else rest, rfl, ?_, ?_⟩
      · split_ifs with hc'
        · exact List.forall_mem_cons.mpr ⟨⟨hc', hid' ▸ hid⟩, hrest⟩
        · exact hrest
      · dsimp only
        rw [if_pos hc, hpublish]
        unfold _send_response
        rw [hqueue]
        dsimp only [Option.bind_some]
        rw [if_neg hid]
        rfl

/-- **The loop over the closed subscriptions** ends, when no request waits or no closed subscription
is left. -/
lemma feedClosedSubscriptions_spec (n : ℕ) (h : e.Consistent)
    (hn : e._publish_request_queue.length ≤ n) :
    ∃ e', feedClosedSubscriptions n e = some e' ∧ e'.Sound ∧
      e'._subscriptions = e._subscriptions ∧ e'.received = e.received ∧
      e'.isSessionClosed = e.isSessionClosed := by
  induction n generalizing e with
  | zero =>
    have hnone : e._publish_request_queue = [] := List.length_eq_zero_iff.mp (Nat.le_zero.mp hn)
    exact ⟨e, rfl, { h with idle := .inl hnone }, rfl, rfl, rfl⟩
  | succ n ih =>
    unfold feedClosedSubscriptions
    rcases _feed_closed_subscription_cases h.pending with ⟨hidle, hfeed⟩ |
      ⟨d, queue, answer, closed, hqueue, hclo, hfeed⟩
    · rw [hfeed]
      exact ⟨e, rfl, { h with idle := hidle }, rfl, rfl, rfl⟩
    · rw [hfeed]
      have hbound := h.bound
      rw [hqueue, List.length_cons] at hn hbound
      refine ih ?_ (Nat.le_of_succ_le_succ hn)
      exact
        { accounted := h.accounted.answer hqueue answer rfl rfl rfl
          bound := Nat.le_of_succ_le hbound
          pending := hclo
          subscriptions := h.subscriptions
          nodup := h.nodup
          sessionClosed := fun hsess =>
            absurd (hqueue.symm.trans (h.sessionClosed hsess)) (List.cons_ne_nil _ _) }

/-- **A subscription is removed**: moreover, the subscription with the id is gone. -/
def Removes (e : PublishEngine V I) (subscriptionId : ℕ) (o : Option (PublishEngine V I)) : Prop :=
  ∃ e', o = some e' ∧ e.Follows e' ∧ subscriptionId ∉ e'.ids

lemma Removes.goes (h : e.Removes subscriptionId o) : e.Goes o := by
  obtain ⟨e', ho, hfol, -⟩ := h
  exact ⟨e', ho, hfol⟩

lemma Removes.bind
    {f : PublishEngine V I → Option (PublishEngine V I)} (h : e.Removes subscriptionId o)
    (hf : ∀ e' : PublishEngine V I, e'.Sound → e'.Goes (f e')) :
    e.Removes subscriptionId (o.bind f) := by
  obtain ⟨e', rfl, hfol, hgone⟩ := h
  obtain ⟨e'', hf, hfol'⟩ := hf e' hfol.sound
  exact ⟨e'', hf, hfol.trans hfol', fun hmem => hgone (hfol'.ids.subset hmem)⟩

lemma Sound.removes_foldlM {γ : Type} (key : γ → ℕ)
    (f : PublishEngine V I → γ → Option (PublishEngine V I)) (cs : List γ)
    (hf : ∀ c ∈ cs, ∀ e : PublishEngine V I, e.Sound → e.Removes (key c) (f e c))
    (h : e.Sound) :
    ∃ e', cs.foldlM f e = some e' ∧ e.Follows e' ∧ ∀ c ∈ cs, key c ∉ e'.ids := by
  induction cs generalizing e with
  | nil => exact ⟨e, rfl, ⟨h, List.Sublist.refl _, rfl, rfl⟩, List.forall_mem_nil _⟩
  | cons c cs ih =>
    obtain ⟨e₁, he₁, hfol₁, hgone₁⟩ := hf c List.mem_cons_self e h
    obtain ⟨e₂, he₂, hfol₂, hgone₂⟩ :=
      ih (fun c hc => hf c (List.mem_cons_of_mem _ hc)) hfol₁.sound
    refine ⟨e₂, ?_, hfol₁.trans hfol₂, ?_⟩
    · rw [List.foldlM_cons, he₁]
      exact he₂
    · refine List.forall_mem_cons.mpr ⟨?_, hgone₂⟩
      exact fun hmem => hgone₁ (hfol₂.ids.subset hmem)

/-- **`on_close_subscription`**. -/
lemma Sound.on_close (h : e.Sound)
    (hid : s.id ≠ 0xffffff) : e.Removes s.id (e.on_close_subscription s) := by
  have hsublist : (e._subscriptions.filter fun t => t.id ≠ s.id).Sublist e._subscriptions :=
    List.filter_sublist
  have hcons : Consistent
      { e with
          _closed_subscriptions :=
            if s.hasPendingNotifications then e._closed_subscriptions ++ [.closed s]
            else e._closed_subscriptions
          _subscriptions := e._subscriptions.filter fun t => t.id ≠ s.id } :=
    { accounted := h.accounted
      bound := h.bound
      pending := by
        split_ifs with hpend
        · refine List.forall_mem_append.mpr ⟨h.pending, ?_⟩
          intro c hc
          rw [List.mem_singleton.mp hc]
          exact ⟨hpend, hid⟩
        · exact h.pending
      subscriptions := fun t ht => h.subscriptions t (hsublist.subset ht)
      nodup := h.nodup.sublist (hsublist.map Subscription.id)
      sessionClosed := h.sessionClosed }
  obtain ⟨e', hloop, hsound, hsubs, hrecv, hsess⟩ :=
    feedClosedSubscriptions_spec _ hcons (Nat.le_refl _)
  have hfol : e.Follows e' := by
    refine ⟨hsound, ?_, hrecv, hsess⟩
    unfold ids
    rw [hsubs]
    exact hsublist.map Subscription.id
  have hgone : s.id ∉ e'.ids := by
    unfold ids
    rw [hsubs]
    intro hmem
    obtain ⟨t, ht, heq⟩ := List.mem_map.mp hmem
    exact of_decide_eq_true (List.mem_filter.mp ht).2 heq
  have hloop' : e.Removes s.id (some e') := ⟨e', rfl, hfol, hgone⟩
  unfold on_close_subscription
  dsimp only [pendingPublishRequestCount]
  rw [hloop]
  refine hloop'.bind fun e'' h'' => ?_
  split_ifs with hnone
  · unfold cancelPendingPublishRequest
    rw [if_pos (of_decide_eq_true (Bool.and_eq_true_iff.mp hnone).1)]
    exact h''.cancel _
  · exact h''.goes

/-! ### The calls -/

lemma Sound.acknowledge (h : e.Sound) (acks : List (ℕ × ℕ)) :
    ∃ subs, (e.process_subscriptionAcknowledgements acks).1 =
        { e with _subscriptions := subs } ∧
      (e.process_subscriptionAcknowledgements acks).1.Sound ∧
      (e.process_subscriptionAcknowledgements acks).1.ids = e.ids := by
  induction acks generalizing e with
  | nil => exact ⟨_, rfl, h, rfl⟩
  | cons ack acks ih =>
    obtain ⟨subId, sequenceNumber⟩ := ack
    unfold process_subscriptionAcknowledgements
    cases hs : e.getSubscriptionById subId with
    | none => exact ih h
    | some s =>
      obtain ⟨hmem, -⟩ := mem_of_getSubscriptionById hs
      obtain ⟨hopen, hid⟩ := h.subscriptions s hmem
      have hkept : (s.acknowledgeNotification sequenceNumber).1.state = s.state ∧
          (s.acknowledgeNotification sequenceNumber).1.id = s.id := by
        unfold Subscription.acknowledgeNotification
        split <;> exact ⟨rfl, rfl⟩
      have hset : (e.setSubscription (s.acknowledgeNotification sequenceNumber).1).Sound :=
        h.setSubscription (hkept.1 ▸ hopen) (hkept.2 ▸ hid)
      obtain ⟨subs, heq, hsound, hids⟩ := ih hset
      exact ⟨subs, heq, hsound, hids.trans (e.setSubscription_ids _)⟩

/-- `#_handle_too_many_requests`, when the queue is too long by one request at most. -/
lemma _handle_too_many_requests_spec (hacc : e.Accounted)
    (hle : e._publish_request_queue.length ≤ e.maxPublishRequestInQueue + 1) :
    ∃ queue answered, e._handle_too_many_requests = some
        { e with _publish_request_queue := queue, answered := answered } ∧
      Accounted { e with _publish_request_queue := queue, answered := answered } ∧
      queue.length ≤ e.maxPublishRequestInQueue ∧
      (e._publish_request_queue = [] → queue = []) := by
  unfold _handle_too_many_requests pendingPublishRequestCount
  by_cases hmany : e._publish_request_queue.length > e.maxPublishRequestInQueue
  · rw [if_pos hmany, if_pos (by omega)]
    cases hqueue : e._publish_request_queue with
    | nil =>
      rw [hqueue] at hmany
      exact absurd hmany (Nat.not_lt_zero _)
    | cons d queue =>
      rw [hqueue, List.length_cons] at hle
      exact ⟨queue, _, rfl, hacc.answer hqueue _ rfl rfl rfl, by omega, nofun⟩
  · rw [if_neg hmany]
    exact ⟨_, _, rfl, hacc, by omega, fun hnone => hnone⟩

section

variable (h : e.Sound)
include h

/-- **A request arrives and waits**, and a closed subscription is served. -/
lemma Sound.receive (hd : d.arrival = e.received) :
    ∃ queue closed answered r,
      { e with
          received := e.received + 1
          _publish_request_queue := e._publish_request_queue ++ [d]
          }._feed_closed_subscription = some
        ({ e with
            received := e.received + 1
            _publish_request_queue := queue
            _closed_subscriptions := closed
            answered := answered }, r) ∧
      Accounted
        { e with
            received := e.received + 1
            _publish_request_queue := queue
            _closed_subscriptions := closed
            answered := answered } ∧
      (∀ c ∈ closed, c.hasPendingNotifications = true ∧ c.id ≠ 0xffffff) ∧
      (queue = [] ∨ closed = []) ∧ queue.length ≤ e.maxPublishRequestInQueue + 1 ∧
      (e._closed_subscriptions ≠ [] → queue = []) := by
  have hacc : Accounted
      { e with
          received := e.received + 1
          _publish_request_queue := e._publish_request_queue ++ [d] } :=
    h.accounted.receive hd rfl rfl rfl
  have hbound := h.bound
  rcases _feed_closed_subscription_cases (e := { e with
      received := e.received + 1
      _publish_request_queue := e._publish_request_queue ++ [d] }) h.pending with
    ⟨hidle, hfeed⟩ | ⟨d', queue, answer, closed, hqueue, hclo, hfeed⟩
  · have hnone : e._closed_subscriptions = [] := hidle.resolve_left
      (List.append_ne_nil_of_right_ne_nil _ (List.cons_ne_nil _ _))
    refine ⟨_, _, _, _, hfeed, hacc, h.pending, .inr hnone, ?_, fun hne => absurd hnone hne⟩
    rw [List.length_append, List.length_singleton]
    exact Nat.succ_le_succ hbound
  · have hempty : e._closed_subscriptions ≠ [] → queue = [] := by
      intro hne
      rw [h.idle.resolve_right hne] at hqueue
      injection hqueue with _ hqueue
      exact hqueue.symm
    have hne : e._closed_subscriptions ≠ [] := by
      intro hnone
      unfold _feed_closed_subscription at hfeed
      rw [hnone] at hfeed
      split_ifs at hfeed
      · injection hfeed with hfeed
        exact absurd (congrArg Prod.snd hfeed) Bool.false_ne_true
      · injection hfeed with hfeed
        exact absurd (congrArg Prod.snd hfeed) Bool.false_ne_true
    refine ⟨_, _, _, _, hfeed, hacc.answer hqueue answer rfl rfl rfl, hclo,
      .inl (hempty hne), ?_, hempty⟩
    rw [hempty hne]
    exact Nat.zero_le _

/-- **`_on_PublishRequest`**. -/
lemma _on_PublishRequest_sound (now : ℕ) (request : PublishRequest) :
    ∃ e', e._on_PublishRequest now request = some e' ∧ e'.Sound ∧ e'.ids = e.ids ∧
      e'.received = e.received + 1 := by
  obtain ⟨subs, hack, hsound, hids⟩ :=
    h.acknowledge request.subscriptionAcknowledgements
  unfold _on_PublishRequest
  dsimp only
  rw [hack] at hsound hids ⊢
  obtain ⟨queue, closed, answered, r, hfeed, hacc, hclo, hidle, hle, hempty⟩ :=
    hsound.receive (d :=
      { request
        serverTimeWhenReceived := now
        results := (e.process_subscriptionAcknowledgements request.subscriptionAcknowledgements).2
        arrival := e.received }) rfl
  split_ifs with hsess hcount hpend hpos
  · refine ⟨_, rfl, ?_, hids, rfl⟩
    exact { hsound with
      accounted := hsound.accounted.refuse rfl _ (.inl (h.sessionClosed hsess)) rfl rfl rfl }
  · -- the queue was empty, so that the request itself is served
    have hne : e._closed_subscriptions ≠ [] := by
      intro hnone
      rw [hnone] at hpend
      exact absurd hpend Bool.false_ne_true
    rw [hfeed]
    refine ⟨_, rfl, ?_, hids, rfl⟩
    exact
      { accounted := hacc
        bound := by
          rw [hempty hne]
          exact Nat.zero_le _
        pending := hclo
        subscriptions := hsound.subscriptions
        nodup := hsound.nodup
        sessionClosed := fun _ => hempty hne
        idle := hidle }
  · refine ⟨_, rfl, ?_, hids, rfl⟩
    exact { hsound with
      accounted := hsound.accounted.refuse rfl _ (.inr (.inr rfl)) rfl rfl rfl }
  · rw [hfeed]
    obtain ⟨queue', answered', hmany, hacc', hle', hnone⟩ :=
      _handle_too_many_requests_spec hacc hle
    rw [Option.bind_some, hmany]
    refine ⟨_, rfl, ?_, hids, rfl⟩
    exact
      { accounted := hacc'
        bound := hle'
        pending := hclo
        subscriptions := hsound.subscriptions
        nodup := hsound.nodup
        sessionClosed := fun hclo => absurd hclo hsess
        idle := hidle.imp_left hnone }
  · refine absurd ?_ hpos
    unfold pendingPublishRequestCount
    rw [List.length_append]
    exact Nat.succ_pos _

/-- `terminate` of an open subscription. -/
lemma Sound.terminate (hopen : s.state ≠ .CLOSED) (hid : s.id ≠ 0xffffff) :
    e.Removes s.id (e.terminateSubscription s) := by
  obtain ⟨pending, items, timerId, state, hterm⟩ := s.terminate_eq
  have hid' : s.terminate.id = s.id := by rw [hterm]
  have hclose := h.on_close (s := s.terminate) (hid' ▸ hid)
  unfold terminateSubscription
  rw [if_neg hopen]
  rwa [hid'] at hclose

/-- **`deleteSubscription`**. -/
lemma Sound.delete (subId : ℕ) :
    e.Removes subId (e.deleteSubscription subId) := by
  unfold deleteSubscription
  split
  next hnone =>
    refine ⟨e, rfl, ⟨h, List.Sublist.refl _, rfl, rfl⟩, fun hmem => ?_⟩
    obtain ⟨s, hs, hid⟩ := List.mem_map.mp hmem
    have hfind := List.find?_eq_none.mp hnone s hs
    exact hfind (decide_eq_true hid)
  next s hs =>
    obtain ⟨hmem, rfl⟩ := mem_of_getSubscriptionById hs
    obtain ⟨hopen, hid⟩ := h.subscriptions s hmem
    rw [if_neg hopen]
    refine (h.terminate hopen hid).bind fun e' h' => ?_
    unfold cancelPendingPublishRequest
    split_ifs
    · exact h'.cancel _
    · exact h'.goes

/-- **`shutdown`** of an engine that no request waits for. -/
lemma Sound.shutdown (hquiet : ∀ e', e.Follows e' → e'._publish_request_queue = []) :
    ∃ e', e.shutdown = some e' ∧ e.Follows e' ∧ e'._subscriptions = [] ∧
      e'._closed_subscriptions = [] := by
  obtain ⟨e', hfold, hfol, hgone⟩ := h.removes_foldlM Subscription.id
    terminateSubscription e._subscriptions fun s hs e' h' =>
      h'.terminate (h.subscriptions s hs).1 (h.subscriptions s hs).2
  have hnone : e'._subscriptions = [] := by
    apply List.eq_nil_iff_forall_not_mem.mpr
    intro s hs
    have hmem : s.id ∈ e'.ids := List.mem_map_of_mem hs
    obtain ⟨t, ht, heq⟩ := List.mem_map.mp (hfol.ids.subset hmem)
    exact hgone t ht (heq ▸ hmem)
  have hcount : e'.subscriptionCount = 0 := congrArg List.length hnone
  have hqueue := hquiet e' hfol
  have hacc := hfol.sound.accounted
  unfold PublishEngine.shutdown
  rw [hfold, Option.bind_some, if_pos hcount]
  refine ⟨_, rfl, ?_, hnone, rfl⟩
  refine ⟨?_, hfol.ids, hfol.received, hfol.isSessionClosed⟩
  exact { hfol.sound with
    accounted := by
      unfold Accounted ledger at hacc ⊢
      rwa [hqueue] at hacc
    bound := Nat.zero_le _
    pending := List.forall_mem_nil _
    sessionClosed := fun _ => rfl
    idle := .inl rfl }

/-- `onSessionClose`. -/
lemma Sound.session_close :
    e.onSessionClose.Sound ∧ e.onSessionClose.received = e.received ∧
      e.onSessionClose.isSessionClosed = true := by
  have hacc := Accounted.cancel (e := { e with isSessionClosed := true }) h.accounted
    .BadSessionClosed
  unfold onSessionClose
  rw [_cancelPendingPublishRequest_eq] at hacc ⊢
  refine ⟨?_, rfl, rfl⟩
  exact
    { h with
      accounted := hacc
      bound := Nat.zero_le _
      sessionClosed := fun _ => rfl
      idle := .inl rfl }

/-- **`close`** of a session. -/
lemma Sound.close :
    ∃ e', e.closeSession = some e' ∧ e'.Sound ∧ e'.ids = [] ∧ e'.received = e.received := by
  obtain ⟨hsound, hrecv, hsess⟩ := h.session_close
  obtain ⟨e₁, hfold, hfol₁, -⟩ := hsound.removes_foldlM (fun id => id)
    deleteSubscription (e._subscriptions.map Subscription.id) fun id _ e' h' =>
      h'.delete id
  obtain ⟨e₂, hshutdown, hfol₂, hnone, hnone'⟩ := hfol₁.sound.shutdown fun e' hfol' =>
    hfol'.sound.sessionClosed
      (hfol'.isSessionClosed.trans (hfol₁.isSessionClosed.trans hsess))
  unfold closeSession
  rw [hfold, Option.bind_some, hshutdown, Option.bind_some]
  refine ⟨e₂, ?_, hfol₂.sound, ?_, ?_⟩
  · apply if_pos
    unfold subscriptionCount
    rw [hnone, hnone']
    rfl
  · unfold ids
    rw [hnone]
    rfl
  · exact hfol₂.received.trans (hfol₁.received.trans hrecv)

end

section MonitoredItems

variable [MonitoredItemInterface V I]

/-- The callback of `#_feed_late_subscription`. -/
lemma Sound.feed_late {e : PublishEngine V I} (h : e.Sound) (choice : ℕ) :
    e.Goes (e._feed_late_subscription choice) := by
  unfold _feed_late_subscription
  split_ifs with hqueue
  · exact h.goes
  · split
    · exact h.goes
    next s hs =>
      have hmem : s ∈ e._subscriptions := List.mem_of_mem_filter (List.mem_of_getElem? hs)
      obtain ⟨hopen, hid⟩ := h.subscriptions s hmem
      obtain ⟨o, ho⟩ := s.process_subscription_isSome hqueue
      rw [ho]
      exact h.afterCall hid (Subscription.process_subscription_answers ho)
        ((Subscription.process_subscription_goesOn ho).2 hopen)

/-- **`_tick`**. -/
lemma Sound.tick {e : PublishEngine V I} (h : e.Sound) (subId now : ℕ) :
    e.Goes (e.tickSubscription subId now) := by
  unfold tickSubscription
  split
  · exact h.goes
  next s hs =>
    obtain ⟨hmem, -⟩ := mem_of_getSubscriptionById hs
    obtain ⟨hopen, hid⟩ := h.subscriptions s hmem
    have htick := h.on_tick now
    rw [if_neg hopen]
    apply htick.goes
    obtain ⟨o, ho, hans, hstate⟩ :=
      Subscription._tick_spec hopen (e._on_tick now).pendingPublishRequestCount
    dsimp only
    rw [ho, Option.bind_some]
    split_ifs at hstate ⊢
    · exact (htick.sound.on_close (hans.1 ▸ hid)).goes
    · exact htick.sound.afterCall hid hans hstate

end MonitoredItems

end PublishEngine

end NodeOpcua
