import NodeOpcua.Server.PublishEngine.Accounting

set_option autoImplicit false

/-!
# The publish engines of a server

Every session of a server has a publish engine, and the subscriptions of closed sessions are in one
for orphans. Subscriptions are created, transferred and deleted, and Publish requests come in.

## Main definitions

* `PublishEngines`.
* `PublishEngines.step`.

## Design

The callbacks of `setImmediate` and of the timers are events that may come at any time. After the
`await` of the initial values `transferSubscription` makes its last assertions, and other events may
come before that; a failure of these assertions is told from the others.
-/

namespace NodeOpcua

open SubscriptionLife (stepOpen)
open SubscriptionState (noConfusion)

variable {V I : Type}

/-- The events of a subscription that do not concern the publish engine. -/
def SubscriptionEvent.isLocal : SubscriptionEvent V I → Bool
  | .republish _ | .applyOnSubscription | .setPublishingMode _ | .modify _ => true
  | .createMonitoredItem _ _ | .removeMonitoredItem _ | .monitoredItemChange _ _ => true
  | _ => false

/-- **The publish engines of a server**: the one for orphans, then one for each session. -/
structure PublishEngines (V I : Type) where
  engines : List (PublishEngine V I)
  next_subscriptionId : ℕ
  /-- The subscription, the source and the destination of each transfer that waits for the initial
  values. -/
  transfers : List (ℕ × ℕ × ℕ)

/-- The failure of an assertion. -/
inductive AssertionFailure
  | publishEngine
  /-- After `resendInitialValues` in `transferSubscription`. -/
  | transferSubscription
  deriving DecidableEq, Repr

/-- What happens to the engines. -/
inductive PublishEvent (V I : Type)
  | createSession (maxPublishRequestInQueue : ℕ)
  | createSubscription (session priority : ℕ) (parameters : RevisedParameters)
    (publishingEnabled : Bool)
  | publishRequest (session now : ℕ) (request : PublishRequest)
  /-- A callback of `#_feed_late_subscription`. -/
  | feedLate (session choice : ℕ)
  /-- The timer of a subscription, or a callback of `process_subscription`. -/
  | tick (session subscriptionId now : ℕ)
  | subscriptionEvent (session subscriptionId : ℕ) (event : SubscriptionEvent V I)
  | deleteSubscription (session subscriptionId : ℕ)
  | deleteOrphanSubscription (subscriptionId : ℕ)
  | transferSubscription (subscriptionId source session : ℕ) (sendInitialValues : Bool)
  /-- A transfer goes on, with the monitored items that have their initial values. -/
  | resendInitialValues (transfer : ℕ) (items : List I)
  /-- The session moves to another channel. -/
  | channelChange (session : ℕ)
  | closeSession (session : ℕ) (deleteSubscriptions : Bool)
  /-- The engine for orphans is shut down. -/
  | shutdown

namespace PublishEngine

/-- `notifyTransfer`, for the engine: the status change is published, or kept for a later request. -/
def notifyTransfer (e : PublishEngine V I) (subscription : Subscription V I) :
    Option (PublishEngine V I × Subscription V I) :=
  (subscription.notifyTransfer e.pendingPublishRequestCount).bind fun outcome =>
    (if e.pendingPublishRequestCount = 0 then
      some { e with
        _closed_subscriptions := e._closed_subscriptions ++ [.transferred subscription.id true] }
    else e.afterCall outcome).map fun e => (e, outcome.subscription)

variable [MonitoredItemInterface V I]

/-- An event of a subscription that does not concern the engine. -/
def changeSubscription (e : PublishEngine V I) (subscriptionId : ℕ)
    (event : SubscriptionEvent V I) : PublishEngine V I :=
  match e.getSubscriptionById subscriptionId with
  | none => e
  | some s =>
    if s.state = .CLOSED || !event.isLocal then e
    else
      let l : SubscriptionLife V I := { subscription := s, session := 0, transferred := [] }
      e.setSubscription (l.stepOpen event).1.subscription

/-- `resendInitialValues`, of the subscription with the id wherever it is. -/
def resendInitialValues (e : PublishEngine V I) (subscriptionId : ℕ) (items : List I) :
    PublishEngine V I :=
  let resend (s : Subscription V I) : Subscription V I :=
    if s.id = subscriptionId && items.length = s.monitoredItems.length then
      s.resendInitialValues ((s.monitoredItems.map Prod.fst).zip items)
    else s
  { e with
      _subscriptions := e._subscriptions.map resend
      _closed_subscriptions := e._closed_subscriptions.map fun c =>
        match c with
        | .closed s => .closed (resend s)
        | .transferred id _pending_notification => .transferred id _pending_notification }

end PublishEngine

namespace PublishEngines

/-- A server without sessions. -/
def new (next_subscriptionId : ℕ) : PublishEngines V I where
  engines := [PublishEngine.new 0]
  next_subscriptionId := next_subscriptionId
  transfers := []

/-- The engine of a session. -/
def session? (p : PublishEngines V I) (session : ℕ) : Option (PublishEngine V I) :=
  if session = 0 then none else p.engines[session]?

/-- The engine of a session that is not closed. -/
def openSession? (p : PublishEngines V I) (session : ℕ) : Option (PublishEngine V I) :=
  (p.session? session).filter fun e => !e.isSessionClosed

/-- The engine has the subscription. -/
def has (p : PublishEngines V I) (i subscriptionId : ℕ) : Bool :=
  (p.engines[i]?.bind fun e => e.getSubscriptionById subscriptionId).isSome

/-- An engine is replaced. -/
def set (p : PublishEngines V I) (i : ℕ) (e : PublishEngine V I) : PublishEngines V I :=
  { p with engines := p.engines.set i e }

/-- An engine is called. -/
def call (p : PublishEngines V I) (i : ℕ) (engine : Option (PublishEngine V I))
    (f : PublishEngine V I → Option (PublishEngine V I)) : Option (PublishEngines V I) :=
  match engine with
  | none => some p
  | some e => (f e).map (p.set i)

/-- **`transferSubscription`**, up to the initial values. -/
def transferSubscription (p : PublishEngines V I) (source session subscriptionId : ℕ) :
    Option (PublishEngines V I) :=
  match p.engines[source]?, p.engines[session]? with
  | some srcPublishEngine, some destPublishEngine =>
    match srcPublishEngine.getSubscriptionById subscriptionId with
    | none => some p
    | some subscription =>
      if source = session then some p
      else if (destPublishEngine.getSubscriptionById subscriptionId).isSome then none
      else
        (srcPublishEngine.notifyTransfer subscription).bind fun notified =>
          (notified.1.detach_subscription subscriptionId).bind fun srcPublishEngine =>
            ((destPublishEngine._purge_dangling_subscription subscriptionId).add_subscription
              notified.2.resetLifeTimeCounter).map fun destPublishEngine =>
                (p.set source srcPublishEngine).set session destPublishEngine
  | _, _ => some p

/-- `transferSubscriptionsToOrphan`. -/
def transferSubscriptionsToOrphan (p : PublishEngines V I) (session : ℕ)
    (srcPublishEngine : PublishEngine V I) : Option (PublishEngines V I) :=
  (srcPublishEngine.ids.foldlM (fun (p : PublishEngines V I) subscriptionId =>
      p.transferSubscription session 0 subscriptionId) p).bind fun p =>
    if (p.engines[session]?.map PublishEngine.subscriptionCount) = some 0 then some p else none

variable [MonitoredItemInterface V I]

/-- What an event does, but for `resendInitialValues`. -/
def react (p : PublishEngines V I) : PublishEvent V I → Option (PublishEngines V I)
  | .createSession maxPublishRequestInQueue =>
    some { p with engines := p.engines ++ [PublishEngine.new maxPublishRequestInQueue] }
  | .createSubscription session priority parameters publishingEnabled =>
    match p.openSession? session with
    | none => some p
    | some e =>
      (e.add_subscription
        (Subscription.new p.next_subscriptionId priority parameters publishingEnabled)).map fun e =>
          { p with next_subscriptionId := p.next_subscriptionId + 1 }.set session e
  | .publishRequest session now request =>
    p.call session (p.session? session) fun e => e._on_PublishRequest now request
  | .feedLate session choice =>
    p.call session (p.session? session) fun e => e._feed_late_subscription choice
  | .tick session subscriptionId now =>
    p.call session p.engines[session]? fun e => e.tickSubscription subscriptionId now
  | .subscriptionEvent session subscriptionId event =>
    p.call session p.engines[session]? fun e => some (e.changeSubscription subscriptionId event)
  | .deleteSubscription session subscriptionId =>
    p.call session (p.openSession? session) fun e => e.deleteSubscription subscriptionId
  | .deleteOrphanSubscription subscriptionId =>
    p.call 0 p.engines[0]? fun e =>
      match e.getSubscriptionById subscriptionId with
      | none => some e
      | some s => e.terminateSubscription s
  | .transferSubscription subscriptionId source session sendInitialValues =>
    match p.openSession? session with
    | none => some p
    | some _ =>
      (p.transferSubscription source session subscriptionId).map fun p' =>
        if sendInitialValues && source ≠ session && p.has source subscriptionId then
          { p' with transfers := p'.transfers ++ [(subscriptionId, source, session)] }
        else p'
  | .resendInitialValues _ _ => some p
  | .channelChange session =>
    p.call session (p.openSession? session) fun e =>
      some e.cancelPendingPublishRequestBeforeChannelChange
  | .closeSession session deleteSubscriptions =>
    match p.openSession? session with
    | none => some p
    | some e =>
      (if deleteSubscriptions then some p
      else p.transferSubscriptionsToOrphan session e).bind fun p =>
        p.call session p.engines[session]? PublishEngine.closeSession
  | .shutdown => p.call 0 p.engines[0]? PublishEngine.shutdown

/-- **The machine**. A call with an assertion that fails changes nothing. -/
def step (p : PublishEngines V I) (event : PublishEvent V I) :
    PublishEngines V I × List AssertionFailure :=
  match event with
  | .resendInitialValues transfer items =>
    match p.transfers[transfer]? with
    | none => (p, [])
    | some (subscriptionId, source, session) =>
      let p :=
        { p with
            engines := p.engines.map fun e => e.resendInitialValues subscriptionId items
            transfers := p.transfers.eraseIdx transfer }
      (p, if p.has session subscriptionId && !p.has source subscriptionId then []
        else [.transferSubscription])
  | event =>
    match p.react event with
    | none => (p, [.publishEngine])
    | some p => (p, [])

end PublishEngines

/-! ### The calls for the sessions -/

namespace PublishEngine

variable {e : PublishEngine V I}

lemma getSubscriptionById_isSome {subscriptionId : ℕ} :
    (e.getSubscriptionById subscriptionId).isSome = true ↔ subscriptionId ∈ e.ids := by
  unfold getSubscriptionById ids
  simp

lemma afterCall_ids {e e' : PublishEngine V I} {o : Outcome V I} (h : e.afterCall o = some e') :
    e'.ids = e.ids := by
  unfold afterCall at h
  split at h
  · injection h with h
    rw [← h, setSubscription_ids]
  · unfold _send_response at h
    split at h
    · cases h
    · split_ifs at h
      injection h with h
      rw [← h]
      exact e.setSubscription_ids _

/-- **`notifyTransfer`**. -/
lemma Sound.notifyTransfer (h : e.Sound) {s : Subscription V I} (hs : s ∈ e._subscriptions) :
    ∃ e' s', e.notifyTransfer s = some (e', s') ∧ e.Follows e' ∧ e'.ids = e.ids ∧ s'.id = s.id ∧
      s'.state ≠ .CLOSED := by
  obtain ⟨hopen, hid⟩ := h.subscriptions s hs
  unfold PublishEngine.notifyTransfer
  rw [Subscription.notifyTransfer_eq, Option.bind_some]
  by_cases hn : e.pendingPublishRequestCount = 0
  · rw [if_pos hn, if_pos hn]
    refine ⟨_, s, rfl, ⟨?_, List.Sublist.refl _, rfl, rfl⟩, rfl, rfl, hopen⟩
    exact { h with
      pending := by
        refine List.forall_mem_append.mpr ⟨h.pending, ?_⟩
        intro c hc
        rw [List.mem_singleton.mp hc]
        exact ⟨rfl, hid⟩
      idle := .inl (List.length_eq_zero_iff.mp hn) }
  · rw [if_neg hn, if_neg hn]
    have hpub := (s._addNotificationMessage (.statusChange .GoodSubscriptionTransferred)
      none).messagePublished_goesOn.2 hopen
    have hid' := (s._addNotificationMessage (.statusChange .GoodSubscriptionTransferred)
      none).messagePublished_id
    obtain ⟨e', he', hfol⟩ := h.afterCall hid
      (Subscription.publish_answers (t := s._addNotificationMessage
        (.statusChange .GoodSubscriptionTransferred) none) hn rfl false) hpub
    rw [he']
    exact ⟨e', _, rfl, hfol, afterCall_ids he', hid', hpub⟩

/-- `detach_subscription`. -/
lemma Sound.detach (h : e.Sound) {subscriptionId : ℕ} (hmem : subscriptionId ∈ e.ids) :
    e.Removes subscriptionId (e.detach_subscription subscriptionId) := by
  have hsublist : (e._subscriptions.filter fun t => t.id ≠ subscriptionId).Sublist
      e._subscriptions := List.filter_sublist
  refine ⟨_, if_pos (getSubscriptionById_isSome.mpr hmem), ⟨?_, ?_, rfl, rfl⟩, ?_⟩
  · exact { h with
      subscriptions := fun t ht => h.subscriptions t (hsublist.subset ht)
      nodup := h.nodup.sublist (hsublist.map Subscription.id) }
  · exact hsublist.map Subscription.id
  · intro hmem'
    obtain ⟨t, ht, heq⟩ := List.mem_map.mp hmem'
    exact of_decide_eq_true (List.mem_filter.mp ht).2 heq

/-- **`add_subscription`**. -/
lemma Sound.add {e : PublishEngine V I} (h : e.Sound) {s : Subscription V I} (hnew : s.id ∉ e.ids)
    (hopen : s.state ≠ .CLOSED) (hid : s.id ≠ 0xffffff) :
    ∃ e', e.add_subscription s = some e' ∧ e'.Sound ∧ e'.received = e.received ∧
      ∀ id ∈ e'.ids, id = s.id ∨ id ∈ e.ids := by
  have hperm : (e._subscriptions.orderedInsert (fun s t => s.id ≤ t.id) s).Perm
      (s :: e._subscriptions) := List.perm_orderedInsert _ _ _
  refine ⟨_, if_neg fun hmem => hnew (getSubscriptionById_isSome.mp hmem), ?_, rfl, ?_⟩
  · exact { h with
      subscriptions := by
        intro t ht
        rcases List.mem_cons.mp (hperm.mem_iff.mp ht) with rfl | ht
        · exact ⟨hopen, hid⟩
        · exact h.subscriptions t ht
      nodup := by
        apply (hperm.map Subscription.id).nodup_iff.mpr
        exact List.nodup_cons.mpr ⟨hnew, h.nodup⟩ }
  · intro id hmem
    exact List.mem_cons.mp ((hperm.map Subscription.id).mem_iff.mp hmem)

/-- `_purge_dangling_subscription`. -/
lemma Sound.purge (h : e.Sound) (subscriptionId : ℕ) :
    (e._purge_dangling_subscription subscriptionId).Sound :=
  { h with
    pending := fun c hc => h.pending c (List.mem_of_mem_filter hc)
    idle := h.idle.imp_right fun hnone => by
      unfold _purge_dangling_subscription
      rw [hnone]
      rfl }

variable [MonitoredItemInterface V I]

lemma Sound.change (h : e.Sound) (subscriptionId : ℕ)
    (event : SubscriptionEvent V I) : e.Follows (e.changeSubscription subscriptionId event) := by
  unfold changeSubscription
  split
  · exact ⟨h, List.Sublist.refl _, rfl, rfl⟩
  next s hs =>
    obtain ⟨hmem, -⟩ := mem_of_getSubscriptionById hs
    obtain ⟨hopen, hid⟩ := h.subscriptions s hmem
    split_ifs with hlocal
    · exact ⟨h, List.Sublist.refl _, rfl, rfl⟩
    · have hkept : ((({ subscription := s, session := 0, transferred := [] } :
          SubscriptionLife V I).stepOpen event).1.subscription.state ≠ .CLOSED) ∧
          (({ subscription := s, session := 0, transferred := [] } :
          SubscriptionLife V I).stepOpen event).1.subscription.id = s.id := by
        cases event with
        | setPublishingMode publishingEnabled =>
          refine ⟨?_, rfl⟩
          unfold stepOpen SubscriptionLife.set Subscription.setPublishingMode
          dsimp only
          split_ifs
          · exact noConfusion
          · exact hopen
        | createMonitoredItem itemId item =>
          unfold stepOpen
          dsimp only
          split_ifs
          · exact ⟨hopen, rfl⟩
          · exact ⟨hopen, rfl⟩
        | removeMonitoredItem itemId =>
          obtain ⟨pending, items, hrm⟩ := s.removeMonitoredItem_eq itemId
          unfold stepOpen SubscriptionLife.set
          dsimp only
          rw [hrm]
          exact ⟨hopen, rfl⟩
        | republish | applyOnSubscription | modify | monitoredItemChange => exact ⟨hopen, rfl⟩
        | _ => exact absurd (Bool.or_true _) hlocal
      refine ⟨h.setSubscription hkept.1 (hkept.2 ▸ hid), ?_, rfl, rfl⟩
      exact (e.setSubscription_ids _) ▸ List.Sublist.refl _

/-- `resendInitialValues`. -/
lemma Sound.resend (h : e.Sound) (subscriptionId : ℕ) (items : List I) :
    e.Follows (e.resendInitialValues subscriptionId items) := by
  have hkept : ∀ s : Subscription V I,
      let t := if s.id = subscriptionId && items.length = s.monitoredItems.length then
        s.resendInitialValues ((s.monitoredItems.map Prod.fst).zip items) else s
      t.id = s.id ∧ (s.state ≠ .CLOSED → t.state ≠ .CLOSED) ∧
        (s.hasPendingNotifications = true → t.hasPendingNotifications = true) := by
    intro s
    split_ifs
    · refine ⟨rfl, fun _ => noConfusion, fun hpend => ?_⟩
      rw [Subscription.hasPendingNotifications_iff] at hpend ⊢
      exact List.append_ne_nil_of_left_ne_nil hpend _
    · exact ⟨rfl, fun hopen => hopen, fun hpend => hpend⟩
  have hids : (e.resendInitialValues subscriptionId items).ids = e.ids := by
    unfold ids PublishEngine.resendInitialValues
    rw [List.map_map]
    exact List.map_congr_left fun s _ => (hkept s).1
  refine ⟨?_, hids ▸ List.Sublist.refl _, rfl, rfl⟩
  exact { h with
    pending := by
      intro c hc
      obtain ⟨d, hd, rfl⟩ := List.mem_map.mp hc
      obtain ⟨hpend, hid⟩ := h.pending d hd
      cases d with
      | closed s => exact ⟨(hkept s).2.2 hpend, fun heq => hid ((hkept s).1.symm.trans heq)⟩
      | transferred id _pending_notification => exact ⟨hpend, hid⟩
    subscriptions := by
      intro t ht
      obtain ⟨s, hs, rfl⟩ := List.mem_map.mp ht
      obtain ⟨hopen, hid⟩ := h.subscriptions s hs
      exact ⟨(hkept s).2.1 hopen, fun heq => hid ((hkept s).1.symm.trans heq)⟩
    nodup := by
      rw [hids]
      exact h.nodup
    idle := h.idle.imp_right fun hnone => by
      unfold PublishEngine.resendInitialValues
      rw [hnone]
      rfl }

end PublishEngine

/-! ### The invariant -/

namespace PublishEngines

/-- **The invariant of a server**: it holds of every engine, no request has come to the engine for
orphans, and every subscription is in one engine, with an id that was given out. -/
structure Sound (p : PublishEngines V I) : Prop where
  engines : ∀ (i : ℕ) (e : PublishEngine V I), p.engines[i]? = some e → e.Sound
  orphan : ∃ e, p.engines[0]? = some e ∧ e.received = 0
  disjoint : ∀ (i j : ℕ) (e d : PublishEngine V I), p.engines[i]? = some e →
    p.engines[j]? = some d → ∀ id ∈ e.ids, id ∈ d.ids → i = j
  fresh : ∀ (i : ℕ) (e : PublishEngine V I), p.engines[i]? = some e →
    ∀ id ∈ e.ids, id < p.next_subscriptionId

variable {p : PublishEngines V I} {e e' : PublishEngine V I}

/-- **An engine is replaced** by one that has its subscriptions at most, or one that no engine
has. -/
lemma Sound.set (h : p.Sound) {i : ℕ}
    (hi : p.engines[i]? = some e) (hsound : e'.Sound) (hrecv : i = 0 → e'.received = e.received)
    (hids : ∀ id ∈ e'.ids, id ∈ e.ids ∨ id < p.next_subscriptionId ∧
      ∀ (j : ℕ) (d : PublishEngine V I), p.engines[j]? = some d → id ∉ d.ids) :
    (p.set i e').Sound := by
  obtain ⟨hlt, -⟩ := List.getElem?_eq_some_iff.mp hi
  have hget : ∀ (j : ℕ) (d : PublishEngine V I), (p.set i e').engines[j]? = some d →
      j = i ∧ d = e' ∨ j ≠ i ∧ p.engines[j]? = some d := by
    intro j d hj
    by_cases hji : j = i
    · subst hji
      rw [PublishEngines.set, List.getElem?_set_self hlt] at hj
      injection hj with hj
      exact .inl ⟨rfl, hj.symm⟩
    · rw [PublishEngines.set, List.getElem?_set_ne (Ne.symm hji)] at hj
      exact .inr ⟨hji, hj⟩
  have hout : ∀ (j : ℕ) (d : PublishEngine V I), j ≠ i → p.engines[j]? = some d →
      ∀ id ∈ e'.ids, id ∉ d.ids := by
    intro j d hji hj id hid hmem
    rcases hids id hid with hold | ⟨-, hnone⟩
    · exact hji (h.disjoint j i d e hj hi id hmem hold)
    · exact hnone j d hj hmem
  refine ⟨?_, ?_, ?_, ?_⟩
  · intro j d hj
    rcases hget j d hj with ⟨-, rfl⟩ | ⟨-, hj⟩
    · exact hsound
    · exact h.engines j d hj
  · obtain ⟨d, hd, hzero⟩ := h.orphan
    by_cases h0 : 0 = i
    · subst h0
      refine ⟨e', List.getElem?_set_self hlt, ?_⟩
      rw [hi] at hd
      injection hd with hd
      rw [hrecv rfl, hd, hzero]
    · exact ⟨d, (List.getElem?_set_ne (Ne.symm h0)).trans hd, hzero⟩
  · intro j k d d' hj hk id hd hd'
    rcases hget j d hj with ⟨rfl, rfl⟩ | ⟨hji, hj'⟩
    · rcases hget k d' hk with ⟨rfl, -⟩ | ⟨hki, hk'⟩
      · rfl
      · exact absurd hd' (hout k d' hki hk' id hd)
    · rcases hget k d' hk with ⟨rfl, rfl⟩ | ⟨-, hk'⟩
      · exact absurd hd (hout j d hji hj' id hd')
      · exact h.disjoint j k d d' hj' hk' id hd hd'
  · intro j d hj id hid
    rcases hget j d hj with ⟨-, rfl⟩ | ⟨-, hj⟩
    · rcases hids id hid with hold | ⟨hlt, -⟩
      · exact h.fresh i e hi id hold
      · exact hlt
    · exact h.fresh j d hj id hid

lemma Sound.follows (h : p.Sound) {i : ℕ}
    (hi : p.engines[i]? = some e) (hfol : e.Follows e') : (p.set i e').Sound :=
  h.set hi hfol.sound (fun _ => hfol.received) fun _ hid =>
    Or.inl (hfol.ids.subset hid)

lemma Sound.call {p : PublishEngines V I} (h : p.Sound) {i : ℕ} {engine : Option (PublishEngine V I)}
    (hi : ∀ e, engine = some e → p.engines[i]? = some e)
    {f : PublishEngine V I → Option (PublishEngine V I)}
    (hf : ∀ e : PublishEngine V I, p.engines[i]? = some e → e.Sound → e.Goes (f e)) :
    ∃ p', p.call i engine f = some p' ∧ p'.Sound := by
  unfold PublishEngines.call
  cases he : engine with
  | none => exact ⟨p, rfl, h⟩
  | some e =>
    obtain ⟨e', hf, hfol⟩ := hf e (hi e he) (h.engines i e (hi e he))
    dsimp only
    rw [hf]
    exact ⟨p.set i e', rfl, h.follows (hi e he) hfol⟩

variable {e : PublishEngine V I} {session : ℕ}

lemma engine_of_session
    (h : p.session? session = some e) : session ≠ 0 ∧ p.engines[session]? = some e := by
  unfold session? at h
  split_ifs at h with hzero
  exact ⟨hzero, h⟩

lemma engine_of_openSession
    (h : p.openSession? session = some e) : session ≠ 0 ∧ p.engines[session]? = some e :=
  engine_of_session (Option.filter_eq_some_iff.mp h).1

/-- **A transfer**: the source loses the subscription, and no other one. -/
lemma Sound.transfer (h : p.Sound) {source sess : ℕ}
    {e d : PublishEngine V I} (he : p.engines[source]? = some e)
    (hd : p.engines[sess]? = some d) (hne : source ≠ sess) (subscriptionId : ℕ) :
    ∃ p' e', p.transferSubscription source sess subscriptionId = some p' ∧ p'.Sound ∧
      p'.engines[source]? = some e' ∧ e'.ids.Sublist e.ids ∧ subscriptionId ∉ e'.ids := by
  unfold transferSubscription
  rw [he, hd]
  dsimp only
  split
  next hnone =>
    refine ⟨p, e, rfl, h, he, List.Sublist.refl _, fun hmem => ?_⟩
    rw [← PublishEngine.getSubscriptionById_isSome, hnone] at hmem
    exact Bool.false_ne_true hmem
  next s hs =>
    obtain ⟨hmem, hid⟩ := PublishEngine.mem_of_getSubscriptionById hs
    have hsound := h.engines source e he
    have hids : subscriptionId ∈ e.ids := hid ▸ List.mem_map_of_mem hmem
    have hnew : subscriptionId ∉ d.ids := fun hmem' =>
      hne (h.disjoint source sess e d he hd _ hids hmem')
    rw [if_neg hne, if_neg fun hhas => hnew (PublishEngine.getSubscriptionById_isSome.mp hhas)]
    obtain ⟨e₁, s₁, hnotify, hfol₁, hids₁, hid₁, hopen₁⟩ := hsound.notifyTransfer hmem
    obtain ⟨e₂, hdetach, hfol₂, hgone⟩ := hfol₁.sound.detach (hids₁ ▸ hids)
    have hadd := ((h.engines sess d hd).purge subscriptionId).add
      (s := s₁.resetLifeTimeCounter) (fun hmem' => hnew (hid ▸ hid₁ ▸ hmem')) hopen₁
      (hid₁ ▸ (hsound.subscriptions s hmem).2)
    obtain ⟨d₁, hadd, hsound₁, hrecv₁, hids₁'⟩ := hadd
    obtain ⟨hlt, -⟩ := List.getElem?_eq_some_iff.mp he
    have hother : (p.set source e₂).engines[sess]? = some d :=
      (List.getElem?_set_ne hne).trans hd
    have hsrc : (p.set source e₂).engines[source]? = some e₂ := List.getElem?_set_self hlt
    rw [hnotify, Option.bind_some]
    rw [hdetach, Option.bind_some, hadd]
    refine ⟨_, e₂, rfl, ?_, ?_, hfol₂.ids.trans hfol₁.ids, hgone⟩
    · refine (h.follows he (hfol₁.trans hfol₂)).set hother hsound₁ (fun _ => hrecv₁) ?_
      intro id hmem'
      rcases hids₁' id hmem' with rfl | hmem'
      · have hid' : s₁.resetLifeTimeCounter.id = subscriptionId := hid₁.trans hid
        rw [hid']
        refine .inr ⟨h.fresh source e he _ hids, ?_⟩
        intro j d' hj hmem'
        by_cases hji : source = j
        · subst hji
          rw [hsrc] at hj
          injection hj with hj
          exact hgone (hj ▸ hmem')
        · rw [PublishEngines.set, List.getElem?_set_ne hji] at hj
          exact hji (h.disjoint source j e d' he hj _ hids hmem')
      · exact .inl hmem'
    · exact (List.getElem?_set_ne (Ne.symm hne)).trans hsrc

section

variable (h : p.Sound) (hsess : session ≠ 0) (he : p.engines[session]? = some e)
include h hsess he

lemma Sound.transfer_foldlM (ids : List ℕ) :
    ∃ p' e', ids.foldlM (fun (p : PublishEngines V I) subscriptionId =>
        p.transferSubscription session 0 subscriptionId) p = some p' ∧ p'.Sound ∧
      p'.engines[session]? = some e' ∧ e'.ids.Sublist e.ids ∧ ∀ id ∈ ids, id ∉ e'.ids := by
  induction ids generalizing p e with
  | nil => exact ⟨p, e, rfl, h, he, List.Sublist.refl _, List.forall_mem_nil _⟩
  | cons id ids ih =>
    obtain ⟨d, hd, -⟩ := h.orphan
    obtain ⟨p₁, e₁, hp₁, h₁, he₁, hids₁, hgone₁⟩ := h.transfer he hd hsess id
    obtain ⟨p₂, e₂, hp₂, h₂, he₂, hids₂, hgone₂⟩ := ih h₁ he₁
    refine ⟨p₂, e₂, ?_, h₂, he₂, hids₂.trans hids₁, ?_⟩
    · rw [List.foldlM_cons, hp₁]
      exact hp₂
    · refine List.forall_mem_cons.mpr ⟨?_, hgone₂⟩
      exact fun hmem => hgone₁ (hids₂.subset hmem)

/-- `transferSubscriptionsToOrphan`. -/
lemma Sound.toOrphan :
    ∃ p', p.transferSubscriptionsToOrphan session e = some p' ∧ p'.Sound := by
  obtain ⟨p', e', hp', hsound, he', hids, hgone⟩ := h.transfer_foldlM hsess he e.ids
  have hnone : e'.ids = [] := by
    apply List.eq_nil_iff_forall_not_mem.mpr
    exact fun id hmem => hgone id (hids.subset hmem) hmem
  have hcount : e'.subscriptionCount = 0 := by
    rw [PublishEngine.subscriptionCount, List.map_eq_nil_iff.mp hnone]
    rfl
  unfold transferSubscriptionsToOrphan
  rw [hp', Option.bind_some, he', Option.map_some, hcount]
  exact ⟨p', rfl, hsound⟩

end

lemma Sound.close (h : p.Sound) (sess : ℕ) :
    ∃ p', p.call sess p.engines[sess]? PublishEngine.closeSession = some p' ∧ p'.Sound := by
  unfold PublishEngines.call
  cases he : p.engines[sess]? with
  | none => exact ⟨p, rfl, h⟩
  | some e =>
    obtain ⟨e', hclose, hsound, hids, hrecv⟩ := (h.engines sess e he).close
    dsimp only
    rw [hclose]
    refine ⟨_, rfl, h.set he hsound (fun _ => hrecv) ?_⟩
    rw [hids]
    exact List.forall_mem_nil _

lemma Sound.append (h : p.Sound) (he : e.Sound)
    (hnone : e.ids = []) : Sound { p with engines := p.engines ++ [e] } := by
  have hget : ∀ (j : ℕ) (d : PublishEngine V I), (p.engines ++ [e])[j]? = some d →
      p.engines[j]? = some d ∨ d = e := by
    intro j d hj
    rcases lt_or_ge j p.engines.length with hlt | hge
    · exact .inl ((List.getElem?_append_left hlt).symm.trans hj)
    · rw [List.getElem?_append_right hge] at hj
      exact .inr (List.mem_singleton.mp (List.mem_of_getElem? hj))
  refine ⟨?_, ?_, ?_, ?_⟩
  · intro j d hj
    rcases hget j d hj with hj | rfl
    · exact h.engines j d hj
    · exact he
  · obtain ⟨d, hd, hzero⟩ := h.orphan
    obtain ⟨hlt, -⟩ := List.getElem?_eq_some_iff.mp hd
    exact ⟨d, (List.getElem?_append_left hlt).trans hd, hzero⟩
  · intro j k d d' hj hk id hd hd'
    rcases hget j d hj with hj | rfl
    · rcases hget k d' hk with hk | rfl
      · exact h.disjoint j k d d' hj hk id hd hd'
      · exact absurd hd' (hnone ▸ List.not_mem_nil)
    · exact absurd hd (hnone ▸ List.not_mem_nil)
  · intro j d hj id hid
    rcases hget j d hj with hj | rfl
    · exact h.fresh j d hj id hid
    · exact absurd hid (hnone ▸ List.not_mem_nil)

variable [MonitoredItemInterface V I]

/-- **The reserved id** is not given out. -/
def Allowed (p : PublishEngines V I) : PublishEvent V I → Prop
  | .createSubscription _ _ _ _ => p.next_subscriptionId ≠ 0xffffff
  | _ => True

/-- **What an event does**: no assertion of an engine fails. -/
lemma Sound.react (h : p.Sound) {event : PublishEvent V I}
    (hallowed : p.Allowed event) : ∃ p', p.react event = some p' ∧ p'.Sound := by
  cases event with
  | createSession maxPublishRequestInQueue =>
    exact ⟨_, rfl, h.append (PublishEngine.new_sound _) rfl⟩
  | createSubscription sess priority parameters publishingEnabled =>
    unfold PublishEngines.react
    dsimp only
    cases hopen : p.openSession? sess with
    | none => exact ⟨p, rfl, h⟩
    | some e =>
      obtain ⟨-, he⟩ := engine_of_openSession hopen
      have hnew : ∀ (j : ℕ) (d : PublishEngine V I), p.engines[j]? = some d →
          p.next_subscriptionId ∉ d.ids := fun j d hj hmem =>
        absurd (h.fresh j d hj _ hmem) (Nat.lt_irrefl _)
      obtain ⟨e', hadd, hsound, hrecv, hids⟩ := (h.engines sess e he).add
        (s := Subscription.new p.next_subscriptionId priority parameters publishingEnabled)
        (hnew sess e he) noConfusion hallowed
      have hnext : Sound { p with next_subscriptionId := p.next_subscriptionId + 1 } :=
        { h with fresh := fun j d hj id hid => (h.fresh j d hj id hid).trans (Nat.lt_succ_self _) }
      dsimp only
      rw [hadd]
      refine ⟨_, rfl, hnext.set he hsound (fun _ => hrecv) ?_⟩
      intro id hid
      rcases hids id hid with rfl | hid
      · exact .inr ⟨Nat.lt_succ_self _, hnew⟩
      · exact .inl hid
  | publishRequest sess now request =>
    unfold PublishEngines.react PublishEngines.call
    dsimp only
    cases hsess : p.session? sess with
    | none => exact ⟨p, rfl, h⟩
    | some e =>
      obtain ⟨hne, he⟩ := engine_of_session hsess
      obtain ⟨e', hpublish, hsound, hids, -⟩ :=
        PublishEngine._on_PublishRequest_sound (h.engines sess e he) now request
      dsimp only
      rw [hpublish]
      refine ⟨_, rfl, h.set he hsound (fun hzero => absurd hzero hne) ?_⟩
      rw [hids]
      exact fun id hid => .inl hid
  | feedLate sess choice =>
    exact h.call (fun e he => (engine_of_session he).2) fun e _ hsound => hsound.feed_late choice
  | tick sess subscriptionId now =>
    exact h.call (fun e he => he) fun e _ hsound => hsound.tick subscriptionId now
  | subscriptionEvent sess subscriptionId event =>
    exact h.call (fun e he => he) fun e _ hsound =>
      ⟨_, rfl, hsound.change subscriptionId event⟩
  | deleteSubscription sess subscriptionId =>
    exact h.call (fun e he => (engine_of_openSession he).2) fun e _ hsound =>
      (hsound.delete subscriptionId).goes
  | deleteOrphanSubscription subscriptionId =>
    refine h.call (fun e he => he) fun e _ hsound => ?_
    split
    · exact hsound.goes
    next s hs =>
      obtain ⟨hmem, -⟩ := PublishEngine.mem_of_getSubscriptionById hs
      exact (hsound.terminate (hsound.subscriptions s hmem).1 (hsound.subscriptions s hmem).2).goes
  | transferSubscription subscriptionId source sess sendInitialValues =>
    unfold PublishEngines.react
    dsimp only
    cases hopen : p.openSession? sess with
    | none => exact ⟨p, rfl, h⟩
    | some d =>
      obtain ⟨-, hd⟩ := engine_of_openSession hopen
      have htrans : ∃ p', p.transferSubscription source sess subscriptionId = some p' ∧
          p'.Sound := by
        cases he : p.engines[source]? with
        | none =>
          unfold PublishEngines.transferSubscription
          rw [he]
          exact ⟨p, rfl, h⟩
        | some e =>
          by_cases hne : source = sess
          · unfold PublishEngines.transferSubscription
            rw [he, hd]
            dsimp only
            split
            · exact ⟨p, rfl, h⟩
            · rw [if_pos hne]
              exact ⟨p, rfl, h⟩
          · obtain ⟨p', -, hp', hsound, -⟩ := h.transfer he hd hne subscriptionId
            exact ⟨p', hp', hsound⟩
      obtain ⟨p', hp', hsound⟩ := htrans
      rw [hp', Option.map_some]
      refine ⟨_, rfl, ?_⟩
      split_ifs
      · exact ⟨hsound.engines, hsound.orphan, hsound.disjoint, hsound.fresh⟩
      · exact hsound
  | resendInitialValues transfer items => exact ⟨p, rfl, h⟩
  | channelChange sess =>
    exact h.call (fun e he => (engine_of_openSession he).2) fun e _ hsound =>
      hsound.cancel .BadSecureChannelClosed
  | closeSession sess deleteSubscriptions =>
    unfold PublishEngines.react
    dsimp only
    cases hopen : p.openSession? sess with
    | none => exact ⟨p, rfl, h⟩
    | some e =>
      obtain ⟨hne, he⟩ := engine_of_openSession hopen
      dsimp only
      split_ifs
      · exact h.close sess
      · obtain ⟨p', hp', hsound⟩ := h.toOrphan hne he
        rw [hp', Option.bind_some]
        exact hsound.close sess
  | shutdown =>
    refine h.call (fun e he => he) fun e he hsound => ?_
    obtain ⟨d, hd, hzero⟩ := h.orphan
    have hde : d = e := Option.some_injective _ (hd.symm.trans he)
    subst hde
    obtain ⟨e', hshutdown, hfol, -⟩ := hsound.shutdown fun e' hfol' => by
      have hbal := hfol'.sound.accounted.balanced
      apply List.eq_nil_iff_forall_not_mem.mpr
      intro r hr
      have hlt := hbal.lt (List.mem_map_of_mem hr)
      have hrecv : e'.ledger.received = 0 := hfol'.received.trans hzero
      omega
    exact ⟨e', hshutdown, hfol⟩

lemma Sound.resend (h : p.Sound) (subscriptionId : ℕ) (items : List I)
    (transfers : List (ℕ × ℕ × ℕ)) :
    Sound { p with
      engines := p.engines.map fun e => e.resendInitialValues subscriptionId items
      transfers := transfers } := by
  have hget : ∀ (j : ℕ) (d : PublishEngine V I),
      (p.engines.map fun e => e.resendInitialValues subscriptionId items)[j]? = some d →
      ∃ e, p.engines[j]? = some e ∧ e.Follows d := by
    intro j d hj
    rw [List.getElem?_map, Option.map_eq_some_iff] at hj
    obtain ⟨e, he, rfl⟩ := hj
    exact ⟨e, he, (h.engines j e he).resend subscriptionId items⟩
  refine ⟨?_, ?_, ?_, ?_⟩
  · intro j d hj
    obtain ⟨e, -, hfol⟩ := hget j d hj
    exact hfol.sound
  · obtain ⟨e, he, hzero⟩ := h.orphan
    refine ⟨e.resendInitialValues subscriptionId items, ?_, hzero⟩
    rw [List.getElem?_map, he]
    rfl
  · intro j k d d' hj hk id hd hd'
    obtain ⟨e, he, hfol⟩ := hget j d hj
    obtain ⟨e', he', hfol'⟩ := hget k d' hk
    exact h.disjoint j k e e' he he' id (hfol.ids.subset hd) (hfol'.ids.subset hd')
  · intro j d hj id hid
    obtain ⟨e, he, hfol⟩ := hget j d hj
    exact h.fresh j e he id (hfol.ids.subset hid)

/-- **A step** keeps the invariant, and no assertion fails but those after the initial values. -/
lemma Sound.step {p : PublishEngines V I} (h : p.Sound) {event : PublishEvent V I}
    (hallowed : p.Allowed event) :
    (p.step event).1.Sound ∧ ∀ failure ∈ (p.step event).2, failure = .transferSubscription := by
  unfold PublishEngines.step
  split
  next transfer items =>
    split
    · exact ⟨h, List.forall_mem_nil _⟩
    next subscriptionId source sess htrans =>
      refine ⟨h.resend subscriptionId items _, ?_⟩
      intro failure hfailure
      dsimp only at hfailure
      split_ifs at hfailure
      · exact absurd hfailure List.not_mem_nil
      · exact List.mem_singleton.mp hfailure
  · obtain ⟨p', hp', hsound⟩ := h.react hallowed
    rw [hp']
    exact ⟨hsound, List.forall_mem_nil _⟩

omit [MonitoredItemInterface V I] in
lemma new_sound (next_subscriptionId : ℕ) :
    (PublishEngines.new (V := V) (I := I) next_subscriptionId).Sound := by
  have hget : ∀ (j : ℕ) (d : PublishEngine V I),
      (PublishEngines.new (V := V) (I := I) next_subscriptionId).engines[j]? = some d →
        d = PublishEngine.new 0 := fun j d hj =>
    List.mem_singleton.mp (List.mem_of_getElem? hj)
  refine ⟨?_, ⟨_, rfl, rfl⟩, ?_, ?_⟩
  · intro j d hj
    rw [hget j d hj]
    exact PublishEngine.new_sound 0
  · intro j k d d' hj hk id hd
    rw [hget j d hj] at hd
    exact absurd hd List.not_mem_nil
  · intro j d hj id hid
    rw [hget j d hj] at hid
    exact absurd hid List.not_mem_nil

/-! ### The accounting -/

/-- **A well-kept account**, but for the answers that may be given out of turn. -/
structure WellAccounted (outOfTurn : Answered → Prop) (e : PublishEngine V I) : Prop where
  /-- Each request waits or was answered, and once only. -/
  once : (e.answered.map (fun a => a.publishData.arrival) ++
    e._publish_request_queue.map PublishData.arrival).Perm (List.range e.received)
  /-- The requests wait in the order in which they arrived. -/
  waiting : e._publish_request_queue.Pairwise fun d d' => d.arrival < d'.arrival
  /-- A request is answered after those that arrived before it. -/
  inTurn : ∀ as a bs, e.answered = as ++ a :: bs → ¬ outOfTurn a →
    ∀ m < a.publishData.arrival, m ∈ as.map fun a => a.publishData.arrival
  bound : e._publish_request_queue.length ≤ e.maxPublishRequestInQueue

omit [MonitoredItemInterface V I] in
lemma wellAccounted_of_sound (h : e.Sound) :
    WellAccounted (fun a => a.answer = .serviceFault .BadTimeout ∨
      a.onArrival = true ∧ a.answer = .serviceFault .BadNoSubscription) e where
  once := by
    have hbal := h.accounted.balanced
    unfold Ledger.Balanced PublishEngine.ledger at hbal
    rwa [List.map_map] at hbal
  waiting := List.pairwise_map.mp h.accounted.sorted
  inTurn := by
    intro as a bs hsplit hturn m hm
    have hinTurn := h.accounted.inTurn
      (as.map fun a => (a.publishData.arrival, (a.answer, a.onArrival))) a.publishData.arrival
      (a.answer, a.onArrival)
      (bs.map fun a => (a.publishData.arrival, (a.answer, a.onArrival)))
      (by rw [PublishEngine.ledger, hsplit, List.map_append, List.map_cons]) ?_ m hm
    · rwa [List.map_map] at hinTurn
    · rintro (htimeout | href)
      · exact hturn (.inl htimeout)
      · obtain ⟨hans, hwaited⟩ := Prod.mk.injEq _ _ _ _ ▸ href
        exact hturn (.inr ⟨hwaited, hans⟩)
  bound := h.bound

/-- **The accounting of Publish requests**. In every state that a server reaches before it gives out
the reserved id, each Publish request of a session waits or was answered, and once only; it was
answered after those that arrived before it, unless it had timed out or was refused on its arrival
because the session had no subscription; the queue is not too long; and no assertion of an engine
has failed, but for those after the initial values of a transfer. -/
theorem publish_accounting {next_subscriptionId : ℕ} {events : List (PublishEvent V I)}
    (h : Mealy.Along step Allowed (PublishEngines.new next_subscriptionId) events) :
    let r := Mealy.run step (PublishEngines.new next_subscriptionId) events
    (∀ e ∈ r.1.engines, WellAccounted (fun a => a.answer = .serviceFault .BadTimeout ∨
      a.onArrival = true ∧ a.answer = .serviceFault .BadNoSubscription) e) ∧
    ∀ failure ∈ r.2, failure = .transferSubscription := by
  intro r
  have hsound : r.1.Sound := Mealy.run_invariant step (I := Sound) (A := Allowed)
    (fun _ _ hsound hallowed => (hsound.step hallowed).1) (new_sound next_subscriptionId) h
  refine ⟨?_, ?_⟩
  · intro e he
    obtain ⟨i, hi⟩ := List.getElem?_of_mem he
    exact wellAccounted_of_sound (hsound.engines i e hi)
  · exact Mealy.run_output step (I := Sound) (A := Allowed)
      (fun _ _ hsound hallowed => (hsound.step hallowed).1)
      (fun _ _ hsound hallowed => (hsound.step hallowed).2) (new_sound next_subscriptionId) h

/-- A Publish request without acknowledgements. -/
def publish (timeoutHint : ℕ) : PublishRequest where
  requestHandle := 0
  timeoutHint := timeoutHint
  subscriptionAcknowledgements := []

/-- Events for two sessions, the first one with a subscription. -/
def twoSessions (events : List (PublishEvent ScalarVariant (MonitoredItem ScalarVariant))) :
    List (PublishEvent ScalarVariant (MonitoredItem ScalarVariant)) :=
  .createSession 10 :: .createSession 10 :: .createSubscription 1 0 (.adjust none 10 0 0) true ::
    events

/-- A tick answers a request that has timed out, and then the older one. -/
theorem publish_accounting_tick :
    let r := Mealy.run step (PublishEngines.new 1)
      (twoSessions [.publishRequest 1 0 (publish 0), .publishRequest 1 0 (publish 5), .tick 1 1 10])
    (∀ e ∈ r.1.engines, WellAccounted (fun a => a.answer = .serviceFault .BadTimeout ∨
      a.onArrival = true ∧ a.answer = .serviceFault .BadNoSubscription) e) ∧
    ∀ failure ∈ r.2, failure = .transferSubscription :=
  publish_accounting ⟨trivial, trivial, (by decide : (1 : ℕ) ≠ 0xffffff), trivial, trivial,
    trivial, trivial⟩

/-- **Out of turn**, and with assertions that fail: a request that has timed out is answered before
an older one; so is one that is refused after the last subscription was transferred to another
session; the assertions after the initial values fail when the subscription was deleted in the
meantime; and one fails for the reserved id. -/
theorem publish_outOfTurn :
    (¬ ∀ (next_subscriptionId : ℕ)
      (events : List (PublishEvent ScalarVariant (MonitoredItem ScalarVariant))),
      ∀ e ∈ (Mealy.run step (PublishEngines.new next_subscriptionId) events).1.engines,
        WellAccounted (fun _ => False) e) ∧
    (¬ ∀ (next_subscriptionId : ℕ)
      (events : List (PublishEvent ScalarVariant (MonitoredItem ScalarVariant))),
      ∀ e ∈ (Mealy.run step (PublishEngines.new next_subscriptionId) events).1.engines,
        WellAccounted (fun a => a.answer = .serviceFault .BadTimeout) e) ∧
    (Mealy.run step (PublishEngines.new 1)
      (twoSessions [.transferSubscription 1 1 2 true, .deleteSubscription 2 1,
        .resendInitialValues 0 []])).2 = [.transferSubscription] ∧
    (Mealy.run step (PublishEngines.new 0xffffff)
      (twoSessions [.publishRequest 1 0 (publish 0), .tick 1 0xffffff 0])).2 =
        [.publishEngine] := by
  refine ⟨fun h => ?_, fun h => ?_, by decide +kernel, by decide +kernel⟩
  · have hrun : ((Mealy.run step (PublishEngines.new 1) (twoSessions [.publishRequest 1 0 (publish 0),
        .publishRequest 1 0 (publish 5), .tick 1 1 10])).1.engines[1]?.map fun e =>
        e.answered.map fun a => a.publishData.arrival) = some [1, 0] := by decide +kernel
    obtain ⟨e, he, hansd⟩ := Option.map_eq_some_iff.mp hrun
    obtain ⟨a, rest, hsplit, ha, -⟩ := List.map_eq_cons_iff.mp hansd
    have hturn := (h 1 _ e (List.mem_of_getElem? he)).inTurn [] a rest hsplit (fun h => h) 0
      (by omega)
    exact List.not_mem_nil hturn
  · have hrun : ((Mealy.run step (PublishEngines.new 1) (twoSessions [.publishRequest 1 0 (publish 0),
        .publishRequest 1 0 (publish 0), .transferSubscription 1 1 2 false,
        .publishRequest 1 0 (publish 0)])).1.engines[1]?.map fun e =>
        e.answered.map fun a => (a.publishData.arrival, a.answer)) =
        some [(0, .publishResponse 1 []), (2, .serviceFault .BadNoSubscription)] := by
      decide +kernel
    obtain ⟨e, he, hansd⟩ := Option.map_eq_some_iff.mp hrun
    obtain ⟨a, rest, hsplit, ha, hrest⟩ := List.map_eq_cons_iff.mp hansd
    obtain ⟨b, rest, rfl, hb, -⟩ := List.map_eq_cons_iff.mp hrest
    injection ha with ha _
    injection hb with hb hbanswer
    have hturn := (h 1 _ e (List.mem_of_getElem? he)).inTurn [a] b rest hsplit
      (by rw [hbanswer]; decide) 1 (by omega)
    rw [List.map_singleton, ha] at hturn
    exact absurd hturn (by decide)

end PublishEngines

end NodeOpcua
