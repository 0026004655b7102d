import Mathlib.Algebra.BigOperators.Group.List.Lemmas
import NodeOpcua.NodeClass
import NodeOpcua.Server.Subscription.Delivery

set_option autoImplicit false

/-!
# The monitored items of a server

The subscriptions of a server share a counter of their monitored items. It goes up when an item is
registered and down when one is removed, one after the other when a subscription is terminated.

## Main definitions

* `ServerEngine`, `ServerEngine.preCreateMonitoredItem`, `ServerEngine.step`.

## Design

A subscription that is closed stays in the list; it has no items any more. The events of the life of a
subscription reach it as in `SubscriptionLife.step`. The creation of an item may fail in each of its
checks, by an exception before the item is registered, and by one after it.
-/

namespace NodeOpcua

open SubscriptionLife (stepOpen)
open Prod (fst)

variable {V I : Type}

/-! ### The counter -/

namespace Subscription

section

variable (p : Subscription V I × ℤ)

/-- `removeMonitoredItem`, with `globalCounter.totalMonitoredItemCount`. -/
def removeCounted (monitoredItemId : ℕ) :
    (Subscription V I × ℤ) × StatusCode :=
  let r := p.1.removeMonitoredItem monitoredItemId
  if r.2 = .Good then ((r.1, p.2 - 1), r.2) else (p, r.2)

/-- `terminate`, with `globalCounter.totalMonitoredItemCount`. -/
def terminateCounted : Subscription V I × ℤ :=
  if p.1.state = .CLOSED then p
  else
    let q := (p.1.monitoredItems.map fst).foldl (fun p key => (removeCounted p key).1)
      ({ p.1 with timerId := false }, p.2)
    ({ q.1 with state := .CLOSED }, q.2)

lemma removeCounted_fst (monitoredItemId : ℕ) :
    (removeCounted p monitoredItemId).1.1 = (p.1.removeMonitoredItem monitoredItemId).1 := by
  unfold removeCounted removeMonitoredItem
  cases p.1.monitoredItems.lookup monitoredItemId with
  | none => rfl
  | some item => rfl

lemma terminateCounted_fst : (terminateCounted p).1 = p.1.terminate := by
  have hfold : ∀ (keys : List ℕ) (p : Subscription V I × ℤ),
      (keys.foldl (fun p key => (removeCounted p key).1) p).1 =
        keys.foldl (fun s key => (s.removeMonitoredItem key).1) p.1 := by
    intro keys
    induction keys with
    | nil => exact fun _ => rfl
    | cons key keys ih =>
      intro p
      rw [List.foldl_cons, List.foldl_cons, ih, removeCounted_fst]
  unfold terminateCounted terminate
  split_ifs
  · rfl
  · dsimp only
    rw [hfold]

end

/-- The ids of the monitored items. -/
def itemIds (s : Subscription V I) : List ℕ := s.monitoredItems.map fst

lemma removeMonitoredItem_itemIds (s : Subscription V I) (monitoredItemId : ℕ) :
    (s.removeMonitoredItem monitoredItemId).1.itemIds =
      s.itemIds.filter fun key => key ≠ monitoredItemId := by
  unfold itemIds
  rw [removeMonitoredItem_monitoredItems, List.filter_map]
  rfl

variable {p : Subscription V I × ℤ}

/-- **A removal** takes an item and one from the counter. -/
lemma removeCounted_spec (hnodup : p.1.itemIds.Nodup) (monitoredItemId : ℕ) :
    let q := (removeCounted p monitoredItemId).1
    q.1.itemIds.Nodup ∧ q.2 - q.1.itemIds.length = p.2 - p.1.itemIds.length := by
  intro q
  have hids : q.1.itemIds = p.1.itemIds.filter fun key => key ≠ monitoredItemId := by
    rw [← removeMonitoredItem_itemIds, ← removeCounted_fst]
  refine ⟨hids ▸ hnodup.filter _, ?_⟩
  cases hlook : p.1.monitoredItems.lookup monitoredItemId with
  | none =>
    have hq : q = p := by
      show (removeCounted p monitoredItemId).1 = p
      unfold removeCounted removeMonitoredItem
      rw [hlook]
      rfl
    rw [hq]
  | some item =>
    have hq : q.2 = p.2 - 1 := by
      show (removeCounted p monitoredItemId).1.2 = p.2 - 1
      unfold removeCounted removeMonitoredItem
      rw [hlook]
      rfl
    have hmem : monitoredItemId ∈ p.1.itemIds := by
      by_contra hnone
      rw [List.lookup_eq_none_iff.mpr fun e he => ?_] at hlook
      · cases hlook
      · apply bne_iff_ne.mpr
        exact fun heq => hnone (List.mem_map.mpr ⟨e, he, heq.symm⟩)
    have hlen : (p.1.itemIds.filter fun key => key ≠ monitoredItemId).length + 1 =
        p.1.itemIds.length := by
      have herase : p.1.itemIds.erase monitoredItemId =
          p.1.itemIds.filter fun key => key ≠ monitoredItemId := by
        rw [hnodup.erase_eq_filter]
        apply List.filter_congr
        intro key _
        by_cases heq : key = monitoredItemId <;> simp [heq]
      rw [← herase]
      exact List.length_erase_add_one hmem
    rw [hq, hids]
    omega

/-- **A termination** takes every item, and as many from the counter. -/
lemma terminateCounted_spec (hopen : p.1.state ≠ .CLOSED) (hnodup : p.1.itemIds.Nodup) :
    (terminateCounted p).2 = p.2 - p.1.itemIds.length := by
  have hfold : ∀ (keys : List ℕ) (p : Subscription V I × ℤ), p.1.itemIds.Nodup →
      let q := keys.foldl (fun p key => (removeCounted p key).1) p
      q.2 - q.1.itemIds.length = p.2 - p.1.itemIds.length := by
    intro keys
    induction keys with
    | nil => exact fun _ _ => rfl
    | cons key keys ih =>
      intro p hnodup
      obtain ⟨hnodup', hcount⟩ := removeCounted_spec hnodup key
      exact (ih _ hnodup').trans hcount
  have hcount := hfold p.1.itemIds ({ p.1 with timerId := false }, p.2) hnodup
  have hids : (terminateCounted p).1.itemIds = [] := by
    rw [terminateCounted_fst]
    exact congrArg (List.map fst) (terminate_monitoredItems hopen)
  unfold terminateCounted at hids ⊢
  rw [if_neg hopen] at hids ⊢
  dsimp only at hids hcount ⊢
  rw [show ((p.1.itemIds.foldl (fun p key => (removeCounted p key).1)
    ({ p.1 with timerId := false }, p.2)).1.itemIds) = [] from hids] at hcount
  exact (Int.sub_zero _).symm.trans hcount

end Subscription

/-! ### The creation of a monitored item -/

/-- `Subscription.defaultMaxMonitoredItemCount`. -/
def defaultMaxMonitoredItemCount : ℕ := 20000

/-- The limits in `serverCapabilities`; zero stands for the default. -/
structure ServerCapabilities where
  maxMonitoredItems : ℕ
  maxMonitoredItemsPerSubscription : ℕ

/-- The limits after the constructor of a subscription has put in the defaults. -/
def ServerCapabilities.adjust (c : ServerCapabilities) : ServerCapabilities where
  maxMonitoredItems :=
    if c.maxMonitoredItems = 0 then defaultMaxMonitoredItemCount else c.maxMonitoredItems
  maxMonitoredItemsPerSubscription :=
    if c.maxMonitoredItemsPerSubscription = 0 then defaultMaxMonitoredItemCount
    else c.maxMonitoredItemsPerSubscription

/-- Where the creation of an item throws. -/
inductive CreateFailure
  | beforeRegistration
  | afterRegistration
  deriving DecidableEq, Repr

/-- What `preCreateMonitoredItem` finds: the node, the fields of `itemToMonitor`, the result of
`validateFilter`, and the new item. -/
structure MonitoredItemCreateRequest (I : Type) where
  nodeClass : Option NodeClass
  attributeId : ℕ
  indexRange : NumericRange
  /-- The encoding has a name. -/
  dataEncoding : Bool
  isValidDataEncoding : Bool
  statusCodeFilter : StatusCode
  failure : Option CreateFailure
  monitoredItem : I

/-- The result of a creation. -/
inductive MonitoredItemCreateResult
  | created (monitoredItemId : ℕ)
  | rejected (statusCode : StatusCode)
  | thrown
  deriving DecidableEq, Repr

/-- **A server**. The subscriptions are listed by their ids. -/
structure ServerEngine (V I : Type) where
  subscriptions : List (SubscriptionLife V I)
  /-- `_globalCounter.totalMonitoredItemCount`. -/
  totalMonitoredItemCount : ℤ
  g_monitoredItemId : ℕ

namespace ServerEngine

/-- A server without subscriptions. -/
def new (g_monitoredItemId : ℕ) : ServerEngine V I where
  subscriptions := []
  totalMonitoredItemCount := 0
  g_monitoredItemId := g_monitoredItemId

/-- The subscription with the id is replaced. -/
def setSubscription (e : ServerEngine V I) (subscriptionId : ℕ) (l : SubscriptionLife V I) :
    ServerEngine V I :=
  { e with subscriptions := e.subscriptions.set subscriptionId l }

/-- The checks of `preCreateMonitoredItem`, up to the limits. -/
def checkMonitoredItem (request : MonitoredItemCreateRequest I) : Option StatusCode :=
  match request.nodeClass with
  | some nodeClass =>
    if nodeClass ≠ .Variable && nodeClass ≠ .Object && nodeClass ≠ .Method then
      some .BadNodeIdUnknown
    else if request.attributeId = AttributeIds.Value && nodeClass ≠ .Variable then
      some .BadAttributeIdInvalid
    else if request.attributeId = AttributeIds.INVALID then some .BadAttributeIdInvalid
    else if !request.indexRange.isValid then some .BadIndexRangeInvalid
    else if request.dataEncoding && request.attributeId ≠ AttributeIds.Value then
      some .BadDataEncodingInvalid
    else if !request.isValidDataEncoding then some .BadDataEncodingUnsupported
    else if request.statusCodeFilter ≠ .Good then some request.statusCodeFilter
    else none
  | none => some .BadNodeIdUnknown

/-- `_createMonitoredItemStep2`: the item is registered. -/
def _createMonitoredItemStep2 (e : ServerEngine V I) (subscriptionId : ℕ) (l : SubscriptionLife V I)
    (request : MonitoredItemCreateRequest I) : ServerEngine V I × MonitoredItemCreateResult :=
  let monitoredItemId := e.g_monitoredItemId
  let e := { e with g_monitoredItemId := e.g_monitoredItemId + 1 }
  if request.failure = some .beforeRegistration then (e, .thrown)
  else
    let s := { l.subscription with
      monitoredItems := l.subscription.monitoredItems ++ [(monitoredItemId, request.monitoredItem)] }
    let e := e.setSubscription subscriptionId { l with subscription := s }
    let e := { e with totalMonitoredItemCount := e.totalMonitoredItemCount + 1 }
    if request.failure = some .afterRegistration then (e, .thrown)
    else (e, .created monitoredItemId)

/-- **`preCreateMonitoredItem`**. -/
def preCreateMonitoredItem (c : ServerCapabilities) (e : ServerEngine V I) (subscriptionId : ℕ)
    (l : SubscriptionLife V I) (request : MonitoredItemCreateRequest I) :
    ServerEngine V I × MonitoredItemCreateResult :=
  match checkMonitoredItem request with
  | some statusCode => (e, .rejected statusCode)
  | none =>
    if l.subscription.monitoredItems.length ≥ c.adjust.maxMonitoredItemsPerSubscription then
      (e, .rejected .BadTooManyMonitoredItems)
    else if e.totalMonitoredItemCount ≥ c.adjust.maxMonitoredItems then
      (e, .rejected .BadTooManyMonitoredItems)
    else e._createMonitoredItemStep2 subscriptionId l request

variable [MonitoredItemInterface V I]

/-- The counter after an event of an open subscription that is not the creation of an item. -/
def totalAfter (total : ℤ) (s : Subscription V I) : SubscriptionEvent V I → ℤ
  | .removeMonitoredItem monitoredItemId => (Subscription.removeCounted (s, total) monitoredItemId).1.2
  | .terminate => (Subscription.terminateCounted (s, total)).2
  | .timerTick _ | .reTick _ =>
    if s.tickStart.lifeTimeHasExpired then
      (Subscription.terminateCounted
        (s.tickStart._addNotificationMessage (.statusChange .BadTimeout) none, total)).2
    else total
  | _ => total

/-- What happens to a server. -/
inductive Event (V I : Type)
  | createSubscription (priority : ℕ) (parameters : RevisedParameters) (publishingEnabled : Bool)
    (session : ℕ)
  | createMonitoredItem (subscriptionId : ℕ) (request : MonitoredItemCreateRequest I)
  /-- Any other event of a subscription. -/
  | subscriptionEvent (subscriptionId : ℕ) (event : SubscriptionEvent V I)

/-- What a server answers. -/
inductive Output (V : Type)
  | createResult (result : MonitoredItemCreateResult)
  | subscriptionOutput (subscriptionId : ℕ) (output : SubscriptionOutput V)

/-- **The machine**. A subscription that is closed is not found. -/
def step (c : ServerCapabilities) (e : ServerEngine V I) :
    Event V I → ServerEngine V I × List (Output V)
  | .createSubscription priority parameters publishingEnabled session =>
    ({ e with
        subscriptions := e.subscriptions ++
          [SubscriptionLife.new e.subscriptions.length priority parameters publishingEnabled
            session] }, [])
  | .createMonitoredItem subscriptionId request =>
    match e.subscriptions[subscriptionId]? with
    | none => (e, [.createResult (.rejected .BadSubscriptionIdInvalid)])
    | some l =>
      if l.subscription.state = .CLOSED then
        (e, [.createResult (.rejected .BadSubscriptionIdInvalid)])
      else
        let r := e.preCreateMonitoredItem c subscriptionId l request
        (r.1, [.createResult r.2])
  | .subscriptionEvent subscriptionId event =>
    match e.subscriptions[subscriptionId]?, event with
    | none, _ | _, .createMonitoredItem _ _ => (e, [])
    | some l, event =>
      let r := l.step event
      let e := e.setSubscription subscriptionId r.1
      ({ e with
          totalMonitoredItemCount :=
            if l.subscription.state = .CLOSED then e.totalMonitoredItemCount
            else totalAfter e.totalMonitoredItemCount l.subscription event },
        r.2.map (.subscriptionOutput subscriptionId))

/-! ### What the events do -/

/-- **What an event does to the items** of a subscription: items are removed at most, as many as the
counter goes down, and all of them when the subscription is closed. -/
structure Counts (s s' : Subscription V I) (total total' : ℤ) : Prop where
  itemIds : s'.itemIds.Sublist s.itemIds
  total : total' - s'.itemIds.length = total - s.itemIds.length
  closed : s'.state = .CLOSED → s'.itemIds = []

variable {s s' : Subscription V I}

omit [MonitoredItemInterface V I] in
lemma Counts.total_le {total total' : ℤ} (h : Counts s s' total total') :
    total' ≤ total := by
  have hle := h.itemIds.length_le
  have htotal := h.total
  omega

omit [MonitoredItemInterface V I] in
lemma Counts.of_same (total : ℤ) (hids : s'.itemIds = s.itemIds)
    (hopen : s'.state ≠ .CLOSED) : Counts s s' total total where
  itemIds := hids ▸ List.Sublist.refl _
  total := by rw [hids]
  closed := fun hclo => absurd hclo hopen

variable {s t : Subscription V I}

omit [MonitoredItemInterface V I] in
lemma Counts.of_terminate (total : ℤ) (hopen : t.state ≠ .CLOSED)
    (hids : t.itemIds = s.itemIds) (hnodup : s.itemIds.Nodup) :
    Counts s t.terminate total (Subscription.terminateCounted (t, total)).2 := by
  have hnone : t.terminate.itemIds = [] :=
    congrArg (List.map fst) (Subscription.terminate_monitoredItems hopen)
  refine ⟨hnone ▸ List.nil_sublist _, ?_, fun _ => hnone⟩
  rw [Subscription.terminateCounted_spec hopen (hids ▸ hnodup), hnone, hids]
  exact Int.sub_zero _

lemma Counts.of_serves {o : Outcome V I} (total : ℤ)
    (hids : t.itemIds = s.itemIds) (hserves : t.Serves o)
    (hopen : o.subscription.state ≠ .CLOSED) : Counts s o.subscription total total := by
  obtain ⟨pending, taken, hharvests, -, -⟩ := hserves
  refine Counts.of_same total ?_ hopen
  rw [← hids]
  unfold Subscription.itemIds
  rcases hharvests with ⟨-, hitems⟩ | ⟨-, hitems⟩
  · rw [hitems]
  · rw [hitems, Subscription.extracted, List.map_map]
    rfl

variable {l : SubscriptionLife V I}

lemma counts_tick (hopen : l.subscription.state ≠ .CLOSED)
    (hnodup : l.subscription.itemIds.Nodup) (total : ℤ) (n : ℕ) :
    Counts l.subscription (l.call (l.subscription._tick n)).1.subscription total
      (if l.subscription.tickStart.lifeTimeHasExpired then
        (Subscription.terminateCounted
          (l.subscription.tickStart._addNotificationMessage (.statusChange .BadTimeout) none,
            total)).2
      else total) := by
  have hstart : l.subscription.tickStart.itemIds = l.subscription.itemIds ∧
      l.subscription.tickStart.state ≠ .CLOSED := by
    rw [Subscription.tickStart_eq]
    exact ⟨rfl, hopen⟩
  by_cases hexp : l.subscription.tickStart.lifeTimeHasExpired = true
  · have htick : l.subscription._tick n = some
        { subscription := (l.subscription.tickStart._addNotificationMessage
            (.statusChange .BadTimeout) none).terminate
          expired := true } := by
      unfold Subscription._tick
      rw [if_neg hopen]
      exact if_pos hexp
    rw [htick, if_pos hexp]
    exact Counts.of_terminate total hstart.2 hstart.1 hnodup
  · rw [if_neg hexp]
    have htick : l.subscription._tick n = l.subscription.tickStart.tickPublish n := by
      unfold Subscription._tick
      rw [if_neg hopen]
      exact if_neg hexp
    rw [htick]
    cases ho : l.subscription.tickStart.tickPublish n with
    | none => exact Counts.of_same total rfl hopen
    | some o =>
      exact Counts.of_serves total hstart.1 (Subscription.tickPublish_serves ho)
        ((Subscription.tickPublish_goesOn ho).2 hstart.2)

variable {event : SubscriptionEvent V I}

lemma counts_stepOpen
    (hopen : l.subscription.state ≠ .CLOSED) (hnodup : l.subscription.itemIds.Nodup) (total : ℤ)
    (hevent : ∀ monitoredItemId item, event ≠ .createMonitoredItem monitoredItemId item) :
    Counts l.subscription (l.stepOpen event).1.subscription total
      (totalAfter total l.subscription event) := by
  have hsame : Counts l.subscription l.subscription total total :=
    Counts.of_same total rfl hopen
  cases event with
  | timerTick n | reTick n => exact counts_tick hopen hnodup total n
  | processSubscription n =>
    unfold stepOpen
    dsimp only
    split_ifs
    · cases ho : l.subscription.process_subscription n with
      | none => exact hsame
      | some o =>
        exact Counts.of_serves total rfl (Subscription.process_subscription_serves ho)
          ((Subscription.process_subscription_goesOn ho).2 hopen)
    · exact hsame
  | acknowledge n =>
    unfold stepOpen Subscription.acknowledgeNotification
    dsimp only
    split <;> exact Counts.of_same total rfl hopen
  | setPublishingMode publishingEnabled =>
    refine Counts.of_same total rfl ?_
    unfold stepOpen SubscriptionLife.set Subscription.setPublishingMode
    dsimp only
    split_ifs
    · exact SubscriptionState.noConfusion
    · exact hopen
  | createMonitoredItem monitoredItemId item => exact absurd rfl (hevent monitoredItemId item)
  | removeMonitoredItem monitoredItemId =>
    have hids := l.subscription.removeMonitoredItem_itemIds monitoredItemId
    obtain ⟨-, htotal⟩ :=
      Subscription.removeCounted_spec (p := (l.subscription, total)) hnodup monitoredItemId
    rw [Subscription.removeCounted_fst] at htotal
    refine ⟨?_, htotal, fun hclo => absurd hclo ?_⟩
    · show (l.subscription.removeMonitoredItem monitoredItemId).1.itemIds.Sublist _
      rw [hids]
      exact List.filter_sublist
    · show (l.subscription.removeMonitoredItem monitoredItemId).1.state ≠ .CLOSED
      obtain ⟨pending, items, hrm⟩ := l.subscription.removeMonitoredItem_eq monitoredItemId
      rw [hrm]
      exact hopen
  | monitoredItemChange monitoredItemId item =>
    refine Counts.of_same total ?_ hopen
    show (l.subscription.monitoredItems.map _).map fst = _
    rw [List.map_map]
    apply List.map_congr_left
    intro e _
    show (if e.1 = monitoredItemId then (monitoredItemId, item) else e).1 = e.1
    split_ifs with heq
    · exact heq.symm
    · rfl
  | resendInitialValues items =>
    unfold stepOpen
    dsimp only
    split_ifs with hlen
    · refine Counts.of_same total ?_ SubscriptionState.noConfusion
      have hkeys : ((l.subscription.monitoredItems.map fst).zip items).map fst =
          l.subscription.itemIds := by
        apply List.map_fst_zip
        rw [List.length_map, hlen]
      show (List.map _ ((l.subscription.monitoredItems.map fst).zip items)).map fst = _
      rw [List.map_map, ← hkeys]
      rfl
    · exact hsame
  | transfer sess n =>
    unfold stepOpen SubscriptionLife.transfer
    dsimp only
    split_ifs with hsess hn
    · exact hsame
    · rw [Subscription.notifyTransfer_eq, if_pos hn]
      exact Counts.of_same total rfl hopen
    · rw [Subscription.notifyTransfer_eq, if_neg hn]
      refine Counts.of_same total ?_ ?_
      · exact congrArg (List.map fst) (Subscription.messagePublished_monitoredItems _)
      · exact (Subscription.messagePublished_goesOn _).2 hopen
  | terminate => exact Counts.of_terminate total hopen rfl hnodup
  | _ => exact Counts.of_same total rfl hopen

lemma step_itemIds (hclo : l.subscription.state = .CLOSED) (event : SubscriptionEvent V I) :
    (l.step event).1.subscription.itemIds = l.subscription.itemIds := by
  rcases l.step_cases event with ⟨sess, -, -, hstep⟩ | ⟨-, n, -, hstep⟩ | ⟨-, -, -, hstep⟩ |
    ⟨hopen, -⟩ | hstep
  · rw [hstep]
    rfl
  · rw [hstep]
    unfold Subscription._publish_pending_notifications
    split_ifs
    · rfl
    · exact congrArg (List.map fst) (Subscription.messagePublished_monitoredItems _)
  · rw [hstep]
    rfl
  · exact absurd hclo hopen
  · rw [hstep]

/-- **An event of a subscription**. -/
lemma counts_step (hnodup : l.subscription.itemIds.Nodup)
    (hnone : l.subscription.state = .CLOSED → l.subscription.itemIds = []) (total : ℤ)
    (hevent : ∀ monitoredItemId item, event ≠ .createMonitoredItem monitoredItemId item) :
    Counts l.subscription (l.step event).1.subscription total
      (if l.subscription.state = .CLOSED then total
      else totalAfter total l.subscription event) := by
  by_cases hclo : l.subscription.state = .CLOSED
  · have hids := step_itemIds hclo event
    rw [if_pos hclo]
    exact ⟨hids ▸ List.Sublist.refl _, by rw [hids], fun _ => hids.trans (hnone hclo)⟩
  · rw [if_neg hclo]
    by_cases hfeed : ∃ sess, event = .feedTransferred sess
    · obtain ⟨sess, rfl⟩ := hfeed
      by_cases hmem : sess ∈ l.transferred
      · have hstep : (l.step (.feedTransferred sess)).1.subscription =
            l.subscription.publishTransferred.subscription := by
          unfold SubscriptionLife.step
          dsimp only
          rw [if_pos hmem]
        rw [hstep]
        exact Counts.of_same total rfl hclo
      · rw [show l.step (.feedTransferred sess) = (l, []) from if_neg hmem]
        exact Counts.of_same total rfl hclo
    · have hstep : l.step event = l.stepOpen event := by
        cases event with
        | feedTransferred sess => exact absurd ⟨sess, rfl⟩ hfeed
        | dispose => simp [SubscriptionLife.step, stepOpen, hclo]
        | _ => exact if_neg hclo
      rw [hstep]
      exact counts_stepOpen hclo hnodup total hevent

/-! ### The invariant -/

/-- **The items of a subscription**: their ids are distinct and older than the next one, a closed
subscription has none, and there are not too many. -/
structure Registered (c : ServerCapabilities) (g_monitoredItemId : ℕ) (s : Subscription V I) :
    Prop where
  nodup : s.itemIds.Nodup
  fresh : ∀ id ∈ s.itemIds, id < g_monitoredItemId
  closed : s.state = .CLOSED → s.itemIds = []
  limit : s.itemIds.length ≤ c.adjust.maxMonitoredItemsPerSubscription

/-- The number of the items of the subscriptions. -/
def itemCount (subscriptions : List (SubscriptionLife V I)) : ℤ :=
  (subscriptions.map fun l => (l.subscription.itemIds.length : ℤ)).sum

/-- **The counter is right**, and so are the subscriptions. -/
structure Counted (c : ServerCapabilities) (e : ServerEngine V I) : Prop where
  registered : ∀ l ∈ e.subscriptions, Registered c e.g_monitoredItemId l.subscription
  total : e.totalMonitoredItemCount = itemCount e.subscriptions
  limit : e.totalMonitoredItemCount ≤ c.adjust.maxMonitoredItems

variable {c : ServerCapabilities} {g_monitoredItemId : ℕ}

omit [MonitoredItemInterface V I] in
lemma Registered.of_counts {total total' : ℤ} (h : Registered c g_monitoredItemId s)
    (hcounts : Counts s s' total total') : Registered c g_monitoredItemId s' where
  nodup := h.nodup.sublist hcounts.itemIds
  fresh := fun id hid => h.fresh id (hcounts.itemIds.subset hid)
  closed := hcounts.closed
  limit := hcounts.itemIds.length_le.trans h.limit

omit [MonitoredItemInterface V I] in
lemma Registered.mono {n m : ℕ} {s : Subscription V I}
    (h : Registered c n s) (hle : n ≤ m) : Registered c m s :=
  { h with fresh := fun id hid => (h.fresh id hid).trans_le hle }

variable {subscriptionId : ℕ} {subscriptions : List (SubscriptionLife V I)}

omit [MonitoredItemInterface V I] in
lemma itemCount_set (hl : subscriptions[subscriptionId]? = some l) (l' : SubscriptionLife V I) :
    itemCount (subscriptions.set subscriptionId l') =
      itemCount subscriptions - l.subscription.itemIds.length +
        l'.subscription.itemIds.length := by
  obtain ⟨hlt, hget⟩ := List.getElem?_eq_some_iff.mp hl
  unfold itemCount
  rw [List.map_set, List.sum_set', dif_pos (by rwa [List.length_map]), List.getElem_map, hget]
  omega

omit [MonitoredItemInterface V I] in
lemma itemCount_eq_live
    (h : ∀ l ∈ subscriptions, l.subscription.state = .CLOSED → l.subscription.itemIds = []) :
    itemCount subscriptions =
      ((subscriptions.filter fun l => l.subscription.state ≠ .CLOSED).map fun l =>
        (l.subscription.monitoredItems.length : ℤ)).sum := by
  unfold itemCount
  induction subscriptions with
  | nil => rfl
  | cons l subscriptions ih =>
    have ih := ih fun k hk => h k (List.mem_cons_of_mem _ hk)
    rw [List.map_cons, List.sum_cons, ih]
    by_cases hclo : l.subscription.state = .CLOSED
    · rw [List.filter_cons_of_neg (by simpa using hclo), h l List.mem_cons_self hclo]
      exact zero_add _
    · rw [List.filter_cons_of_pos (by simpa using hclo), List.map_cons, List.sum_cons,
        Subscription.itemIds, List.length_map]

variable {e : ServerEngine V I}

omit [MonitoredItemInterface V I] in
/-- **A subscription is replaced**, with the counter and the next id. -/
lemma Counted.set (h : Counted c e) {l l' : SubscriptionLife V I}
    (hl : e.subscriptions[subscriptionId]? = some l) {total : ℤ}
    (hle : e.g_monitoredItemId ≤ g_monitoredItemId)
    (hreg : Registered c g_monitoredItemId l'.subscription)
    (htotal : total - l'.subscription.itemIds.length =
      e.totalMonitoredItemCount - l.subscription.itemIds.length)
    (hlimit : total ≤ c.adjust.maxMonitoredItems) :
    Counted c
      { subscriptions := e.subscriptions.set subscriptionId l'
        totalMonitoredItemCount := total
        g_monitoredItemId } where
  registered := by
    intro k hk
    rcases List.mem_or_eq_of_mem_set hk with hk | rfl
    · exact (h.registered k hk).mono hle
    · exact hreg
  total := by
    have hcount := itemCount_set hl l'
    have htotal' := h.total
    dsimp only
    omega
  limit := hlimit

omit [MonitoredItemInterface V I] in
lemma Counted.next {c : ServerCapabilities} {e : ServerEngine V I} (h : Counted c e) :
    Counted c { e with g_monitoredItemId := e.g_monitoredItemId + 1 } where
  registered := fun l hl => (h.registered l hl).mono (Nat.le_succ _)
  total := h.total
  limit := h.limit

omit [MonitoredItemInterface V I] in
/-- **A creation** keeps count. -/
lemma preCreateMonitoredItem_counted (h : Counted c e)
    (hl : e.subscriptions[subscriptionId]? = some l) (hopen : l.subscription.state ≠ .CLOSED)
    (req : MonitoredItemCreateRequest I) :
    Counted c (e.preCreateMonitoredItem c subscriptionId l req).1 := by
  have hreg := h.registered l (List.mem_of_getElem? hl)
  unfold preCreateMonitoredItem
  cases checkMonitoredItem req with
  | some statusCode => exact h
  | none =>
    split_ifs with hper htotal
    · exact h
    · exact h
    · have hids : (l.subscription.monitoredItems ++
          [(e.g_monitoredItemId, req.monitoredItem)]).map fst =
          l.subscription.itemIds ++ [e.g_monitoredItemId] := List.map_append
      have hlen : l.subscription.itemIds.length = l.subscription.monitoredItems.length :=
        List.length_map _
      have hset : Counted c
          { subscriptions := e.subscriptions.set subscriptionId
              { l with
                  subscription := { l.subscription with
                    monitoredItems := l.subscription.monitoredItems ++
                      [(e.g_monitoredItemId, req.monitoredItem)] } }
            totalMonitoredItemCount := e.totalMonitoredItemCount + 1
            g_monitoredItemId := e.g_monitoredItemId + 1 } := by
        apply h.set hl (Nat.le_succ _)
        · refine ⟨?_, ?_, fun hclo => absurd hclo hopen, ?_⟩
          · unfold Subscription.itemIds
            rw [hids, List.nodup_append]
            refine ⟨hreg.nodup, List.nodup_singleton _, ?_⟩
            intro id hid id' hid' heq
            rw [List.mem_singleton.mp hid'] at heq
            have hlt := hreg.fresh id hid
            omega
          · unfold Subscription.itemIds
            rw [hids]
            intro id hid
            rcases List.mem_append.mp hid with hid | hid
            · exact (hreg.fresh id hid).trans (Nat.lt_succ_self _)
            · rw [List.mem_singleton.mp hid]
              exact Nat.lt_succ_self _
          · unfold Subscription.itemIds
            rw [hids, List.length_append, List.length_singleton]
            omega
        · unfold Subscription.itemIds at hlen ⊢
          rw [hids, List.length_append, List.length_singleton]
          unfold Subscription.itemIds
          omega
        · omega
      unfold _createMonitoredItemStep2
      split_ifs
      · exact h.next
      · exact hset
      · exact hset

/-- **A step keeps count**. -/
lemma step_counted (h : Counted c e) (event : Event V I) : Counted c (e.step c event).1 := by
  cases event with
  | createSubscription priority parameters publishingEnabled sess =>
    refine ⟨?_, ?_, h.limit⟩
    · intro l hl
      rcases List.mem_append.mp hl with hl | hl
      · exact h.registered l hl
      · rw [List.mem_singleton.mp hl]
        exact ⟨List.nodup_nil, List.forall_mem_nil _, fun _ => rfl, Nat.zero_le _⟩
    · show e.totalMonitoredItemCount = itemCount (e.subscriptions ++ _)
      unfold itemCount
      rw [List.map_append, List.sum_append, h.total]
      exact (add_zero _).symm
  | createMonitoredItem subId req =>
    unfold step
    dsimp only
    split
    · exact h
    next l hl =>
      split_ifs with hclo
      · exact h
      · exact preCreateMonitoredItem_counted h hl hclo req
  | subscriptionEvent subId event =>
    unfold step
    dsimp only
    split
    · exact h
    · exact h
    next l hl hevent =>
      have hreg := h.registered l (List.mem_of_getElem? hl)
      have hcounts := counts_step hreg.nodup hreg.closed e.totalMonitoredItemCount
        hevent
      exact h.set hl (Nat.le_refl _) (hreg.of_counts hcounts) hcounts.total
        (hcounts.total_le.trans h.limit)

/-- **The monitored items of a server**. In every state that a server reaches, the counter is the
number of the monitored items of its live subscriptions; it is not negative; and neither the items
of a subscription nor those of the server are more than the limit. -/
theorem monitoredItem_counters (c : ServerCapabilities) (g_monitoredItemId : ℕ)
    (events : List (Event V I)) :
    let e := (Mealy.run (step c) (ServerEngine.new g_monitoredItemId) events).1
    e.totalMonitoredItemCount =
        ((e.subscriptions.filter fun l => l.subscription.state ≠ .CLOSED).map fun l =>
          (l.subscription.monitoredItems.length : ℤ)).sum ∧
      0 ≤ e.totalMonitoredItemCount ∧
      (∀ l ∈ e.subscriptions,
        l.subscription.monitoredItems.length ≤ c.adjust.maxMonitoredItemsPerSubscription) ∧
      e.totalMonitoredItemCount ≤ c.adjust.maxMonitoredItems := by
  intro e
  have hcnt : Counted c e := by
    apply Mealy.run_invariant (step c) (I := Counted c) (A := fun _ _ => True)
    · exact fun e event h _ => step_counted h event
    · exact ⟨List.forall_mem_nil _, rfl, Int.natCast_nonneg _⟩
    · exact Mealy.along_of_forall _ fun _ _ _ => trivial
  refine ⟨?_, ?_, ?_, hcnt.limit⟩
  · rw [hcnt.total]
    exact itemCount_eq_live fun l hl => (hcnt.registered l hl).closed
  · rw [hcnt.total]
    apply List.sum_nonneg
    intro n hn
    obtain ⟨l, -, rfl⟩ := List.mem_map.mp hn
    exact Int.natCast_nonneg _
  · intro l hl
    have hlimit := (hcnt.registered l hl).limit
    rwa [Subscription.itemIds, List.length_map] at hlimit

end ServerEngine

end NodeOpcua
