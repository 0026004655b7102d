import Mathlib.Data.List.ModifyLast
import NodeOpcua.Server.Subscription.Delivery

set_option autoImplicit false

/-!
# Uncollected notifications

A subscription asks its monitored items whether they have notifications, and remembers a positive
answer. The items hand over those that can be reported now. The two agree as long as no item is left
with notifications that it holds back, and no item is changed or deleted after a positive answer.

## Main definitions

* `reportable`.
* `Subscription.LateMeansReportable`, `SubscriptionLife.HoldsNothingBack`.

## Main results

* `SubscriptionLife.late_means_reportable`.
-/

namespace NodeOpcua

variable {V I : Type}

/-- **A reportable item** would hand over a notification. -/
def reportable [MonitoredItemInterface V I] (item : I) : Bool :=
  !(extractMonitoredItemNotifications item).1.isEmpty

namespace Subscription

variable [MonitoredItemInterface V I]

/-- **LATE means reportable**: when the items have uncollected notifications, harvesting them adds
at least one to the pending queue. -/
def LateMeansReportable (s : Subscription V I) : Prop :=
  s.hasUncollectedMonitoredItemNotifications.1 = true → s.harvested ≠ []

lemma harvested_ne_nil_iff (s : Subscription V I) :
    s.harvested ≠ [] ↔ ∃ item ∈ s.monitoredItems, reportable item.2 = true := by
  simp [harvested, reportable]

lemma lateMeansReportable_iff (s : Subscription V I) :
    s.LateMeansReportable ↔
      (s._hasUncollectedMonitoredItemNotifications = true ∨
        ∃ item ∈ s.monitoredItems, hasMonitoredItemNotifications item.2 = true) →
      ∃ item ∈ s.monitoredItems, reportable item.2 = true := by
  unfold LateMeansReportable
  rw [hasUncollectedMonitoredItemNotifications_iff, harvested_ne_nil_iff]

variable {s t : Subscription V I}

lemma LateMeansReportable.of_same (h : s.LateMeansReportable)
    (hitems : t.monitoredItems = s.monitoredItems)
    (hflag : t._hasUncollectedMonitoredItemNotifications = true →
      s.hasUncollectedMonitoredItemNotifications.1 = true) : t.LateMeansReportable := by
  rw [lateMeansReportable_iff, hitems]
  rintro (hremem | hhas)
  · exact (harvested_ne_nil_iff s).mp (h (hflag hremem))
  · exact (lateMeansReportable_iff s).mp h (.inr hhas)

lemma lateMeansReportable_of_extracted (hitems : t.monitoredItems = s.extracted)
    (hflag : t._hasUncollectedMonitoredItemNotifications = false)
    (hnothing : ∀ item ∈ s.monitoredItems,
      hasMonitoredItemNotifications (extractMonitoredItemNotifications item.2).2 = false) :
    t.LateMeansReportable := by
  rw [lateMeansReportable_iff, hitems, hflag]
  rintro (hremem | ⟨item, hmem, hhas⟩)
  · cases hremem
  · obtain ⟨original, horiginal, rfl⟩ := List.mem_map.mp hmem
    rw [hnothing original horiginal] at hhas
    cases hhas

/-- The items are harvested when a Publish request is served. -/
def Collects (s : Subscription V I) (pendingPublishRequestCount : ℕ) : Prop :=
  pendingPublishRequestCount ≠ 0 ∧ s.publishingEnabled = true ∧ s._pending_notifications = [] ∧
    s.hasUncollectedMonitoredItemNotifications.1 = true

/-- Nothing is left in the items after a harvest. -/
def LeavesNothing (items : List (ℕ × I)) : Prop :=
  ∀ item ∈ items,
    hasMonitoredItemNotifications (extractMonitoredItemNotifications item.2).2 = false

variable {s : Subscription V I}

/-- `collect` keeps the law. -/
lemma collect_lateMeansReportable (h : s.LateMeansReportable)
    (hleaves : s._pending_notifications = [] →
      s.hasUncollectedMonitoredItemNotifications.1 = true → LeavesNothing s.monitoredItems) :
    s.collect.LateMeansReportable := by
  unfold collect
  dsimp only
  rw [hasUncollectedMonitoredItemNotifications_eq]
  split_ifs with hpend hans
  · exact h
  · refine lateMeansReportable_of_extracted (s := s) rfl rfl (hleaves ?_ hans)
    by_contra hne
    exact hpend (hasPendingNotifications_iff.mpr hne)
  · exact h.of_same rfl fun hflag => hflag

omit [MonitoredItemInterface V I] in
lemma messagePublished_flag (s : Subscription V I) :
    s.messagePublished._hasUncollectedMonitoredItemNotifications =
      s._hasUncollectedMonitoredItemNotifications := by
  unfold messagePublished
  dsimp only
  split_ifs <;> rfl

lemma messagePublished_lateMeansReportable (h : s.LateMeansReportable) :
    s.messagePublished.LateMeansReportable := by
  refine h.of_same s.messagePublished_monitoredItems fun hflag => ?_
  rw [messagePublished_flag] at hflag
  exact s.hasUncollectedMonitoredItemNotifications_iff.mpr (.inl hflag)

lemma _process_keepAlive_lateMeansReportable (h : s.LateMeansReportable)
    (n : ℕ) : (s._process_keepAlive n).subscription.LateMeansReportable := by
  have hflag : s._hasUncollectedMonitoredItemNotifications = true →
      s.hasUncollectedMonitoredItemNotifications.1 = true := fun hflag =>
    s.hasUncollectedMonitoredItemNotifications_iff.mpr (.inl hflag)
  rcases s._process_keepAlive_cases n with ⟨-, ho⟩ | ⟨-, -, -, ho⟩ | ⟨-, -, ho⟩ <;> rw [ho]
  · exact h.of_same rfl hflag
  · exact h.of_same rfl hflag
  · exact h.of_same rfl hflag

variable {o : Outcome V I}

/-- `process_subscription` keeps the law when its harvest leaves nothing in the items. -/
lemma process_subscription_lateMeansReportable {n : ℕ}
    (ho : s.process_subscription n = some o) (h : s.LateMeansReportable)
    (hleaves : s.Collects n → LeavesNothing s.monitoredItems) :
    o.subscription.LateMeansReportable := by
  obtain ⟨hn, ⟨-, rfl⟩ | ⟨hen, -, retick, rfl⟩ | ⟨hen, -, rfl⟩⟩ :=
    process_subscription_cases ho
  · exact _process_keepAlive_lateMeansReportable h n
  · exact messagePublished_lateMeansReportable (collect_lateMeansReportable h
      fun hpend hans => hleaves ⟨hn, hen, hpend, hans⟩)
  · exact _process_keepAlive_lateMeansReportable (collect_lateMeansReportable h
      fun hpend hans => hleaves ⟨hn, hen, hpend, hans⟩) n

/-- The branches of `_tick` after the life time was checked. -/
lemma tickPublish_lateMeansReportable {n : ℕ}
    (ho : s.tickPublish n = some o) (h : s.LateMeansReportable)
    (hleaves : s.Collects n → LeavesNothing s.monitoredItems) :
    o.subscription.LateMeansReportable := by
  obtain ⟨flag, hflag, hcases⟩ := tickPublish_cases ho
  have hremem :
      { s with _hasUncollectedMonitoredItemNotifications := flag }.LateMeansReportable :=
    h.of_same rfl hflag
  rcases hcases with ⟨-, rfl⟩ | ⟨-, ho⟩ | ⟨-, -, rfl⟩ | ⟨-, -, rfl⟩
  · exact h.of_same rfl hflag
  · refine process_subscription_lateMeansReportable ho hremem fun hcollects => hleaves ?_
    obtain ⟨hn, hen, hpend, hans⟩ := hcollects
    refine ⟨hn, hen, hpend, ?_⟩
    rw [hasUncollectedMonitoredItemNotifications_iff] at hans
    rcases hans with hans | hans
    · exact hflag hans
    · exact s.hasUncollectedMonitoredItemNotifications_iff.mpr (.inr hans)
  · exact _process_keepAlive_lateMeansReportable hremem n
  · exact h.of_same rfl hflag

/-- `terminate` keeps the law when no positive answer is remembered. -/
lemma terminate_lateMeansReportable (hopen : s.state ≠ .CLOSED)
    (hflag : s._hasUncollectedMonitoredItemNotifications = false) :
    s.terminate.LateMeansReportable := by
  have hitems := terminate_monitoredItems hopen
  have hkept : s.terminate._hasUncollectedMonitoredItemNotifications = false := by
    obtain ⟨pending, items, timerId, state, h⟩ := s.terminate_eq
    rw [h]
    exact hflag
  rw [lateMeansReportable_iff, hitems, hkept]
  simp

/-- `_tick` keeps the law when its harvest leaves nothing in the items; when the life time expires,
no positive answer must be remembered. -/
lemma _tick_lateMeansReportable {n : ℕ}
    (hopen : s.state ≠ .CLOSED) (ho : s._tick n = some o) (h : s.LateMeansReportable)
    (hexp : s.tickStart.lifeTimeHasExpired = true →
      s._hasUncollectedMonitoredItemNotifications = false)
    (hleaves : s.Collects n → LeavesNothing s.monitoredItems) :
    o.subscription.LateMeansReportable := by
  unfold _tick at ho
  rw [if_neg hopen] at ho
  dsimp only at ho
  split_ifs at ho with hlife
  · injection ho with ho
    subst ho
    have hflag := hexp hlife
    rw [tickStart_eq]
    exact terminate_lateMeansReportable hopen hflag
  · rw [tickStart_eq] at ho
    refine tickPublish_lateMeansReportable ho ?_ ?_
    · exact h.of_same rfl fun hflag => s.hasUncollectedMonitoredItemNotifications_iff.mpr (.inl hflag)
    · rintro ⟨hn, hen, hpend, hans⟩
      rw [hasUncollectedMonitoredItemNotifications_iff] at hans
      exact hleaves ⟨hn, hen, hpend,
        s.hasUncollectedMonitoredItemNotifications_iff.mpr hans⟩

end Subscription

/-! ### Runs -/

namespace SubscriptionLife

open Subscription (LeavesNothing)

variable [MonitoredItemInterface V I]

/-- **Nothing is held back** by a step. A harvest leaves nothing in the items; an item that is
created with notifications can report them, or another one can; and when an item changes or is
deleted, it or another one can report, or no positive answer is remembered and no other item has a
notification. -/
def HoldsNothingBack (l : SubscriptionLife V I) (event : SubscriptionEvent V I) : Prop :=
  l.subscription.state ≠ .CLOSED →
  match event with
  | .timerTick n | .reTick n =>
    (l.subscription.tickStart.lifeTimeHasExpired = true →
      l.subscription._hasUncollectedMonitoredItemNotifications = false) ∧
    (l.subscription.Collects n → LeavesNothing l.subscription.monitoredItems)
  | .processSubscription n =>
    l.subscription.Collects n → LeavesNothing l.subscription.monitoredItems
  | .resendInitialValues items =>
    LeavesNothing ((l.subscription.monitoredItems.map Prod.fst).zip items)
  | .createMonitoredItem _ item =>
    hasMonitoredItemNotifications item = true →
      reportable item = true ∨
        ∃ other ∈ l.subscription.monitoredItems, reportable other.2 = true
  | .monitoredItemChange monitoredItemId item =>
    let others := l.subscription.monitoredItems.filter fun other => other.1 ≠ monitoredItemId
    reportable item = true ∨ (∃ other ∈ others, reportable other.2 = true) ∨
      (l.subscription._hasUncollectedMonitoredItemNotifications = false ∧
        hasMonitoredItemNotifications item = false ∧
        ∀ other ∈ others, hasMonitoredItemNotifications other.2 = false)
  | .removeMonitoredItem monitoredItemId =>
    let others := l.subscription.monitoredItems.filter fun other => other.1 ≠ monitoredItemId
    (∃ other ∈ others, reportable other.2 = true) ∨
      (l.subscription._hasUncollectedMonitoredItemNotifications = false ∧
        ∀ other ∈ others, hasMonitoredItemNotifications other.2 = false)
  | .terminate => l.subscription._hasUncollectedMonitoredItemNotifications = false
  | _ => True

variable {monitoredItemId : ℕ}

omit [MonitoredItemInterface V I] in
lemma exists_replaced_iff {items : List (ℕ × I)} {item : I} {P : I → Prop}
    (hmem : ∃ e ∈ items, e.1 = monitoredItemId) :
    (∃ e ∈ items.map fun e => if e.1 = monitoredItemId then (monitoredItemId, item) else e, P e.2) ↔
      P item ∨ ∃ e ∈ items.filter fun e => e.1 ≠ monitoredItemId, P e.2 := by
  constructor
  · rintro ⟨e, he, hP⟩
    obtain ⟨old, hold, rfl⟩ := List.mem_map.mp he
    by_cases hkey : old.1 = monitoredItemId
    · rw [if_pos hkey] at hP
      exact .inl hP
    · rw [if_neg hkey] at hP
      exact .inr ⟨old, List.mem_filter.mpr ⟨hold, decide_eq_true hkey⟩, hP⟩
  · rintro (hP | ⟨e, he, hP⟩)
    · obtain ⟨old, hold, hkey⟩ := hmem
      exact ⟨(monitoredItemId, item), List.mem_map.mpr ⟨old, hold, if_pos hkey⟩, hP⟩
    · obtain ⟨hmem, hkey⟩ := List.mem_filter.mp he
      exact ⟨e, List.mem_map.mpr ⟨e, hmem, if_neg (of_decide_eq_true hkey)⟩, hP⟩

variable {s : Subscription V I}

lemma createMonitoredItem_lateMeansReportable {item : I} (h : s.LateMeansReportable)
    (hholds : hasMonitoredItemNotifications item = true →
      reportable item = true ∨ ∃ other ∈ s.monitoredItems, reportable other.2 = true) :
    { s with
        monitoredItems := s.monitoredItems ++ [(monitoredItemId, item)] }.LateMeansReportable := by
  rw [Subscription.lateMeansReportable_iff] at h ⊢
  have hold : (∃ other ∈ s.monitoredItems, reportable other.2 = true) →
      ∃ e ∈ s.monitoredItems ++ [(monitoredItemId, item)], reportable e.2 = true := by
    rintro ⟨other, hother, hrep⟩
    exact ⟨other, List.mem_append_left _ hother, hrep⟩
  rintro (hflag | ⟨e, he, hhas⟩)
  · exact hold (h (.inl hflag))
  · rcases List.mem_append.mp he with he | he
    · exact hold (h (.inr ⟨e, he, hhas⟩))
    · obtain rfl := List.mem_singleton.mp he
      rcases hholds hhas with hrep | hother
      · exact ⟨_, List.mem_append_right _ List.mem_cons_self, hrep⟩
      · exact hold hother

lemma removeMonitoredItem_lateMeansReportable
    (hholds : (∃ other ∈ s.monitoredItems.filter fun other => other.1 ≠ monitoredItemId,
        reportable other.2 = true) ∨
      (s._hasUncollectedMonitoredItemNotifications = false ∧
        ∀ other ∈ s.monitoredItems.filter fun other => other.1 ≠ monitoredItemId,
          hasMonitoredItemNotifications other.2 = false)) :
    (s.removeMonitoredItem monitoredItemId).1.LateMeansReportable := by
  have hflag : (s.removeMonitoredItem monitoredItemId).1._hasUncollectedMonitoredItemNotifications =
      s._hasUncollectedMonitoredItemNotifications := by
    obtain ⟨pending, items, h⟩ := s.removeMonitoredItem_eq monitoredItemId
    rw [h]
  rw [Subscription.lateMeansReportable_iff, hflag, Subscription.removeMonitoredItem_monitoredItems]
  intro hans
  rcases hholds with hrep | ⟨hfalse, hnone⟩
  · exact hrep
  · rcases hans with htrue | ⟨other, hother, hhas⟩
    · rw [hfalse] at htrue
      cases htrue
    · rw [hnone other hother] at hhas
      cases hhas

lemma monitoredItemChange_lateMeansReportable {item : I} (h : s.LateMeansReportable)
    (hholds : reportable item = true ∨
      (∃ other ∈ s.monitoredItems.filter fun other => other.1 ≠ monitoredItemId,
        reportable other.2 = true) ∨
      (s._hasUncollectedMonitoredItemNotifications = false ∧
        hasMonitoredItemNotifications item = false ∧
        ∀ other ∈ s.monitoredItems.filter fun other => other.1 ≠ monitoredItemId,
          hasMonitoredItemNotifications other.2 = false)) :
    { s with
        monitoredItems := s.monitoredItems.map fun e : ℕ × I =>
          if e.1 = monitoredItemId then (monitoredItemId, item) else e }.LateMeansReportable := by
  by_cases hmem : ∃ e ∈ s.monitoredItems, e.1 = monitoredItemId
  · rw [Subscription.lateMeansReportable_iff]
    rw [exists_replaced_iff (P := fun item => hasMonitoredItemNotifications item = true) hmem,
      exists_replaced_iff (P := fun item => reportable item = true) hmem]
    intro hans
    rcases hholds with hrep | hrep | ⟨hfalse, hnone, hnones⟩
    · exact .inl hrep
    · exact .inr hrep
    · rcases hans with htrue | hhas | ⟨other, hother, hhas⟩
      · rw [hfalse] at htrue
        cases htrue
      · rw [hnone] at hhas
        cases hhas
      · rw [hnones other hother] at hhas
        cases hhas
  · have hsame : (s.monitoredItems.map fun e : ℕ × I =>
        if e.1 = monitoredItemId then (monitoredItemId, item) else e) = s.monitoredItems := by
      refine (List.map_congr_left fun e he => ?_).trans (List.map_id _)
      exact if_neg fun hkey => hmem ⟨e, he, hkey⟩
    refine h.of_same hsame fun hflag => ?_
    exact s.hasUncollectedMonitoredItemNotifications_iff.mpr (.inl hflag)

variable {event : SubscriptionEvent V I} {l : SubscriptionLife V I}

lemma stepOpen_lateMeansReportable
    (hopen : l.subscription.state ≠ .CLOSED) (h : l.subscription.LateMeansReportable)
    (hholds : l.HoldsNothingBack event) :
    (l.stepOpen event).1.subscription.LateMeansReportable := by
  have hholds := hholds hopen
  have hsame : ∀ t : Subscription V I, t.monitoredItems = l.subscription.monitoredItems →
      t._hasUncollectedMonitoredItemNotifications =
        l.subscription._hasUncollectedMonitoredItemNotifications → t.LateMeansReportable := by
    intro t hitems hflag
    refine h.of_same hitems fun hremem => ?_
    rw [hflag] at hremem
    exact l.subscription.hasUncollectedMonitoredItemNotifications_iff.mpr (.inl hremem)
  have hcall : ∀ out : Option (Outcome V I),
      (∀ o, out = some o → o.subscription.LateMeansReportable) →
      (l.call out).1.subscription.LateMeansReportable := by
    intro out ho
    cases out with
    | none => exact h
    | some o => exact ho o rfl
  cases event with
  | timerTick n | reTick n =>
    exact hcall _ fun o ho => Subscription._tick_lateMeansReportable hopen ho h hholds.1 hholds.2
  | processSubscription n =>
    unfold stepOpen
    split_ifs
    · exact hcall _ fun o ho =>
        Subscription.process_subscription_lateMeansReportable ho h hholds
    · exact h
  | acknowledge n =>
    refine hsame _ ?_ ?_
    · unfold stepOpen Subscription.acknowledgeNotification
      dsimp only
      split <;> rfl
    · unfold stepOpen Subscription.acknowledgeNotification
      dsimp only
      split <;> rfl
  | createMonitoredItem itemId item =>
    unfold stepOpen
    dsimp only
    split_ifs
    · exact h
    · exact createMonitoredItem_lateMeansReportable h hholds
  | removeMonitoredItem itemId => exact removeMonitoredItem_lateMeansReportable hholds
  | monitoredItemChange itemId item => exact monitoredItemChange_lateMeansReportable h hholds
  | resendInitialValues items =>
    unfold stepOpen
    dsimp only
    split_ifs
    · refine Subscription.lateMeansReportable_of_extracted
        (s := { l.subscription with
          monitoredItems := (l.subscription.monitoredItems.map Prod.fst).zip items }) rfl rfl hholds
    · exact h
  | transfer sess n =>
    unfold stepOpen
    dsimp only
    split_ifs
    · exact h
    · unfold transfer
      rw [Subscription.notifyTransfer_eq, call_some]
      by_cases hn : n = 0
      · rw [if_pos hn]
        exact hsame _ rfl rfl
      · rw [if_neg hn]
        exact hsame _ (Subscription.messagePublished_monitoredItems _)
          (Subscription.messagePublished_flag _)
  | terminate => exact Subscription.terminate_lateMeansReportable hopen hholds
  | _ => exact hsame _ rfl rfl

lemma step_lateMeansReportable
    (h : l.subscription.LateMeansReportable) (hholds : l.HoldsNothingBack event) :
    (l.step event).1.subscription.LateMeansReportable := by
  have hremem : l.subscription._hasUncollectedMonitoredItemNotifications = true →
      l.subscription.hasUncollectedMonitoredItemNotifications.1 = true := fun hflag =>
    l.subscription.hasUncollectedMonitoredItemNotifications_iff.mpr (.inl hflag)
  rcases l.step_cases event with ⟨sess, -, -, hstep⟩ | ⟨-, n, -, hstep⟩ | ⟨-, -, -, hstep⟩ |
    ⟨hopen, hstep⟩ | hstep <;> rw [hstep]
  · exact h.of_same rfl hremem
  · cases ho : l.subscription._publish_pending_notifications n with
    | none => exact h
    | some o =>
      obtain ⟨-, -, rfl⟩ := Subscription._publish_pending_notifications_cases ho
      exact Subscription.messagePublished_lateMeansReportable h
  · exact h.of_same rfl hremem
  · exact stepOpen_lateMeansReportable hopen h hholds
  · exact h

end SubscriptionLife

end NodeOpcua
