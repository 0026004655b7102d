import NodeOpcua.Library.ComparisonSort
import NodeOpcua.Server.PublishEngine.Basic

set_option autoImplicit false

/-!
# The starving subscription

When a Publish request comes and subscriptions are late, one of them is served: the last one after they
have been sorted.

## Main definitions

* `Subscription.compare_subscriptions`.
* `PublishEngine._find_starving_subscription`.
* `Subscription.MostStarving`.

## Main results

* `PublishEngine.find_starving_of_last`.
* `PublishEngine.servesMostStarving_iff`.

## Design

The comparator tells only one of the two orders of a pair apart: it is positive, or zero. A sort that
asks whether a later element is less than an earlier one learns nothing from it.
-/

namespace NodeOpcua

open ComparisonSort (StableSort insertionSort)

variable {V I : Type}

namespace Subscription

/-- `compare_subscriptions`. -/
def compare_subscriptions (s1 s2 : Subscription V I) : ℤ :=
  if s1.priority = s2.priority then
    if s1.timeToExpiration < s2.timeToExpiration then 1 else 0
  else if s1.priority > s2.priority then 1 else 0

/-- **The subscription that should be served**: no other has a higher priority, and no other of its
priority is closer to its expiration. -/
structure MostStarving (late_subscriptions : List (Subscription V I)) (s : Subscription V I) :
    Prop where
  late : s ∈ late_subscriptions
  priority_le : ∀ t ∈ late_subscriptions, t.priority ≤ s.priority
  timeToExpiration_le : ∀ t ∈ late_subscriptions, t.priority = s.priority →
    s.timeToExpiration ≤ t.timeToExpiration

lemma compare_subscriptions_nonneg (s1 s2 : Subscription V I) : 0 ≤ compare_subscriptions s1 s2 := by
  unfold compare_subscriptions
  split_ifs <;> omega

lemma MostStarving.compare_nonpos {late_subscriptions : List (Subscription V I)}
    {s t : Subscription V I} (h : MostStarving late_subscriptions s) (ht : t ∈ late_subscriptions) :
    compare_subscriptions t s ≤ 0 := by
  unfold compare_subscriptions
  have hpriority := h.priority_le t ht
  by_cases heq : t.priority = s.priority
  · have htime := h.timeToExpiration_le t ht heq
    rw [if_pos heq, if_neg (not_lt.mpr htime)]
  · rw [if_neg heq, if_neg (by omega)]

end Subscription

namespace PublishEngine

open Subscription (compare_subscriptions MostStarving)

section

variable (array : StableSort (Subscription V I)) (e : PublishEngine V I)

/-- `#_find_starving_subscription`, with `Array.prototype.sort`. -/
def _find_starving_subscription :
    Option (Subscription V I) :=
  let late_subscriptions := e.findLateSubscriptions
  if late_subscriptions.length = 0 then none
  else (array.sort compare_subscriptions late_subscriptions).getLast?

/-- The subscription that should be served is, when one is late. -/
def ServesMostStarving : Prop :=
  e.findLateSubscriptions ≠ [] →
    ∃ s, _find_starving_subscription array e = some s ∧ MostStarving e.findLateSubscriptions s

end

variable {e : PublishEngine V I}

lemma mem_of_find_starving {array : StableSort (Subscription V I)}
    {s : Subscription V I} (h : _find_starving_subscription array e = some s) :
    s ∈ e.findLateSubscriptions := by
  unfold _find_starving_subscription at h
  dsimp only at h
  split at h
  · cases h
  · exact (array.rearranges _ _).perm.mem_iff.mp (List.mem_of_getLast? h)

lemma find_starving_eq_none_iff (array : StableSort (Subscription V I)) (e : PublishEngine V I) :
    _find_starving_subscription array e = none ↔ e.findLateSubscriptions = [] := by
  have hperm := (array.rearranges compare_subscriptions e.findLateSubscriptions).perm
  unfold _find_starving_subscription
  dsimp only
  split
  · next hempty => simpa using List.length_eq_zero_iff.mp hempty
  · next hsome =>
    rw [List.getLast?_eq_none_iff]
    constructor
    · intro hnil
      rw [hnil] at hperm
      exact hperm.nil_eq.symm
    · intro hnil
      exact absurd (by rw [hnil]; rfl) hsome

/-- **The last late subscription is served**, when it should be. -/
theorem find_starving_of_last (array : StableSort (Subscription V I))
    {last : Subscription V I} (hlast : e.findLateSubscriptions.getLast? = some last)
    (hmost : MostStarving e.findLateSubscriptions last) :
    _find_starving_subscription array e = some last := by
  have hnonempty : ¬ e.findLateSubscriptions.length = 0 := by
    intro hempty
    rw [List.length_eq_zero_iff.mp hempty] at hlast
    cases hlast
  unfold _find_starving_subscription
  rw [if_neg hnonempty]
  apply (array.rearranges compare_subscriptions e.findLateSubscriptions).getLast?_eq hlast
  intro t ht
  have hnonneg := Subscription.compare_subscriptions_nonneg last t
  exact ⟨hnonneg, hmost.compare_nonpos ht⟩

lemma find_starving_insertionSort (hlate : e.findLateSubscriptions ≠ []) :
    _find_starving_subscription (insertionSort _) e = e.findLateSubscriptions.getLast? := by
  unfold _find_starving_subscription
  rw [if_neg (fun h => hlate (List.length_eq_zero_iff.mp h)),
    ComparisonSort.insertionSort_sort_eq_self Subscription.compare_subscriptions_nonneg]

/-- **The choice of the starving subscription**: whatever the sort, the subscription that should be
served is, if and only if it is the last of the late ones before they are sorted. -/
theorem servesMostStarving_iff (e : PublishEngine V I) :
    (∀ array, ServesMostStarving array e) ↔
      ∀ last ∈ e.findLateSubscriptions.getLast?, MostStarving e.findLateSubscriptions last := by
  constructor
  · intro h last hlast
    have hlate : e.findLateSubscriptions ≠ [] := by
      intro hnil
      rw [hnil] at hlast
      cases hlast
    obtain ⟨s, hs, hmost⟩ := h (insertionSort _) hlate
    rw [find_starving_insertionSort hlate] at hs
    obtain rfl := Option.some.inj (hs.symm.trans hlast)
    exact hmost
  · intro h array hlate
    obtain ⟨last, hlast⟩ : ∃ last, e.findLateSubscriptions.getLast? = some last :=
      ⟨_, List.getLast?_eq_some_getLast hlate⟩
    exact ⟨last, find_starving_of_last array hlast (h last hlast), h last hlast⟩

/-- Of two late subscriptions the one with the lower priority is served, as it is the last. -/
theorem starving_lowPriority :
    let parameters := RevisedParameters.adjust (some 100) 10 30 1
    let e := (((PublishEngine.new 100 : PublishEngine ℕ ℕ).add_subscription
      (Subscription.new 1 2 parameters true)).bind fun e =>
        e.add_subscription (Subscription.new 2 1 parameters true)).getD (PublishEngine.new 100)
    (_find_starving_subscription (insertionSort _) e).map Subscription.id = some 2 ∧
      ¬ ∀ array, ServesMostStarving array e := by
  intro parameters e
  have hserved : (_find_starving_subscription (insertionSort _) e).map
      (fun s => (s.id, s.priority)) = some (2, 1) := by decide +kernel
  have hlate : ∃ t ∈ e.findLateSubscriptions, t.priority = 2 := by decide +kernel
  refine ⟨by decide +kernel, fun h => ?_⟩
  obtain ⟨t, ht, hpriority⟩ := hlate
  obtain ⟨s, hs, hmost⟩ := h (insertionSort _) (List.ne_nil_of_mem ht)
  rw [hs] at hserved
  have hle := hmost.priority_le t ht
  simp at hserved
  omega

/-! ### The late subscription that is fed -/

section MonitoredItems

variable [MonitoredItemInterface V I] (array : StableSort (Subscription V I))
  (e : PublishEngine V I)

/-- The callback of `#_feed_late_subscription`, with `Array.prototype.sort`. -/
def feedStarvingSubscription :
    Option (PublishEngine V I) :=
  if e.pendingPublishRequestCount = 0 then some e
  else
    match _find_starving_subscription array e with
    | none => some e
    | some starving_subscription =>
      (starving_subscription.process_subscription e.pendingPublishRequestCount).bind e.afterCall

lemma feedStarvingSubscription_eq :
    ∃ choice, feedStarvingSubscription array e = e._feed_late_subscription choice := by
  unfold feedStarvingSubscription _feed_late_subscription
  cases hfind : _find_starving_subscription array e with
  | none =>
    have hnil := (find_starving_eq_none_iff array e).mp hfind
    refine ⟨0, ?_⟩
    simp only [hnil, List.length_nil, List.getElem?_nil]
  | some s =>
    obtain ⟨choice, hlt, hs⟩ := List.getElem_of_mem (mem_of_find_starving hfind)
    refine ⟨choice, ?_⟩
    rw [Nat.mod_eq_of_lt hlt, List.getElem?_eq_getElem hlt, hs]

end MonitoredItems

end PublishEngine

end NodeOpcua
