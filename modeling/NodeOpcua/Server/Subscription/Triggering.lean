import Mathlib.Data.Finset.Basic
import Mathlib.Logic.Function.Basic
import NodeOpcua.Library.Mealy
import NodeOpcua.Server.MonitoredItem.Basic

set_option autoImplicit false

/-!
# Triggering

A notification of a monitored item triggers the items that are linked to it: those that are sampled
report what they have. `SetTriggering` removes and adds links.

## Main definitions

* `LinkedItem`, `LinkingSubscription.setTriggering`, `LinkSet`, `LinkingSubscription.step`.

## Main results

* `LinkingSubscription.run_untriggered`.
* `LinkingSubscription.setsLinks_iff`.

## Design

The array of links is empty when it is undefined, as no function tells the two apart. Of an item, what
triggering reads is kept: its id, its mode and its links.
-/

namespace NodeOpcua

/-! ### Operations link by link -/

/-- **An operation for each link**, with the results. -/
def perLink {σ : Type} (op : σ → ℕ → σ × StatusCode) : σ → List ℕ → σ × List StatusCode
  | s, [] => (s, [])
  | s, id :: ids =>
    let r := op s id
    let rest := perLink op r.1 ids
    (rest.1, r.2 :: rest.2)

section PerLink

variable {σ τ : Type} {op : σ → ℕ → σ × StatusCode} {op' : τ → ℕ → τ × StatusCode}

@[simp] lemma perLink_nil (s : σ) : perLink op s [] = (s, []) := rfl

@[simp] lemma perLink_cons (s : σ) (id : ℕ) (ids : List ℕ) :
    perLink op s (id :: ids) =
      ((perLink op (op s id).1 ids).1, (op s id).2 :: (perLink op (op s id).1 ids).2) := rfl

/-- **Two states that agree**, with the same results, after each operation. -/
lemma perLink_agree (Agree : σ → τ → Prop)
    (hop : ∀ s t id, Agree s t → Agree (op s id).1 (op' t id).1 ∧ (op s id).2 = (op' t id).2)
    {s : σ} {t : τ} (h : Agree s t) (ids : List ℕ) :
    Agree (perLink op s ids).1 (perLink op' t ids).1 ∧
      (perLink op s ids).2 = (perLink op' t ids).2 := by
  induction ids generalizing s t with
  | nil => exact ⟨h, rfl⟩
  | cons id ids ih =>
    obtain ⟨hagree, hres⟩ := hop s t id h
    obtain ⟨hrest, hresults⟩ := ih hagree
    simp only [perLink_cons]
    exact ⟨hrest, by rw [hres, hresults]⟩

/-- **Two states that disagree**, or different results, after each operation. -/
lemma perLink_disagree (Disagree : σ → τ → Prop)
    (hop : ∀ s t id, Disagree s t → (op s id).2 = (op' t id).2 →
      Disagree (op s id).1 (op' t id).1)
    {s : σ} {t : τ} (h : Disagree s t) {ids : List ℕ}
    (hresults : (perLink op s ids).2 = (perLink op' t ids).2) :
    Disagree (perLink op s ids).1 (perLink op' t ids).1 := by
  induction ids generalizing s t with
  | nil => exact h
  | cons id ids ih =>
    simp only [perLink_cons, List.cons.injEq] at hresults
    exact ih (hop s t id h hresults.1) hresults.2

lemma perLink_invariant (Inv : σ → Prop) {ids : List ℕ}
    (hop : ∀ id ∈ ids, ∀ s, Inv s → Inv (op s id).1) {s : σ} (h : Inv s) :
    Inv (perLink op s ids).1 := by
  induction ids generalizing s with
  | nil => exact h
  | cons id ids ih =>
    have hrest : ∀ id ∈ ids, ∀ s, Inv s → Inv (op s id).1 :=
      fun id hid => hop id (List.mem_cons_of_mem _ hid)
    exact ih hrest (hop id List.mem_cons_self s h)

end PerLink

/-! ### Links of an item -/

/-- **A monitored item**, which is never linked to itself. -/
structure LinkedItem where
  monitoredItemId : ℕ
  monitoringMode : MonitoringMode
  _linkedItems : List ℕ
  not_linked : monitoredItemId ∉ _linkedItems

namespace LinkedItem

section

variable (m : LinkedItem) (linkedMonitoredItemId : ℕ)

/-- `hasLinkItem`. -/
def hasLinkItem : Bool :=
  match m._linkedItems.idxOf? linkedMonitoredItemId with
  | none => false
  | some index => 0 < index

/-- `addLinkItem`. -/
def addLinkItem : LinkedItem × StatusCode :=
  if hself : linkedMonitoredItemId = m.monitoredItemId then (m, .BadMonitoredItemIdInvalid)
  else if m.hasLinkItem linkedMonitoredItemId then (m, .BadMonitoredItemIdInvalid)
  else
    ({ m with
        _linkedItems := m._linkedItems ++ [linkedMonitoredItemId]
        not_linked := by
          have hm := m.not_linked
          simp only [List.mem_append, List.mem_singleton, not_or]
          exact ⟨hm, fun h => hself h.symm⟩ }, .Good)

/-- `removeLinkItem`. -/
def removeLinkItem : LinkedItem × StatusCode :=
  if linkedMonitoredItemId = m.monitoredItemId then (m, .BadMonitoredItemIdInvalid)
  else
    match m._linkedItems.idxOf? linkedMonitoredItemId with
    | none => (m, .BadMonitoredItemIdInvalid)
    | some index =>
      ({ m with
          _linkedItems := m._linkedItems.eraseIdx index
          not_linked := fun h => m.not_linked (List.mem_of_mem_eraseIdx h) }, .Good)

end

variable (m : LinkedItem) (id : ℕ)

lemma hasLinkItem_iff :
    m.hasLinkItem id = true ↔ id ∈ m._linkedItems ∧ m._linkedItems.head? ≠ some id := by
  unfold hasLinkItem
  cases hlinks : m._linkedItems with
  | nil => simp
  | cons first links =>
    rw [List.idxOf?_cons]
    by_cases hfirst : first = id
    · simp [hfirst]
    · have hne : (first == id) = false := by simpa using hfirst
      rw [hne]
      cases hindex : links.idxOf? id with
      | none =>
        have hnot : id ∉ links := by simpa using hindex
        simp [hnot, Ne.symm hfirst]
      | some index =>
        have hmem : id ∈ links := by
          by_contra hnot
          have hnone : links.idxOf? id = none := by simpa using hnot
          rw [hnone] at hindex
          cases hindex
        simp [hmem, hfirst]

lemma addLinkItem_links :
    (m.addLinkItem id).1._linkedItems =
        (if id ≠ m.monitoredItemId ∧ m.hasLinkItem id = false then m._linkedItems ++ [id]
        else m._linkedItems) ∧
      (m.addLinkItem id).2 =
        (if id ≠ m.monitoredItemId ∧ m.hasLinkItem id = false then .Good
        else .BadMonitoredItemIdInvalid) ∧
      (m.addLinkItem id).1.monitoredItemId = m.monitoredItemId := by
  unfold addLinkItem
  by_cases hself : id = m.monitoredItemId
  · simp [hself]
  · cases hhas : m.hasLinkItem id <;> simp [hself]

lemma removeLinkItem_links :
    (m.removeLinkItem id).1._linkedItems = m._linkedItems.erase id ∧
      (m.removeLinkItem id).2 =
        (if id ∈ m._linkedItems then .Good else .BadMonitoredItemIdInvalid) ∧
      (m.removeLinkItem id).1.monitoredItemId = m.monitoredItemId := by
  unfold removeLinkItem
  by_cases hself : id = m.monitoredItemId
  · have hnot : id ∉ m._linkedItems := hself ▸ m.not_linked
    rw [if_pos hself, if_neg hnot, List.erase_of_not_mem hnot]
    exact ⟨rfl, rfl, rfl⟩
  · rw [if_neg hself, List.erase_eq_eraseIdx]
    cases hindex : m._linkedItems.idxOf? id with
    | none =>
      have hnot : id ∉ m._linkedItems := by simpa using hindex
      rw [if_neg hnot]
      exact ⟨rfl, rfl, rfl⟩
    | some index =>
      have hmem : id ∈ m._linkedItems := by
        by_contra hnot
        have hnone : m._linkedItems.idxOf? id = none := by simpa using hnot
        rw [hnone] at hindex
        cases hindex
      rw [if_pos hmem]
      exact ⟨rfl, rfl, rfl⟩

end LinkedItem

/-! ### Links as a set -/

namespace LinkSet

/-- A link is removed from the set, when the item is known. -/
def remove (known : ℕ → Bool) (links : Finset ℕ) (id : ℕ) : Finset ℕ × StatusCode :=
  if known id ∧ id ∈ links then (links.erase id, .Good) else (links, .BadMonitoredItemIdInvalid)

/-- A link is added to the set, when the item is known and is not the triggering item itself. -/
def add (known : ℕ → Bool) (triggeringItemId : ℕ) (links : Finset ℕ) (id : ℕ) :
    Finset ℕ × StatusCode :=
  if (known id ∧ id ≠ triggeringItemId) ∧ id ∉ links then (insert id links, .Good)
  else (links, .BadMonitoredItemIdInvalid)

variable (known : ℕ → Bool) (triggeringItemId : ℕ) (links : Finset ℕ) (id : ℕ) (ids : List ℕ)

lemma perLink_remove :
    (perLink (remove known) links ids).1 = links \ (ids.filter known).toFinset := by
  induction ids generalizing links with
  | nil => simp
  | cons id ids ih =>
    simp only [perLink_cons, ih, remove]
    ext other
    by_cases hknown : known id = true <;> by_cases hmem : id ∈ links <;>
      by_cases hother : other = id <;> simp_all

lemma perLink_add :
    (perLink (add known triggeringItemId) links ids).1 =
      links ∪ (ids.filter fun id => known id ∧ id ≠ triggeringItemId).toFinset := by
  induction ids generalizing links with
  | nil => simp
  | cons id ids ih =>
    simp only [perLink_cons, ih]
    by_cases hvalid : known id = true ∧ id ≠ triggeringItemId
    · have hlinks : (add known triggeringItemId links id).1 = insert id links := by
        unfold add
        by_cases hmem : id ∈ links
        · rw [if_neg fun h => h.2 hmem, Finset.insert_eq_of_mem hmem]
        · rw [if_pos ⟨hvalid, hmem⟩]
      rw [hlinks, List.filter_cons_of_pos (by simpa using hvalid), List.toFinset_cons,
        Finset.insert_union, Finset.union_insert]
    · have hlinks : (add known triggeringItemId links id).1 = links := by
        unfold add
        rw [if_neg fun h => hvalid h.1]
      rw [hlinks, List.filter_cons_of_neg (by simpa using hvalid)]

lemma known_of_remove_good
    (h : (id, StatusCode.Good) ∈ ids.zip (perLink (remove known) links ids).2) :
    known id = true ∧ id ∈ ids := by
  induction ids generalizing links with
  | nil => cases h
  | cons first ids ih =>
    simp only [perLink_cons, List.zip_cons_cons, List.mem_cons, Prod.mk.injEq] at h
    rcases h with ⟨rfl, hgood⟩ | hrest
    · refine ⟨?_, List.mem_cons_self⟩
      by_contra hunk
      rw [remove, if_neg fun h => hunk h.1] at hgood
      cases hgood
    · obtain ⟨hknown, hmem⟩ := ih _ hrest
      exact ⟨hknown, List.mem_cons_of_mem _ hmem⟩

end LinkSet

/-! ### The links of an item and the set -/

namespace LinkedItem

/-- An operation for a link, when the item is known. -/
def forKnown (known : ℕ → Bool) (op : LinkedItem → ℕ → LinkedItem × StatusCode) (m : LinkedItem)
    (id : ℕ) : LinkedItem × StatusCode :=
  if known id then op m id else (m, .BadMonitoredItemIdInvalid)

/-- `removeLinkItem` of the triggering item, for each link to remove. -/
def removeLinkItems (known : ℕ → Bool) (m : LinkedItem) (linksToRemove : List ℕ) :
    LinkedItem × List StatusCode :=
  perLink (forKnown known removeLinkItem) m linksToRemove

/-- `addLinkItem` of the triggering item, for each link to add. -/
def addLinkItems (known : ℕ → Bool) (m : LinkedItem) (linksToAdd : List ℕ) :
    LinkedItem × List StatusCode :=
  perLink (forKnown known addLinkItem) m linksToAdd

/-- **The links are the set**, without duplicates. -/
structure Agrees (m : LinkedItem) (links : Finset ℕ) : Prop where
  nodup : m._linkedItems.Nodup
  toFinset_eq : m._linkedItems.toFinset = links

/-- **A link is there twice**, or is not in the set. -/
def Disagrees (m : LinkedItem) (links : Finset ℕ) : Prop :=
  ∃ id ∈ m._linkedItems, 2 ≤ m._linkedItems.count id ∨ id ∉ links

lemma Agrees.not_disagrees {m : LinkedItem} {links : Finset ℕ} (h : m.Agrees links) :
    ¬ m.Disagrees links := by
  rintro ⟨id, hid, htwice | hnot⟩
  · have honce := List.nodup_iff_count_le_one.mp h.nodup id
    omega
  · rw [← h.toFinset_eq, List.mem_toFinset] at hnot
    exact hnot hid

variable {known : ℕ → Bool} {m : LinkedItem} {links : Finset ℕ}

lemma Agrees.remove (h : m.Agrees links) (id : ℕ) :
    (forKnown known removeLinkItem m id).1.Agrees (LinkSet.remove known links id).1 ∧
      (forKnown known removeLinkItem m id).2 = (LinkSet.remove known links id).2 := by
  obtain ⟨herase, hres, -⟩ := m.removeLinkItem_links id
  have hmem : id ∈ links ↔ id ∈ m._linkedItems := by
    rw [← h.toFinset_eq, List.mem_toFinset]
  unfold forKnown LinkSet.remove
  by_cases hknown : known id = true
  · rw [if_pos hknown]
    by_cases hid : id ∈ m._linkedItems
    · rw [if_pos ⟨hknown, hmem.mpr hid⟩, hres, if_pos hid]
      refine ⟨⟨?_, ?_⟩, rfl⟩
      · rw [herase]
        exact h.nodup.erase id
      · rw [herase, ← h.toFinset_eq]
        ext other
        simp [h.nodup.mem_erase_iff]
    · rw [if_neg fun hand => hid (hmem.mp hand.2), hres, if_neg hid]
      refine ⟨⟨?_, ?_⟩, rfl⟩
      · rw [herase, List.erase_of_not_mem hid]
        exact h.nodup
      · rw [herase, List.erase_of_not_mem hid]
        exact h.toFinset_eq
  · rw [if_neg hknown, if_neg fun hand => hknown hand.1]
    exact ⟨h, rfl⟩

variable {id : ℕ}

lemma Disagrees.remove (h : m.Disagrees links)
    (hres : (forKnown known removeLinkItem m id).2 = (LinkSet.remove known links id).2) :
    (forKnown known removeLinkItem m id).1.Disagrees (LinkSet.remove known links id).1 := by
  obtain ⟨herase, hcode, -⟩ := m.removeLinkItem_links id
  unfold forKnown LinkSet.remove at hres ⊢
  by_cases hknown : known id = true
  · rw [if_pos hknown] at hres ⊢
    obtain ⟨other, hother, hbroken⟩ := h
    by_cases hmem : id ∈ links
    · rw [if_pos ⟨hknown, hmem⟩]
      by_cases heq : other = id
      · subst heq
        -- the set loses the link, the array keeps the other copy
        have htwice : 2 ≤ m._linkedItems.count other := hbroken.resolve_right (not_not.mpr hmem)
        refine ⟨other, ?_, .inr (by simp)⟩
        rw [herase, ← List.count_pos_iff, List.count_erase_self]
        omega
      · refine ⟨other, ?_, ?_⟩
        · rw [herase]
          exact (List.mem_erase_of_ne heq).mpr hother
        · rw [herase, List.count_erase_of_ne heq]
          simpa [heq] using hbroken
    · have hfalse : ¬ (known id = true ∧ id ∈ links) := fun hand => hmem hand.2
      rw [if_neg hfalse] at hres ⊢
      have hnot : id ∉ m._linkedItems := by
        intro hid
        rw [hcode, if_pos hid] at hres
        cases hres
      refine ⟨other, ?_, ?_⟩
      · rw [herase, List.erase_of_not_mem hnot]
        exact hother
      · rw [herase, List.erase_of_not_mem hnot]
        exact hbroken
  · rw [if_neg hknown] at hres ⊢
    rw [if_neg fun hand => hknown hand.1]
    exact h

/-- The items that may be linked. -/
def linkable (known : ℕ → Bool) (triggeringItemId : ℕ) (id : ℕ) : Bool :=
  known id ∧ id ≠ triggeringItemId

/-- **The first link is added once only**: it does not occur again among the links and those to add. -/
def FirstLinkOnce (linkedItems added : List ℕ) : Prop :=
  ∀ first ∈ (linkedItems ++ added).head?, (linkedItems ++ added).count first = 1

instance (linkedItems added : List ℕ) : Decidable (FirstLinkOnce linkedItems added) :=
  inferInstanceAs (Decidable (∀ first ∈ (linkedItems ++ added).head?, _))

lemma add_of_not_linkable {id : ℕ} (h : ¬ linkable known m.monitoredItemId id = true) :
    forKnown known addLinkItem m id = (m, .BadMonitoredItemIdInvalid) ∧
      LinkSet.add known m.monitoredItemId links id = (links, .BadMonitoredItemIdInvalid) := by
  unfold linkable at h
  rw [decide_eq_true_eq] at h
  constructor
  · unfold forKnown addLinkItem
    by_cases hknown : known id = true
    · have hself : id = m.monitoredItemId := by
        by_contra hne
        exact h ⟨hknown, hne⟩
      rw [if_pos hknown, dif_pos hself]
    · rw [if_neg hknown]
  · unfold LinkSet.add
    rw [if_neg fun hand => h hand.1]

lemma add_of_linkable {id : ℕ} (h : linkable known m.monitoredItemId id = true) :
    (forKnown known addLinkItem m id).1._linkedItems =
        (if m.hasLinkItem id then m._linkedItems else m._linkedItems ++ [id]) ∧
      (forKnown known addLinkItem m id).2 =
        (if m.hasLinkItem id then .BadMonitoredItemIdInvalid else .Good) ∧
      LinkSet.add known m.monitoredItemId links id =
        (if id ∈ links then (links, .BadMonitoredItemIdInvalid) else (insert id links, .Good)) := by
  obtain ⟨hlinks, hres, -⟩ := m.addLinkItem_links id
  unfold linkable at h
  rw [decide_eq_true_eq] at h
  unfold forKnown LinkSet.add
  rw [if_pos h.1, hlinks, hres]
  refine ⟨?_, ?_, ?_⟩
  · cases hhas : m.hasLinkItem id <;> simp [h.2]
  · cases hhas : m.hasLinkItem id <;> simp [h.2]
  · by_cases hmem : id ∈ links
    · rw [if_pos hmem, if_neg fun hand => hand.2 hmem]
    · rw [if_neg hmem, if_pos ⟨h, hmem⟩]

lemma add_monitoredItemId (known : ℕ → Bool) (m : LinkedItem) (id : ℕ) :
    (forKnown known addLinkItem m id).1.monitoredItemId = m.monitoredItemId := by
  obtain ⟨-, -, hid⟩ := m.addLinkItem_links id
  unfold forKnown
  split
  · exact hid
  · rfl

lemma remove_monitoredItemId (known : ℕ → Bool) (m : LinkedItem) (id : ℕ) :
    (forKnown known removeLinkItem m id).1.monitoredItemId = m.monitoredItemId := by
  obtain ⟨-, -, hid⟩ := m.removeLinkItem_links id
  unfold forKnown
  split
  · exact hid
  · rfl

lemma Agrees.add (h : m.Agrees links) {id : ℕ} (hfirst : m._linkedItems.head? ≠ some id) :
    (forKnown known addLinkItem m id).1.Agrees
        (LinkSet.add known m.monitoredItemId links id).1 ∧
      (forKnown known addLinkItem m id).2 = (LinkSet.add known m.monitoredItemId links id).2 := by
  by_cases hlink : linkable known m.monitoredItemId id = true
  · obtain ⟨hlinks, hres, hset⟩ := @add_of_linkable known m links id hlink
    have hhas : m.hasLinkItem id = true ↔ id ∈ links := by
      rw [hasLinkItem_iff, ← h.toFinset_eq, List.mem_toFinset]
      exact ⟨fun hand => hand.1, fun hid => ⟨hid, hfirst⟩⟩
    by_cases hmem : id ∈ links
    · rw [if_pos (hhas.mpr hmem)] at hlinks hres
      rw [hset, if_pos hmem, hres]
      exact ⟨⟨by rw [hlinks]; exact h.nodup, by rw [hlinks]; exact h.toFinset_eq⟩, rfl⟩
    · rw [if_neg fun hand => hmem (hhas.mp hand)] at hlinks hres
      rw [hset, if_neg hmem, hres]
      have hnot : id ∉ m._linkedItems := by
        rwa [← h.toFinset_eq, List.mem_toFinset] at hmem
      refine ⟨⟨?_, ?_⟩, rfl⟩
      · rw [hlinks]
        exact List.nodup_append.mpr ⟨h.nodup, List.nodup_singleton id, by
          rintro a ha b hb rfl
          rw [List.mem_singleton] at hb
          exact hnot (hb ▸ ha)⟩
      · rw [hlinks, List.toFinset_append, h.toFinset_eq]
        ext other
        simp
  · obtain ⟨hcode, hset⟩ := @add_of_not_linkable known m links id hlink
    rw [hcode, hset]
    exact ⟨h, rfl⟩

/-- **The first link is added again.** -/
lemma add_first (hlink : linkable known m.monitoredItemId id = true)
    (hfirst : m._linkedItems.head? = some id) (links' : Finset ℕ) :
    (forKnown known addLinkItem m id).1.Disagrees links' := by
  obtain ⟨hlinks, -, -⟩ := @add_of_linkable known m links' id hlink
  have hhas : ¬ m.hasLinkItem id = true := by
    rw [hasLinkItem_iff]
    exact fun hand => hand.2 hfirst
  rw [if_neg hhas] at hlinks
  have hmem : id ∈ m._linkedItems := List.mem_of_head? hfirst
  refine ⟨id, by rw [hlinks]; exact List.mem_append_left _ hmem, .inl ?_⟩
  have hcount := List.count_pos_iff.mpr hmem
  rw [hlinks, List.count_append, List.count_singleton_self]
  omega

lemma Disagrees.add (h : m.Disagrees links) {id : ℕ}
    (hres : (forKnown known addLinkItem m id).2 =
      (LinkSet.add known m.monitoredItemId links id).2) :
    (forKnown known addLinkItem m id).1.Disagrees
      (LinkSet.add known m.monitoredItemId links id).1 := by
  by_cases hlink : linkable known m.monitoredItemId id = true
  · obtain ⟨hlinks, hcode, hset⟩ := @add_of_linkable known m links id hlink
    obtain ⟨other, hother, hbroken⟩ := h
    rw [hset] at hres ⊢
    cases hhas : m.hasLinkItem id with
    | true =>
      rw [hhas, if_pos rfl] at hlinks hcode
      have hmem : id ∈ links := by
        by_contra hnot
        rw [if_neg hnot, hcode] at hres
        cases hres
      rw [if_pos hmem]
      exact ⟨other, by rw [hlinks]; exact hother, by rw [hlinks]; exact hbroken⟩
    | false =>
      rw [hhas, if_neg Bool.false_ne_true] at hlinks hcode
      have hnot : id ∉ links := by
        intro hmem
        rw [if_pos hmem, hcode] at hres
        cases hres
      rw [if_neg hnot]
      refine ⟨other, by rw [hlinks]; exact List.mem_append_left _ hother, ?_⟩
      rw [hlinks, List.count_append]
      rcases hbroken with htwice | hmiss
      · exact .inl (by omega)
      · by_cases heq : other = id
        · subst heq
          have hcount := List.count_pos_iff.mpr hother
          rw [List.count_singleton_self]
          exact .inl (by omega)
        · exact .inr (by simp [heq, hmiss])
  · obtain ⟨hcode, hset⟩ := @add_of_not_linkable known m links id hlink
    rw [hcode, hset]
    exact h

lemma Agrees.removeLinkItems (h : m.Agrees links) (removed : List ℕ) :
    (m.removeLinkItems known removed).1.Agrees
        (perLink (LinkSet.remove known) links removed).1 ∧
      (m.removeLinkItems known removed).2 =
        (perLink (LinkSet.remove known) links removed).2 :=
  perLink_agree Agrees (fun _ _ id hagree => hagree.remove id) h removed

lemma Disagrees.removeLinkItems (h : m.Disagrees links) {removed : List ℕ}
    (hresults : (m.removeLinkItems known removed).2 =
      (perLink (LinkSet.remove known) links removed).2) :
    (m.removeLinkItems known removed).1.Disagrees
      (perLink (LinkSet.remove known) links removed).1 := by
  refine perLink_disagree Disagrees ?_ h hresults
  exact fun item set id hdisagrees hres => hdisagrees.remove hres

lemma Disagrees.addLinkItems (h : m.Disagrees links) {trigId : ℕ}
    (hid : m.monitoredItemId = trigId) {added : List ℕ}
    (hresults : (m.addLinkItems known added).2 =
      (perLink (LinkSet.add known trigId) links added).2) :
    (m.addLinkItems known added).1.Disagrees
      (perLink (LinkSet.add known trigId) links added).1 := by
  refine (perLink_disagree (fun (item : LinkedItem) set =>
    item.monitoredItemId = trigId ∧ item.Disagrees set) ?_ ⟨hid, h⟩ hresults).2
  rintro item set other ⟨hitem, hdisagrees⟩ hres
  rw [← hitem] at hres ⊢
  exact ⟨item.add_monitoredItemId known other, hdisagrees.add hres⟩

lemma firstLinkOnce_concat (linkedItems added : List ℕ) (id : ℕ) :
    FirstLinkOnce (linkedItems ++ [id]) added ↔ FirstLinkOnce linkedItems (id :: added) := by
  simp [FirstLinkOnce]

lemma firstLinkOnce_of_mem {linkedItems : List ℕ} (hmem : id ∈ linkedItems)
    (hfirst : linkedItems.head? ≠ some id) (added : List ℕ) :
    FirstLinkOnce linkedItems added ↔ FirstLinkOnce linkedItems (id :: added) := by
  cases linkedItems with
  | nil => cases hmem
  | cons first links =>
    have hne : id ≠ first := fun heq => hfirst (by rw [heq]; rfl)
    simp only [FirstLinkOnce, List.cons_append, List.head?_cons, Option.mem_def, Option.some.injEq,
      forall_eq', List.count_cons, List.count_append]
    simp [hne]

lemma firstLinkOnce_step (hlink : linkable known m.monitoredItemId id = true)
    (hfirst : m._linkedItems.head? ≠ some id) (added : List ℕ) :
    FirstLinkOnce (forKnown known addLinkItem m id).1._linkedItems added ↔
      FirstLinkOnce m._linkedItems (id :: added) := by
  obtain ⟨hlinks, -, -⟩ := @add_of_linkable known m ∅ id hlink
  rw [hlinks]
  by_cases hhas : m.hasLinkItem id = true
  · rw [if_pos hhas]
    exact firstLinkOnce_of_mem ((m.hasLinkItem_iff id).mp hhas).1 hfirst added
  · rw [if_neg hhas]
    exact firstLinkOnce_concat _ _ _

lemma FirstLinkOnce.head?_ne {linkedItems added : List ℕ}
    (h : FirstLinkOnce linkedItems (id :: added)) : linkedItems.head? ≠ some id := by
  intro hfirst
  cases linkedItems with
  | nil => cases hfirst
  | cons first links =>
    obtain rfl : first = id := Option.some.inj hfirst
    have honce := h first (by simp)
    simp only [List.cons_append, List.count_cons_self, List.count_append] at honce
    omega

/-- **Links are added as to a set** when the first one is added once only. -/
lemma Agrees.perLink_add (h : m.Agrees links) {ids : List ℕ}
    (honce : FirstLinkOnce m._linkedItems (ids.filter (linkable known m.monitoredItemId))) :
    (perLink (forKnown known addLinkItem) m ids).1.Agrees
        (perLink (LinkSet.add known m.monitoredItemId) links ids).1 ∧
      (perLink (forKnown known addLinkItem) m ids).2 =
        (perLink (LinkSet.add known m.monitoredItemId) links ids).2 := by
  induction ids generalizing m links with
  | nil => exact ⟨h, rfl⟩
  | cons id ids ih =>
    have hsame := add_monitoredItemId known m id
    -- the rest is added to an item with the same id
    have hrest : ∀ links', (forKnown known addLinkItem m id).1.Agrees links' →
        FirstLinkOnce (forKnown known addLinkItem m id).1._linkedItems
          (ids.filter (linkable known m.monitoredItemId)) →
        (perLink (forKnown known addLinkItem) (forKnown known addLinkItem m id).1 ids).1.Agrees
            (perLink (LinkSet.add known m.monitoredItemId) links' ids).1 ∧
          (perLink (forKnown known addLinkItem) (forKnown known addLinkItem m id).1 ids).2 =
            (perLink (LinkSet.add known m.monitoredItemId) links' ids).2 := by
      intro links' hagree hfirst
      rw [← hsame] at hfirst ⊢
      exact ih hagree hfirst
    simp only [perLink_cons]
    by_cases hlink : linkable known m.monitoredItemId id = true
    · rw [List.filter_cons_of_pos hlink] at honce
      have hfirst := honce.head?_ne
      obtain ⟨hagree, hres⟩ := @Agrees.add known m links h id hfirst
      obtain ⟨hlast, hresults⟩ := hrest _ hagree
        ((firstLinkOnce_step hlink hfirst _).mpr honce)
      exact ⟨hlast, by rw [hres, hresults]⟩
    · rw [List.filter_cons_of_neg hlink] at honce
      obtain ⟨hcode, hset⟩ := @add_of_not_linkable known m links id hlink
      rw [hcode] at hrest ⊢
      rw [hset]
      obtain ⟨hlast, hresults⟩ := hrest links h honce
      exact ⟨hlast, by rw [hresults]⟩

/-- **The first link is added twice**, and stays twice unless the results differ. -/
lemma Agrees.perLink_add_twice (h : m.Agrees links) {ids : List ℕ}
    (htwice : ¬ FirstLinkOnce m._linkedItems (ids.filter (linkable known m.monitoredItemId)))
    (hresults : (perLink (forKnown known addLinkItem) m ids).2 =
      (perLink (LinkSet.add known m.monitoredItemId) links ids).2) :
    (perLink (forKnown known addLinkItem) m ids).1.Disagrees
      (perLink (LinkSet.add known m.monitoredItemId) links ids).1 := by
  induction ids generalizing m links with
  | nil =>
    exfalso
    apply htwice
    intro first hfirst
    rw [List.filter_nil, List.append_nil] at hfirst ⊢
    exact List.count_eq_one_of_mem h.nodup (List.mem_of_head? hfirst)
  | cons id ids ih =>
    have hsame := add_monitoredItemId known m id
    simp only [perLink_cons, List.cons.injEq] at hresults ⊢
    by_cases hlink : linkable known m.monitoredItemId id = true
    · rw [List.filter_cons_of_pos hlink] at htwice
      by_cases hfirst : m._linkedItems.head? = some id
      · have hbroken := add_first hlink hfirst
          (LinkSet.add known m.monitoredItemId links id).1
        exact hbroken.addLinkItems hsame hresults.2
      · obtain ⟨hagree, -⟩ := @Agrees.add known m links h id hfirst
        rw [← firstLinkOnce_step hlink hfirst] at htwice
        have hrest := hresults.2
        generalize (LinkSet.add known m.monitoredItemId links id).1 = links' at hagree hrest ⊢
        rw [← hsame] at htwice hrest ⊢
        exact ih hagree htwice hrest
    · rw [List.filter_cons_of_neg hlink] at htwice
      obtain ⟨hcode, hset⟩ := @add_of_not_linkable known m links id hlink
      rw [hcode, hset] at hresults ⊢
      exact ih h htwice hresults.2

end LinkedItem

/-! ### The subscription -/

/-- **The items of a subscription**, by their ids. -/
structure LinkingSubscription where
  monitoredItems : ℕ → Option LinkedItem
  monitoredItemId_eq : ∀ id m, monitoredItems id = some m → m.monitoredItemId = id

/-- What `setTriggering` returns. -/
structure SetTriggeringResult where
  statusCode : StatusCode
  addResults : List StatusCode
  removeResults : List StatusCode

/-- The answer to a `SetTriggeringRequest`. -/
inductive SetTriggeringAnswer
  | ServiceFault (serviceResult : StatusCode)
  | SetTriggeringResponse (addResults removeResults : List StatusCode)
  deriving DecidableEq

/-- **What happens to the items of a subscription**. A notification is one that `recordValue` makes. -/
inductive LinkingEvent
  | SetTriggeringRequest (triggeringItemId : ℕ) (linksToAdd linksToRemove : Option (List ℕ))
  | notification (monitoredItemId : ℕ)
  | setMonitoringMode (monitoredItemId : ℕ) (monitoringMode : MonitoringMode)
  | createMonitoredItem (monitoredItemId : ℕ) (monitoringMode : MonitoringMode)
  | removeMonitoredItem (monitoredItemId : ℕ)

/-- The event asks to link an item to another one. -/
def LinkingEvent.Adds (triggeringItemId linkedItemId : ℕ) : LinkingEvent → Prop
  | SetTriggeringRequest id (some linksToAdd) _ => id = triggeringItemId ∧ linkedItemId ∈ linksToAdd
  | _ => False

/-- What a step reports. -/
inductive LinkingOutput
  | answered (answer : SetTriggeringAnswer)
  | triggered (triggeringItemId linkedItemId : ℕ)
  | assertionFailed
  deriving DecidableEq

namespace LinkingSubscription

/-- A subscription without items. -/
def new : LinkingSubscription where
  monitoredItems _ := none
  monitoredItemId_eq _ _ h := by cases h

variable (s : LinkingSubscription)

/-- `getMonitoredItem`. -/
def getMonitoredItem (monitoredItemId : ℕ) : Option LinkedItem := s.monitoredItems monitoredItemId

/-- The subscription has the item. -/
def known (monitoredItemId : ℕ) : Bool := (s.getMonitoredItem monitoredItemId).isSome

/-- An item has changed, or is new. -/
def setItem (m : LinkedItem) : LinkingSubscription where
  monitoredItems := Function.update s.monitoredItems m.monitoredItemId (some m)
  monitoredItemId_eq := by
    intro id m' hm'
    by_cases hid : id = m.monitoredItemId
    · subst hid
      rw [Function.update_self] at hm'
      rw [← Option.some.inj hm']
    · rw [Function.update_of_ne hid] at hm'
      exact s.monitoredItemId_eq id m' hm'

/-- `removeMonitoredItem`. -/
def removeMonitoredItem (monitoredItemId : ℕ) : LinkingSubscription where
  monitoredItems := Function.update s.monitoredItems monitoredItemId none
  monitoredItemId_eq := by
    intro id m' hm'
    by_cases hid : id = monitoredItemId
    · subst hid
      rw [Function.update_self] at hm'
      cases hm'
    · rw [Function.update_of_ne hid] at hm'
      exact s.monitoredItemId_eq id m' hm'

/-- `setTriggering`. -/
def setTriggering (triggeringItemId : ℕ) (linksToAdd linksToRemove : Option (List ℕ)) :
    LinkingSubscription × SetTriggeringResult :=
  let linksToAdd := linksToAdd.getD []
  let linksToRemove := linksToRemove.getD []
  if linksToAdd.length = 0 && linksToRemove.length = 0 then (s, ⟨.BadNothingToDo, [], []⟩)
  else
    match s.getMonitoredItem triggeringItemId with
    | none =>
      let found := fun id => if s.known id then StatusCode.Good else .BadMonitoredItemIdInvalid
      (s, ⟨.BadMonitoredItemIdInvalid, linksToAdd.map found, linksToRemove.map found⟩)
    | some triggeringItem =>
      -- the links are removed before others are added
      let removed := triggeringItem.removeLinkItems s.known linksToRemove
      let added := removed.1.addLinkItems s.known linksToAdd
      (s.setItem added.1, ⟨.Good, added.2, removed.2⟩)

/-- `_on_SetTriggeringRequest`, for a subscription of the session. -/
def _on_SetTriggeringRequest (maxMonitoredItemsPerCall triggeringItemId : ℕ)
    (linksToAdd linksToRemove : Option (List ℕ)) : LinkingSubscription × SetTriggeringAnswer :=
  let maxElements := (linksToAdd.getD []).length + (linksToRemove.getD []).length
  if 0 < maxMonitoredItemsPerCall && maxMonitoredItemsPerCall < maxElements then
    (s, .ServiceFault .BadTooManyOperations)
  else
    let r := s.setTriggering triggeringItemId linksToAdd linksToRemove
    if r.2.statusCode.isNotGood then (r.1, .ServiceFault r.2.statusCode)
    else (r.1, .SetTriggeringResponse r.2.addResults r.2.removeResults)

/-- `triggerLinkedItems`, of an item with these links. -/
def triggerLinkedItems (triggeringItemId : ℕ) : List ℕ → List LinkingOutput
  | [] => []
  | linkItem :: linkedItems =>
    match s.getMonitoredItem linkItem with
    | none => triggerLinkedItems triggeringItemId linkedItems
    | some linkedMonitoredItem =>
      match linkedMonitoredItem.monitoringMode with
      | .Disabled | .Reporting => triggerLinkedItems triggeringItemId linkedItems
      | .Sampling =>
        .triggered triggeringItemId linkItem :: triggerLinkedItems triggeringItemId linkedItems
      | .Invalid => [.assertionFailed]

/-- **What happens to the items of a subscription.** The ids of items are not used again. -/
def step (maxMonitoredItemsPerCall : ℕ) (s : LinkingSubscription) :
    LinkingEvent → LinkingSubscription × List LinkingOutput
  | .SetTriggeringRequest triggeringItemId linksToAdd linksToRemove =>
    let r := s._on_SetTriggeringRequest maxMonitoredItemsPerCall triggeringItemId linksToAdd
      linksToRemove
    (r.1, [.answered r.2])
  | .notification monitoredItemId =>
    match s.getMonitoredItem monitoredItemId with
    | none => (s, [])
    | some m => (s, s.triggerLinkedItems monitoredItemId m._linkedItems)
  | .setMonitoringMode monitoredItemId monitoringMode =>
    match s.getMonitoredItem monitoredItemId with
    | none => (s, [])
    | some m => (s.setItem { m with monitoringMode }, [])
  | .createMonitoredItem monitoredItemId monitoringMode =>
    if s.known monitoredItemId then (s, [])
    else (s.setItem ⟨monitoredItemId, monitoringMode, [], List.not_mem_nil⟩, [])
  | .removeMonitoredItem monitoredItemId => (s.removeMonitoredItem monitoredItemId, [])

/-! ### Items that are not linked -/

/-- An item is not linked to another one. -/
def Unlinked (triggeringItemId linkedItemId : ℕ) : Prop :=
  ∀ m, s.getMonitoredItem triggeringItemId = some m → linkedItemId ∉ m._linkedItems

variable {s}

@[simp] lemma getMonitoredItem_setItem (m : LinkedItem) (id : ℕ) :
    (s.setItem m).getMonitoredItem id =
      if id = m.monitoredItemId then some m else s.getMonitoredItem id := by
  unfold setItem getMonitoredItem
  simp only [Function.update_apply]

variable {m : LinkedItem}

lemma Unlinked.setItem {trigId linkedItemId : ℕ} (h : s.Unlinked trigId linkedItemId)
    (hm : m.monitoredItemId = trigId → linkedItemId ∉ m._linkedItems) :
    (s.setItem m).Unlinked trigId linkedItemId := by
  intro m' hm'
  rw [getMonitoredItem_setItem] at hm'
  split at hm'
  · next hid =>
    obtain rfl := Option.some.inj hm'
    exact hm hid.symm
  · exact h m' hm'

lemma not_mem_of_not_added {known : ℕ → Bool} {linkedItemId : ℕ}
    (h : linkedItemId ∉ m._linkedItems) {added : List ℕ} (hnot : linkedItemId ∉ added)
    (removed : List ℕ) :
    linkedItemId ∉
      ((m.removeLinkItems known removed).1.addLinkItems known added).1._linkedItems := by
  apply perLink_invariant fun m : LinkedItem => linkedItemId ∉ m._linkedItems
  · intro id hid m hm
    obtain ⟨hlinks, -, -⟩ := m.addLinkItem_links id
    unfold LinkedItem.forKnown
    split
    · rw [hlinks]
      split
      · have hne : linkedItemId ≠ id := fun heq => hnot (heq ▸ hid)
        simp [hm, hne]
      · exact hm
    · exact hm
  · refine perLink_invariant (fun m : LinkedItem => linkedItemId ∉ m._linkedItems) ?_ h
    intro id _ m hm
    obtain ⟨hlinks, -, -⟩ := m.removeLinkItem_links id
    unfold LinkedItem.forKnown
    split
    · rw [hlinks]
      exact fun hmem => hm (List.mem_of_mem_erase hmem)
    · exact hm

lemma mem_triggerLinkedItems {trigId id linkedItemId : ℕ} {linkedItems : List ℕ}
    (h : LinkingOutput.triggered id linkedItemId ∈ s.triggerLinkedItems trigId linkedItems) :
    id = trigId ∧ linkedItemId ∈ linkedItems := by
  induction linkedItems with
  | nil => cases h
  | cons linkItem linkedItems ih =>
    unfold triggerLinkedItems at h
    have hlater : LinkingOutput.triggered id linkedItemId ∈
        s.triggerLinkedItems trigId linkedItems →
        id = trigId ∧ linkedItemId ∈ linkItem :: linkedItems := fun hrest =>
      (ih hrest).imp_right (List.mem_cons_of_mem _)
    split at h
    · exact hlater h
    · split at h
      · exact hlater h
      · exact hlater h
      · rcases List.mem_cons.mp h with heq | hrest
        · cases heq
          exact ⟨rfl, List.mem_cons_self⟩
        · exact hlater hrest
      · simp at h

/-- The request is carried out: it is within the limit, it names links, and the subscription has the
triggering item. -/
structure Accepts (maxMonitoredItemsPerCall : ℕ) (s : LinkingSubscription) (triggeringItemId : ℕ)
    (linksToAdd linksToRemove : Option (List ℕ)) (triggeringItem : LinkedItem) : Prop where
  within : ¬ (0 < maxMonitoredItemsPerCall ∧
    maxMonitoredItemsPerCall < (linksToAdd.getD []).length + (linksToRemove.getD []).length)
  something : ¬ (linksToAdd.getD [] = [] ∧ linksToRemove.getD [] = [])
  found : s.getMonitoredItem triggeringItemId = some triggeringItem

/-- **What a request does**: nothing, with a fault, or the links are removed and added. -/
lemma on_SetTriggeringRequest_cases (limit : ℕ) (s : LinkingSubscription)
    (trigId : ℕ) (linksToAdd linksToRemove : Option (List ℕ)) :
    (∃ serviceResult, s._on_SetTriggeringRequest limit trigId linksToAdd
        linksToRemove = (s, .ServiceFault serviceResult) ∧
      ∀ m, ¬ Accepts limit s trigId linksToAdd linksToRemove m) ∨
    ∃ m, Accepts limit s trigId linksToAdd linksToRemove m ∧
      let removed := m.removeLinkItems s.known (linksToRemove.getD [])
      let added := removed.1.addLinkItems s.known (linksToAdd.getD [])
      s._on_SetTriggeringRequest limit trigId linksToAdd linksToRemove =
        (s.setItem added.1, .SetTriggeringResponse added.2 removed.2) := by
  unfold _on_SetTriggeringRequest
  dsimp only
  by_cases hlimit : (0 < limit &&
      limit < (linksToAdd.getD []).length + (linksToRemove.getD []).length) = true
  · rw [if_pos hlimit]
    exact .inl ⟨_, rfl, fun m h => h.within (by simpa using hlimit)⟩
  rw [if_neg hlimit]
  by_cases hnothing : ((linksToAdd.getD []).length = 0 && (linksToRemove.getD []).length = 0) = true
  · have hset : s.setTriggering trigId linksToAdd linksToRemove =
        (s, ⟨.BadNothingToDo, [], []⟩) := by
      exact if_pos hnothing
    rw [hset]
    exact .inl ⟨.BadNothingToDo, if_pos rfl, fun m h => h.something (by simpa using hnothing)⟩
  cases hm : s.getMonitoredItem trigId with
  | none =>
    have hset : (s.setTriggering trigId linksToAdd linksToRemove).1 = s ∧
        (s.setTriggering trigId linksToAdd linksToRemove).2.statusCode =
          .BadMonitoredItemIdInvalid := by
      unfold setTriggering
      rw [if_neg hnothing, hm]
      exact ⟨rfl, rfl⟩
    rw [hset.2, hset.1]
    refine .inl ⟨.BadMonitoredItemIdInvalid, if_pos rfl, fun m h => ?_⟩
    have hfound := h.found
    rw [hm] at hfound
    cases hfound
  | some m =>
    refine .inr ⟨m, ⟨by simpa using hlimit, by simpa using hnothing, hm⟩, ?_⟩
    unfold setTriggering
    rw [if_neg hnothing, hm]
    rfl

lemma monitoredItemId_of_links (known : ℕ → Bool) (m : LinkedItem) (added removed : List ℕ) :
    ((m.removeLinkItems known removed).1.addLinkItems known added).1.monitoredItemId =
      m.monitoredItemId := by
  apply perLink_invariant fun item : LinkedItem => item.monitoredItemId = m.monitoredItemId
  · exact fun id _ item hitem => (item.add_monitoredItemId known id).trans hitem
  · apply perLink_invariant fun item : LinkedItem => item.monitoredItemId = m.monitoredItemId
    · exact fun id _ item hitem => (item.remove_monitoredItemId known id).trans hitem
    · rfl

/-- **A step triggers no item that is not linked**, and does not link it unless it is asked to. -/
lemma Unlinked.step {limit trigId linkedItemId : ℕ}
    (h : s.Unlinked trigId linkedItemId) {event : LinkingEvent}
    (hadds : ¬ event.Adds trigId linkedItemId) :
    (step limit s event).1.Unlinked trigId linkedItemId ∧
      .triggered trigId linkedItemId ∉ (step limit s event).2 := by
  cases event with
  | SetTriggeringRequest id added removed =>
    refine ⟨?_, by simp [LinkingSubscription.step]⟩
    simp only [LinkingSubscription.step]
    obtain ⟨_, hfault, -⟩ | ⟨m, haccepts, hdone⟩ :=
      on_SetTriggeringRequest_cases limit s id added removed
    · rw [hfault]
      exact h
    · rw [hdone]
      refine h.setItem fun hid => ?_
      rw [monitoredItemId_of_links, s.monitoredItemId_eq id m haccepts.found] at hid
      apply not_mem_of_not_added (h m (hid ▸ haccepts.found))
      cases added with
      | none => exact List.not_mem_nil
      | some added => exact fun hmem => hadds ⟨hid, hmem⟩
  | notification id =>
    simp only [LinkingSubscription.step]
    cases hm : s.getMonitoredItem id with
    | none => exact ⟨h, List.not_mem_nil⟩
    | some m =>
      refine ⟨h, fun htrig => ?_⟩
      obtain ⟨rfl, hmem⟩ := mem_triggerLinkedItems htrig
      exact h m hm hmem
  | setMonitoringMode id mode =>
    simp only [LinkingSubscription.step]
    cases hm : s.getMonitoredItem id with
    | none => exact ⟨h, List.not_mem_nil⟩
    | some m =>
      refine ⟨h.setItem fun hid => ?_, List.not_mem_nil⟩
      have hself := s.monitoredItemId_eq id m hm
      exact h m (by rw [← hid]; exact hself ▸ hm)
  | createMonitoredItem id mode =>
    simp only [LinkingSubscription.step]
    split
    · exact ⟨h, List.not_mem_nil⟩
    · exact ⟨h.setItem fun _ => List.not_mem_nil, List.not_mem_nil⟩
  | removeMonitoredItem id =>
    refine ⟨fun m hm => ?_, List.not_mem_nil⟩
    simp only [LinkingSubscription.step, removeMonitoredItem, getMonitoredItem] at hm
    by_cases hid : trigId = id
    · rw [hid, Function.update_self] at hm
      cases hm
    · rw [Function.update_of_ne hid] at hm
      exact h m hm

/-- **An item that is not linked is not triggered**, in any run that does not ask to link it. -/
theorem run_untriggered {limit trigId linkedItemId : ℕ}
    (h : s.Unlinked trigId linkedItemId) {events : List LinkingEvent}
    (hadds : ∀ event ∈ events, ¬ event.Adds trigId linkedItemId) :
    .triggered trigId linkedItemId ∉
      (Mealy.run (LinkingSubscription.step limit) s events).2 := by
  induction events generalizing s with
  | nil => exact List.not_mem_nil
  | cons event events ih =>
    obtain ⟨hunlinked, hnot⟩ := @Unlinked.step s limit _ _ h event
      (hadds event List.mem_cons_self)
    rw [Mealy.run_cons_snd, List.mem_append, not_or]
    exact ⟨hnot, ih hunlinked fun e he => hadds e (List.mem_cons_of_mem _ he)⟩

/-! ### Requests -/

/-- **The links are handled as a set**: they are the old ones without those that are removed, with those
that are added, and none twice; each result is the one of the set; and an item that is removed is not
triggered any more, unless it is added again. -/
structure HandledAsSet (maxMonitoredItemsPerCall : ℕ) (s s' : LinkingSubscription) (m m' : LinkedItem)
    (linksToAdd linksToRemove : List ℕ) (addResults removeResults : List StatusCode) : Prop where
  links : m'._linkedItems.toFinset =
    m._linkedItems.toFinset \ (linksToRemove.filter s.known).toFinset ∪
      (linksToAdd.filter (LinkedItem.linkable s.known m.monitoredItemId)).toFinset
  nodup : m'._linkedItems.Nodup
  removeResults_eq : removeResults =
    (perLink (LinkSet.remove s.known) m._linkedItems.toFinset linksToRemove).2
  addResults_eq : addResults =
    (perLink (LinkSet.add s.known m.monitoredItemId)
      (m._linkedItems.toFinset \ (linksToRemove.filter s.known).toFinset) linksToAdd).2
  untriggered : ∀ id, (id, StatusCode.Good) ∈ linksToRemove.zip removeResults → id ∉ linksToAdd →
    ∀ events : List LinkingEvent, (∀ event ∈ events, ¬ event.Adds m.monitoredItemId id) →
      .triggered m.monitoredItemId id ∉
        (Mealy.run (LinkingSubscription.step maxMonitoredItemsPerCall) s' events).2

/-- **What a request should do**: nothing, with a fault, or what is done to a set of links. -/
def SetsLinks (maxMonitoredItemsPerCall : ℕ) (s : LinkingSubscription) (triggeringItemId : ℕ)
    (linksToAdd linksToRemove : Option (List ℕ)) : Prop :=
  match s._on_SetTriggeringRequest maxMonitoredItemsPerCall triggeringItemId linksToAdd
      linksToRemove with
  | (s', .ServiceFault _) => s' = s
  | (s', .SetTriggeringResponse addResults removeResults) =>
    ∃ m m', s.getMonitoredItem triggeringItemId = some m ∧
      s'.getMonitoredItem triggeringItemId = some m' ∧
      HandledAsSet maxMonitoredItemsPerCall s s' m m' (linksToAdd.getD []) (linksToRemove.getD [])
        addResults removeResults

lemma links_of_removeLinkItems {known : ℕ → Bool} (h : m._linkedItems.Nodup)
    (removed : List ℕ) :
    (m.removeLinkItems known removed).1._linkedItems =
      m._linkedItems.filter fun id => ¬ (known id ∧ id ∈ removed) := by
  induction removed generalizing m with
  | nil => simp [LinkedItem.removeLinkItems]
  | cons id removed ih =>
    obtain ⟨herase, -, -⟩ := m.removeLinkItem_links id
    have hfirst : (LinkedItem.forKnown known LinkedItem.removeLinkItem m id).1._linkedItems =
        m._linkedItems.filter fun other => ¬ (known other ∧ other = id) := by
      unfold LinkedItem.forKnown
      by_cases hknown : known id = true
      · rw [if_pos hknown, herase, h.erase_eq_filter]
        apply List.filter_congr
        intro other _
        by_cases heq : other = id <;> simp [heq, hknown]
      · rw [if_neg hknown]
        refine (List.filter_eq_self.mpr fun other _ => ?_).symm
        rw [decide_eq_true_eq]
        rintro ⟨hother, rfl⟩
        exact hknown hother
    have hnodup : (LinkedItem.forKnown known LinkedItem.removeLinkItem m id).1._linkedItems.Nodup := by
      rw [hfirst]
      exact h.filter _
    have hrest := ih hnodup
    unfold LinkedItem.removeLinkItems at hrest ⊢
    rw [perLink_cons]
    rw [hrest, hfirst, List.filter_filter]
    apply List.filter_congr
    intro other _
    by_cases hknown : known other = true
    · simp [hknown, Bool.and_comm]
    · simp [hknown]

lemma perLink_linkSet (known : ℕ → Bool) (m : LinkedItem) (added removed : List ℕ) :
    (perLink (LinkSet.add known m.monitoredItemId)
        (perLink (LinkSet.remove known) m._linkedItems.toFinset removed).1 added).1 =
      m._linkedItems.toFinset \ (removed.filter known).toFinset ∪
        (added.filter (LinkedItem.linkable known m.monitoredItemId)).toFinset := by
  rw [LinkSet.perLink_add, LinkSet.perLink_remove]
  rfl

variable {linksToAdd linksToRemove : List ℕ} {maxMonitoredItemsPerCall : ℕ}

/-- **A request is handled as on a set** when the links have no duplicates and the first one is added
once only. -/
lemma handledAsSet (hnodup : m._linkedItems.Nodup) (honce : LinkedItem.FirstLinkOnce
      (m._linkedItems.filter fun id => ¬ (s.known id ∧ id ∈ linksToRemove))
      (linksToAdd.filter (LinkedItem.linkable s.known m.monitoredItemId))) :
    let removed := m.removeLinkItems s.known linksToRemove
    let added := removed.1.addLinkItems s.known linksToAdd
    HandledAsSet maxMonitoredItemsPerCall s (s.setItem added.1) m added.1 linksToAdd linksToRemove
      added.2 removed.2 := by
  intro removed added
  have hagree : m.Agrees m._linkedItems.toFinset := ⟨hnodup, rfl⟩
  obtain ⟨hremoved, hremoveResults⟩ := hagree.removeLinkItems linksToRemove
  have hsame : removed.1.monitoredItemId = m.monitoredItemId := by
    have hid := monitoredItemId_of_links s.known m [] linksToRemove
    exact hid
  rw [← links_of_removeLinkItems hnodup, ← hsame] at honce
  obtain ⟨hadded, haddResults⟩ := LinkedItem.Agrees.perLink_add hremoved honce
  have hset := perLink_linkSet s.known m linksToAdd linksToRemove
  rw [← hsame] at hset
  have hlinks : added.1._linkedItems.toFinset =
      m._linkedItems.toFinset \ (linksToRemove.filter s.known).toFinset ∪
        (linksToAdd.filter (LinkedItem.linkable s.known m.monitoredItemId)).toFinset := by
    rw [← hsame, ← hset]
    exact hadded.toFinset_eq
  refine ⟨hlinks, hadded.nodup, hremoveResults, ?_, fun id hid hnot events hadds => ?_⟩
  · rw [← LinkSet.perLink_remove, ← hsame]
    exact haddResults
  · have hgood : (id, StatusCode.Good) ∈ linksToRemove.zip
        (perLink (LinkSet.remove s.known) m._linkedItems.toFinset linksToRemove).2 := by
      rw [← hremoveResults]
      exact hid
    obtain ⟨hknown, hmem⟩ := LinkSet.known_of_remove_good _ _ _ _ hgood
    refine run_untriggered (fun m' hm' => ?_) hadds
    rw [getMonitoredItem_setItem, if_pos
      (monitoredItemId_of_links s.known m linksToAdd linksToRemove).symm] at hm'
    obtain rfl := Option.some.inj hm'
    intro hlinked
    rw [← List.mem_toFinset, hlinks] at hlinked
    simp [hknown, hmem, hnot] at hlinked

/-- **Otherwise it is not**: a link is there twice, or is missing, or a result is not the one of the
set. -/
lemma not_handledAsSet :
    let removed := m.removeLinkItems s.known linksToRemove
    let added := removed.1.addLinkItems s.known linksToAdd
    HandledAsSet maxMonitoredItemsPerCall s (s.setItem added.1) m added.1 linksToAdd linksToRemove
      added.2 removed.2 →
    m._linkedItems.Nodup ∧ LinkedItem.FirstLinkOnce
      (m._linkedItems.filter fun id => ¬ (s.known id ∧ id ∈ linksToRemove))
      (linksToAdd.filter (LinkedItem.linkable s.known m.monitoredItemId)) := by
  intro removed added h
  have hsame : removed.1.monitoredItemId = m.monitoredItemId := by
    have hid := monitoredItemId_of_links s.known m [] linksToRemove
    exact hid
  have hset := perLink_linkSet s.known m linksToAdd linksToRemove
  have haddResults := h.addResults_eq
  rw [← LinkSet.perLink_remove] at haddResults
  rw [← hsame] at haddResults hset
  have hagree : added.1.Agrees (perLink (LinkSet.add s.known removed.1.monitoredItemId)
      (perLink (LinkSet.remove s.known) m._linkedItems.toFinset linksToRemove).1 linksToAdd).1 := by
    refine ⟨h.nodup, ?_⟩
    rw [hset, hsame]
    exact h.links
  have hnodup : m._linkedItems.Nodup := by
    by_contra htwice
    -- the duplicate stays to the end
    obtain ⟨id, hid⟩ : ∃ id, 2 ≤ m._linkedItems.count id := by
      by_contra hnone
      apply htwice
      rw [List.nodup_iff_count_le_one]
      intro id
      by_contra hlt
      exact hnone ⟨id, by omega⟩
    have hdisagrees : m.Disagrees m._linkedItems.toFinset :=
      ⟨id, List.count_pos_iff.mp (by omega), .inl hid⟩
    have hremoved := hdisagrees.removeLinkItems h.removeResults_eq
    exact hagree.not_disagrees (hremoved.addLinkItems rfl haddResults)
  refine ⟨hnodup, ?_⟩
  by_contra htwice
  have hstart : m.Agrees m._linkedItems.toFinset := ⟨hnodup, rfl⟩
  obtain ⟨hremoved, -⟩ := hstart.removeLinkItems linksToRemove
  rw [← links_of_removeLinkItems hnodup, ← hsame] at htwice
  exact hagree.not_disagrees (LinkedItem.Agrees.perLink_add_twice hremoved htwice haddResults)

/-- **A request does what is done to a set of links**, if and only if it is refused, or the links have no
duplicates and the first of them, after the removals, is added once only. -/
theorem setsLinks_iff (maxMonitoredItemsPerCall : ℕ) (s : LinkingSubscription) (triggeringItemId : ℕ)
    (linksToAdd linksToRemove : Option (List ℕ)) :
    SetsLinks maxMonitoredItemsPerCall s triggeringItemId linksToAdd linksToRemove ↔
      ∀ m, Accepts maxMonitoredItemsPerCall s triggeringItemId linksToAdd linksToRemove m →
        m._linkedItems.Nodup ∧ LinkedItem.FirstLinkOnce
          (m._linkedItems.filter fun id => ¬ (s.known id ∧ id ∈ linksToRemove.getD []))
          ((linksToAdd.getD []).filter (LinkedItem.linkable s.known triggeringItemId)) := by
  unfold SetsLinks
  obtain ⟨_, hfault, href⟩ | ⟨m, haccepts, hdone⟩ := on_SetTriggeringRequest_cases
    maxMonitoredItemsPerCall s triggeringItemId linksToAdd linksToRemove
  · rw [hfault]
    exact ⟨fun _ m h => absurd h (href m), fun _ => rfl⟩
  · rw [hdone]
    have hid := s.monitoredItemId_eq triggeringItemId m haccepts.found
    have hfound : (s.setItem ((m.removeLinkItems s.known (linksToRemove.getD [])).1.addLinkItems
        s.known (linksToAdd.getD [])).1).getMonitoredItem triggeringItemId =
        some ((m.removeLinkItems s.known (linksToRemove.getD [])).1.addLinkItems
          s.known (linksToAdd.getD [])).1 := by
      rw [getMonitoredItem_setItem, if_pos]
      rw [monitoredItemId_of_links, hid]
    constructor
    · rintro ⟨m1, m', hm1, hm', hhandled⟩ m2 h2
      obtain rfl := Option.some.inj (hm1.symm.trans haccepts.found)
      obtain rfl := Option.some.inj (h2.found.symm.trans haccepts.found)
      obtain rfl := Option.some.inj (hm'.symm.trans hfound)
      have hcond := not_handledAsSet hhandled
      rwa [hid] at hcond
    · intro h
      obtain ⟨hnodup, honce⟩ := h m haccepts
      rw [← hid] at honce
      exact ⟨m, _, haccepts.found, hfound, handledAsSet hnodup honce⟩

/-- **The first link is added twice**: the links are no set, and when the link is removed, the item is
triggered all the same. -/
theorem firstLink_addedTwice :
    let s := (Mealy.run (LinkingSubscription.step 0) new
      [.createMonitoredItem 1 .Reporting, .createMonitoredItem 2 .Sampling]).1
    ¬ SetsLinks 0 s 1 (some [2, 2]) none ∧
      (Mealy.run (LinkingSubscription.step 0) s
        [.SetTriggeringRequest 1 (some [2]) none, .SetTriggeringRequest 1 (some [2]) none,
          .SetTriggeringRequest 1 none (some [2]), .notification 1]).2 =
        [.answered (.SetTriggeringResponse [.Good] []),
          .answered (.SetTriggeringResponse [.Good] []),
          .answered (.SetTriggeringResponse [] [.Good]), .triggered 1 2] := by
  intro s
  refine ⟨fun h => ?_, by decide⟩
  have hlinks : ((s._on_SetTriggeringRequest 0 1 (some [2, 2]) none).1.getMonitoredItem 1).map
      LinkedItem._linkedItems = some [2, 2] := by decide
  have hans : (s._on_SetTriggeringRequest 0 1 (some [2, 2]) none).2 =
      .SetTriggeringResponse [.Good, .Good] [] := by decide
  unfold SetsLinks at h
  obtain ⟨s', hs'⟩ : ∃ s', s._on_SetTriggeringRequest 0 1 (some [2, 2]) none =
      (s', .SetTriggeringResponse [.Good, .Good] []) := ⟨_, Prod.ext rfl hans⟩
  rw [hs'] at h hlinks
  obtain ⟨m, m', -, hm', hhandled⟩ := h
  have hnodup := hhandled.nodup
  rw [hm'] at hlinks
  rw [Option.some.inj hlinks] at hnodup
  exact absurd hnodup (by decide)

end LinkingSubscription

end NodeOpcua
