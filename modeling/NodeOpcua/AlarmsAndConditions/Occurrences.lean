import NodeOpcua.AlarmsAndConditions.AcknowledgeableCondition
import NodeOpcua.Library.Mealy

set_option autoImplicit false

/-!
# No occurrence is lost

What happened to an alarm before it returned to normal is to stay as a branch until it is acknowledged,
and confirmed when the alarm has the state `ConfirmedState`. This file says so, and which operations
keep it so.

## Main definitions

* `AcknowledgeableAlarm.KeepsOccurrences`, `AcknowledgeableAlarm.OccurrenceCondition`,
  `AcknowledgeableAlarm.Kept`.

## Main results

* `AcknowledgeableAlarm.Kept.find`, `AcknowledgeableAlarm.run_keepsOccurrences`.
-/

namespace NodeOpcua

open ConditionCall (andThen_ok andThen_error)

namespace AcknowledgeableAlarm

/-! ### What is expected -/

/-- The current branch and the others. -/
def all (s : AcknowledgeableAlarm) : List ConditionSnapshotImpl := s.branch0 :: s.branches

/-- A branch with which nothing more is to be done. -/
def Finished (s : AcknowledgeableAlarm) (branch : ConditionSnapshotImpl) : Prop :=
  branch.ackedState = true ∧ (s.hasConfirmedState = true → branch.confirmedState = true)

/-- The operation acknowledges the branch. -/
def Operation.Acknowledges (branch : ConditionSnapshotImpl) : Operation → Prop
  | .acknowledge eventId _ _ => eventId = branch.eventId
  | _ => False

/-- The operation is the last one that the branch waits for. -/
def Finishes (s : AcknowledgeableAlarm) (branch : ConditionSnapshotImpl) : Operation → Prop
  | .acknowledge eventId _ _ => eventId = branch.eventId ∧ s.hasConfirmedState = false
  | .confirm eventId _ _ =>
    eventId = branch.eventId ∧ s.hasConfirmedState = true ∧ branch.ackedState = true
  | ._signalNewCondition _ _ => False

/-- **What is expected of an operation.** What returns to normal while it is not acknowledged gets a
branch of its own. A branch stays, is found by the identifier of its last event and is only acknowledged
by its acknowledgement, until nothing more is to be done with it; then it is deleted. -/
structure KeepsOccurrences (s : AcknowledgeableAlarm) (operation : Operation) : Prop where
  moved : s.branch0.activeState = true → s.branch0.ackedState = false →
    (s.perform operation).alarm.branch0.activeState = false →
      ∃ b ∈ (s.perform operation).alarm.branches, b.branchId ∉ s.all.map (·.branchId) ∧
        b.ackedState = false ∧ b.conditionInfo = s.branch0.conditionInfo ∧
        (s.perform operation).alarm.findBranchForEventId b.eventId = .ok (some b)
  kept : ∀ b ∈ s.branches, ¬ s.Finishes b operation →
    ∃ b' ∈ (s.perform operation).alarm.branches, b'.branchId = b.branchId ∧
      b'.conditionInfo = b.conditionInfo ∧
      (b'.ackedState = b.ackedState ∨ operation.Acknowledges b) ∧
      (s.perform operation).alarm.findBranchForEventId b'.eventId = .ok (some b')
  deleted : ∀ b ∈ s.branches, s.Finishes b operation →
    b.branchId ∉ (s.perform operation).alarm.all.map (·.branchId)
  distinct : ((s.perform operation).alarm.all.map (·.eventId)).Nodup
  unknown : ∀ eventId comment userName, operation = .acknowledge eventId comment userName →
    s.findBranchForEventId eventId = .ok none →
      s.perform operation = ⟨s, .ok (some .BadEventIdUnknown)⟩
  already : ∀ eventId comment userName branch, operation = .acknowledge eventId comment userName →
    s.findBranchForEventId eventId = .ok (some branch) → branch.ackedState = true →
      s.perform operation = ⟨s, .ok (some .BadConditionBranchAlreadyAcked)⟩

/-! ### The condition -/

/-- The event identifiers that an operation needs. -/
def needed (s : AcknowledgeableAlarm) : Operation → ℕ
  | ._signalNewCondition newConditionInfo isActive =>
    if s.branch0.conditionInfo.toOptions = newConditionInfo then 0
    else if !isActive && !s.branch0.ackedState && s.branch0.getRetain then 2
    else 1
  | .acknowledge eventId _ _ =>
    match s.findBranchForEventId eventId with
    | .ok (some branch) => if branch.ackedState then 0 else 2
    | _ => 0
  | .confirm eventId _ _ =>
    match s.findBranchForEventId eventId with
    | .ok (some branch) =>
      if eventId.isSome && s.hasConfirmedState && !branch.confirmedState then 3 else 0
    | _ => 0

/-- **When an operation does what is expected.** There are event identifiers left. What returns to
normal while it is not acknowledged is retained. A branch is acknowledged once, and confirmed after it
was acknowledged. -/
structure OccurrenceCondition (s : AcknowledgeableAlarm) (operation : Operation) : Prop where
  enough : s.eventIdCounter + s.needed operation ≤ maxInt32
  retained : ∀ newConditionInfo, operation = ._signalNewCondition newConditionInfo false →
    s.branch0.conditionInfo.toOptions ≠ newConditionInfo → s.branch0.activeState = true →
      s.branch0.ackedState = false → s.branch0.getRetain = true
  once : ∀ eventId comment userName branch, operation = .acknowledge eventId comment userName →
    s.findBranchForEventId eventId = .ok (some branch) → branch.ackedState = false
  inOrder : ∀ eventId comment userName, operation = .confirm (some eventId) comment userName →
    s.hasConfirmedState = true → ∀ b ∈ s.branches, b.eventId = some eventId →
      b.confirmedState = false → b.ackedState = true

/-! ### The invariant -/

/-- **The invariant**: branches are told apart by their identifiers and by those of their last events,
and the other branches than the current one are retained and not finished. -/
structure Kept (s : AcknowledgeableAlarm) : Prop where
  enabled : s.enabledState = true
  current : s.branch0.branchId = 0
  created : ∀ b ∈ s.all, b.branchId < s.nextBranchId
  numbered : (s.all.map (·.branchId)).Nodup
  given : ∀ b ∈ s.all, ∀ n, b.eventId = some n → n ≤ s.eventIdCounter
  distinct : (s.all.map (·.eventId)).Nodup
  raised : ∀ b ∈ s.branches, b.eventId ≠ none
  retained : ∀ b ∈ s.branches, b.getRetain = true
  unfinished : ∀ b ∈ s.branches, ¬ s.Finished b

lemma kept_instantiate (browseName : String) (hasConfirmedState : Bool) (eventIdCounter : ℕ) :
    (instantiate browseName hasConfirmedState eventIdCounter).Kept := by
  constructor <;> simp [instantiate, all]

variable {s : AcknowledgeableAlarm} {b : ConditionSnapshotImpl}

lemma mem_all_of_mem (hb : b ∈ s.branches) : b ∈ s.all :=
  List.mem_cons_of_mem _ hb

lemma branch0_mem_all : s.branch0 ∈ s.all := List.mem_cons_self

namespace Kept

variable {b c : ConditionSnapshotImpl}

lemma eq_of_branchId (h : s.Kept) (hb : b ∈ s.all) (hc : c ∈ s.all)
    (heq : b.branchId = c.branchId) : b = c :=
  List.inj_on_of_nodup_map h.numbered hb hc heq

lemma eq_of_eventId (h : s.Kept) (hb : b ∈ s.all) (hc : c ∈ s.all)
    (heq : b.eventId = c.eventId) : b = c :=
  List.inj_on_of_nodup_map h.distinct hb hc heq

variable {b : ConditionSnapshotImpl}

lemma branchId_ne_zero (h : s.Kept) (hb : b ∈ s.branches) :
    b.branchId ≠ 0 := by
  have hnodup := h.numbered
  rw [all, List.map_cons, List.nodup_cons, h.current] at hnodup
  exact fun hzero => hnodup.1 (List.mem_map.mpr ⟨b, hb, hzero⟩)

lemma mem_branches (h : s.Kept) (hb : b ∈ s.all) (hzero : b.branchId ≠ 0) : b ∈ s.branches := by
  rcases List.mem_cons.mp hb with rfl | hb
  · exact absurd h.current hzero
  · exact hb

lemma eq_branch0 (h : s.Kept) (hb : b ∈ s.all) (hzero : b.branchId = 0) :
    b = s.branch0 :=
  h.eq_of_branchId hb branch0_mem_all (hzero.trans h.current.symm)

lemma filter_eventId (h : s.Kept) (hb : b ∈ s.branches) :
    (s.branches.filter fun c => c.eventId = b.eventId) = [b] := by
  have hnodup : s.branches.Nodup := (List.nodup_cons.mp (List.Nodup.of_map _ h.distinct)).2
  have honly : ∀ c ∈ s.branches, decide (c.eventId = b.eventId) = decide (c = b) := by
    intro c hc
    rw [decide_eq_decide]
    exact ⟨h.eq_of_eventId (mem_all_of_mem hc) (mem_all_of_mem hb), fun heq => heq ▸ rfl⟩
  rw [List.filter_congr honly, List.filter_eq, List.count_eq_one_of_mem hnodup hb]
  rfl

/-- **Every branch is found by the identifier of its last event.** -/
theorem find (h : s.Kept) (hb : b ∈ s.all) :
    s.findBranchForEventId b.eventId = .ok (some b) := by
  unfold findBranchForEventId
  split_ifs with hcur
  · rw [h.eq_of_eventId branch0_mem_all hb hcur]
  · rcases List.mem_cons.mp hb with rfl | hb
    · exact absurd rfl hcur
    · rw [h.filter_eventId hb]

end Kept

variable {eventId : Option ℕ}

lemma mem_of_find
    (h : s.findBranchForEventId eventId = .ok (some b)) : b ∈ s.all ∧ b.eventId = eventId := by
  unfold findBranchForEventId at h
  split_ifs at h with hcur
  · obtain rfl := Option.some.inj (Except.ok.inj h)
    exact ⟨branch0_mem_all, hcur⟩
  · split at h
    · cases h
    · next branch hfilt =>
      obtain rfl := Option.some.inj (Except.ok.inj h)
      have hmem : branch ∈ s.branches.filter fun c => c.eventId = eventId := by simp [hfilt]
      rw [List.mem_filter, decide_eq_true_eq] at hmem
      exact ⟨mem_all_of_mem hmem.1, hmem.2⟩
    · cases h

/-! ### What is stored -/

/-- The alarm after some event identifiers were given. -/
def counted (s : AcknowledgeableAlarm) (n : ℕ) : AcknowledgeableAlarm :=
  { s with eventIdCounter := n }

/-- A branch with the identifier of a new event. -/
def renewed (branch : ConditionSnapshotImpl) (n : ℕ) : ConditionSnapshotImpl :=
  { branch with eventId := some n }

@[simp] lemma renewed_branchId (b : ConditionSnapshotImpl) (n : ℕ) :
    (renewed b n).branchId = b.branchId := rfl

@[simp] lemma renewed_getRetain (b : ConditionSnapshotImpl) (n : ℕ) :
    (renewed b n).getRetain = b.getRetain := rfl

/-- The alarm without a branch. -/
def without (s : AcknowledgeableAlarm) (branchId : ℕ) : AcknowledgeableAlarm :=
  { s with branches := s.branches.filter fun b => b.branchId ≠ branchId }

lemma store_current (hb : b.branchId = 0) :
    s.store b = { s with branch0 := b } := by
  simp [store, ConditionSnapshotImpl.isCurrentBranch, hb]

lemma store_other (hb : b.branchId ≠ 0) :
    s.store b =
      { s with branches := s.branches.map fun c => if c.branchId = b.branchId then b else c } := by
  simp [store, ConditionSnapshotImpl.isCurrentBranch, hb]

section

variable (b : ConditionSnapshotImpl)

@[simp] lemma store_eventIdCounter :
    (s.store b).eventIdCounter = s.eventIdCounter := by unfold store; split_ifs <;> rfl

@[simp] lemma store_nextBranchId :
    (s.store b).nextBranchId = s.nextBranchId := by unfold store; split_ifs <;> rfl

@[simp] lemma store_enabledState :
    (s.store b).enabledState = s.enabledState := by unfold store; split_ifs <;> rfl

@[simp] lemma store_hasConfirmedState :
    (s.store b).hasConfirmedState = s.hasConfirmedState := by unfold store; split_ifs <;> rfl

@[simp] lemma counted_store (n : ℕ) :
    (s.store b).counted n = (s.counted n).store b := by unfold store; split_ifs <;> rfl

end

variable {b b' : ConditionSnapshotImpl}

lemma store_store (h : b'.branchId = b.branchId) :
    (s.store b).store b' = s.store b' := by
  by_cases hb : b.branchId = 0
  · rw [store_current hb, store_current (h.trans hb), store_current (h.trans hb)]
  · rw [store_other hb, store_other (h ▸ hb), store_other (h ▸ hb), List.map_map]
    congr 1
    refine List.map_congr_left fun c _ => ?_
    by_cases hc : c.branchId = b.branchId <;> simp [hc, h]

lemma store_without (hb : b.branchId ≠ 0) :
    (s.without b.branchId).store b = s.without b.branchId := by
  rw [store_other hb]
  have hothers : ∀ l : List ConditionSnapshotImpl, (∀ c ∈ l, c.branchId ≠ b.branchId) →
      l.map (fun c => if c.branchId = b.branchId then b else c) = l := by
    intro l hl
    conv_rhs => rw [← List.map_id' l]
    exact List.map_congr_left fun c hc => if_neg (hl c hc)
  congr 1
  exact hothers _ fun c hc => by simpa using (List.mem_filter.mp hc).2

lemma Kept.all_store (h : s.Kept) :
    (s.store b).all = s.all.map fun c => if c.branchId = b.branchId then b else c := by
  by_cases hb : b.branchId = 0
  · have hothers : s.branches.map (fun c => if c.branchId = b.branchId then b else c) = s.branches := by
      conv_rhs => rw [← List.map_id' s.branches]
      refine List.map_congr_left fun c hc => if_neg fun heq => ?_
      exact h.branchId_ne_zero hc (heq.trans hb)
    rw [store_current hb, all, all, List.map_cons, hothers, if_pos (h.current.trans hb.symm)]
  · rw [store_other hb, all, all, List.map_cons, if_neg fun heq => hb (heq.symm.trans h.current)]

/-! ### What keeps the invariant -/

/-- **A branch is renewed**: it gets the identifier of a new event, or none, and it is still retained and
not finished. -/
structure Renewal (s : AcknowledgeableAlarm) (n : ℕ) (b b' : ConditionSnapshotImpl) : Prop where
  mem : b ∈ s.all
  branchId : b'.branchId = b.branchId
  later : s.eventIdCounter ≤ n
  eventId : b'.eventId = b.eventId ∨ ∃ m, b'.eventId = some m ∧ s.eventIdCounter < m ∧ m ≤ n
  retained : b.branchId ≠ 0 → b'.getRetain = true
  unfinished : b.branchId ≠ 0 → ¬ s.Finished b'

namespace Renewal

variable {n : ℕ} {b b' : ConditionSnapshotImpl}

lemma all_eq (hr : s.Renewal n b b') (h : s.Kept) :
    ((s.counted n).store b').all = s.all.map fun c => if c.branchId = b.branchId then b' else c := by
  have hcnt : (s.counted n).Kept :=
    { h with given := fun c hc m hm => (h.given c hc m hm).trans hr.later }
  rw [hcnt.all_store, hr.branchId]
  rfl

variable {c : ConditionSnapshotImpl}

section

variable (hr : s.Renewal n b b') (h : s.Kept)
include hr h

lemma mem_all
    (hc : c ∈ ((s.counted n).store b').all) : c = b' ∨ c ∈ s.all ∧ c.branchId ≠ b.branchId := by
  rw [hr.all_eq h] at hc
  obtain ⟨d, hd, rfl⟩ := List.mem_map.mp hc
  by_cases heq : d.branchId = b.branchId
  · exact Or.inl (if_pos heq)
  · rw [if_neg heq]
    exact Or.inr ⟨hd, heq⟩

lemma branches_eq :
    ((s.counted n).store b').branches =
      s.branches.map fun c => if c.branchId = b.branchId then b' else c := by
  have hall := hr.all_eq h
  exact (List.cons.inj hall).2

lemma mem_branches (hc : c ∈ ((s.counted n).store b').branches) :
    c = b' ∧ b.branchId ≠ 0 ∨ c ∈ s.branches ∧ c.branchId ≠ b.branchId := by
  rw [hr.branches_eq h] at hc
  obtain ⟨d, hd, rfl⟩ := List.mem_map.mp hc
  by_cases heq : d.branchId = b.branchId
  · exact Or.inl ⟨if_pos heq, heq ▸ h.branchId_ne_zero hd⟩
  · rw [if_neg heq]
    exact Or.inr ⟨hd, heq⟩

/-- **A renewal keeps the invariant.** -/
theorem kept : ((s.counted n).store b').Kept where
  enabled := by rw [store_enabledState]; exact h.enabled
  current := by
    have hall := hr.all_eq h
    rw [all, all, List.map_cons] at hall
    rw [(List.cons.inj hall).1]
    by_cases heq : s.branch0.branchId = b.branchId
    · rw [if_pos heq, hr.branchId, ← heq, h.current]
    · rw [if_neg heq, h.current]
  created := by
    intro c hc
    rw [store_nextBranchId]
    rcases hr.mem_all h hc with rfl | ⟨hc, -⟩
    · exact hr.branchId ▸ h.created b hr.mem
    · exact h.created c hc
  numbered := by
    rw [hr.all_eq h, List.map_map]
    have hsame : ((·.branchId) ∘ fun c => if c.branchId = b.branchId then b' else c) =
        fun c : ConditionSnapshotImpl => c.branchId := by
      funext c
      by_cases heq : c.branchId = b.branchId <;> simp [heq, hr.branchId]
    rw [hsame]
    exact h.numbered
  given := by
    intro c hc m hm
    rw [store_eventIdCounter]
    rcases hr.mem_all h hc with rfl | ⟨hc, -⟩
    · rcases hr.eventId with hsame | ⟨m', hnew, -, hle⟩
      · exact (h.given b hr.mem m (hsame ▸ hm)).trans hr.later
      · rw [hnew] at hm
        exact Option.some.inj hm ▸ hle
    · exact (h.given c hc m hm).trans hr.later
  distinct := by
    have hne : ∀ c ∈ s.all, c.branchId ≠ b.branchId → c.eventId ≠ b'.eventId := by
      intro c hc hid heq
      rcases hr.eventId with hsame | ⟨m, hnew, hlt, -⟩
      · exact hid (congrArg (·.branchId) (h.eq_of_eventId hc hr.mem (heq.trans hsame)))
      · exact absurd (h.given c hc m (heq.trans hnew)) (by omega)
    rw [hr.all_eq h, List.map_map]
    refine List.Nodup.map_on (fun c hc d hd heq => ?_) (List.Nodup.of_map _ h.numbered)
    simp only [Function.comp_apply] at heq
    by_cases hcb : c.branchId = b.branchId
    · by_cases hdb : d.branchId = b.branchId
      · exact h.eq_of_branchId hc hd (hcb.trans hdb.symm)
      · rw [if_pos hcb, if_neg hdb] at heq
        exact absurd heq.symm (hne d hd hdb)
    · by_cases hdb : d.branchId = b.branchId
      · rw [if_neg hcb, if_pos hdb] at heq
        exact absurd heq (hne c hc hcb)
      · rw [if_neg hcb, if_neg hdb] at heq
        exact h.eq_of_eventId hc hd heq
  raised := by
    intro c hc
    rcases hr.mem_branches h hc with ⟨rfl, hzero⟩ | ⟨hc, -⟩
    · rcases hr.eventId with hsame | ⟨m, hnew, -⟩
      · rw [hsame]
        exact h.raised b (h.mem_branches hr.mem hzero)
      · rw [hnew]
        exact Option.some_ne_none m
    · exact h.raised c hc
  retained := by
    intro c hc
    rcases hr.mem_branches h hc with ⟨rfl, hzero⟩ | ⟨hc, -⟩
    · exact hr.retained hzero
    · exact h.retained c hc
  unfinished := by
    intro c hc
    have hfinished : ((s.counted n).store b').Finished c ↔ s.Finished c := by
      unfold Finished
      rw [store_hasConfirmedState]
      rfl
    rw [hfinished]
    rcases hr.mem_branches h hc with ⟨rfl, hzero⟩ | ⟨hc, -⟩
    · exact hr.unfinished hzero
    · exact h.unfinished c hc

lemma exists_mem (hc : c ∈ s.branches) : ∃ c' ∈ ((s.counted n).store b').branches,
      (c = b ∧ c' = b' ∨ c' = c) ∧
        ((s.counted n).store b').findBranchForEventId c'.eventId = .ok (some c') := by
  have hfind := fun c' hc' => (hr.kept h).find (b := c') (mem_all_of_mem hc')
  rw [hr.branches_eq h] at hfind ⊢
  have hmem := List.mem_map_of_mem (f := fun c => if c.branchId = b.branchId then b' else c) hc
  refine ⟨_, hmem, ?_, hfind _ hmem⟩
  by_cases heq : c.branchId = b.branchId
  · exact Or.inl ⟨h.eq_of_branchId (mem_all_of_mem hc) hr.mem heq, if_pos heq⟩
  · exact Or.inr (if_neg heq)

end

end Renewal

/-- **A deletion keeps the invariant.** -/
theorem Kept.without (h : s.Kept) {n : ℕ} (hn : s.eventIdCounter ≤ n) {branchId : ℕ} :
    ((s.counted n).without branchId).Kept := by
  have hsub : ((s.counted n).without branchId).all.Sublist s.all :=
    List.Sublist.cons_cons _ List.filter_sublist
  have hbranches : ∀ c ∈ ((s.counted n).without branchId).branches, c ∈ s.branches :=
    fun c hc => List.mem_of_mem_filter hc
  refine ⟨h.enabled, h.current, fun c hc => h.created c (hsub.subset hc),
    h.numbered.sublist (hsub.map _), fun c hc m hm => ?_, h.distinct.sublist (hsub.map _),
    fun c hc => h.raised c (hbranches c hc), fun c hc => h.retained c (hbranches c hc), fun c hc => h.unfinished c (hbranches c hc)⟩
  exact (h.given c (hsub.subset hc) m hm).trans hn

/-- The alarm after the current branch got a branch of its own. -/
def branched (s : AcknowledgeableAlarm) : AcknowledgeableAlarm :=
  { s with
    eventIdCounter := s.eventIdCounter + 1
    nextBranchId := s.nextBranchId + 1
    branches := s.branches ++ [{ s.branch0 with
      branchId := s.nextBranchId
      eventId := some (s.eventIdCounter + 1) }] }

/-- **A new branch keeps the invariant**, when it is retained and not acknowledged. -/
theorem Kept.branched (h : s.Kept) (hret : s.branch0.getRetain = true)
    (hacked : s.branch0.ackedState = false) : s.branched.Kept := by
  have hall : s.branched.all = s.all ++ [{ s.branch0 with
      branchId := s.nextBranchId
      eventId := some (s.eventIdCounter + 1) }] := rfl
  refine ⟨h.enabled, h.current, ?_, ?_, ?_, ?_, ?_, ?_, ?_⟩
  · intro c hc
    rw [hall, List.mem_append, List.mem_singleton] at hc
    rcases hc with hc | rfl
    · exact (h.created c hc).trans (Nat.lt_succ_self _)
    · exact Nat.lt_succ_self _
  · rw [hall, List.map_append, List.map_singleton]
    refine List.Nodup.append h.numbered (List.nodup_singleton _) ?_
    rw [List.disjoint_singleton]
    rintro hmem
    obtain ⟨c, hc, heq⟩ := List.mem_map.mp hmem
    exact (h.created c hc).ne heq
  · intro c hc m hm
    rw [hall, List.mem_append, List.mem_singleton] at hc
    rcases hc with hc | rfl
    · exact (h.given c hc m hm).trans (Nat.le_succ _)
    · exact (Option.some.inj hm).symm.le
  · rw [hall, List.map_append, List.map_singleton]
    refine List.Nodup.append h.distinct (List.nodup_singleton _) ?_
    rw [List.disjoint_singleton]
    rintro hmem
    obtain ⟨c, hc, heq⟩ := List.mem_map.mp hmem
    exact absurd (h.given c hc _ heq) (by omega)
  · intro c hc
    rcases List.mem_append.mp hc with hc | hc
    · exact h.raised c hc
    · exact List.mem_singleton.mp hc ▸ Option.some_ne_none _
  · intro c hc
    rcases List.mem_append.mp hc with hc | hc
    · exact h.retained c hc
    · exact List.mem_singleton.mp hc ▸ hret
  · intro c hc hfinished
    rcases List.mem_append.mp hc with hc | hc
    · exact h.unfinished c hc hfinished
    · have htrue := List.mem_singleton.mp hc ▸ hfinished.1
      exact absurd (hacked.symm.trans htrue) Bool.false_ne_true

/-! ### What the operations do -/

lemma generateEventId_eq (h : s.eventIdCounter < maxInt32) :
    s.generateEventId = ⟨s.counted (s.eventIdCounter + 1), .ok (s.eventIdCounter + 1)⟩ := if_pos h

lemma raiseAuditEvent_eq (h : s.eventIdCounter < maxInt32) :
    s.raiseAuditEvent = ⟨s.counted (s.eventIdCounter + 1), .ok ()⟩ := by
  rw [raiseAuditEvent, generateEventId_eq h, andThen_ok]

lemma raiseConditionEvent_store (h : s.eventIdCounter < maxInt32) :
    (s.store b).raiseConditionEvent b =
      ⟨(s.counted (s.eventIdCounter + 1)).store (renewed b (s.eventIdCounter + 1)),
        .ok (renewed b (s.eventIdCounter + 1))⟩ := by
  rw [raiseConditionEvent, generateEventId_eq (by rwa [store_eventIdCounter]),
    andThen_ok, store_eventIdCounter, counted_store]
  dsimp only
  rw [store_store]
  · rfl
  · rfl

lemma raiseNewBranchState_store (h : s.eventIdCounter < maxInt32)
    (hkeep : b.branchId = 0 ∨ b.getRetain = true) :
    (s.store b).raiseNewBranchState b =
      ⟨(s.counted (s.eventIdCounter + 1)).store (renewed b (s.eventIdCounter + 1)),
        .ok (renewed b (s.eventIdCounter + 1))⟩ := by
  rw [raiseNewBranchState, raiseConditionEvent_store h, andThen_ok, if_neg]
  rcases hkeep with hzero | hret
  · simp [ConditionSnapshotImpl.isCurrentBranch, hzero]
  · simp [hret]

variable {b c : ConditionSnapshotImpl}

lemma deleteBranch_store (hzero : b.branchId ≠ 0) (hc : c ∈ s.branches)
    (hid : c.branchId = b.branchId) :
    (s.store b).deleteBranch b = ⟨s.without b.branchId, .ok ()⟩ := by
  have hfound : ((s.store b).branches.any fun d => d.branchId = b.branchId) = true := by
    rw [store_other hzero, List.any_eq_true]
    exact ⟨b, List.mem_map.mpr ⟨c, hc, if_pos hid⟩, by simp⟩
  have hothers : ((s.branches.map fun d => if d.branchId = b.branchId then b else d).filter
      fun d => d.branchId ≠ b.branchId) = s.branches.filter fun d => d.branchId ≠ b.branchId := by
    induction s.branches with
    | nil => rfl
    | cons d l ih =>
      rw [List.map_cons, List.filter_cons, List.filter_cons, ih]
      by_cases hd : d.branchId = b.branchId <;> simp [hd]
  rw [deleteBranch, if_neg (by simpa [ConditionSnapshotImpl.isCurrentBranch] using hzero),
    if_neg (by simp [hfound]), store_other hzero]
  rw [hothers]
  rfl

lemma raiseNewBranchState_delete (h : s.eventIdCounter < maxInt32)
    (hzero : b.branchId ≠ 0) (hret : b.getRetain = false) (hc : c ∈ s.branches)
    (hid : c.branchId = b.branchId) :
    (s.store b).raiseNewBranchState b =
      ⟨(s.counted (s.eventIdCounter + 1)).without b.branchId,
        .ok (renewed b (s.eventIdCounter + 1))⟩ := by
  have hdelete := deleteBranch_store (s := s.counted (s.eventIdCounter + 1))
    (b := renewed b (s.eventIdCounter + 1)) hzero hc hid
  rw [raiseNewBranchState, raiseConditionEvent_store h, andThen_ok, if_pos, hdelete,
    andThen_ok]
  · rfl
  · simp [ConditionSnapshotImpl.isCurrentBranch, hzero, hret]

lemma raiseNewCondition_eq (hen : s.enabledState = true) (h : s.eventIdCounter < maxInt32)
    (info : ConditionInfoOptions) :
    s.raiseNewCondition info =
      ⟨(s.counted (s.eventIdCounter + 1)).store (renewed
          { s.branch0 with conditionInfo := s.branch0.conditionInfo.set info }
          (s.eventIdCounter + 1)),
        .ok ()⟩ := by
  rw [raiseNewCondition, if_neg (by simp [hen])]
  dsimp only
  rw [raiseConditionEvent_store h, andThen_ok]

/-! ### Signals -/

/-- The current branch after a signal. -/
def signalled (s : AcknowledgeableAlarm) (info : ConditionInfoOptions) (isActive : Bool) :
    ConditionSnapshotImpl :=
  renewed
    { s.branch0 with
      activeState := isActive
      ackedState := !isActive
      conditionInfo := s.branch0.conditionInfo.set info }
    (s.eventIdCounter + 1)

lemma Kept.renewal_signalled (h : s.Kept) (info : ConditionInfoOptions) (isActive : Bool) :
    s.Renewal (s.eventIdCounter + 1) s.branch0 (s.signalled info isActive) where
  mem := branch0_mem_all
  branchId := rfl
  later := Nat.le_succ _
  eventId := Or.inr ⟨_, rfl, Nat.lt_succ_self _, le_rfl⟩
  retained := fun hzero => absurd h.current hzero
  unfinished := fun hzero => absurd h.current hzero

lemma Kept.raiseNewCondition_setActive (h : s.Kept) (hids : s.eventIdCounter < maxInt32)
    (info : ConditionInfoOptions) {isActive ackedState : Bool} (hacked : ackedState = !isActive) :
    (s.setActive isActive ackedState).raiseNewCondition info =
      ⟨(s.counted (s.eventIdCounter + 1)).store (s.signalled info isActive), .ok ()⟩ := by
  subst hacked
  have hsignalled : (s.signalled info isActive).branchId = 0 := h.current
  rw [raiseNewCondition_eq (s := s.setActive isActive !isActive) h.enabled hids,
    store_current (by exact h.current), store_current hsignalled]
  rfl

lemma Kept.createBranch_store (h : s.Kept) (hid : b.branchId = s.nextBranchId) :
    s.createBranch.1.store b =
      { s with
        nextBranchId := s.nextBranchId + 1
        branches := s.branches ++ [b] } := by
  have hpos : 0 < s.nextBranchId := h.current ▸ h.created _ branch0_mem_all
  have hothers : s.branches.map (fun c => if c.branchId = b.branchId then b else c) = s.branches := by
    conv_rhs => rw [← List.map_id' s.branches]
    refine List.map_congr_left fun c hc => if_neg fun heq => ?_
    exact (h.created c (mem_all_of_mem hc)).ne (heq.trans hid)
  rw [store_other (by omega), createBranch]
  rw [List.map_append, hothers, List.map_singleton, if_pos hid.symm]

lemma Kept.createBranch_eq (h : s.Kept) (hids : s.eventIdCounter < maxInt32)
    (hret : s.branch0.getRetain = true) :
    ∃ b, s.createBranch.1.raiseNewBranchState s.createBranch.2 = ⟨s.branched, .ok b⟩ := by
  have hstored : s.createBranch.1 = s.createBranch.1.store s.createBranch.2 :=
    (h.createBranch_store rfl).symm
  rw [hstored, raiseNewBranchState_store (s := s.createBranch.1) (b := s.createBranch.2) hids
    (Or.inr hret)]
  have hid : (renewed s.createBranch.2 (s.eventIdCounter + 1)).branchId = s.nextBranchId := rfl
  refine ⟨_, congrArg₂ ConditionCall.mk ?_ rfl⟩
  calc (s.createBranch.1.counted (s.eventIdCounter + 1)).store
        (renewed s.createBranch.2 (s.eventIdCounter + 1))
      = (s.createBranch.1.store (renewed s.createBranch.2 (s.eventIdCounter + 1))).counted
          (s.eventIdCounter + 1) := (counted_store _ _).symm
    _ = s.branched := by rw [h.createBranch_store hid]; rfl

variable {info : ConditionInfoOptions}

/-- **What a signal leaves.** -/
lemma Kept.signal_eq (h : s.Kept) {isActive : Bool}
    (hinfo : s.branch0.conditionInfo.toOptions ≠ info)
    (hids : s.eventIdCounter + s.needed (._signalNewCondition info isActive) ≤ maxInt32) :
    (s.perform (._signalNewCondition info isActive)).alarm =
      if !isActive && !s.branch0.ackedState && s.branch0.getRetain then
        (s.branched.counted (s.eventIdCounter + 2)).store (s.branched.signalled info false)
      else (s.counted (s.eventIdCounter + 1)).store (s.signalled info isActive) := by
  simp only [needed, if_neg hinfo] at hids
  simp only [perform, _signalNewCondition, h.enabled, Bool.not_true, Bool.false_eq_true, if_false,
    if_neg hinfo]
  cases isActive with
  | true =>
    simp only [if_true, Bool.not_true, Bool.false_and, Bool.false_eq_true, if_false] at hids ⊢
    rw [h.raiseNewCondition_setActive (by omega) info (by rfl)]
    rfl
  | false =>
    simp only [Bool.false_eq_true, if_false, Bool.not_false, Bool.true_and] at hids ⊢
    by_cases hkeep : (!s.branch0.ackedState && s.branch0.getRetain) = true
    · rw [if_pos hkeep] at hids
      rw [if_pos hkeep, if_pos hkeep]
      rw [Bool.and_eq_true, Bool.not_eq_true'] at hkeep
      obtain ⟨b, hb⟩ := h.createBranch_eq (by omega) hkeep.2
      rw [hb, andThen_ok, andThen_ok,
        (h.branched hkeep.2 hkeep.1).raiseNewCondition_setActive
          (show s.eventIdCounter + 1 < maxInt32 by omega) info (by rfl), andThen_ok]
      rfl
    · rw [if_neg hkeep] at hids
      rw [if_neg hkeep, if_neg hkeep, andThen_ok]
      rw [h.raiseNewCondition_setActive (by omega) info (by rfl)]
      rfl

/-! ### The methods -/

lemma Kept.with_condition_method_eq (h : s.Kept) (hb : b ∈ s.all) (user : String)
    (inner_func : ConditionSnapshotImpl → ConditionCall (StatusCode × ConditionSnapshotImpl)) :
    s.with_condition_method b.eventId user inner_func =
      (inner_func b).andThen fun res alarm =>
        ⟨alarm.store { res.2 with clientUserId := user }, .ok res.1⟩ := by
  rw [with_condition_method, if_neg (by simp [h.enabled]), h.find hb]

/-- A branch that is acknowledged, before its event. -/
def acknowledged (s : AcknowledgeableAlarm) (comment : String) (b : ConditionSnapshotImpl) :
    ConditionSnapshotImpl :=
  if s.hasConfirmedState then
    { ({ b with ackedState := true, confirmedState := false }.setRetain true) with comment }
  else { ({ b with ackedState := true }.setRetain false) with comment }

lemma acknowledged_branchId (comment : String) (b : ConditionSnapshotImpl) :
    (s.acknowledged comment b).branchId = b.branchId := by
  unfold acknowledged
  split_ifs <;> rfl

lemma acknowledged_getRetain (comment : String) (b : ConditionSnapshotImpl) :
    (s.acknowledged comment b).getRetain = s.hasConfirmedState := by
  unfold acknowledged
  split_ifs with hconf
  · exact hconf.symm
  · simpa [ConditionSnapshotImpl.setRetain, ConditionSnapshotImpl.getRetain] using hconf

/-- **What an acknowledgement does.** -/
lemma _acknowledge_branch_eq (hacked : b.ackedState = false) (comment : String) :
    s._acknowledge_branch comment b =
      ((s.store (s.acknowledged comment b)).raiseNewBranchState (s.acknowledged comment b)).andThen
        fun branch alarm =>
          alarm.raiseAuditEvent.andThen fun _ alarm => ⟨alarm, .ok (.Good, branch)⟩ := by
  unfold _acknowledge_branch ConditionSnapshotImpl._setAckedState acknowledged
  rw [hacked]
  have hgood : StatusCode.Good.isNotGood = false := by decide
  dsimp only
  rw [if_neg Bool.false_ne_true]
  rw [if_neg (by simp [hgood])]
  split_ifs <;> rfl

lemma Kept.perform_acknowledge_store (h : s.Kept) (hb : b ∈ s.all)
    (hacked : b.ackedState = false) (hids : s.eventIdCounter + 2 ≤ maxInt32)
    (hkeep : b.branchId = 0 ∨ s.hasConfirmedState = true) (comment user : String) :
    s.perform (.acknowledge b.eventId comment user) =
      ⟨(s.counted (s.eventIdCounter + 2)).store
          { renewed (s.acknowledged comment b) (s.eventIdCounter + 1) with clientUserId := user },
        .ok (some .Good)⟩ := by
  have hctr : ((s.counted (s.eventIdCounter + 1)).store
      (renewed (s.acknowledged comment b) (s.eventIdCounter + 1))).eventIdCounter < maxInt32 := by
    rw [store_eventIdCounter]
    exact (by omega : s.eventIdCounter + 1 < maxInt32)
  rw [perform, _acknowledge_method, h.with_condition_method_eq hb, _acknowledge_branch_eq hacked,
    raiseNewBranchState_store (by omega)
      (by rwa [acknowledged_branchId, acknowledged_getRetain]), andThen_ok,
    raiseAuditEvent_eq hctr, andThen_ok, andThen_ok,
    andThen_ok, andThen_ok, counted_store, store_store (by rfl),
    store_eventIdCounter]
  rfl

lemma Kept.perform_acknowledge_delete (h : s.Kept)
    (hb : b ∈ s.branches) (hacked : b.ackedState = false)
    (hids : s.eventIdCounter + 2 ≤ maxInt32) (hconf : s.hasConfirmedState = false)
    (comment user : String) :
    s.perform (.acknowledge b.eventId comment user) =
      ⟨(s.counted (s.eventIdCounter + 2)).without b.branchId, .ok (some .Good)⟩ := by
  have hzero := h.branchId_ne_zero hb
  have hid := acknowledged_branchId (s := s) comment b
  have hctr : ((s.counted (s.eventIdCounter + 1)).without
      (s.acknowledged comment b).branchId).eventIdCounter < maxInt32 :=
    (by omega : s.eventIdCounter + 1 < maxInt32)
  rw [perform, _acknowledge_method, h.with_condition_method_eq (mem_all_of_mem hb),
    _acknowledge_branch_eq hacked,
    raiseNewBranchState_delete (by omega) (by rwa [hid]) (by rwa [acknowledged_getRetain]) hb hid.symm,
    andThen_ok, raiseAuditEvent_eq hctr, andThen_ok,
    andThen_ok, andThen_ok, andThen_ok]
  have hstore := store_without (s := s.counted (s.eventIdCounter + 2))
    (b := { renewed (s.acknowledged comment b) (s.eventIdCounter + 1) with clientUserId := user })
    (by rwa [← hid] at hzero)
  have hid' : ({ renewed (s.acknowledged comment b) (s.eventIdCounter + 1) with
      clientUserId := user } : ConditionSnapshotImpl).branchId = b.branchId := hid
  rw [hid'] at hstore
  rw [hid]
  exact congrArg₂ ConditionCall.mk hstore rfl

/-- A branch that is confirmed, before its event. -/
def confirmed (comment : String) (b : ConditionSnapshotImpl) : ConditionSnapshotImpl :=
  { ({ b with confirmedState := true }.setRetain false) with comment }

lemma _confirm_branch_eq (hids : s.eventIdCounter + 3 ≤ maxInt32) (comment : String) :
    s._confirm_branch comment b =
      ((s.counted (s.eventIdCounter + 2)).store (confirmed comment b)).raiseNewBranchState
        (confirmed comment b) := by
  have hctr : (s.store (confirmed comment b)).eventIdCounter < maxInt32 := by
    rw [store_eventIdCounter]
    omega
  have hctr' : ((s.counted (s.eventIdCounter + 1)).store
      (confirmed comment b)).eventIdCounter < maxInt32 := by
    rw [store_eventIdCounter]
    exact (by omega : s.eventIdCounter + 1 < maxInt32)
  change ((s.store (confirmed comment b)).raiseAuditEvent.andThen fun _ alarm =>
    alarm.raiseAuditEvent.andThen fun _ alarm =>
      alarm.raiseNewBranchState (confirmed comment b)) = _
  rw [raiseAuditEvent_eq hctr, andThen_ok, counted_store, store_eventIdCounter,
    raiseAuditEvent_eq hctr', andThen_ok, counted_store, store_eventIdCounter]
  rfl

lemma Kept._confirm_method_eq (h : s.Kept) (hb : b ∈ s.all)
    {eventId : ℕ} (hevent : b.eventId = some eventId) (hconf : s.hasConfirmedState = true)
    (hnot : b.confirmedState = false) (hids : s.eventIdCounter + 3 ≤ maxInt32)
    (comment user : String) :
    s._confirm_method (some eventId) comment user =
      (((s.counted (s.eventIdCounter + 2)).store (confirmed comment b)).raiseNewBranchState
        (confirmed comment b)).andThen fun branch alarm =>
          ⟨alarm.store { branch with clientUserId := user }, .ok .Good⟩ := by
  rw [_confirm_method, ← hevent, h.with_condition_method_eq hb, hevent,
    if_neg (by simp), if_neg (by simp [hconf]), if_neg (by simp [hnot]), _confirm_branch_eq hids]
  cases (((s.counted (s.eventIdCounter + 2)).store (confirmed comment b)).raiseNewBranchState
    (confirmed comment b)) with
  | mk alarm res => cases res <;> rfl

/-! ### Steps -/

variable {operation : Operation}

lemma Kept.keeps_of_same (h : s.Kept)
    (hsame : (s.perform operation).alarm = s) (hfinishes : ∀ b ∈ s.branches, ¬ s.Finishes b operation)
    (hunk : ∀ eventId comment user, operation = .acknowledge eventId comment user →
      s.findBranchForEventId eventId = .ok none →
        s.perform operation = ⟨s, .ok (some .BadEventIdUnknown)⟩)
    (honce : ∀ eventId comment user branch,
      operation = .acknowledge eventId comment user →
        s.findBranchForEventId eventId = .ok (some branch) → branch.ackedState = false) :
    (s.perform operation).alarm.Kept ∧ s.KeepsOccurrences operation := by
  refine ⟨by rwa [hsame], ⟨fun hact _ hinact => ?_, fun b hb _ => ?_,
    fun b hb hfinish => absurd hfinish (hfinishes b hb), by rw [hsame]; exact h.distinct, hunk,
    fun eventId comment user branch hop hfind hacked => ?_⟩⟩
  · rw [hsame, hact] at hinact
    cases hinact
  · rw [hsame]
    exact ⟨b, hb, rfl, rfl, Or.inl rfl, h.find (mem_all_of_mem hb)⟩
  · exact absurd (hacked.symm.trans (honce eventId comment user branch hop hfind)) (by decide)

lemma Kept.keeps_of_renewal (h : s.Kept) {n : ℕ}
    (hr : s.Renewal n b b') (heq : (s.perform operation).alarm = (s.counted n).store b')
    (hinfo : b.branchId ≠ 0 → b'.conditionInfo = b.conditionInfo)
    (hacked : b.branchId ≠ 0 → b'.ackedState = b.ackedState ∨ operation.Acknowledges b)
    (hact : s.branch0.activeState = true → s.branch0.ackedState = false →
      b.branchId = 0 → b'.activeState = true)
    (hfinishes : ∀ c ∈ s.branches, ¬ s.Finishes c operation)
    (hfound : ∀ eventId comment user, operation = .acknowledge eventId comment user →
      s.findBranchForEventId eventId = .ok (some b) ∧ b.ackedState = false) :
    (s.perform operation).alarm.Kept ∧ s.KeepsOccurrences operation := by
  refine ⟨heq ▸ hr.kept h, ⟨fun hact' hacked' hinact => ?_, fun c hc _ => ?_,
    fun c hc hfinish => absurd hfinish (hfinishes c hc), heq ▸ (hr.kept h).distinct,
    fun eventId comment user hop hnone => ?_, fun eventId comment user c hop hfind hc => ?_⟩⟩
  · rw [heq] at hinact
    have hmem := branch0_mem_all (s := (s.counted n).store b')
    rcases hr.mem_all h hmem with hbranch | ⟨hbranch, -⟩
    · have hzero : b.branchId = 0 := by
        rw [← hr.branchId, ← hbranch]
        exact (hr.kept h).current
      rw [hbranch, hact hact' hacked' hzero] at hinact
      cases hinact
    · rw [h.eq_branch0 hbranch (hr.kept h).current, hact'] at hinact
      cases hinact
  · obtain ⟨c', hc', hcases, hfind⟩ := hr.exists_mem h hc
    rw [heq]
    rcases hcases with ⟨rfl, rfl⟩ | rfl
    · have hzero := h.branchId_ne_zero hc
      exact ⟨c', hc', hr.branchId, hinfo hzero, hacked hzero, hfind⟩
    · exact ⟨c', hc', rfl, rfl, Or.inl rfl, hfind⟩
  · rw [(hfound eventId comment user hop).1] at hnone
    cases hnone
  · obtain ⟨hb, hnot⟩ := hfound eventId comment user hop
    rw [hb] at hfind
    obtain rfl := Option.some.inj (Except.ok.inj hfind)
    exact absurd (hc.symm.trans hnot) (by decide)

lemma Kept.keeps_of_deletion (h : s.Kept) {n : ℕ} (hn : s.eventIdCounter ≤ n) (hb : b ∈ s.branches)
    (heq : (s.perform operation).alarm = (s.counted n).without b.branchId)
    (hfinishes : ∀ c ∈ s.branches, s.Finishes c operation ↔ c = b)
    (hfound : ∀ eventId comment user, operation = .acknowledge eventId comment user →
      s.findBranchForEventId eventId = .ok (some b) ∧ b.ackedState = false) :
    (s.perform operation).alarm.Kept ∧ s.KeepsOccurrences operation := by
  have hkept : ((s.counted n).without b.branchId).Kept := h.without hn
  refine ⟨heq ▸ hkept, ⟨fun hact _ hinact => ?_, fun c hc hnot => ?_, fun c hc hfinish => ?_,
    heq ▸ hkept.distinct, fun eventId comment user hop hnone => ?_,
    fun eventId comment user c hop hfind hc => ?_⟩⟩
  · rw [heq] at hinact
    exact absurd (hact.symm.trans hinact) (by decide)
  · rw [heq]
    have hne : c.branchId ≠ b.branchId := fun hid =>
      hnot ((hfinishes c hc).mpr (h.eq_of_branchId (mem_all_of_mem hc) (mem_all_of_mem hb) hid))
    have hc' : c ∈ ((s.counted n).without b.branchId).branches :=
      List.mem_filter.mpr ⟨hc, by simpa using hne⟩
    exact ⟨c, hc', rfl, rfl, Or.inl rfl, hkept.find (mem_all_of_mem hc')⟩
  · rw [heq, (hfinishes c hc).mp hfinish]
    intro hmem
    obtain ⟨d, hd, hid⟩ := List.mem_map.mp hmem
    rcases List.mem_cons.mp hd with rfl | hd
    · exact h.branchId_ne_zero hb (hid.symm.trans h.current)
    · exact absurd hid (by simpa using (List.mem_filter.mp hd).2)
  · rw [(hfound eventId comment user hop).1] at hnone
    cases hnone
  · obtain ⟨hb, hnot⟩ := hfound eventId comment user hop
    rw [hb] at hfind
    obtain rfl := Option.some.inj (Except.ok.inj hfind)
    exact absurd (hc.symm.trans hnot) (by decide)

/-- **What a signal keeps.** -/
lemma Kept.signal (h : s.Kept) {isActive : Bool}
    (ha : s.OccurrenceCondition (._signalNewCondition info isActive)) :
    (s.perform (._signalNewCondition info isActive)).alarm.Kept ∧
      s.KeepsOccurrences (._signalNewCondition info isActive) := by
  by_cases hinfo : s.branch0.conditionInfo.toOptions = info
  · refine h.keeps_of_same ?_ (fun _ _ => id) (fun _ _ _ hop => nomatch hop)
      fun _ _ _ _ hop => nomatch hop
    simp only [perform, _signalNewCondition, h.enabled, Bool.not_true, Bool.false_eq_true, if_false,
      if_pos hinfo, andThen_error]
  have heq := h.signal_eq hinfo ha.enough
  by_cases hkeep : (!isActive && !s.branch0.ackedState && s.branch0.getRetain) = true
  · -- the earlier state gets a branch, before the current branch is renewed
    rw [if_pos hkeep] at heq
    simp only [Bool.and_eq_true, Bool.not_eq_true'] at hkeep
    obtain ⟨⟨rfl, hacked⟩, hret⟩ := hkeep
    have hbran := h.branched hret hacked
    have hr := hbran.renewal_signalled info false
    have heq' : (s.perform (._signalNewCondition info false)).alarm =
        (s.branched.counted (s.branched.eventIdCounter + 1)).store
          (s.branched.signalled info false) := heq
    refine ⟨heq' ▸ hr.kept hbran, ⟨fun _ _ _ => ?_, fun c hc _ => ?_, fun c hc => False.elim,
      heq' ▸ (hr.kept hbran).distinct, nofun, nofun⟩⟩
    · have hnew : renewed { s.branch0 with branchId := s.nextBranchId } (s.eventIdCounter + 1) ∈
          s.branched.branches := List.mem_append_right _ (List.mem_singleton_self _)
      obtain ⟨c', hc', hcases, hfind⟩ := hr.exists_mem hbran hnew
      rw [heq']
      rcases hcases with ⟨hcur, -⟩ | rfl
      · have hzero := hbran.branchId_ne_zero hnew
        exact absurd (hcur ▸ hbran.current) hzero
      · refine ⟨_, hc', fun hmem => ?_, hacked, rfl, hfind⟩
        obtain ⟨d, hd, hid⟩ := List.mem_map.mp hmem
        exact (h.created d hd).ne hid
    · have hmem : c ∈ s.branched.branches := List.mem_append_left _ hc
      obtain ⟨c', hc', hcases, hfind⟩ := hr.exists_mem hbran hmem
      rw [heq']
      rcases hcases with ⟨rfl, -⟩ | rfl
      · exact absurd hbran.current (hbran.branchId_ne_zero hmem)
      · exact ⟨_, hc', rfl, rfl, Or.inl rfl, hfind⟩
  · rw [if_neg hkeep] at heq
    have hzero : ∀ {P : Prop}, s.branch0.branchId ≠ 0 → P := fun hne => absurd h.current hne
    refine h.keeps_of_renewal (h.renewal_signalled info isActive) heq hzero hzero
      (fun hact hacked _ => ?_) (fun _ _ => id) nofun
    cases isActive with
    | true => rfl
    | false =>
      have hret := ha.retained info rfl hinfo hact hacked
      exact absurd (by simp [hacked, hret]) hkeep

variable {comment userName : String}

/-- **What an acknowledgement keeps.** -/
lemma Kept.acknowledge (h : s.Kept)
    (ha : s.OccurrenceCondition (.acknowledge eventId comment userName)) :
    (s.perform (.acknowledge eventId comment userName)).alarm.Kept ∧
      s.KeepsOccurrences (.acknowledge eventId comment userName) := by
  have honce : ∀ eventId' comment' user' branch,
      Operation.acknowledge eventId comment userName = .acknowledge eventId' comment' user' →
        s.findBranchForEventId eventId' = .ok (some branch) → branch.ackedState = false :=
    fun eventId' comment' user' branch hop hfind =>
      ha.once eventId' comment' user' branch hop hfind
  -- a branch that the operation finishes is found
  have hnone : (∀ b, s.findBranchForEventId eventId ≠ .ok (some b)) →
      ∀ b ∈ s.branches, ¬ s.Finishes b (.acknowledge eventId comment userName) :=
    fun hnot b hb hfinish => hnot b (hfinish.1 ▸ h.find (mem_all_of_mem hb))
  match hfind : s.findBranchForEventId eventId with
  | .error message =>
    refine h.keeps_of_same ?_ (hnone fun b hb => by rw [hfind] at hb; cases hb) ?_ honce
    · simp only [perform, _acknowledge_method, with_condition_method, h.enabled, hfind,
        Bool.not_true, Bool.false_eq_true, if_false, andThen_error]
    · intro eventId' comment' user' hop hunk
      obtain ⟨rfl, -, -⟩ := Operation.acknowledge.inj hop
      rw [hfind] at hunk
      cases hunk
  | .ok none =>
    have hperform : s.perform (.acknowledge eventId comment userName) =
        ⟨s, .ok (some .BadEventIdUnknown)⟩ := by
      simp only [perform, _acknowledge_method, with_condition_method, h.enabled, hfind,
        Bool.not_true, Bool.false_eq_true, if_false, andThen_ok]
    refine h.keeps_of_same (by rw [hperform]) (hnone fun b hb => by rw [hfind] at hb; cases hb)
      (fun _ _ _ _ _ => hperform) honce
  | .ok (some b) =>
    obtain ⟨hb, rfl⟩ := mem_of_find hfind
    have hacked := ha.once b.eventId comment userName b rfl hfind
    have hids : s.eventIdCounter + 2 ≤ maxInt32 := by
      have henough := ha.enough
      rw [needed, hfind] at henough
      dsimp only at henough
      rwa [hacked, if_neg Bool.false_ne_true] at henough
    have hfound : ∀ eventId' comment' user',
        Operation.acknowledge b.eventId comment userName =
            .acknowledge eventId' comment' user' →
          s.findBranchForEventId eventId' = .ok (some b) ∧ b.ackedState = false := by
      intro eventId' comment' user' hop
      obtain ⟨rfl, -, -⟩ := Operation.acknowledge.inj hop
      exact ⟨hfind, hacked⟩
    by_cases hkeep : b.branchId = 0 ∨ s.hasConfirmedState = true
    · have hperform := h.perform_acknowledge_store hb hacked hids hkeep comment userName
      have hconf : b.branchId ≠ 0 → s.hasConfirmedState = true :=
        fun hzero => hkeep.resolve_left hzero
      have hr : s.Renewal (s.eventIdCounter + 2) b
          { renewed (s.acknowledged comment b) (s.eventIdCounter + 1) with
            clientUserId := userName } := by
        refine ⟨hb, acknowledged_branchId comment b, Nat.le_add_right _ _,
          Or.inr ⟨_, rfl, Nat.lt_succ_self _, Nat.le_succ _⟩, fun hzero => ?_, fun hzero => ?_⟩
        · exact (acknowledged_getRetain comment b).trans (hconf hzero)
        · intro hfinished
          have htrue := hfinished.2 (hconf hzero)
          simp [renewed, acknowledged, hconf hzero, ConditionSnapshotImpl.setRetain] at htrue
      refine h.keeps_of_renewal hr (congrArg ConditionCall.alarm hperform) (fun hzero => ?_)
        (fun _ => Or.inr rfl) (fun hact _ hzero => ?_) (fun c hc hfinish => ?_) hfound
      · have hret := h.retained b (h.mem_branches hb hzero)
        simp only [ConditionSnapshotImpl.getRetain] at hret
        simp [renewed, acknowledged, hconf hzero, ConditionSnapshotImpl.setRetain, ← hret]
      · rw [h.eq_branch0 hb hzero]
        unfold acknowledged
        split_ifs <;> exact hact
      · -- without the state only the current branch stays, which is none of the others
        have hid := h.eq_of_eventId (mem_all_of_mem hc) hb hfinish.1.symm
        have hzero := hid ▸ h.branchId_ne_zero hc
        exact absurd (hfinish.2.symm.trans (hconf hzero)) (by decide)
    · obtain ⟨hzero, hconf⟩ := not_or.mp hkeep
      rw [Bool.not_eq_true] at hconf
      have hmem := h.mem_branches hb hzero
      refine h.keeps_of_deletion (Nat.le_add_right _ _) hmem (congrArg ConditionCall.alarm
        (h.perform_acknowledge_delete hmem hacked hids hconf comment userName))
        (fun c hc => ⟨fun hfinish => ?_, ?_⟩) hfound
      · exact h.eq_of_eventId (mem_all_of_mem hc) hb hfinish.1.symm
      · rintro rfl
        exact ⟨rfl, hconf⟩

/-- **What a confirmation keeps.** -/
lemma Kept.confirm (h : s.Kept) (ha : s.OccurrenceCondition (.confirm eventId comment userName)) :
    (s.perform (.confirm eventId comment userName)).alarm.Kept ∧
      s.KeepsOccurrences (.confirm eventId comment userName) := by
  have hcall : s.perform (.confirm eventId comment userName) =
      (s._confirm_method eventId comment userName).andThen fun statusCode alarm =>
        ⟨alarm, .ok (some statusCode)⟩ := rfl
  -- a branch that the operation finishes is found
  have hnone : (∀ b, s.findBranchForEventId eventId ≠ .ok (some b)) →
      ∀ b ∈ s.branches, ¬ s.Finishes b (.confirm eventId comment userName) :=
    fun hnot b hb hfinish => hnot b (hfinish.1 ▸ h.find (mem_all_of_mem hb))
  match hfind : s.findBranchForEventId eventId with
  | .error message =>
    refine h.keeps_of_same ?_ (hnone fun b hb => by rw [hfind] at hb; cases hb) nofun nofun
    rw [hcall]
    simp only [_confirm_method, with_condition_method, h.enabled, hfind, Bool.not_true,
      Bool.false_eq_true, if_false, andThen_error]
  | .ok none =>
    refine h.keeps_of_same ?_ (hnone fun b hb => by rw [hfind] at hb; cases hb) nofun nofun
    rw [hcall]
    simp only [_confirm_method, with_condition_method, h.enabled, hfind, Bool.not_true,
      Bool.false_eq_true, if_false, andThen_ok]
  | .ok (some b) =>
    obtain ⟨hb, rfl⟩ := mem_of_find hfind
    have hmethod := h.with_condition_method_eq hb userName
    match hevent : b.eventId with
    | none =>
      -- a branch other than the current one has an event
      refine h.keeps_of_same ?_ (fun c hc hfinish => h.raised c hc hfinish.1.symm) nofun nofun
      rw [hevent] at hcall hmethod
      rw [hcall, _confirm_method, hmethod]
      rfl
    | some eventId =>
      rw [hevent] at hcall hmethod hfind
      by_cases hconf : s.hasConfirmedState = true
      swap
      · refine h.keeps_of_same ?_ (fun c _ hfinish => hconf hfinish.2.1) nofun nofun
        rw [hcall, _confirm_method, hmethod, if_neg (by simp), if_pos (by simp [hconf])]
        rfl
      by_cases halready : b.confirmedState = true
      · have hperform : (s.perform (.confirm (some eventId) comment userName)).alarm =
            (s.counted s.eventIdCounter).store { b with clientUserId := userName } := by
          rw [hcall, _confirm_method, hmethod, if_neg (by simp), if_neg (by simp [hconf]),
            if_pos halready]
          rfl
        have hr : s.Renewal s.eventIdCounter b { b with clientUserId := userName } :=
          ⟨hb, rfl, le_rfl, Or.inl rfl, fun hzero => h.retained b (h.mem_branches hb hzero),
            fun hzero => h.unfinished b (h.mem_branches hb hzero)⟩
        refine h.keeps_of_renewal hr hperform (fun _ => rfl) (fun _ => Or.inl rfl)
          (fun hact _ hzero => ?_) (fun c hc hfinish => ?_) nofun
        · rw [h.eq_branch0 hb hzero]
          exact hact
        · have heq := h.eq_of_eventId (mem_all_of_mem hc) hb (hfinish.1.symm.trans hevent.symm)
          exact h.unfinished c hc ⟨hfinish.2.2, fun _ => heq ▸ halready⟩
      · rw [Bool.not_eq_true] at halready
        have hids : s.eventIdCounter + 3 ≤ maxInt32 := by
          have henough := ha.enough
          rw [hevent, needed, hfind] at henough
          simpa [hconf, halready] using henough
        rw [h._confirm_method_eq hb hevent hconf halready hids] at hcall
        by_cases hzero : b.branchId = 0
        · have hstored := raiseNewBranchState_store (s := s.counted (s.eventIdCounter + 2))
            (b := confirmed comment b) (by exact (by omega : s.eventIdCounter + 2 < maxInt32))
            (Or.inl hzero)
          rw [hstored, andThen_ok, andThen_ok,
            store_store (by rfl)] at hcall
          have hr : s.Renewal (s.eventIdCounter + 3) b
              { renewed (confirmed comment b) (s.eventIdCounter + 3) with
                clientUserId := userName } :=
            ⟨hb, rfl, Nat.le_add_right _ _, Or.inr ⟨_, rfl, by omega, le_rfl⟩,
              fun hne => absurd hzero hne, fun hne => absurd hzero hne⟩
          refine h.keeps_of_renewal hr (congrArg ConditionCall.alarm hcall)
            (fun hne => absurd hzero hne) (fun _ => Or.inl rfl) (fun hact _ _ => ?_)
            (fun c hc hfinish => ?_) nofun
          · rw [h.eq_branch0 hb hzero]
            exact hact
          · have heq := h.eq_of_eventId (mem_all_of_mem hc) hb (hfinish.1.symm.trans hevent.symm)
            exact h.branchId_ne_zero hc (heq ▸ hzero)
        · have hmem := h.mem_branches hb hzero
          have hacked := ha.inOrder eventId comment userName (by rw [hevent]) hconf b hmem hevent
            halready
          have hdel := raiseNewBranchState_delete (s := s.counted (s.eventIdCounter + 2))
            (b := confirmed comment b) (by exact (by omega : s.eventIdCounter + 2 < maxInt32)) hzero
            rfl hmem rfl
          have hstore := store_without (s := s.counted (s.eventIdCounter + 3))
            (b := { renewed (confirmed comment b) (s.eventIdCounter + 3) with
              clientUserId := userName }) hzero
          rw [hdel, andThen_ok, andThen_ok] at hcall
          refine h.keeps_of_deletion (Nat.le_add_right _ 3) hmem
            ((congrArg ConditionCall.alarm hcall).trans hstore)
            (fun c hc => ⟨fun hfinish => ?_, ?_⟩) nofun
          · exact h.eq_of_eventId (mem_all_of_mem hc) hb (hfinish.1.symm.trans hevent.symm)
          · rintro rfl
            exact ⟨hevent.symm, hconf, hacked⟩

/-- **What an operation keeps.** -/
lemma Kept.perform (h : s.Kept) (ha : s.OccurrenceCondition operation) :
    (s.perform operation).alarm.Kept ∧ s.KeepsOccurrences operation := by
  cases operation with
  | _signalNewCondition info isActive => exact h.signal ha
  | acknowledge eventId comment user => exact h.acknowledge ha
  | confirm eventId comment user => exact h.confirm ha

/-! ### Runs -/

/-- **No occurrence is lost** in a run whose operations meet their conditions.

**Proof sketch.** The invariant holds of a new alarm, and each operation that meets its condition keeps it
and does what is expected. -/
theorem run_keepsOccurrences (browseName : String) (hasConfirmedState : Bool) (eventIdCounter : ℕ)
    (operations : List Operation)
    (h : Mealy.Along step OccurrenceCondition
      (instantiate browseName hasConfirmedState eventIdCounter) operations) :
    Mealy.Along step KeepsOccurrences
      (instantiate browseName hasConfirmedState eventIdCounter) operations :=
  Mealy.along_of_along step (I := Kept) (fun _ _ hkept ha => (hkept.perform ha).1)
    (fun _ _ hkept ha => (hkept.perform ha).2) (kept_instantiate _ _ _) h

/-- The alarm gets active. -/
def tooHigh : Operation := ._signalNewCondition ⟨some "Too high", some .Good, some 150, some true⟩ true

/-- The alarm returns to normal. -/
def normalAgain : Operation :=
  ._signalNewCondition ⟨some "Back to normal", some .Good, some 0, some true⟩ false

/-- A branch that is acknowledged and then confirmed stays until then. -/
theorem run_keepsOccurrences_acknowledged :
    Mealy.Along step OccurrenceCondition (instantiate "Level" true 0)
        [tooHigh, normalAgain, .acknowledge (some 2) "seen" "joe",
          .confirm (some 4) "done" "joe"] ∧
      Mealy.Along step KeepsOccurrences (instantiate "Level" true 0)
        [tooHigh, normalAgain, .acknowledge (some 2) "seen" "joe",
          .confirm (some 4) "done" "joe"] := by
  have hcond : Mealy.Along step OccurrenceCondition (instantiate "Level" true 0)
      [tooHigh, normalAgain, .acknowledge (some 2) "seen" "joe", .confirm (some 4) "done" "joe"] := by
    refine ⟨⟨by decide, nofun, nofun, nofun⟩, ⟨by decide, fun _ _ _ _ _ => rfl, nofun, nofun⟩,
      ⟨by decide, nofun, ?_, nofun⟩, ⟨by decide, nofun, nofun, ?_⟩, trivial⟩
    · intro eventId comment userName branch hop hfind
      obtain ⟨rfl, -, -⟩ := Operation.acknowledge.inj hop
      obtain rfl := Option.some.inj (Except.ok.inj hfind)
      rfl
    · intro eventId comment userName _ _ b hb _ _
      obtain rfl := List.mem_singleton.mp hb
      rfl
  exact ⟨hcond, run_keepsOccurrences "Level" true 0 _ hcond⟩

/-- **Not every run keeps the occurrences**: a branch that is confirmed is deleted, whether it was
acknowledged or not. -/
theorem runs_not_keepsOccurrences :
    ¬ ∀ (browseName : String) (hasConfirmedState : Bool) (eventIdCounter : ℕ)
      (operations : List Operation), Mealy.Along step KeepsOccurrences
        (instantiate browseName hasConfirmedState eventIdCounter) operations := by
  intro hall
  obtain ⟨-, -, hconfirm, -⟩ := hall "Level" true 0
    [tooHigh, normalAgain, .confirm (some 2) "done" "joe"]
  obtain ⟨b', hb', -⟩ := hconfirm.kept
    { branchId := 1
      eventId := some 2
      conditionInfo := ⟨"Too high", .Good, 150, true⟩
      activeState := true
      ackedState := false
      confirmedState := false
      comment := ""
      clientUserId := "" } (by decide) (fun hfinish => absurd hfinish.2.2 (by decide))
  cases hb'

end AcknowledgeableAlarm

end NodeOpcua
