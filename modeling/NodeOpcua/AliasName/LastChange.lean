import Mathlib.Logic.Function.Basic
import NodeOpcua.Library.Mealy
import NodeOpcua.Library.Traversal

set_option autoImplicit false

/-!
# The last change of alias categories

Every category of aliases publishes the time of its last change, which is also a change of the
categories above it. The times are kept in a file, so that they survive a restart of the server.

## Main definitions

* `CategoryGraph.selfAndAncestors`, `LastChangeTracker`, `LastChangeTracker.step`,
  `LastChangeTracker.Guarded`.

## Main results

* `CategoryGraph.selfAndAncestors_isSome`.
* `LastChangeTracker.run_lastChange`.

## Design

The keys of the maps are the texts of node ids; here they are of any type with decidable equality. A
category graph may be any graph. A restore reads the file and sets the values later, so other steps may
come between; a file that cannot be read changes nothing. The saves are numbered.
-/

namespace NodeOpcua

open Function (update)
open List (mem_append_left append_nil)
open Mealy (trace)

/-- **The categories in the address space.** -/
structure CategoryGraph (K : Type) where
  nodes : Finset K
  /-- The objects that refer to a node by a hierarchical reference. -/
  parents : K → List K
  /-- `WellKnownCategories.Aliases`. -/
  Aliases : K
  /-- The object is of `AliasNameCategoryType`. -/
  isCategory : K → Bool
  /-- The node is an object with a `LastChange` property. -/
  hasLastChange : K → Bool

/-- `maxVersionTime`. -/
def maxVersionTime (a b : ℕ) : ℕ := if a > b then a else b

@[simp] lemma maxVersionTime_eq (a b : ℕ) : maxVersionTime a b = max a b := by
  unfold maxVersionTime
  split <;> omega

namespace CategoryGraph

variable {K : Type} [DecidableEq K] (g : CategoryGraph K)

/-- The objects above a node, when the node is found. -/
def findParents (k : K) : List K := if k ∈ g.nodes then g.parents k else []

/-- **`selfAndAncestors`**, with a bound on the visits. The root comes last when it is not reached. -/
def selfAndAncestors (categoryNodeId : K) : Option (List K) :=
  (Traversal.visit g.findParents (Traversal.bound g.findParents g.nodes [categoryNodeId] [])
    [categoryNodeId] []).map fun result =>
      if g.Aliases ∉ result ∧ g.Aliases ∈ g.nodes then result ++ [g.Aliases] else result

/-- The categories that a change moves. -/
def moved (categoryNodeId : K) : List K := (g.selfAndAncestors categoryNodeId).getD []

/-- **An ancestor**: it is reached over the parents, or it is the root. -/
def IsAncestor (a k : K) : Prop :=
  Relation.ReflTransGen (fun child parent => parent ∈ g.findParents child) k a ∨
    a = g.Aliases ∧ g.Aliases ∈ g.nodes

/-- The node has a property to publish its time. -/
def publishes (k : K) : Bool := k ∈ g.nodes ∧ g.hasLastChange k

/-- **The walk over the categories ends**, on every graph. -/
theorem selfAndAncestors_isSome (categoryNodeId : K) :
    (g.selfAndAncestors categoryNodeId).isSome := by
  unfold selfAndAncestors
  rw [Option.isSome_map]
  exact Traversal.visit_isSome (fun x hx => if_neg hx) (le_refl _)

/-- **The categories that a change moves** are the category and its ancestors. -/
lemma mem_moved_iff (a k : K) : a ∈ g.moved k ↔ g.IsAncestor a k := by
  obtain ⟨result, hres⟩ := Option.isSome_iff_exists.mp (g.selfAndAncestors_isSome k)
  obtain ⟨visited, hvis, hroot⟩ := Option.map_eq_some_iff.mp hres
  have hreach := Traversal.mem_visit_iff hvis
  unfold moved IsAncestor
  rw [hres, Option.getD_some, ← hroot, ← hreach]
  by_cases hadded : g.Aliases ∉ visited ∧ g.Aliases ∈ g.nodes
  · rw [if_pos hadded, List.mem_append, List.mem_singleton]
    simp [hadded.2]
  · rw [if_neg hadded]
    refine ⟨.inl, ?_⟩
    rintro (hmem | ⟨rfl, hnode⟩)
    · exact hmem
    · by_contra hnot
      exact hadded ⟨hnot, hnode⟩

variable {g}

lemma IsAncestor.refl (k : K) : g.IsAncestor k k := .inl .refl

lemma IsAncestor.trans_reach {a b k : K} (h : g.IsAncestor b a)
    (hreach : Relation.ReflTransGen (fun child parent => parent ∈ g.findParents child) k a) :
    g.IsAncestor b k :=
  h.imp_left hreach.trans

end CategoryGraph

/-! ### The tracker -/

/-- **A save** that waits for its turn, with what it writes. -/
structure PendingSave (K : Type) where
  number : ℕ
  archive : K → Option ℕ
  /-- The time that a touch returns when the save is done. -/
  returns : Option ℕ

/-- **`LastChangeTracker`**, with the file and the properties in the address space. -/
structure LastChangeTracker (K : Type) where
  /-- A path was given. -/
  persistencePath : Bool
  values : K → Option ℕ
  savingChain : List (PendingSave K)
  /-- The promise at the end of the chain is rejected, or will be. -/
  rejected : Bool
  /-- The content of the file. -/
  archive : Option (K → Option ℕ)
  /-- What the restores that are not finished have read. -/
  pendingRestores : List (Option (K → Option ℕ))
  /-- The values of the `LastChange` properties. -/
  published : K → Option ℕ
  saves : ℕ

/-- What happens to the tracker. The time of a touch is the one that is given, or now. -/
inductive LastChangeEvent (K : Type)
  | touch (categoryNodeId : K) (versionTime : ℕ)
  | save
  | writeSettles (succeeds : Bool)
  | readArchive
  | restore (index : ℕ)

/-- What a step reports. -/
inductive LastChangeOutput (K : Type)
  /-- A touch has recorded its time, and these are the values. -/
  | touched (number : ℕ) (categoryNodeId : K) (values : K → Option ℕ)
  /-- A save is asked for, with these values in memory. -/
  | asked (number : ℕ) (values : K → Option ℕ)
  /-- A touch returns. -/
  | returned (number value : ℕ)
  /-- A save reports success, with this content of the file. -/
  | saved (number : ℕ) (archive : Option (K → Option ℕ))
  /-- A save reports an error. -/
  | failed (number : ℕ)

namespace LastChangeTracker

variable {K : Type}

/-- `new LastChangeTracker(addressSpace, options)`, with what is in the file. -/
def new (persistencePath : Bool) (archive : Option (K → Option ℕ)) : LastChangeTracker K where
  persistencePath := persistencePath
  values _ := none
  savingChain := []
  rejected := false
  archive := archive
  pendingRestores := []
  published _ := none
  saves := 0

/-- `get`. -/
def get (t : LastChangeTracker K) (categoryNodeId : K) : ℕ := (t.values categoryNodeId).getD 0

variable [DecidableEq K]

/-- `writeProperty`. -/
def writeProperty (g : CategoryGraph K) (t : LastChangeTracker K) (k : K) : LastChangeTracker K :=
  if g.publishes k then { t with published := update t.published k (some (t.get k)) } else t

/-- The change of one of the categories that a touch moves. -/
def move (g : CategoryGraph K) (value : ℕ) (t : LastChangeTracker K) (k : K) : LastChangeTracker K :=
  writeProperty g
    { t with values := update t.values k (some (maxVersionTime (t.get k) value)) } k

/-- `save`, for the time that a touch returns afterwards. -/
def save (t : LastChangeTracker K) (returns : Option ℕ) : LastChangeTracker K × List (LastChangeOutput K) :=
  if t.persistencePath then
    ({ t with
        savingChain := t.savingChain ++ [⟨t.saves, t.values, returns⟩]
        saves := t.saves + 1 }, [.asked t.saves t.values])
  else
    ({ t with saves := t.saves + 1 }, (returns.map (LastChangeOutput.returned t.saves)).toList)

/-- `touch`. -/
def touch (g : CategoryGraph K) (t : LastChangeTracker K) (categoryNodeId : K) (value : ℕ) :
    LastChangeTracker K × List (LastChangeOutput K) :=
  let t := (g.moved categoryNodeId).foldl (move g value) t
  let saved := t.save (some value)
  (saved.1, .touched t.saves categoryNodeId t.values :: saved.2)

/-- The first save of the chain is settled: it writes the file, unless one before it has failed. -/
def writeSettles (t : LastChangeTracker K) (succeeds : Bool) :
    LastChangeTracker K × List (LastChangeOutput K) :=
  match t.savingChain with
  | [] => (t, [])
  | job :: savingChain =>
    if t.rejected then ({ t with savingChain }, [.failed job.number])
    else if succeeds then
      let t := { t with savingChain, archive := some job.archive }
      (t, .saved job.number t.archive :: (job.returns.map (LastChangeOutput.returned job.number)).toList)
    else ({ t with savingChain, rejected := true }, [.failed job.number])

/-- `restore`, after the file has been read: the values are set and published. -/
def setRestored (g : CategoryGraph K) (t : LastChangeTracker K) (archive : Option (K → Option ℕ)) :
    LastChangeTracker K :=
  let values := fun k => ((archive.getD fun _ => none) k).or (t.values k)
  { t with
      values
      published := fun k => if (values k).isSome ∧ g.publishes k then values k else t.published k }

/-- **What happens to the tracker.** -/
def step (g : CategoryGraph K) (t : LastChangeTracker K) :
    LastChangeEvent K → LastChangeTracker K × List (LastChangeOutput K)
  | .touch categoryNodeId versionTime => t.touch g categoryNodeId versionTime
  | .save => t.save none
  | .writeSettles succeeds => t.writeSettles succeeds
  | .readArchive =>
    ({ t with
        pendingRestores := t.pendingRestores ++ [if t.persistencePath then t.archive else none] }, [])
  | .restore index =>
    match t.pendingRestores[index]? with
    | none => (t, [])
    | some archive =>
      (setRestored g { t with pendingRestores := t.pendingRestores.eraseIdx index } archive, [])

/-- **The steps that reach no defect.** A touch has a time that is not before the one of its category,
and moves the ancestors of the root with the root; no save comes after a failed one; and a restore sets
no value that is behind the one in memory, or ahead of an ancestor. -/
def Guarded (g : CategoryGraph K) (t : LastChangeTracker K) : LastChangeEvent K → Prop
  | .touch categoryNodeId versionTime =>
    t.get categoryNodeId ≤ versionTime ∧
      (g.IsAncestor g.Aliases categoryNodeId → ∀ a, g.isCategory a → g.IsAncestor a g.Aliases →
        g.IsAncestor a categoryNodeId ∨ versionTime ≤ t.get a)
  | .writeSettles _ => t.savingChain ≠ [] → t.rejected = false
  | .restore index => ∀ archive, t.pendingRestores[index]? = some (some archive) →
      ∀ k value, archive k = some value →
        t.get k ≤ value ∧
          ∀ a, g.isCategory a → g.IsAncestor a k → value ≤ (archive a).getD (t.get a)
  | _ => True

variable {g : CategoryGraph K} {t : LastChangeTracker K} {L : List (LastChangeOutput K)}

/-! ### What a step does -/

section

variable (value : ℕ) (t : LastChangeTracker K) (ks : List K)

lemma values_foldl_move (k : K) :
    (ks.foldl (move g value) t).values k =
      if k ∈ ks then some (max (t.get k) value) else t.values k := by
  induction ks generalizing t with
  | nil => rfl
  | cons x ks ih =>
    have hvals : ∀ k, (move g value t x).values k =
        if k = x then some (max (t.get x) value) else t.values k := by
      intro k
      unfold move writeProperty
      split <;> simp [Function.update_apply]
    rw [List.foldl_cons, ih, get, hvals]
    by_cases hx : k = x
    · subst hx
      by_cases hmem : k ∈ ks <;> simp [hmem]
    · by_cases hmem : k ∈ ks <;> simp [hx, hmem, get]

lemma foldl_move_frame : ∃ values published,
    ks.foldl (move g value) t = { t with values, published } := by
  induction ks generalizing t with
  | nil => exact ⟨_, _, rfl⟩
  | cons x ks ih =>
    obtain ⟨values, published, hrest⟩ := ih (move g value t x)
    rw [List.foldl_cons, hrest]
    unfold move writeProperty
    split <;> exact ⟨values, published, rfl⟩

end

/-- What is published is what is in memory. -/
def Published (g : CategoryGraph K) (t : LastChangeTracker K) : Prop :=
  ∀ k v, t.published k = some v → g.publishes k = true ∧ v = t.get k

lemma Published.move (h : Published g t) (value : ℕ) (x : K) : Published g (move g value t x) := by
  intro k v hv
  unfold LastChangeTracker.move writeProperty at hv ⊢
  by_cases hx : k = x
  · subst hx
    split at hv
    · next hpublishes =>
      refine ⟨hpublishes, ?_⟩
      simpa [get, eq_comm, hpublishes] using hv
    · next hnot => exact absurd (h k v hv).1 hnot
  · have hold : t.published k = some v := by
      split at hv
      · simpa [hx] using hv
      · exact hv
    refine ⟨(h k v hold).1, ?_⟩
    split <;> simpa [get, hx] using (h k v hold).2

/-! ### The invariant -/

/-- **The invariant**, with what has been reported: no category is ahead of its ancestors, what is
published is what is in memory, and the saves that wait write what was in memory when they were asked
for. -/
structure Sound (g : CategoryGraph K) (L : List (LastChangeOutput K)) (t : LastChangeTracker K) :
    Prop where
  rolledUp : ∀ a k, g.isCategory a → g.IsAncestor a k → t.get k ≤ t.get a
  published : Published g t
  asked : ∀ job ∈ t.savingChain, .asked job.number job.archive ∈ L
  touched : ∀ job ∈ t.savingChain, ∀ v, job.returns = some v →
    ∃ k, .touched job.number k job.archive ∈ L ∧ job.archive k = some v

/-- **What is reported is right**: a touch returns what it has recorded, and a save leaves in the file
what was in memory when it was asked for. -/
def Right (L : List (LastChangeOutput K)) : LastChangeOutput K → Prop
  | .returned number value => ∃ k values, .touched number k values ∈ L ∧ values k = some value
  | .saved number archive => ∃ values, .asked number values ∈ L ∧ archive = some values
  | _ => True

/-- What a step should do, beside keeping the invariant. -/
structure StepRight (L : List (LastChangeOutput K)) (t t' : LastChangeTracker K)
    (event : LastChangeEvent K) (out : List (LastChangeOutput K)) : Prop where
  get_le : ∀ k, t.get k ≤ t'.get k
  right : ∀ b ∈ out, Right (L ++ out) b
  succeeds : event = .writeSettles true → ∀ number, .failed number ∉ out

lemma Sound.save (h : Sound g L t) (returns : Option ℕ)
    (hreturns : ∀ v, returns = some v → ∃ k, .touched t.saves k t.values ∈ L ∧ t.values k = some v) :
    Sound g (L ++ (t.save returns).2) (t.save returns).1 ∧
      ∀ b ∈ (t.save returns).2, Right (L ++ (t.save returns).2) b := by
  unfold LastChangeTracker.save
  split
  · refine ⟨⟨h.rolledUp, h.published, fun job hjob => ?_, fun job hjob v hv => ?_⟩, fun b hb => ?_⟩
    · rcases List.mem_append.mp hjob with hjob | hjob
      · exact mem_append_left _ (h.asked job hjob)
      · obtain rfl := List.mem_singleton.mp hjob
        simp
    · rcases List.mem_append.mp hjob with hjob | hjob
      · exact (h.touched job hjob v hv).imp fun k hk => hk.imp_left (mem_append_left _)
      · obtain rfl := List.mem_singleton.mp hjob
        exact (hreturns v hv).imp fun k hk => hk.imp_left (mem_append_left _)
    · obtain rfl := List.mem_singleton.mp hb
      trivial
  · refine ⟨⟨h.rolledUp, h.published, ?_, fun job hjob v hv => ?_⟩, fun b hb => ?_⟩
    · exact fun job hjob => mem_append_left _ (h.asked job hjob)
    · exact (h.touched job hjob v hv).imp fun k hk => hk.imp_left (mem_append_left _)
    · obtain ⟨v, hv, rfl⟩ := Option.map_eq_some_iff.mp (Option.mem_toList.mp hb)
      obtain ⟨k, hk, hkv⟩ := hreturns v hv
      exact ⟨k, t.values, mem_append_left _ hk, hkv⟩

lemma Sound.moved (h : Sound g L t) {k : K} {value : ℕ} (hguard : Guarded g t (.touch k value)) :
    Sound g L ((g.moved k).foldl (move g value) t) ∧
      (∀ x, t.get x ≤ ((g.moved k).foldl (move g value) t).get x) ∧
      ((g.moved k).foldl (move g value) t).values k = some value := by
  obtain ⟨hrecent, hroot⟩ := hguard
  obtain ⟨values, published, hframe⟩ := foldl_move_frame (g := g) value t (g.moved k)
  have hvals := values_foldl_move (g := g) value t (g.moved k)
  have hget : ∀ x, ((g.moved k).foldl (move g value) t).get x =
      if x ∈ g.moved k then max (t.get x) value else t.get x := by
    intro x
    rw [get, hvals]
    split <;> rfl
  have hpub : Published g ((g.moved k).foldl (move g value) t) :=
    List.foldlRecOn _ _ h.published fun t ht x _ => ht.move value x
  refine ⟨⟨fun a x hcat ha => ?_, hpub, by rw [hframe]; exact h.asked, by rw [hframe]; exact h.touched⟩,
    fun x => ?_, ?_⟩
  · have hle := h.rolledUp a x hcat ha
    rw [hget, hget]
    by_cases hx : x ∈ g.moved k
    · by_cases hak : a ∈ g.moved k
      · rw [if_pos hx, if_pos hak]
        omega
      · -- the root was moved without its ancestors
        rw [if_pos hx, if_neg hak]
        rw [g.mem_moved_iff] at hx hak
        rcases hx with hreach | ⟨rfl, hnode⟩
        · exact absurd (ha.trans_reach hreach) hak
        · have habove := (hroot (.inr ⟨rfl, hnode⟩) a hcat ha).resolve_left hak
          omega
    · rw [if_neg hx]
      split <;> omega
  · rw [hget]
    split <;> omega
  · rw [hvals, if_pos ((g.mem_moved_iff k k).mpr (CategoryGraph.IsAncestor.refl k)),
      max_eq_right hrecent]

lemma Sound.report (h : Sound g L t) (out : List (LastChangeOutput K)) : Sound g (L ++ out) t :=
  ⟨h.rolledUp, h.published, fun job hjob => mem_append_left _ (h.asked job hjob),
    fun job hjob v hv => (h.touched job hjob v hv).imp fun _ hk =>
      hk.imp_left (mem_append_left _)⟩

omit [DecidableEq K] in
@[simp] lemma get_save (returns : Option ℕ) (k : K) : (t.save returns).1.get k = t.get k := by
  unfold LastChangeTracker.save
  split <;> rfl

lemma Sound.touch (h : Sound g L t) {k : K} {value : ℕ} (hguard : Guarded g t (.touch k value)) :
    Sound g (L ++ (t.touch g k value).2) (t.touch g k value).1 ∧
      StepRight L t (t.touch g k value).1 (.touch k value) (t.touch g k value).2 := by
  obtain ⟨hmoved, hle, hvalue⟩ := h.moved hguard
  unfold LastChangeTracker.touch
  generalize (g.moved k).foldl (move g value) t = t' at hmoved hle hvalue
  obtain ⟨hsound, hright⟩ := (hmoved.report [.touched t'.saves k t'.values]).save (some value)
    fun v hv => ⟨k, by simp, by rw [hvalue, ← hv]⟩
  rw [List.append_assoc] at hsound hright
  refine ⟨hsound, fun x => ?_, fun b hb => ?_, nofun⟩
  · rw [get_save]
    exact hle x
  · rcases List.mem_cons.mp hb with rfl | hb
    · trivial
    · exact hright b hb

lemma Sound.writeSettles (h : Sound g L t) {succeeds : Bool}
    (hguard : Guarded g t (.writeSettles succeeds)) :
    Sound g (L ++ (t.writeSettles succeeds).2) (t.writeSettles succeeds).1 ∧
      StepRight L t (t.writeSettles succeeds).1 (.writeSettles succeeds)
        (t.writeSettles succeeds).2 := by
  unfold LastChangeTracker.writeSettles
  cases hchain : t.savingChain with
  | nil =>
    rw [append_nil]
    exact ⟨h, fun _ => le_refl _, nofun, fun _ _ => List.not_mem_nil⟩
  | cons job savingChain =>
    have hpend : t.rejected = false := hguard (by rw [hchain]; nofun)
    have hmem : ∀ job ∈ savingChain, job ∈ t.savingChain := fun other hother => by
      rw [hchain]
      exact List.mem_cons_of_mem _ hother
    have hjob : job ∈ t.savingChain := by
      rw [hchain]
      exact List.mem_cons_self
    have hrest : ∀ (t' : LastChangeTracker K) (out : List (LastChangeOutput K)),
        t'.values = t.values → t'.published = t.published → t'.savingChain = savingChain →
        Sound g (L ++ out) t' := by
      intro t' out hvals hpub hsaves
      have hreport := h.report out
      refine ⟨?_, ?_, ?_, ?_⟩
      · simpa only [get, hvals] using h.rolledUp
      · simpa only [Published, get, hvals, hpub] using h.published
      · rw [hsaves]
        exact fun other hother => hreport.asked other (hmem other hother)
      · rw [hsaves]
        exact fun other hother => hreport.touched other (hmem other hother)
    dsimp only
    rw [if_neg (by rw [hpend]; exact Bool.false_ne_true)]
    cases succeeds with
    | false =>
      refine ⟨hrest _ _ rfl rfl rfl, fun _ => le_refl _, ?_, nofun⟩
      intro b hb
      obtain rfl := List.mem_singleton.mp hb
      trivial
    | true =>
      refine ⟨hrest _ _ rfl rfl rfl, fun _ => le_refl _, ?_, ?_⟩
      · intro b hb
        rcases List.mem_cons.mp hb with rfl | hb
        · exact ⟨job.archive, mem_append_left _ (h.asked job hjob), rfl⟩
        · obtain ⟨v, hv, rfl⟩ := Option.map_eq_some_iff.mp (Option.mem_toList.mp hb)
          obtain ⟨x, hx, hxv⟩ := h.touched job hjob v hv
          exact ⟨x, job.archive, mem_append_left _ hx, hxv⟩
      · intro _ number hfailed
        cases hreturns : job.returns <;> simp [hreturns] at hfailed

lemma Sound.setRestored (h : Sound g L t) (archive : Option (K → Option ℕ))
    (hguard : ∀ values, archive = some values → ∀ k value, values k = some value →
      t.get k ≤ value ∧
        ∀ a, g.isCategory a → g.IsAncestor a k → value ≤ (values a).getD (t.get a)) :
    Sound g L (setRestored g t archive) ∧ ∀ k, t.get k ≤ (setRestored g t archive).get k := by
  obtain ⟨read, hread⟩ : ∃ read, archive.getD (fun _ => none) = read := ⟨_, rfl⟩
  have hright : ∀ k value, read k = some value →
      t.get k ≤ value ∧
        ∀ a, g.isCategory a → g.IsAncestor a k → value ≤ (read a).getD (t.get a) := by
    subst hread
    cases archive with
    | none => exact nofun
    | some values => exact hguard values rfl
  have hget : ∀ k, (LastChangeTracker.setRestored g t archive).get k =
        (read k).getD (t.get k) := by
    intro k
    unfold LastChangeTracker.setRestored get
    rw [hread]
    dsimp only
    cases read k <;> rfl
  have hmono : ∀ k, t.get k ≤ (read k).getD (t.get k) := by
    intro k
    cases hvalue : read k with
    | none => exact le_refl _
    | some value => exact (hright k value hvalue).1
  refine ⟨⟨fun a k hcat ha => ?_, fun k v hv => ?_, h.asked, h.touched⟩,
    fun k => (hmono k).trans_eq (hget k).symm⟩
  · rw [hget, hget]
    cases hvalue : read k with
    | none => exact (h.rolledUp a k hcat ha).trans (hmono a)
    | some value => exact (hright k value hvalue).2 a hcat ha
  · unfold LastChangeTracker.setRestored at hv
    rw [hread] at hv
    dsimp only at hv
    rw [hget]
    by_cases hknown : ((read k).or (t.values k)).isSome ∧ g.publishes k
    · rw [if_pos hknown] at hv
      refine ⟨hknown.2, ?_⟩
      unfold get
      cases hvalue : read k <;> simp_all
    · rw [if_neg hknown] at hv
      obtain ⟨hpublishes, rfl⟩ := h.published k v hv
      have hnone : read k = none := by
        cases hvalue : read k with
        | none => rfl
        | some value => exact absurd ⟨by rw [hvalue]; rfl, hpublishes⟩ hknown
      rw [hnone]
      exact ⟨hpublishes, rfl⟩

/-- **A guarded step** keeps the invariant, and is right. -/
theorem sound_step (h : Sound g L t) {event : LastChangeEvent K} (hguard : Guarded g t event) :
    Sound g (L ++ (step g t event).2) (step g t event).1 ∧
      StepRight L t (step g t event).1 event (step g t event).2 := by
  cases event with
  | touch k value => exact h.touch hguard
  | save =>
    obtain ⟨hsound, hright⟩ := h.save none nofun
    exact ⟨hsound, fun k => (get_save none k).ge, hright, nofun⟩
  | writeSettles succeeds => exact h.writeSettles hguard
  | readArchive =>
    simp only [step, append_nil]
    exact ⟨⟨h.rolledUp, h.published, h.asked, h.touched⟩, fun _ => le_refl _, nofun, nofun⟩
  | restore index =>
    simp only [step]
    cases hread : t.pendingRestores[index]? with
    | none =>
      rw [append_nil]
      exact ⟨h, fun _ => le_refl _, nofun, nofun⟩
    | some archive =>
      simp only [append_nil]
      have hsound : Sound g L { t with pendingRestores := t.pendingRestores.eraseIdx index } :=
        ⟨h.rolledUp, h.published, h.asked, h.touched⟩
      obtain ⟨hrest, hmono⟩ := hsound.setRestored archive fun values hvals =>
        hguard values (by rw [hread, hvals])
      exact ⟨hrest, hmono, nofun, nofun⟩

/-- **The times of the last changes**: from a tracker without values, in a run of guarded steps, no
category is ahead of its ancestors, and what is published is what is in memory; no step makes a value
less; a touch returns what it has recorded, a save that succeeds leaves in the file what was in memory
when it was asked for, and a write that succeeds lets its save succeed. The walk over the categories
ends. -/
theorem run_lastChange (g : CategoryGraph K) (persistencePath : Bool)
    (archive : Option (K → Option ℕ)) {events : List (LastChangeEvent K)}
    (hguarded : Mealy.Along (step g) (Guarded g) (new persistencePath archive) events) :
    let reached := Mealy.run (step g) (new persistencePath archive) events
    let steps := trace (step g) (new persistencePath archive) events
    (∀ a k, g.isCategory a → g.IsAncestor a k → reached.1.get k ≤ reached.1.get a) ∧
      (∀ k v, reached.1.published k = some v → v = reached.1.get k) ∧
      (∀ q ∈ steps, ∀ k, q.1.get k ≤ (step g q.1 q.2).1.get k) ∧
      (∀ b ∈ reached.2, Right reached.2 b) ∧
      (∀ q ∈ steps, q.2 = .writeSettles true → ∀ number, .failed number ∉ (step g q.1 q.2).2) ∧
      ∀ k, (g.selfAndAncestors k).isSome := by
  have hnew : Sound g [] (new persistencePath archive) :=
    ⟨fun _ _ _ _ => le_refl _, nofun, nofun, nofun⟩
  have hreached := Mealy.run_log (I := Sound g)
    (fun L s a h ha => (sound_step h ha).1) hnew hguarded
  have hright := Mealy.run_log_output (I := Sound g) (P := Right)
    (fun L L' b hb => by
      cases b with
      | returned number value =>
        obtain ⟨k, values, htouched, hvalue⟩ := hb
        exact ⟨k, values, mem_append_left _ htouched, hvalue⟩
      | saved number archive =>
        obtain ⟨values, hasked, harchive⟩ := hb
        exact ⟨values, mem_append_left _ hasked, harchive⟩
      | touched | asked | failed => trivial)
    (fun L s a h ha => (sound_step h ha).1)
    (fun L s a h ha => (sound_step h ha).2.right) hnew hguarded
  -- what the invariant says of each step does not depend on what was reported before
  have hsteps : ∀ q ∈ trace (step g) (new persistencePath archive) events,
      ∃ L, StepRight L q.1 (step g q.1 q.2).1 q.2 (step g q.1 q.2).2 :=
    Mealy.trace_forall (step g) (I := fun t => ∃ L, Sound g L t)
      (P := fun t event => ∃ L, StepRight L t (step g t event).1 event (step g t event).2)
      (fun _ _ ⟨_, h⟩ ha => ⟨_, (sound_step h ha).1⟩)
      (fun _ _ ⟨L, h⟩ ha => ⟨L, (sound_step h ha).2⟩) ⟨[], hnew⟩ hguarded
  refine ⟨hreached.rolledUp, fun k v hv => (hreached.published k v hv).2, fun q hq => ?_, hright,
    fun q hq => ?_, g.selfAndAncestors_isSome⟩
  · obtain ⟨L, hstep⟩ := hsteps q hq
    exact hstep.get_le
  · obtain ⟨L, hstep⟩ := hsteps q hq
    exact hstep.succeeds

/-- The root and two categories: `1` is in the root, and `2` is in no category. -/
def aliasCategories (parentsOfRoot : List ℕ) : CategoryGraph ℕ where
  nodes := {0, 1, 2}
  parents k := if k = 0 then parentsOfRoot else if k = 1 ∧ parentsOfRoot = [] then [0] else []
  Aliases := 0
  isCategory _ := true
  hasLastChange _ := true

/-- The values are restored, a category is touched, and both saves succeed. -/
theorem lastChange_recorded :
    let events := [.readArchive, .restore 0, .touch 1 10, .save, .writeSettles true,
      .writeSettles true]
    let reached := Mealy.run (step (aliasCategories [])) (new true none) events
    ∀ k v, reached.1.published k = some v → v = reached.1.get k := by
  refine (run_lastChange (aliasCategories []) true none ?_).2.1
  refine ⟨trivial, ?_, ⟨by decide, ?_⟩, trivial, fun _ => rfl, fun _ => rfl, trivial⟩
  · rintro archive ⟨⟩
  · intro _ a _ ha
    left
    rw [← CategoryGraph.mem_moved_iff] at ha ⊢
    have hroot : (aliasCategories []).moved 0 = [0] := by decide
    rw [show (aliasCategories []).Aliases = 0 from rfl, hroot, List.mem_singleton] at ha
    subst ha
    decide

/-- **The times of the last changes go wrong.** A restore sets the value of the file over a later one.
A touch with an earlier time returns that time, not the one that is recorded. A save that comes after a
failed one fails though its write would succeed. The root that is moved last does not move the
category above it. -/
theorem lastChange_goesBack :
    (∃ before, before = (Mealy.run (step (aliasCategories [])) (new true none)
        [.touch 1 10, .writeSettles true, .readArchive, .touch 1 20]).1 ∧
      before.get 1 = 20 ∧ (step (aliasCategories []) before (.restore 0)).1.get 1 = 10) ∧
    (∃ values values',
      (Mealy.run (step (aliasCategories [])) (new false none) [.touch 1 10, .touch 1 5]).2 =
        [.touched 0 1 values, .returned 0 10, .touched 1 1 values', .returned 1 5] ∧
      values' 1 = some 10) ∧
    (∃ values values',
      (Mealy.run (step (aliasCategories [])) (new true none)
        [.save, .writeSettles false, .save, .writeSettles true]).2 =
        [.asked 0 values, .failed 0, .asked 1 values', .failed 1]) ∧
    ∃ reached, reached = (Mealy.run (step (aliasCategories [1])) (new false none) [.touch 2 10]).1 ∧
      reached.get 0 = 10 ∧ reached.get 1 = 0 ∧ (aliasCategories [1]).IsAncestor 1 0 := by
  refine ⟨⟨_, rfl, by decide, by decide⟩, ⟨_, _, rfl, by decide⟩, ⟨_, _, rfl⟩, _, rfl, by decide,
    by decide, ?_⟩
  rw [← CategoryGraph.mem_moved_iff]
  decide

end LastChangeTracker

end NodeOpcua
