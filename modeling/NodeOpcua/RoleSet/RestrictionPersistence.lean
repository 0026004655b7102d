import NodeOpcua.RoleSet.RestrictionEquivalence

set_option autoImplicit false

/-!
# Saving and loading the restrictions

Saving writes a missing flag down as what it is read as at that time. For a list that is empty then,
this is the other value than the one it is read as once the list is filled.

## Main definitions

* `RoleRestriction.frozen`, `InMemoryRoleRestrictionStore.Persistent`.

## Main results

* `restriction_restore`, `restrictions_persist_iff`.
-/

namespace NodeOpcua

/-! ### Lists with a flag -/

namespace RestrictionList

variable {α κ : Type} {key : α → κ}

section

variable (l : RestrictionList key)

/-- A list as it is saved and loaded: the flag is written down as it is read. -/
def frozen : RestrictionList key := l.setExclude l.getExclude

/-- The flag is written down truly: it is set, or the list is not empty. -/
def Settled : Prop := l.exclude = none → l.entries ≠ []

/-- A list that is like no list at all. -/
def Neutral : Prop := l.entries = [] ∧ l.exclude ≠ some true

lemma same_frozen_iff : Same l l.frozen ↔ l.Settled := by
  have hkeys : ∀ k, k ∈ l.keys ↔ k ∈ l.frozen.keys := fun _ => Iff.rfl
  rw [Same, and_iff_right hkeys, Settled]
  show l.exclude.getD false = l.exclude.getD l.entries.isEmpty ↔ _
  cases l.exclude with
  | none => simp
  | some exclude => simp

lemma same_empty_iff : Same l {} ↔ l.Neutral := by
  constructor
  · rintro ⟨hkeys, hexclude⟩
    refine ⟨?_, ?_⟩
    · rw [List.eq_nil_iff_forall_not_mem]
      intro a ha
      cases (hkeys (key a)).mp (List.mem_map_of_mem ha)
    · intro hsome
      rw [hsome] at hexclude
      cases hexclude
  · rintro ⟨hnil, hexclude⟩
    refine ⟨fun k => ?_, ?_⟩
    · rw [keys, hnil]
      rfl
    · cases hl : l.exclude with
      | none => rfl
      | some exclude =>
        cases exclude with
        | false => rfl
        | true => exact absurd hl hexclude

end

variable [DecidableEq κ]

/-- **Loading the values into an empty list** gives the list, and into the loaded list leaves it. -/
lemma foldl_add {l m : RestrictionList key} (hm : m.entries = [] ∨ m.entries = l.entries) :
    (l.entries.foldl add m).entries = l.entries ∧
      (l.entries.foldl add m).exclude = m.exclude := by
  have hexclude : ∀ (values : List α) (m : RestrictionList key),
      (values.foldl add m).exclude = m.exclude := by
    intro values
    induction values with
    | nil => exact fun m => rfl
    | cons v values ih => exact fun m => (ih (m.add v)).trans (add_exclude m v)
  refine ⟨?_, hexclude _ _⟩
  rcases hm with hm | hm
  · -- the values loaded so far are a beginning of the list
    have hload : ∀ (after before : List α) (m : RestrictionList key), m.entries = before →
        ((before ++ after).map key).Nodup → (after.foldl add m).entries = before ++ after := by
      intro after
      induction after with
      | nil =>
        intro before m hm _
        rw [List.append_nil]
        exact hm
      | cons v after ih =>
        intro before m hm hnodup
        have hnew : key v ∉ m.entries.map key := by
          rw [hm]
          intro hmem
          rw [List.map_append, List.nodup_append] at hnodup
          exact hnodup.2.2 _ hmem _ (by simp) rfl
        have hadd : (m.add v).entries = before ++ [v] := by
          rw [add, dif_neg hnew]
          exact congrArg (· ++ [v]) hm
        have hrest := ih (before ++ [v]) (m.add v) hadd (by simpa using hnodup)
        rw [List.foldl_cons, hrest, List.append_assoc, List.singleton_append]
    have hall := hload l.entries [] m hm (by simpa using l.nodup)
    rwa [List.nil_append] at hall
  · have hkeep : ∀ (values : List α) (m : RestrictionList key),
        (∀ v ∈ values, key v ∈ m.entries.map key) → values.foldl add m = m := by
      intro values
      induction values with
      | nil => exact fun m _ => rfl
      | cons v values ih =>
        intro m hmem
        have hadd : m.add v = m := dif_pos (hmem v (by simp))
        rw [List.foldl_cons, hadd]
        exact ih m fun w hw => hmem w (by simp [hw])
    rw [hkeep l.entries m fun v hv => by rw [hm]; exact List.mem_map_of_mem hv]
    exact hm

end RestrictionList

/-! ### Restrictions -/

namespace RoleRestriction

/-- A restriction as it is saved and loaded. -/
def frozen (r : RoleRestriction) : RoleRestriction where
  applications := r.applications.frozen
  endpoints := r.endpoints.frozen

/-- The flags are written down truly. -/
def Settled (r : RoleRestriction) : Prop := r.applications.Settled ∧ r.endpoints.Settled

/-- A restriction that is like none at all. -/
def Neutral (r : RoleRestriction) : Prop := r.applications.Neutral ∧ r.endpoints.Neutral

lemma same_frozen_iff (r : RoleRestriction) : Same r r.frozen ↔ r.Settled :=
  and_congr r.applications.same_frozen_iff r.endpoints.same_frozen_iff

lemma same_empty_iff (r : RoleRestriction) : Same r {} ↔ r.Neutral :=
  and_congr r.applications.same_empty_iff r.endpoints.same_empty_iff

end RoleRestriction

variable {U : CaseMapping}

namespace InMemoryRoleRestrictionStore

/-! ### Loading -/

lemma restriction_run_of_ne (s : InMemoryRoleRestrictionStore) {roleId roleId' : NodeId U}
    (hne : roleId' ≠ roleId) {ms : List (RestrictionMutation U)}
    (hms : ∀ m ∈ ms, m.roleId = roleId) :
    (Bisimulation.run (step U) s ms).restriction roleId' = s.restriction roleId' := by
  induction ms generalizing s with
  | nil => rfl
  | cons m ms ih =>
    have hm : m.roleId = roleId := hms m (by simp)
    rw [Bisimulation.run_cons, ih _ fun m' hm' => hms m' (by simp [hm']), step, restriction_apply,
      hm, if_neg hne]

/-- The calls that load a restriction. -/
def loadCalls (roleId : NodeId U) (r : SerializedRoleRestriction) : List (RestrictionMutation U) :=
  r.applications.map (.addApplication roleId) ++
    .setApplicationsExclude roleId r.applicationsExclude ::
    (r.endpoints.map (.addEndpoint roleId) ++ [.setEndpointsExclude roleId r.endpointsExclude])

variable {r : SerializedRoleRestriction}

lemma loadCalls_roleId {roleId : NodeId U} :
    ∀ m ∈ loadCalls roleId r, m.roleId = roleId := by
  intro m hm
  simp only [loadCalls, List.mem_append, List.mem_map, List.mem_cons, List.not_mem_nil,
    or_false] at hm
  rcases hm with ⟨uri, -, rfl⟩ | rfl | ⟨e, -, rfl⟩ | rfl <;> rfl

variable {names : NameIndex U} {s : InMemoryRoleRestrictionStore}

/-- **Loading** makes the calls of its loops. -/
lemma loadRestriction_eq {roleId : NodeId U}
    (h : resolveNodeId names r.nodeId 0 none = .ok roleId) :
    loadRestriction names s r = .ok (Bisimulation.run (step U) s (loadCalls roleId r)) := by
  rw [loadRestriction, h]
  have happs : ∀ t : InMemoryRoleRestrictionStore, Bisimulation.run (step U) t
      (r.applications.map (RestrictionMutation.addApplication roleId)) =
        r.applications.foldl (·.addApplication roleId ·) t := fun t => List.foldl_map
  have hends : ∀ t : InMemoryRoleRestrictionStore, Bisimulation.run (step U) t
      (r.endpoints.map (RestrictionMutation.addEndpoint roleId)) =
        r.endpoints.foldl (·.addEndpoint roleId ·) t := fun t => List.foldl_map
  rw [loadCalls, Bisimulation.run_append, Bisimulation.run_cons, Bisimulation.run_append, happs,
    hends]
  rfl

lemma foldl_addApplications (roleId : NodeId U) (uris : List String) (r : RoleRestriction) :
    (uris.map (RestrictionMutation.addApplication roleId)).foldl RestrictionMutation.change r =
      { r with applications := uris.foldl RestrictionList.add r.applications } := by
  induction uris generalizing r with
  | nil => rfl
  | cons uri uris ih =>
    exact ih _

lemma foldl_addEndpoints (roleId : NodeId U) (endpoints : List EndpointCriteria)
    (r : RoleRestriction) :
    (endpoints.map (RestrictionMutation.addEndpoint roleId)).foldl RestrictionMutation.change r =
      { r with endpoints := endpoints.foldl RestrictionList.add r.endpoints } := by
  induction endpoints generalizing r with
  | nil => rfl
  | cons endpoint endpoints ih =>
    exact ih _

/-- A role as it is saved. -/
def saved (store : InMemoryRoleRestrictionStore) (roleId : NodeId U) :
    SerializedRoleRestriction where
  nodeId := roleId.toString none
  applications := store.getApplications roleId
  applicationsExclude := store.getApplicationsExclude roleId
  endpoints := store.getEndpoints roleId
  endpointsExclude := store.getEndpointsExclude roleId

/-- What has been loaded so far: of each role nothing, or its restriction. -/
def Loaded (U : CaseMapping) (store s : InMemoryRoleRestrictionStore) : Prop :=
  ∀ roleId : NodeId U,
    s.restriction roleId = default ∨ s.restriction roleId = (store.restriction roleId).frozen

/-- **One role is loaded**. -/
lemma restriction_load {store s : InMemoryRoleRestrictionStore} (hs : Loaded U store s)
    (roleId roleId' : NodeId U) :
    (Bisimulation.run (step U) s (loadCalls roleId (store.saved roleId))).restriction roleId' =
      if roleId' = roleId then (store.restriction roleId).frozen else s.restriction roleId' := by
  split_ifs with h
  · subst h
    rw [restriction_run s roleId' loadCalls_roleId, loadCalls, List.foldl_append,
      foldl_addApplications, List.foldl_cons, List.foldl_append, foldl_addEndpoints]
    have happs : (s.restriction roleId').applications.entries = [] ∨
        (s.restriction roleId').applications.entries =
          (store.restriction roleId').applications.entries := by
      rcases hs roleId' with h | h
      · exact Or.inl (by rw [h]; rfl)
      · exact Or.inr (by rw [h]; rfl)
    have hends : (s.restriction roleId').endpoints.entries = [] ∨
        (s.restriction roleId').endpoints.entries =
          (store.restriction roleId').endpoints.entries := by
      rcases hs roleId' with h | h
      · exact Or.inl (by rw [h]; rfl)
      · exact Or.inr (by rw [h]; rfl)
    show RoleRestriction.mk _ _ = RoleRestriction.mk _ _
    congr 1
    · exact RestrictionList.ext (RestrictionList.foldl_add happs).1 rfl
    · exact RestrictionList.ext (RestrictionList.foldl_add hends).1 rfl
  · exact restriction_run_of_ne s h loadCalls_roleId

variable {store : InMemoryRoleRestrictionStore}

/-- **All the roles are loaded**. -/
lemma restriction_loadAll {ids : List (NodeId U)} (hids : ∀ id ∈ ids, id.value.TextSafe)
    (hs : Loaded U store s) :
    ∃ restored, deserializeRestrictions names s (ids.map store.saved) = .ok restored ∧
      ∀ roleId : NodeId U, restored.restriction roleId =
        if roleId ∈ ids then (store.restriction roleId).frozen else s.restriction roleId := by
  induction ids generalizing s with
  | nil => exact ⟨s, rfl, fun roleId => by simp⟩
  | cons id ids ih =>
    have hresol : resolveNodeId names (store.saved id).nodeId 0 none = .ok id := by
      rw [saved, resolveNodeId_toString]
      exact (coerceText_toString_iff id).mpr (hids id (by simp))
    have hload := loadRestriction_eq (s := s) hresol
    have hnext : Loaded U store
        (Bisimulation.run (step U) s (loadCalls id (store.saved id))) := by
      intro roleId
      rw [restriction_load hs]
      split_ifs with h
      · subst h
        exact Or.inr rfl
      · exact hs roleId
    obtain ⟨restored, hrest, hrestr⟩ := ih (fun i hi => hids i (by simp [hi])) hnext
    refine ⟨restored, ?_, fun roleId => ?_⟩
    · rw [List.map_cons, deserializeRestrictions, List.foldlM_cons, hload]
      exact hrest
    · rw [hrestr, restriction_load hs]
      by_cases hmem : roleId ∈ ids
      · simp [hmem]
      · by_cases heq : roleId = id
        · simp [heq]
        · simp [hmem, heq]

/-! ### The round trip -/

/-- Every key is the text of a role. -/
def Named (U : CaseMapping) (store : InMemoryRoleRestrictionStore) : Prop :=
  ∀ key ∈ store._map.map Prod.fst, ∃ roleId : NodeId U, roleId.toString none = key

lemma mem_keys_iff (store : InMemoryRoleRestrictionStore) (roleId : NodeId U) :
    roleId.toString none ∈ store._map.map Prod.fst ↔ ∃ r, store.peek roleId = some r := by
  rw [peek]
  induction store._map with
  | nil => simp
  | cons e entries ih =>
    rw [List.map_cons, List.mem_cons, List.lookup_cons, ih]
    by_cases h : roleId.toString none = e.1
    · simp [h]
    · have hne : (roleId.toString none == e.1) = false := beq_eq_false_iff_ne.mpr h
      simp [h, hne]

lemma Named.apply (h : Named U store) (m : RestrictionMutation U) : Named U (step U store m) := by
  have hcreate : ∀ roleId : NodeId U, Named U (store.getOrCreate roleId) := by
    intro roleId key hkey
    unfold getOrCreate at hkey
    split_ifs at hkey
    · exact h key hkey
    · rw [List.map_append, List.mem_append] at hkey
      rcases hkey with hkey | hkey
      · exact h key hkey
      · rw [List.map_singleton, List.mem_singleton] at hkey
        exact ⟨roleId, hkey.symm⟩
  have hmod : ∀ {s : InMemoryRoleRestrictionStore} (roleId : NodeId U)
      (change : RoleRestriction → RoleRestriction), Named U s → Named U (s.modify roleId change) := by
    intro s roleId change hs key hkey
    apply hs key
    rw [modify, replace_keys] at hkey
    exact hkey
  cases m with
  | addApplication roleId | setApplicationsExclude roleId | addEndpoint roleId
  | setEndpointsExclude roleId => exact hmod roleId _ (hcreate roleId)
  | removeApplication roleId | removeEndpoint roleId => exact hmod roleId _ h

/-- **The stores that can be saved**: the identifier of every role is converted back from its text,
to that of a role with its flags set or its lists not empty; and when this is another role, the
lists of the first one are empty and its flags are not set to true. -/
def Persistent (names : NameIndex U) (store : InMemoryRoleRestrictionStore) : Prop :=
  ∀ (roleId : NodeId U) r, store.peek roleId = some r →
    ∃ resolved, resolveNodeId names (roleId.toString none) 0 none = .ok resolved ∧
      (store.restriction resolved).Settled ∧ (resolved = roleId ∨ r.Neutral)

/-- **The restrictions of the loaded store**. -/
theorem restriction_restore (hnamed : Named U store) {ids : List (NodeId U)}
    (hids : store.getRestrictedRoleIds names = .ok ids) :
    ∃ restored, restore names store = .ok restored ∧ ∀ roleId : NodeId U,
      restored.restriction roleId =
        if roleId ∈ ids then (store.restriction roleId).frozen else {} := by
  have hsafe : ∀ id ∈ ids, id.value.TextSafe := by
    intro id hid
    obtain ⟨key, hkey, hresol⟩ := (Except.mem_of_mapM_eq_ok hids id).mp hid
    obtain ⟨roleId, rfl⟩ := hnamed key hkey
    exact textSafe_of_resolveNodeId hresol
  have hempty : Loaded U store {} := fun roleId => Or.inl rfl
  obtain ⟨restored, hrest, hrestr⟩ := restriction_loadAll hsafe hempty
  refine ⟨restored, ?_, hrestr⟩
  rw [restore, serializeRestrictions, hids]
  exact hrest

lemma persistent_iff (hnamed : Named U store) :
    (∃ restored, restore names store = .ok restored ∧ Equivalent U store restored) ↔
      store.Persistent names := by
  constructor
  · rintro ⟨restored, hrest, hequivalent⟩ roleId r hr
    obtain ⟨data, hdata, -⟩ := Except.bind_eq_ok_iff.mp hrest
    obtain ⟨ids, hids, -⟩ := Except.bind_eq_ok_iff.mp hdata
    obtain ⟨restored', hrest', hrestr⟩ := restriction_restore hnamed hids
    rw [← Except.ok.inj (hrest.symm.trans hrest')] at hrestr
    have hsame := equivalent_iff.mp hequivalent
    have hmem := Except.mem_of_mapM_eq_ok hids
    have hkey := (mem_keys_iff store roleId).mpr ⟨r, hr⟩
    obtain ⟨resolved, hresolved⟩ := Except.exists_mapM_eq_ok_iff.mp ⟨ids, hids⟩ _ hkey
    have hresolvedMem : resolved ∈ ids := (hmem resolved).mpr ⟨_, hkey, hresolved⟩
    refine ⟨resolved, hresolved, ?_, ?_⟩
    · have h := hsame resolved
      rw [hrestr, if_pos hresolvedMem] at h
      exact (store.restriction resolved).same_frozen_iff.mp h
    · by_cases hself : resolved = roleId
      · exact Or.inl hself
      · right
        have hnot : roleId ∉ ids := by
          intro hin
          obtain ⟨key, hkey', hresol⟩ := (hmem roleId).mp hin
          obtain ⟨other, rfl⟩ := hnamed key hkey'
          have hsafe := textSafe_of_resolveNodeId hresol
          rw [resolveNodeId_toString, (coerceText_toString_iff roleId).mpr hsafe] at hresolved
          exact hself (Except.ok.inj hresolved).symm
        have h := hsame roleId
        rw [hrestr, if_neg hnot, restriction, hr] at h
        exact r.same_empty_iff.mp h
  · intro hpersistent
    have hall : ∀ key ∈ store._map.map Prod.fst, ∃ id, resolveNodeId names key 0 none = .ok id := by
      intro key hkey
      obtain ⟨roleId, rfl⟩ := hnamed key hkey
      obtain ⟨r, hr⟩ := (mem_keys_iff store roleId).mp hkey
      obtain ⟨resolved, hresolved, -⟩ := hpersistent roleId r hr
      exact ⟨resolved, hresolved⟩
    obtain ⟨ids, hids⟩ := Except.exists_mapM_eq_ok_iff.mpr hall
    have hmem := Except.mem_of_mapM_eq_ok hids
    obtain ⟨restored, hrest, hrestr⟩ := restriction_restore hnamed hids
    refine ⟨restored, hrest, equivalent_iff.mpr fun roleId => ?_⟩
    rw [hrestr]
    split_ifs with hin
    · obtain ⟨key, hkey, hresol⟩ := (hmem roleId).mp hin
      obtain ⟨other, rfl⟩ := hnamed key hkey
      obtain ⟨r, hr⟩ := (mem_keys_iff store other).mp hkey
      obtain ⟨resolved, hresolved, hset, -⟩ := hpersistent other r hr
      have heq : resolved = roleId := Except.ok.inj (hresolved.symm.trans hresol)
      rw [← heq]
      exact (store.restriction resolved).same_frozen_iff.mpr hset
    · rw [RoleRestriction.same_empty_iff, restriction]
      cases hr : store.peek roleId with
      | none => exact ⟨⟨rfl, fun h => by cases h⟩, ⟨rfl, fun h => by cases h⟩⟩
      | some r =>
        obtain ⟨resolved, hresolved, -, hself | hneutral⟩ := hpersistent roleId r hr
        · rw [hself] at hresolved
          exact absurd ((hmem roleId).mpr ⟨_, (mem_keys_iff store roleId).mpr ⟨r, hr⟩,
            hresolved⟩) hin
        · exact hneutral

end InMemoryRoleRestrictionStore

open InMemoryRoleRestrictionStore

/-- **Saving and loading.** For every store that is reached by calls: the store that is loaded from
what is saved answers like it, now and after any further calls, if and only if every flag is set or
its list is not empty, for the roles that the saved identifiers are converted to.

**Proof sketch.** The loaded store has the restrictions of the saved one with the flags written
down. What shows of a restriction, by experiments with further calls, are its lists and the flag
that counts once the list is filled; a missing flag of an empty list is written down as the other
one. -/
theorem restrictions_persist_iff (names : NameIndex U) (calls : List (RestrictionMutation U)) :
    (∃ restored, restore names (Bisimulation.run (step U) {} calls) = .ok restored ∧
      Equivalent U (Bisimulation.run (step U) {} calls) restored) ↔
    (Bisimulation.run (step U) {} calls).Persistent names := by
  apply persistent_iff
  apply Bisimulation.run_invariant (I := Named U) (fun s m h => h.apply m)
  intro key hkey
  cases hkey

/-- No standard names. -/
def noNames : NameIndex CaseMapping.ascii where
  find _ := none
  find_ns _ := rfl

/-- **A store that is not saved as it is**: a role with one endpoint. When an application is added
later, only this one is let in, but all others by the store that is loaded. -/
theorem endpointOnly_not_persistent :
    let role : NodeId CaseMapping.ascii := ⟨0, .numeric 15680⟩
    let store := InMemoryRoleRestrictionStore.addEndpoint {} role { securityMode := some .Sign }
    let context : ResolutionContext := { applicationUri := some "urn:a", securityMode := some .Sign }
    (store.addApplication role "urn:b").complies role context = false ∧
      ∃ restored, restore noNames store = .ok restored ∧
        (restored.addApplication role "urn:b").complies role context = true := by
  refine ⟨by decide +kernel, _, rfl, by decide +kernel⟩

end NodeOpcua
