import NodeOpcua.RoleSet.RoleRestrictionStore

set_option autoImplicit false

/-!
# What shows of the restrictions

What a client can see of the restriction of a role, now or after further changes, are the values of
its lists and the flags, where a missing flag is as good as an unset one.

## Main definitions

* `RoleRestriction.Same`, `InMemoryRoleRestrictionStore.Equivalent`.

## Main results

* `InMemoryRoleRestrictionStore.restriction_apply`, `InMemoryRoleRestrictionStore.equivalent_iff`.

## Design

A list is seen by experiments: an added value shows the flag, and when all values but one are
removed from a list that is to keep out, the answer shows whether that value is there.
-/

namespace NodeOpcua

open List (mem_map_of_mem any_eq_true map_cons mem_cons lookup_cons foldl_cons map_append
  mem_append foldl_nil foldl_append)

/-! ### Lists with a flag -/

namespace RestrictionList

variable {α κ : Type} {key : α → κ}

/-- The keys of the values. -/
def keys (l : RestrictionList key) : List κ := l.entries.map key

/-- **Two lists cannot be told apart**: they have the same keys and the same flag. -/
def Same (l l' : RestrictionList key) : Prop :=
  (∀ k, k ∈ l.keys ↔ k ∈ l'.keys) ∧ l.exclude.getD false = l'.exclude.getD false

variable {l l' : RestrictionList key}

@[ext] lemma ext (hentries : l.entries = l'.entries)
    (hexclude : l.exclude = l'.exclude) : l = l' := by
  cases l
  cases l'
  simp_all

lemma Same.setExclude (h : Same l l') (exclude : Bool) :
    Same (l.setExclude exclude) (l'.setExclude exclude) := ⟨h.1, rfl⟩

/-- **What is let in** by a list: anything by the empty one. -/
def complies (l : RestrictionList key) (test : α → Bool) : Bool :=
  if l.entries.isEmpty then true
  else if l.getExclude then !l.entries.any test else l.entries.any test

variable {l : RestrictionList key}

lemma complies_of_mem {k : κ} (hk : k ∈ l.keys) (test : α → Bool) :
    l.complies test =
      if l.exclude.getD false then !l.entries.any test else l.entries.any test := by
  have hne : l.entries.isEmpty = false := by
    rw [List.isEmpty_eq_false_iff]
    rintro hnil
    rw [keys, hnil] at hk
    cases hk
  rw [complies, getExclude, hne]
  rfl

lemma complies_of_nil (h : ∀ k, k ∉ l.keys) (test : α → Bool) :
    l.complies test = true := by
  have hnil : l.entries = [] := by
    rw [List.eq_nil_iff_forall_not_mem]
    intro a ha
    exact h (key a) (mem_map_of_mem ha)
  rw [complies, hnil]
  rfl

/-- The test sees the key only. -/
def RespectsKey (key : α → κ) (test : α → Bool) : Prop :=
  ∀ a b, key a = key b → test a = test b

variable {test : α → Bool} {value : α}

lemma any_of_mem (htest : RespectsKey key test)
    (hvalue : test value = true) (hmem : key value ∈ l.keys) :
    l.entries.any test = true := by
  obtain ⟨a, ha, hkey⟩ := List.mem_map.mp hmem
  rw [any_eq_true]
  exact ⟨a, ha, (htest a value hkey).trans hvalue⟩

/-- **Lists that cannot be told apart** let in the same. -/
lemma Same.complies (h : Same l l')
    (htest : RespectsKey key test) : l.complies test = l'.complies test := by
  by_cases hnil : ∃ k, k ∈ l.keys
  · obtain ⟨k, hk⟩ := hnil
    have hany : l.entries.any test = l'.entries.any test := by
      rw [Bool.eq_iff_iff, any_eq_true, any_eq_true]
      constructor
      · rintro ⟨a, ha, hpass⟩
        exact List.any_eq_true.mp
          (any_of_mem htest hpass ((h.1 _).mp (mem_map_of_mem ha)))
      · rintro ⟨a, ha, hpass⟩
        exact List.any_eq_true.mp
          (any_of_mem htest hpass ((h.1 _).mpr (mem_map_of_mem ha)))
    rw [complies_of_mem hk, complies_of_mem ((h.1 k).mp hk), h.2, hany]
  · push Not at hnil
    rw [complies_of_nil hnil, complies_of_nil fun k hk => hnil k ((h.1 k).mpr hk)]

/-! ### Changes of a list -/

variable [DecidableEq κ]

section

variable (l : RestrictionList key) (value : α)

@[simp] lemma add_exclude :
    (l.add value).exclude = l.exclude := by
  rw [add]
  split_ifs <;> rfl

@[simp] lemma mem_keys_add (k : κ) :
    k ∈ (l.add value).keys ↔ k ∈ l.keys ∨ k = key value := by
  rw [add]
  split_ifs with h
  · constructor
    · exact Or.inl
    · rintro (hk | rfl)
      · exact hk
      · exact h
  · simp [keys]

@[simp] lemma mem_keys_remove (k : κ) :
    k ∈ (l.remove value).keys ↔ k ∈ l.keys ∧ k ≠ key value := by
  have hnodup := l.nodup
  unfold keys remove
  dsimp only
  revert hnodup
  induction l.entries with
  | nil => simp
  | cons e entries ih =>
    intro hnodup
    rw [map_cons, List.nodup_cons] at hnodup
    by_cases he : key e = key value
    · rw [List.eraseP_cons_of_pos (by simpa using he), map_cons, mem_cons]
      constructor
      · intro hk
        refine ⟨Or.inr hk, ?_⟩
        rintro rfl
        exact hnodup.1 (he ▸ hk)
      · rintro ⟨rfl | hk, hne⟩
        · exact absurd he hne
        · exact hk
    · rw [List.eraseP_cons_of_neg (by simpa using he), map_cons, map_cons, mem_cons,
        mem_cons]
      have hrest : k ∈ (entries.eraseP fun e => key e = key value).map key ↔
          k ∈ entries.map key ∧ k ≠ key value := ih hnodup.2
      rw [hrest]
      constructor
      · rintro (rfl | ⟨hk, hne⟩)
        · exact ⟨Or.inl rfl, he⟩
        · exact ⟨Or.inr hk, hne⟩
      · rintro ⟨rfl | hk, hne⟩
        · exact Or.inl rfl
        · exact Or.inr ⟨hk, hne⟩

end

lemma Same.add {l l' : RestrictionList key} (h : Same l l') (value : α) :
    Same (l.add value) (l'.add value) := by
  refine ⟨fun k => ?_, ?_⟩
  · rw [mem_keys_add, mem_keys_add, h.1]
  · rw [add_exclude, add_exclude, h.2]

lemma Same.remove (h : Same l l') (value : α) :
    Same (l.remove value) (l'.remove value) := by
  refine ⟨fun k => ?_, h.2⟩
  rw [mem_keys_remove, mem_keys_remove, h.1]

/-- **The flag shows** once a value that passes the test is in the list. -/
lemma complies_add (htest : RespectsKey key test)
    (hvalue : test value = true) (l : RestrictionList key) :
    (l.add value).complies test = !l.exclude.getD false := by
  have hmem : key value ∈ (l.add value).keys := (mem_keys_add l value _).mpr (Or.inr rfl)
  rw [complies_of_mem hmem, any_of_mem htest hvalue hmem, add_exclude]
  cases l.exclude.getD false <;> rfl

/-- **A value shows** in a list that is to keep out and from which all other values are removed. -/
lemma complies_only (htest : RespectsKey key test)
    (hvalue : test value = true) (honly : ∀ k ∈ l.keys, k = key value) :
    (l.setExclude true).complies test = !decide (key value ∈ l.keys) := by
  by_cases hmem : key value ∈ l.keys
  · have hmem' : key value ∈ (l.setExclude true).keys := hmem
    rw [complies_of_mem hmem', any_of_mem htest hvalue hmem', decide_eq_true hmem]
    rfl
  · rw [decide_eq_false hmem]
    apply complies_of_nil
    intro k hk
    exact hmem (honly k hk ▸ hk)

/-- The values of a list of them are removed. -/
def removeAll (l : RestrictionList key) (values : List α) : RestrictionList key :=
  values.foldl remove l

@[simp] lemma mem_keys_removeAll (l : RestrictionList key) (values : List α) (k : κ) :
    k ∈ (l.removeAll values).keys ↔ k ∈ l.keys ∧ k ∉ values.map key := by
  induction values generalizing l with
  | nil => simp [removeAll]
  | cons v values ih =>
    have hih : k ∈ ((l.remove v).removeAll values).keys ↔ _ := ih (l.remove v)
    rw [show l.removeAll (v :: values) = (l.remove v).removeAll values from rfl, hih,
      mem_keys_remove, map_cons, mem_cons]
    tauto

/-- The values of two lists with other keys than a value. -/
def others (l l' : RestrictionList key) (value : α) : List α :=
  (l.entries ++ l'.entries).filter fun a => key a ≠ key value

lemma keys_removeAll_others (l l' : RestrictionList key) (value : α) (m : RestrictionList key)
    (hm : ∀ k ∈ m.keys, k ∈ l.keys ∨ k ∈ l'.keys) (k : κ) :
    k ∈ (m.removeAll (others l l' value)).keys ↔ k ∈ m.keys ∧ k = key value := by
  rw [mem_keys_removeAll]
  apply and_congr_right
  intro hk
  constructor
  · intro hnot
    by_contra hne
    apply hnot
    rcases hm k hk with h | h
    · obtain ⟨a, ha, rfl⟩ := List.mem_map.mp h
      exact mem_map_of_mem (by simp [others, ha, hne])
    · obtain ⟨a, ha, rfl⟩ := List.mem_map.mp h
      exact mem_map_of_mem (by simp [others, ha, hne])
  · rintro rfl hmem
    obtain ⟨a, ha, hkey⟩ := List.mem_map.mp hmem
    rw [others, List.mem_filter, decide_eq_true_iff] at ha
    exact ha.2 hkey

/-- **Two lists cannot be told apart** when two kinds of experiments do not: a value is added, or
all values but one are removed and the list is to keep out. -/
lemma same_of_experiments {sample : α} {sampleTest : α → Bool}
    (htest : RespectsKey key sampleTest) (hsample : sampleTest sample = true)
    (hflag : (l.add sample).complies sampleTest = (l'.add sample).complies sampleTest)
    (hvalue : ∀ value, ∃ test, RespectsKey key test ∧ test value = true ∧
      ((l.removeAll (others l l' value)).setExclude true).complies test =
        ((l'.removeAll (others l l' value)).setExclude true).complies test) :
    Same l l' := by
  have hmem : ∀ value, key value ∈ l.keys ↔ key value ∈ l'.keys := by
    intro value
    obtain ⟨test, hrespects, hpass, heq⟩ := hvalue value
    have hl := keys_removeAll_others l l' value l fun k hk => Or.inl hk
    have hl' := keys_removeAll_others l l' value l' fun k hk => Or.inr hk
    rw [complies_only hrespects hpass (fun k hk => ((hl k).mp hk).2),
      complies_only hrespects hpass (fun k hk => ((hl' k).mp hk).2)] at heq
    have hiff := decide_eq_decide.mp (Bool.not_inj heq)
    exact ⟨fun h => ((hl' _).mp (hiff.mp ((hl _).mpr ⟨h, rfl⟩))).1,
      fun h => ((hl _).mp (hiff.mpr ((hl' _).mpr ⟨h, rfl⟩))).1⟩
  refine ⟨fun k => ⟨fun hk => ?_, fun hk => ?_⟩, ?_⟩
  · obtain ⟨a, ha, rfl⟩ := List.mem_map.mp hk
    exact (hmem a).mp hk
  · obtain ⟨a, ha, rfl⟩ := List.mem_map.mp hk
    exact (hmem a).mpr hk
  · rw [complies_add htest hsample, complies_add htest hsample] at hflag
    exact Bool.not_inj hflag

end RestrictionList

/-! ### Restrictions -/

namespace RoleRestriction

/-- **Two restrictions cannot be told apart**. -/
def Same (r r' : RoleRestriction) : Prop :=
  r.applications.Same r'.applications ∧ r.endpoints.Same r'.endpoints

/-- A session complies with the restriction. -/
def complies (r : RoleRestriction) (context : ResolutionContext) : Bool :=
  applicationComplies r.applications.entries r.applications.getExclude context &&
    endpointComplies r.endpoints.entries r.endpoints.getExclude context

end RoleRestriction

/-- An application is the one of the session. -/
def isApplication (context : ResolutionContext) (uri : String) : Bool :=
  context.applicationUri = some uri

lemma isApplication_respectsKey (context : ResolutionContext) :
    RestrictionList.RespectsKey (id : String → String) (isApplication context) := by
  rintro a b hab
  rw [show a = b from hab]

variable {context : ResolutionContext}

lemma applicationComplies_of_signed (l : RestrictionList (id : String → String))
    (h : isSigned context.securityMode = true) :
    applicationComplies l.entries l.getExclude context = l.complies (isApplication context) := by
  unfold applicationComplies RestrictionList.complies isApplication
  rw [h]
  cases context.applicationUri with
  | none =>
    have hany : (l.entries.any fun uri => decide ((none : Option String) = some uri)) = false := by
      simp
    rw [hany]
    rfl
  | some name =>
    have hany : (l.entries.any fun uri => decide (some name = some uri)) =
        l.entries.contains name := by
      rw [Bool.eq_iff_iff, List.contains_iff_mem, any_eq_true]
      simp [eq_comm]
    rw [hany]
    rfl

lemma applicationComplies_of_unsigned (l : RestrictionList (id : String → String))
    (h : isSigned context.securityMode = false) :
    applicationComplies l.entries l.getExclude context = l.entries.isEmpty := by
  rw [applicationComplies, h]
  cases l.entries.isEmpty <;> simp

lemma RestrictionList.Same.isEmpty {α κ : Type} {key : α → κ} {l l' : RestrictionList key}
    (h : Same l l') : l.entries.isEmpty = l'.entries.isEmpty := by
  have hkeys : ∀ m : RestrictionList key, m.entries.isEmpty = true ↔ ∀ k, k ∉ m.keys := by
    intro m
    rw [List.isEmpty_iff, ← List.map_eq_nil_iff (f := key), List.eq_nil_iff_forall_not_mem]
    rfl
  rw [Bool.eq_iff_iff, hkeys, hkeys]
  exact forall_congr' fun k => not_congr (h.1 k)

lemma textMatches_congr {a b : Option String} (h : a.getD "" = b.getD "")
    (context : Option String) : textMatches a context = textMatches b context := by
  unfold textMatches
  rw [h]
  by_cases hb : b.getD "" = ""
  · simp [hb]
  · have hsome : a = b := by
      cases a with
      | none => exact absurd h.symm hb
      | some a =>
        cases b with
        | none => exact absurd rfl hb
        | some b => exact congrArg some h
    rw [hsome]

/-- **An endpoint entry** matches by its key. -/
lemma endpointEntryMatches_respectsKey (context : ResolutionContext) :
    RestrictionList.RespectsKey EndpointCriteria.key (endpointEntryMatches · context) := by
  intro a b hab
  simp only [EndpointCriteria.key, Prod.mk.injEq] at hab
  obtain ⟨hurl, hmode, hpol, hprofile⟩ := hab
  have hmodes : (a.securityMode.getD .Invalid = .Invalid ∨ a.securityMode = context.securityMode) ↔
      (b.securityMode.getD .Invalid = .Invalid ∨ b.securityMode = context.securityMode) := by
    rw [hmode]
    by_cases hb : b.securityMode.getD .Invalid = .Invalid
    · simp [hb]
    · have hsome : a.securityMode = b.securityMode := by
        cases ha : a.securityMode with
        | none =>
          rw [ha] at hmode
          exact absurd hmode.symm hb
        | some m =>
          cases hb' : b.securityMode with
          | none =>
            rw [hb'] at hb
            exact absurd rfl hb
          | some m' =>
            rw [ha, hb'] at hmode
            exact congrArg some hmode
      rw [hsome]
  unfold endpointEntryMatches
  dsimp only
  rw [textMatches_congr hurl, textMatches_congr hpol, textMatches_congr hprofile,
    Bool.eq_iff_iff]
  simp only [Bool.and_eq_true, Bool.or_eq_true, decide_eq_true_eq, hmodes]

lemma endpointEntryMatches_self (e : EndpointCriteria) :
    endpointEntryMatches e ⟨none, e.securityMode, e.endpointUrl, e.securityPolicyUri,
      e.transportProfileUri⟩ = true := by
  simp [endpointEntryMatches, textMatches]

lemma endpointComplies_eq (l : RestrictionList EndpointCriteria.key) (context : ResolutionContext) :
    endpointComplies l.entries l.getExclude context =
      l.complies (endpointEntryMatches · context) := rfl

/-- **Restrictions that cannot be told apart** answer alike. -/
lemma RoleRestriction.Same.complies {r r' : RoleRestriction} (h : Same r r')
    (context : ResolutionContext) : r.complies context = r'.complies context := by
  unfold RoleRestriction.complies
  rw [endpointComplies_eq, endpointComplies_eq,
    h.2.complies (endpointEntryMatches_respectsKey context)]
  congr 1
  cases hsigned : isSigned context.securityMode with
  | true =>
    rw [applicationComplies_of_signed _ hsigned, applicationComplies_of_signed _ hsigned]
    exact h.1.complies (isApplication_respectsKey context)
  | false =>
    rw [applicationComplies_of_unsigned _ hsigned, applicationComplies_of_unsigned _ hsigned]
    exact h.1.isEmpty

/-! ### Changes of the store -/

section

variable {U : CaseMapping}

/-- The role of a call. -/
def RestrictionMutation.roleId : RestrictionMutation U → NodeId U
  | .addApplication roleId _ => roleId
  | .removeApplication roleId _ => roleId
  | .setApplicationsExclude roleId _ => roleId
  | .addEndpoint roleId _ => roleId
  | .removeEndpoint roleId _ => roleId
  | .setEndpointsExclude roleId _ => roleId

/-- What a call does to the restriction of its role. -/
def RestrictionMutation.change (r : RoleRestriction) : RestrictionMutation U → RoleRestriction
  | .addApplication _ uri => { r with applications := r.applications.add uri }
  | .removeApplication _ uri => { r with applications := r.applications.remove uri }
  | .setApplicationsExclude _ exclude =>
    { r with applications := r.applications.setExclude exclude }
  | .addEndpoint _ endpoint => { r with endpoints := r.endpoints.add endpoint }
  | .removeEndpoint _ endpoint => { r with endpoints := r.endpoints.remove endpoint }
  | .setEndpointsExclude _ exclude => { r with endpoints := r.endpoints.setExclude exclude }

lemma RestrictionMutation.change_same (m : RestrictionMutation U)
    {r r' : RoleRestriction} (h : r.Same r') : (m.change r).Same (m.change r') := by
  cases m with
  | addApplication _ uri => exact ⟨h.1.add uri, h.2⟩
  | removeApplication _ uri => exact ⟨h.1.remove uri, h.2⟩
  | setApplicationsExclude _ exclude => exact ⟨h.1.setExclude exclude, h.2⟩
  | addEndpoint _ endpoint => exact ⟨h.1, h.2.add endpoint⟩
  | removeEndpoint _ endpoint => exact ⟨h.1, h.2.remove endpoint⟩
  | setEndpointsExclude _ exclude => exact ⟨h.1, h.2.setExclude exclude⟩

namespace InMemoryRoleRestrictionStore

lemma text_inj {roleId roleId' : NodeId U} :
    roleId.toString none = roleId'.toString none ↔ roleId = roleId' :=
  NodeId.toString_injective.eq_iff

lemma lookup_replace (key : List Char) (change : RoleRestriction → RoleRestriction)
    (entries : List (List Char × RoleRestriction)) (k : List Char) :
    (replace key change entries).lookup k =
      if k = key then (entries.lookup k).map change else entries.lookup k := by
  induction entries with
  | nil => simp [replace]
  | cons e entries ih =>
    rw [replace, map_cons]
    by_cases hk : k = e.1
    · subst hk
      have hself : (e :: entries).lookup e.1 = some e.2 := by
        rw [lookup_cons, beq_self_eq_true]
      rw [hself]
      by_cases hkey : e.1 = key
      · rw [if_pos hkey, if_pos hkey, lookup_cons, beq_self_eq_true]
        rfl
      · rw [if_neg hkey, if_neg hkey, lookup_cons, beq_self_eq_true]
    · have hne : (k == e.1) = false := by simpa using hk
      have hhead : (k == (if e.1 = key then (e.1, change e.2) else e).1) = false := by
        split_ifs
        · exact hne
        · exact hne
      rw [lookup_cons, hhead, lookup_cons, hne]
      exact ih

section

variable (store : InMemoryRoleRestrictionStore)
include store

section

variable (roleId roleId' : NodeId U)

lemma peek_modify (change : RoleRestriction → RoleRestriction) :
    (store.modify roleId change).peek roleId' =
      if roleId' = roleId then (store.peek roleId').map change else store.peek roleId' := by
  unfold peek modify
  rw [lookup_replace]
  simp only [text_inj]

lemma peek_getOrCreate :
    (store.getOrCreate roleId).peek roleId' =
      if roleId' = roleId then some (store.restriction roleId) else store.peek roleId' := by
  have hnone : roleId.toString none ∉ store._map.map Prod.fst → store.peek roleId = none := by
    intro h
    rw [peek, List.lookup_eq_none_iff]
    intro p hp
    rw [bne_iff_ne]
    intro heq
    rw [heq] at h
    exact h (mem_map_of_mem hp)
  unfold getOrCreate
  split_ifs with hmem heq heq
  · subst heq
    obtain ⟨r, hr⟩ : ∃ r, store.peek roleId' = some r := by
      rw [← Option.ne_none_iff_exists']
      intro hnil
      rw [peek, List.lookup_eq_none_iff] at hnil
      obtain ⟨p, hp, hkey⟩ := List.mem_map.mp hmem
      have := hnil p hp
      rw [hkey] at this
      simp at this
    rw [restriction, hr]
    rfl
  · rfl
  · subst heq
    rw [restriction, hnone hmem]
    have h := hnone hmem
    unfold peek at h ⊢
    rw [List.lookup_append, h]
    simp
  · unfold peek
    have hne : (roleId'.toString none == roleId.toString none) = false := by
      rw [beq_eq_false_iff_ne]
      exact fun h => heq (text_inj.mp h)
    rw [List.lookup_append, lookup_cons, hne]
    simp

lemma restriction_modify_getOrCreate (change : RoleRestriction → RoleRestriction) :
    ((store.getOrCreate roleId).modify roleId change).restriction roleId' =
      if roleId' = roleId then change (store.restriction roleId) else store.restriction roleId' := by
  rw [restriction, peek_modify, peek_getOrCreate]
  split_ifs
  · rfl
  · rfl

lemma restriction_modify {change : RoleRestriction → RoleRestriction} (hchange : change {} = {}) :
    (store.modify roleId change).restriction roleId' =
      if roleId' = roleId then change (store.restriction roleId) else store.restriction roleId' := by
  rw [restriction, peek_modify]
  split_ifs with h
  · subst h
    rw [restriction]
    cases store.peek roleId' with
    | none => exact hchange.symm
    | some r => rfl
  · rfl

end

/-- **What a call does** to the restrictions. -/
theorem restriction_apply (m : RestrictionMutation U) (roleId : NodeId U) :
    (store.apply m).restriction roleId =
      if roleId = m.roleId then m.change (store.restriction m.roleId)
      else store.restriction roleId := by
  cases m with
  | addApplication | setApplicationsExclude | addEndpoint | setEndpointsExclude =>
    exact restriction_modify_getOrCreate _ _ _ _
  | removeApplication | removeEndpoint => exact restriction_modify _ _ _ rfl

lemma complies_eq (roleId : NodeId U) (context : ResolutionContext) :
    store.complies roleId context = (store.restriction roleId).complies context := by
  unfold complies RoleRestriction.complies getApplicationsExclude getEndpointsExclude
  cases hpeek : store.peek roleId with
  | none | some r =>
    rw [restriction, hpeek]
    rfl

end

/-! ### Equivalence -/

/-- The store after a call. -/
abbrev step (U : CaseMapping) (store : InMemoryRoleRestrictionStore) (m : RestrictionMutation U) :
    InMemoryRoleRestrictionStore := store.apply m

/-- What the store answers for each role and session. -/
def answers (U : CaseMapping) (store : InMemoryRoleRestrictionStore) :
    NodeId U × ResolutionContext → Bool := fun p => store.complies p.1 p.2

/-- **Two stores answer alike**, now and after any further changes. -/
def Equivalent (U : CaseMapping) (s s' : InMemoryRoleRestrictionStore) : Prop :=
  Bisimulation.Equivalent (step U) (answers U) s s'

/-- Two stores have restrictions that cannot be told apart. -/
def SameRestrictions (U : CaseMapping) (s s' : InMemoryRoleRestrictionStore) : Prop :=
  ∀ roleId : NodeId U, (s.restriction roleId).Same (s'.restriction roleId)

variable {s s' : InMemoryRoleRestrictionStore}

/-- **Stores with the same restrictions** are equivalent. -/
lemma equivalent_of_same (h : SameRestrictions U s s') :
    Equivalent U s s' := by
  apply Bisimulation.equivalent_of_bisimulation (R := SameRestrictions U) _ _ h
  · intro s s' m h roleId
    rw [step, step, restriction_apply, restriction_apply]
    split_ifs
    · exact m.change_same (h m.roleId)
    · exact h roleId
  · intro s s' h
    funext p
    rw [answers, answers, complies_eq, complies_eq]
    exact (h p.1).complies p.2

variable {ms : List (RestrictionMutation U)}

lemma restriction_run (s : InMemoryRoleRestrictionStore) (roleId : NodeId U)
    (hms : ∀ m ∈ ms, m.roleId = roleId) :
    (Bisimulation.run (step U) s ms).restriction roleId =
      ms.foldl RestrictionMutation.change (s.restriction roleId) := by
  induction ms generalizing s with
  | nil => rfl
  | cons m ms ih =>
    have hm : m.roleId = roleId := hms m (by simp)
    rw [Bisimulation.run_cons, ih _ fun m' hm' => hms m' (by simp [hm']), step, restriction_apply,
      hm, if_pos rfl, foldl_cons]

variable {roleId : NodeId U}

/-- **An experiment**: equivalent stores answer alike after calls for one role. -/
lemma Equivalent.experiment (h : Equivalent U s s')
    (hms : ∀ m ∈ ms, m.roleId = roleId) (context : ResolutionContext) :
    (ms.foldl RestrictionMutation.change (s.restriction roleId)).complies context =
      (ms.foldl RestrictionMutation.change (s'.restriction roleId)).complies context := by
  rw [← restriction_run s roleId hms, ← restriction_run s' roleId hms, ← complies_eq,
    ← complies_eq]
  exact congrFun (h ms) (roleId, context)

/-- The calls that remove applications. -/
def removeApplications (roleId : NodeId U) (uris : List String) : List (RestrictionMutation U) :=
  uris.map (RestrictionMutation.removeApplication roleId)

/-- The calls that remove endpoints. -/
def removeEndpoints (roleId : NodeId U) (endpoints : List EndpointCriteria) :
    List (RestrictionMutation U) :=
  endpoints.map (RestrictionMutation.removeEndpoint roleId)

lemma removeApplications_roleId {uris : List String} :
    ∀ m ∈ removeApplications roleId uris, m.roleId = roleId := by
  intro m hm
  obtain ⟨e, -, rfl⟩ := List.mem_map.mp hm
  rfl

lemma removeEndpoints_roleId {endpoints : List EndpointCriteria} :
    ∀ m ∈ removeEndpoints roleId endpoints, m.roleId = roleId := by
  intro m hm
  obtain ⟨e, -, rfl⟩ := List.mem_map.mp hm
  rfl

lemma foldl_removeApplications (roleId : NodeId U) (uris : List String) (r : RoleRestriction) :
    (removeApplications roleId uris).foldl RestrictionMutation.change r =
      { r with applications := r.applications.removeAll uris } := by
  induction uris generalizing r with
  | nil => rfl
  | cons uri uris ih =>
    exact ih _

lemma foldl_removeEndpoints (roleId : NodeId U) (endpoints : List EndpointCriteria)
    (r : RoleRestriction) :
    (removeEndpoints roleId endpoints).foldl RestrictionMutation.change r =
      { r with endpoints := r.endpoints.removeAll endpoints } := by
  induction endpoints generalizing r with
  | nil => rfl
  | cons endpoint endpoints ih =>
    exact ih _

end InMemoryRoleRestrictionStore

/-- An application on a signed channel. -/
def signedContext (uri : String) : ResolutionContext :=
  { applicationUri := some uri, securityMode := some .Sign }

lemma RoleRestriction.complies_signedContext {applications : RestrictionList (id : String → String)}
    {endpoints : RestrictionList EndpointCriteria.key} (h : ∀ k, k ∉ endpoints.keys)
    (uri : String) :
    RoleRestriction.complies ⟨applications, endpoints⟩ (signedContext uri) =
      applications.complies (isApplication (signedContext uri)) := by
  rw [RoleRestriction.complies, applicationComplies_of_signed _ rfl, endpointComplies_eq,
    RestrictionList.complies_of_nil h, Bool.and_true]

lemma RoleRestriction.complies_of_noApplications
    {applications : RestrictionList (id : String → String)}
    {endpoints : RestrictionList EndpointCriteria.key} (h : ∀ k, k ∉ applications.keys)
    (context : ResolutionContext) :
    RoleRestriction.complies ⟨applications, endpoints⟩ context =
      endpoints.complies (endpointEntryMatches · context) := by
  have hnil : applications.entries = [] :=
    List.map_eq_nil_iff.mp (List.eq_nil_iff_forall_not_mem.mpr h)
  rw [RoleRestriction.complies, hnil, endpointComplies_eq]
  rfl

namespace InMemoryRoleRestrictionStore

variable {s s' : InMemoryRoleRestrictionStore}

section

variable (h : Equivalent U s s') (roleId : NodeId U)
include h roleId

lemma Equivalent.exists_noEndpoints : ∃ t t', Equivalent U t t' ∧
      (t.restriction roleId).applications = (s.restriction roleId).applications ∧
      (t'.restriction roleId).applications = (s'.restriction roleId).applications ∧
      (∀ k, k ∉ (t.restriction roleId).endpoints.keys) ∧
      ∀ k, k ∉ (t'.restriction roleId).endpoints.keys := by
  let ms := removeEndpoints roleId
    ((s.restriction roleId).endpoints.entries ++ (s'.restriction roleId).endpoints.entries)
  refine ⟨Bisimulation.run (step U) s ms, Bisimulation.run (step U) s' ms, h.run ms, ?_⟩
  rw [restriction_run s roleId removeEndpoints_roleId, foldl_removeEndpoints,
    restriction_run s' roleId removeEndpoints_roleId, foldl_removeEndpoints]
  refine ⟨rfl, rfl, fun k hk => ?_, fun k hk => ?_⟩
  · rw [RestrictionList.mem_keys_removeAll, map_append, mem_append] at hk
    exact hk.2 (Or.inl hk.1)
  · rw [RestrictionList.mem_keys_removeAll, map_append, mem_append] at hk
    exact hk.2 (Or.inr hk.1)

lemma Equivalent.exists_noApplications : ∃ t t', Equivalent U t t' ∧
      (t.restriction roleId).endpoints = (s.restriction roleId).endpoints ∧
      (t'.restriction roleId).endpoints = (s'.restriction roleId).endpoints ∧
      (∀ k, k ∉ (t.restriction roleId).applications.keys) ∧
      ∀ k, k ∉ (t'.restriction roleId).applications.keys := by
  let ms := removeApplications roleId
    ((s.restriction roleId).applications.entries ++ (s'.restriction roleId).applications.entries)
  refine ⟨Bisimulation.run (step U) s ms, Bisimulation.run (step U) s' ms, h.run ms, ?_⟩
  rw [restriction_run s roleId removeApplications_roleId, foldl_removeApplications,
    restriction_run s' roleId removeApplications_roleId, foldl_removeApplications]
  refine ⟨rfl, rfl, fun k hk => ?_, fun k hk => ?_⟩
  · rw [RestrictionList.mem_keys_removeAll, map_append, mem_append] at hk
    exact hk.2 (Or.inl hk.1)
  · rw [RestrictionList.mem_keys_removeAll, map_append, mem_append] at hk
    exact hk.2 (Or.inr hk.1)

/-- **The applications show** once the endpoints are removed. -/
lemma Equivalent.applications :
    (s.restriction roleId).applications.Same (s'.restriction roleId).applications := by
  obtain ⟨t, t', ht, happs, happs', hopen, hopen'⟩ := h.exists_noEndpoints roleId
  rw [← happs, ← happs']
  have hself : ∀ uri, isApplication (signedContext uri) uri = true := by
    intro uri
    simp [isApplication, signedContext]
  apply RestrictionList.same_of_experiments (isApplication_respectsKey _) (hself "application")
  · have hms : ∀ m ∈ [RestrictionMutation.addApplication roleId "application"],
        m.roleId = roleId := by
      simp [RestrictionMutation.roleId]
    have hexp := ht.experiment hms (signedContext "application")
    simp only [foldl_cons, foldl_nil, RestrictionMutation.change] at hexp
    rwa [RoleRestriction.complies_signedContext hopen,
      RoleRestriction.complies_signedContext hopen'] at hexp
  · intro uri
    refine ⟨isApplication (signedContext uri), isApplication_respectsKey _, hself uri, ?_⟩
    have hms : ∀ m ∈ removeApplications roleId (RestrictionList.others
        (t.restriction roleId).applications (t'.restriction roleId).applications uri) ++
        [.setApplicationsExclude roleId true], m.roleId = roleId := by
      intro m hm
      rw [mem_append, List.mem_singleton] at hm
      rcases hm with hm | rfl
      · exact removeApplications_roleId m hm
      · rfl
    have hexp := ht.experiment hms (signedContext uri)
    rw [foldl_append, foldl_append, foldl_removeApplications,
      foldl_removeApplications] at hexp
    simp only [foldl_cons, foldl_nil, RestrictionMutation.change] at hexp
    rwa [RoleRestriction.complies_signedContext hopen,
      RoleRestriction.complies_signedContext hopen'] at hexp

/-- **The endpoints show** once the applications are removed. -/
lemma Equivalent.endpoints :
    (s.restriction roleId).endpoints.Same (s'.restriction roleId).endpoints := by
  obtain ⟨t, t', ht, hends, hends', hopen, hopen'⟩ := h.exists_noApplications roleId
  rw [← hends, ← hends']
  apply RestrictionList.same_of_experiments (endpointEntryMatches_respectsKey _)
    (endpointEntryMatches_self {})
  · have hms : ∀ m ∈ [RestrictionMutation.addEndpoint roleId {}], m.roleId = roleId := by
      simp [RestrictionMutation.roleId]
    have hexp := ht.experiment hms ⟨none, none, none, none, none⟩
    simp only [foldl_cons, foldl_nil, RestrictionMutation.change] at hexp
    rwa [RoleRestriction.complies_of_noApplications hopen,
      RoleRestriction.complies_of_noApplications hopen'] at hexp
  · intro e
    refine ⟨_, endpointEntryMatches_respectsKey _, endpointEntryMatches_self e, ?_⟩
    have hms : ∀ m ∈ removeEndpoints roleId (RestrictionList.others
        (t.restriction roleId).endpoints (t'.restriction roleId).endpoints e) ++
        [.setEndpointsExclude roleId true], m.roleId = roleId := by
      intro m hm
      rw [mem_append, List.mem_singleton] at hm
      rcases hm with hm | rfl
      · exact removeEndpoints_roleId m hm
      · rfl
    have hexp := ht.experiment hms ⟨none, e.securityMode, e.endpointUrl, e.securityPolicyUri,
      e.transportProfileUri⟩
    rw [foldl_append, foldl_append, foldl_removeEndpoints,
      foldl_removeEndpoints] at hexp
    simp only [foldl_cons, foldl_nil, RestrictionMutation.change] at hexp
    rwa [RoleRestriction.complies_of_noApplications hopen,
      RoleRestriction.complies_of_noApplications hopen'] at hexp

end

/-- **Equivalent stores** are those with the same restrictions. -/
theorem equivalent_iff :
    Equivalent U s s' ↔ SameRestrictions U s s' :=
  ⟨fun h roleId => ⟨h.applications roleId, h.endpoints roleId⟩, equivalent_of_same⟩

end InMemoryRoleRestrictionStore

end

end NodeOpcua
