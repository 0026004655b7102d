import Mathlib.Data.List.Nodup
import NodeOpcua.Server.SubscriptionTransfer

set_option autoImplicit false

/-!
# The owner of a subscription

The owner of a live subscription is stored in four places: the table of an engine, the engine of the
subscription, its session, and the identity that is kept of an orphan. The functions of the server
keep them in agreement, and their assertions hold, when they find them so.

## Main definitions

* `SubscriptionOwner`, `Places`.

## Main results

* `Places.update`.
* `SubscriptionPlaces.terminate_ok`, `createSubscription_ok`, `moveSubscription_ok`,
  `transferSubscription_ok`, `closeSession_ok`, `deleteOrphanSubscription_ok`.
-/

namespace NodeOpcua

open Bool (false_eq_true)
open Function (update_self update_of_ne)

/-! ### Owners -/

/-- **The owner of a live subscription**: a session, or the identity that is kept of one. -/
inductive SubscriptionOwner
  | session (session : ℕ)
  | orphan (identity : TransferSessionIdentity)
  deriving DecidableEq

namespace SubscriptionOwner

/-- The engine of an owner. -/
def engine : SubscriptionOwner → PublishEngineReference
  | session number => .session number
  | orphan _ => .orphan

/-- The session of an owner. -/
def session? : SubscriptionOwner → Option ℕ
  | session number => some number
  | orphan _ => none

end SubscriptionOwner

/-- **The four places store the same owner** for each live subscription, and none for the others. -/
structure Places (s : SubscriptionPlaces) (owner : ℕ → Option SubscriptionOwner) : Prop where
  engine : ∀ engine id, id ∈ s.engines engine ↔ ∃ w, owner id = some w ∧ w.engine = engine
  nodup : ∀ engine, (s.engines engine).Nodup
  live : ∀ id, (s.subscriptions id).closed = false ↔ (owner id).isSome = true
  publishEngine : ∀ id w, owner id = some w → (s.subscriptions id).publishEngine = some w.engine
  session : ∀ id w, owner id = some w → (s.subscriptions id).session = w.session?
  retained : ∀ id identity, owner id = some (.orphan identity) →
    (s.subscriptions id).transferSessionIdentity = some identity
  openSession : ∀ id number, owner id = some (.session number) → number ∈ s._sessions
  orphans : ∀ id identity, owner id = some (.orphan identity) → s._orphanPublishEngine = true
  known : ∀ id, (owner id).isSome = true → id < s.next_subscriptionId

namespace SubscriptionPlaces

variable {s s' : SubscriptionPlaces}

/-! ### Changes of the places -/

@[simp] lemma setSubscription_subscriptions_self (s : SubscriptionPlaces) (id : ℕ)
    (change : OwnedSubscription → OwnedSubscription) :
    (s.setSubscription id change).subscriptions id = change (s.subscriptions id) :=
  update_self ..

lemma setSubscription_subscriptions_of_ne (s : SubscriptionPlaces) {id other : ℕ}
    (change : OwnedSubscription → OwnedSubscription) (h : other ≠ id) :
    (s.setSubscription id change).subscriptions other = s.subscriptions other :=
  update_of_ne h ..

lemma setSubscription_setSubscription (s : SubscriptionPlaces) (id : ℕ)
    (first second : OwnedSubscription → OwnedSubscription) :
    (s.setSubscription id first).setSubscription id second =
      s.setSubscription id (fun subscription => second (first subscription)) := by
  unfold setSubscription
  simp

lemma setSubscription_setEngine (s : SubscriptionPlaces) (id : ℕ)
    (change : OwnedSubscription → OwnedSubscription) (engine : PublishEngineReference)
    (table : List ℕ → List ℕ) : (s.setSubscription id change).setEngine engine table =
      (s.setEngine engine table).setSubscription id change := rfl

lemma setSubscription_congr (s : SubscriptionPlaces) {id : ℕ}
    {first second : OwnedSubscription → OwnedSubscription}
    (h : first (s.subscriptions id) = second (s.subscriptions id)) :
    s.setSubscription id first = s.setSubscription id second := by
  unfold setSubscription
  rw [h]

@[simp] lemma setEngine_engines_self (s : SubscriptionPlaces) (engine : PublishEngineReference)
    (change : List ℕ → List ℕ) :
    (s.setEngine engine change).engines engine = change (s.engines engine) :=
  update_self ..

lemma setEngine_engines_of_ne (s : SubscriptionPlaces) {engine other : PublishEngineReference}
    (change : List ℕ → List ℕ) (h : other ≠ engine) :
    (s.setEngine engine change).engines other = s.engines other :=
  update_of_ne h ..

end SubscriptionPlaces

namespace Places

open SubscriptionPlaces

variable {s : SubscriptionPlaces} {owner : ℕ → Option SubscriptionOwner} {id : ℕ}
  {w : SubscriptionOwner}

section

variable (h : Places s owner)
include h

lemma mem (hw : owner id = some w) : id ∈ s.engines w.engine :=
  (h.engine _ _).mpr ⟨w, hw, rfl⟩

lemma not_mem (hw : owner id = some w) {engine : PublishEngineReference}
    (heng : engine ≠ w.engine) : id ∉ s.engines engine := by
  intro hmem
  obtain ⟨w', hw', rfl⟩ := (h.engine _ _).mp hmem
  rw [hw, Option.some.injEq] at hw'
  exact heng (congrArg _ hw'.symm)

/-- **The owner of one subscription changes**, and nothing is known of the others. -/
lemma update (id : ℕ) {s' : SubscriptionPlaces} {new : Option SubscriptionOwner}
    (hengines : ∀ engine other, other ∈ s'.engines engine ↔
      (other ≠ id ∧ other ∈ s.engines engine) ∨
        (other = id ∧ ∃ w, new = some w ∧ w.engine = engine))
    (hnodup : ∀ engine, (s'.engines engine).Nodup)
    (hothers : ∀ other, other ≠ id → s'.subscriptions other = s.subscriptions other)
    (hsess : s'._sessions = s._sessions)
    (horphans : s'._orphanPublishEngine = s._orphanPublishEngine)
    (hnext : s.next_subscriptionId ≤ s'.next_subscriptionId)
    (hlive : (s'.subscriptions id).closed = false ↔ new.isSome = true)
    (hnew : ∀ w, new = some w → id < s'.next_subscriptionId ∧
      (s'.subscriptions id).publishEngine = some w.engine ∧
      (s'.subscriptions id).session = w.session?)
    (hret : ∀ ident, new = some (.orphan ident) → s._orphanPublishEngine = true ∧
      (s'.subscriptions id).transferSessionIdentity = some ident)
    (hopen : ∀ number, new = some (.session number) → number ∈ s._sessions) :
    Places s' (Function.update owner id new) := by
  have hcases : ∀ (other : ℕ) (w : SubscriptionOwner),
      Function.update owner id new other = some w →
        (other = id ∧ new = some w) ∨ (other ≠ id ∧ owner other = some w) := by
    intro other w hw
    by_cases hother : other = id
    · subst hother
      rw [update_self] at hw
      exact Or.inl ⟨rfl, hw⟩
    · rw [update_of_ne hother] at hw
      exact Or.inr ⟨hother, hw⟩
  refine ⟨?_, hnodup, ?_, ?_, ?_, ?_, ?_, ?_, ?_⟩
  · intro engine other
    rw [hengines]
    by_cases hother : other = id
    · subst hother
      rw [update_self]
      exact ⟨fun hmem => hmem.elim (fun hne => absurd rfl hne.1) And.right, fun hmem => Or.inr ⟨rfl, hmem⟩⟩
    · rw [update_of_ne hother, ← h.engine]
      exact ⟨fun hmem => hmem.elim And.right fun hmem => absurd hmem.1 hother,
        fun hmem => Or.inl ⟨hother, hmem⟩⟩
  · intro other
    by_cases hother : other = id
    · subst hother
      rw [update_self]
      exact hlive
    · rw [update_of_ne hother, hothers other hother]
      exact h.live other
  · intro other w hw
    rcases hcases other w hw with ⟨rfl, heq⟩ | ⟨hother, hw⟩
    · exact (hnew w heq).2.1
    · rw [hothers other hother]
      exact h.publishEngine other w hw
  · intro other w hw
    rcases hcases other w hw with ⟨rfl, heq⟩ | ⟨hother, hw⟩
    · exact (hnew w heq).2.2
    · rw [hothers other hother]
      exact h.session other w hw
  · intro other ident hw
    rcases hcases other _ hw with ⟨rfl, heq⟩ | ⟨hother, hw⟩
    · exact (hret ident heq).2
    · rw [hothers other hother]
      exact h.retained other ident hw
  · intro other number hw
    rw [hsess]
    rcases hcases other _ hw with ⟨-, heq⟩ | ⟨-, hw⟩
    · exact hopen number heq
    · exact h.openSession other number hw
  · intro other ident hw
    rw [horphans]
    rcases hcases other _ hw with ⟨-, heq⟩ | ⟨-, hw⟩
    · exact (hret ident heq).1
    · exact h.orphans other ident hw
  · intro other hw
    obtain ⟨w, hw⟩ := Option.isSome_iff_exists.mp hw
    rcases hcases other w hw with ⟨rfl, heq⟩ | ⟨-, hw⟩
    · exact (hnew w heq).1
    · exact Nat.lt_of_lt_of_le (h.known other (Option.isSome_iff_exists.mpr ⟨w, hw⟩)) hnext

lemma mem_erase (hw : owner id = some w) (engine : PublishEngineReference)
    (other : ℕ) : other ∈ (s.setEngine w.engine fun table => table.erase id).engines engine ↔
      other ≠ id ∧ other ∈ s.engines engine := by
  by_cases heng : engine = w.engine
  · rw [heng, setEngine_engines_self, (h.nodup _).mem_erase_iff]
  · rw [setEngine_engines_of_ne _ _ heng]
    refine ⟨fun hmem => ⟨?_, hmem⟩, And.right⟩
    rintro rfl
    exact h.not_mem hw heng hmem

lemma nodup_erase (engine other : PublishEngineReference) :
    ((s.setEngine engine fun table => table.erase id).engines other).Nodup := by
  by_cases heng : other = engine
  · rw [heng, setEngine_engines_self]
    exact (h.nodup _).erase id
  · rw [setEngine_engines_of_ne _ _ heng]
    exact h.nodup other

end

variable {change : OwnedSubscription → OwnedSubscription}

/-- **A subscription loses its owner.** -/
lemma remove (h : Places s owner) (hw : owner id = some w)
    (hclo : (change (s.subscriptions id)).closed = true) :
    Places ((s.setEngine w.engine fun table => table.erase id).setSubscription id change)
      (Function.update owner id none) := by
  refine h.update id ?_ (h.nodup_erase w.engine) ?_ rfl rfl (Nat.le_refl _) ?_ nofun nofun nofun
  · intro engine other
    refine (h.mem_erase hw engine other).trans ?_
    simp
  · exact fun other hother => setSubscription_subscriptions_of_ne _ _ hother
  · rw [setSubscription_subscriptions_self]
    change (change (s.subscriptions id)).closed = false ↔ _
    simp [hclo]

/-- **A subscription gets another owner**, in another engine. -/
lemma reassign (h : Places s owner) (new : SubscriptionOwner) (hw : owner id = some w)
    (hclo : (change (s.subscriptions id)).closed = false)
    (hpublishEngine : (change (s.subscriptions id)).publishEngine = some new.engine)
    (hsess : (change (s.subscriptions id)).session = new.session?)
    (hret : ∀ ident, new = .orphan ident → s._orphanPublishEngine = true ∧
      (change (s.subscriptions id)).transferSessionIdentity = some ident)
    (hopen : ∀ number, new = .session number → number ∈ s._sessions) :
    Places (((s.setEngine w.engine fun table => table.erase id).setEngine new.engine
      fun table => table ++ [id]).setSubscription id change) (Function.update owner id (some new)) := by
  have hself : ((((s.setEngine w.engine fun table => table.erase id).setEngine new.engine
      fun table => table ++ [id]).setSubscription id change).subscriptions id) =
        change (s.subscriptions id) := setSubscription_subscriptions_self _ _ _
  refine h.update id ?_ ?_ ?_ rfl rfl (Nat.le_refl _) ?_ ?_ ?_ ?_
  · intro engine other
    change other ∈ ((s.setEngine w.engine fun table => table.erase id).setEngine new.engine
      fun table => table ++ [id]).engines engine ↔ _
    by_cases heq : engine = new.engine
    · rw [heq, setEngine_engines_self, List.mem_append, h.mem_erase hw, List.mem_singleton]
      simp
    · rw [setEngine_engines_of_ne _ _ heq, h.mem_erase hw]
      simp [Ne.symm heq]
  · intro engine
    change (((s.setEngine w.engine fun table => table.erase id).setEngine new.engine
      fun table => table ++ [id]).engines engine).Nodup
    by_cases heq : engine = new.engine
    · rw [heq, setEngine_engines_self]
      refine List.Nodup.append (h.nodup_erase w.engine new.engine) (List.nodup_singleton id) ?_
      rw [List.disjoint_singleton, h.mem_erase hw]
      exact fun hmem => hmem.1 rfl
    · rw [setEngine_engines_of_ne _ _ heq]
      exact h.nodup_erase w.engine engine
  · exact fun other hother => setSubscription_subscriptions_of_ne _ _ hother
  · rw [hself]
    exact ⟨fun _ => rfl, fun _ => hclo⟩
  · rintro v hv
    cases hv
    rw [hself]
    exact ⟨h.known id (Option.isSome_iff_exists.mpr ⟨w, hw⟩), hpublishEngine, hsess⟩
  · intro ident hident
    rw [hself]
    exact hret ident (Option.some.inj hident)
  · exact fun number hnum => hopen number (Option.some.inj hnum)

end Places

namespace SubscriptionPlaces

open Throwing

variable {s : SubscriptionPlaces} {owner : ℕ → Option SubscriptionOwner} {id : ℕ}
  {w : SubscriptionOwner}

/-! ### What the functions do -/

variable {condition : SubscriptionPlaces → Bool}

lemma assert_ok (h : condition s = true) :
    assert condition s = .ok ⟨⟩ s := by
  exact check_ok _ h s

lemma assert_bind {α : Type} (h : condition s = true)
    (f : PUnit → M α) : (assert condition >>= f) s = f ⟨⟩ s :=
  bind_ok f (assert_ok h)

/-- A server after the end of a subscription. -/
def terminated (s : SubscriptionPlaces) (id : ℕ) (engine : PublishEngineReference)
    (hasPendingNotifications : ℕ → Bool) : SubscriptionPlaces :=
  (s.setEngine engine fun table => table.erase id).setSubscription id fun subscription =>
    if hasPendingNotifications id then { subscription with closed := true, timerId := false }
    else { subscription with closed := true, timerId := false, publishEngine := none, session := none }

/-- **`terminate`** takes the owner from a live subscription. -/
lemma terminate_ok (h : Places s owner) (hw : owner id = some w)
    (hasPendingNotifications : ℕ → Bool) :
    terminate id hasPendingNotifications s =
      .ok ⟨⟩ (s.terminated id w.engine hasPendingNotifications) := by
  have hlive : (s.subscriptions id).closed = false := (h.live id).mpr (by rw [hw]; rfl)
  unfold terminate
  rw [get_bind]
  simp only [hlive, false_eq_true, if_false, modify_bind, h.publishEngine id w hw]
  unfold on_close_subscription
  by_cases hpend : hasPendingNotifications id = true
  · simp only [hpend, if_true]
    unfold terminated
    simp only [hpend, if_true]
    rfl
  · unfold terminated
    simp only [hpend, if_false, false_eq_true]
    unfold dispose
    rw [modify_bind, modify_ok, setSubscription_setSubscription]
    rfl

lemma places_terminated (h : Places s owner) (hw : owner id = some w)
    (hasPendingNotifications : ℕ → Bool) :
    Places (s.terminated id w.engine hasPendingNotifications) (Function.update owner id none) := by
  refine h.remove hw ?_
  split <;> rfl

variable (P : TransferPolicy)

/-- A subscription in another engine. -/
def rehomed (s : SubscriptionPlaces) (dest : PublishEngineReference)
    (subscription : OwnedSubscription) : OwnedSubscription :=
  match dest with
  | .session _ => { subscription with publishEngine := some dest }
  | .orphan =>
    { subscription with
        publishEngine := some dest
        session := none
        transferSessionIdentity := (subscription.session.map (s.identity P)).or
          subscription.transferSessionIdentity }

/-- A server after a subscription got another engine. -/
def moved (s : SubscriptionPlaces) (id : ℕ) (src dest : PublishEngineReference) :
    SubscriptionPlaces :=
  ((s.setEngine src fun table => table.erase id).setEngine dest
    fun table => table ++ [id]).setSubscription id (s.rehomed P dest)

variable {engine : PublishEngineReference}

/-- **`add_subscription`** of the base class, of a subscription that has no other engine. -/
lemma addTo_ok (heng : (s.subscriptions id).publishEngine.getD engine = engine)
    (hnot : id ∉ s.engines engine) :
    addTo engine id s = .ok ⟨⟩ ((s.setEngine engine fun table => table ++ [id]).setSubscription id
      fun subscription => { subscription with publishEngine := some engine }) := by
  have hset : (s.setSubscription id fun subscription =>
      { subscription with publishEngine := some (subscription.publishEngine.getD engine) }) =
        s.setSubscription id fun subscription =>
          { subscription with publishEngine := some engine } := by
    refine s.setSubscription_congr ?_
    rw [heng]
  have hself : ((s.setSubscription id fun subscription =>
      { subscription with publishEngine := some engine }).subscriptions id).publishEngine =
        some engine := by rw [setSubscription_subscriptions_self]
  unfold addTo
  rw [modify_bind, hset, assert_bind (decide_eq_true hself), assert_bind ?_, modify_ok]
  · rfl
  · change !(s.engines engine).contains id
    simp [hnot]

/-- **`detach_subscription`**, from the engine where the subscription is. -/
lemma detach_subscription_ok
    (heng : (s.subscriptions id).publishEngine = some engine) (hmem : id ∈ s.engines engine) :
    detach_subscription engine id s = .ok ⟨⟩ ((s.setEngine engine fun table =>
      table.erase id).setSubscription id fun subscription =>
        { subscription with publishEngine := none }) := by
  unfold detach_subscription
  rw [assert_bind (decide_eq_true heng), assert_bind (by simp [getSubscriptionById, hmem]),
    modify_bind, modify_ok]

/-- **`add_subscription`**, of a subscription without an engine. -/
lemma add_subscription_ok {dest : PublishEngineReference}
    (hnone : (s.subscriptions id).publishEngine = none) (hnot : id ∉ s.engines dest) :
    add_subscription P dest id s = .ok ⟨⟩ ((s.setEngine dest fun table =>
      table ++ [id]).setSubscription id (s.rehomed P dest)) := by
  cases dest with
  | session number =>
    refine addTo_ok ?_ hnot
    rw [hnone]
    rfl
  | orphan =>
    refine (addTo_ok (s := s.setSubscription id fun subscription =>
      { subscription with
          transferSessionIdentity := (subscription.session.map (s.identity P)).or
            subscription.transferSessionIdentity
          session := none }) ?_ hnot).trans ?_
    · rw [setSubscription_subscriptions_self, hnone]
      rfl
    · rw [setSubscription_setEngine, setSubscription_setSubscription]
      rfl

variable {src dest : PublishEngineReference}

/-- **`moveSubscription`** takes a subscription from the engine where it is to another one. -/
lemma moveSubscription_ok
    (heng : (s.subscriptions id).publishEngine = some src) (hmem : id ∈ s.engines src)
    (hnot : id ∉ s.engines dest) :
    moveSubscription P id dest s = .ok src (s.moved P id src dest) := by
  have hne : dest ≠ src := by
    rintro rfl
    exact hnot hmem
  have hnot' : id ∉ ((s.setEngine src fun table => table.erase id).setSubscription id
      fun subscription => { subscription with publishEngine := none }).engines dest := by
    change id ∉ (s.setEngine src fun table => table.erase id).engines dest
    rw [setEngine_engines_of_ne _ _ hne]
    exact hnot
  have hnone : (((s.setEngine src fun table => table.erase id).setSubscription id
      fun subscription => { subscription with publishEngine := none }).subscriptions
        id).publishEngine = none := by rw [setSubscription_subscriptions_self]
  have hmoved : ((((s.setEngine src fun table => table.erase id).setSubscription id
      fun subscription => { subscription with publishEngine := none }).setEngine dest fun table =>
        table ++ [id]).setSubscription id (s.rehomed P dest)) = s.moved P id src dest := by
    rw [setSubscription_setEngine, setSubscription_setSubscription]
    refine setSubscription_congr _ ?_
    cases dest <;> rfl
  unfold moveSubscription
  rw [assert_bind (by simp [getSubscriptionById, hnot]), get_bind, heng]
  dsimp only
  rw [assert_bind (by simp [getSubscriptionById, hmem]),
    bind_ok _ (detach_subscription_ok heng hmem), bind_ok _ (add_subscription_ok P hnone hnot'),
    pure_ok, ← hmoved]
  rfl

lemma assertMoved_ok (hdest : id ∈ s.engines dest)
    (hsrc : id ∉ s.engines src) : assertMoved id src dest s = .ok ⟨⟩ s := by
  unfold assertMoved
  rw [assert_bind (by simp [getSubscriptionById, hdest]),
    assert_ok (by simp [getSubscriptionById, hsrc])]

variable {number : ℕ}

lemma places_moved_orphan (h : Places s owner)
    (hw : owner id = some (.session number)) (horphan : s._orphanPublishEngine = true) :
    Places (s.moved P id (.session number) .orphan)
      (Function.update owner id (some (.orphan (s.identity P number)))) := by
  have hlive : (s.subscriptions id).closed = false := (h.live id).mpr (by rw [hw]; rfl)
  refine h.reassign (.orphan (s.identity P number)) hw hlive rfl rfl ?_ nofun
  rintro _ ⟨⟩
  refine ⟨horphan, ?_⟩
  unfold rehomed
  rw [h.session id _ hw]
  rfl

/-! ### Sessions -/

/-- What waits is as it was. -/
structure WaitsUnchanged (s s' : SubscriptionPlaces) : Prop where
  sessions : s'.sessions = s.sessions
  sessionCount : s'.sessionCount = s.sessionCount
  transfers : s'.transfers = s.transfers
  deletions : s'.deletions = s.deletions
  rejections : s'.rejections = s.rejections

variable {s₁ s₂ s₃ : SubscriptionPlaces}

lemma WaitsUnchanged.trans (h : WaitsUnchanged s₁ s₂)
    (h' : WaitsUnchanged s₂ s₃) : WaitsUnchanged s₁ s₃ :=
  ⟨h'.1.trans h.1, h'.2.trans h.2, h'.3.trans h.3, h'.4.trans h.4, h'.5.trans h.5⟩

/-- What does not depend on the owners is as it was. -/
structure Unchanged (s s' : SubscriptionPlaces) : Prop extends WaitsUnchanged s s' where
  _sessions : s'._sessions = s._sessions
  _orphanPublishEngine : s'._orphanPublishEngine = s._orphanPublishEngine

lemma Unchanged.refl (s : SubscriptionPlaces) : Unchanged s s :=
  ⟨⟨rfl, rfl, rfl, rfl, rfl⟩, rfl, rfl⟩

lemma Unchanged.trans (h : Unchanged s₁ s₂) (h' : Unchanged s₂ s₃) :
    Unchanged s₁ s₃ :=
  ⟨h.1.trans h'.1, h'.2.trans h.2, h'.3.trans h.3⟩

/-- The subscriptions of a session get another owner. -/
def reassigned (owner : ℕ → Option SubscriptionOwner) (number : ℕ)
    (new : Option SubscriptionOwner) (id : ℕ) : Option SubscriptionOwner :=
  if owner id = some (.session number) then new else owner id

variable {new : Option SubscriptionOwner}

/-- **A loop over the subscriptions of a session** that gives each of them another owner. -/
lemma forM_reassigned (h : Places s owner) {f : ℕ → M PUnit}
    (hf : ∀ t owner id, Unchanged s t → Places t owner → owner id = some (.session number) →
      ∃ t', f id t = .ok ⟨⟩ t' ∧ Unchanged t t' ∧ Places t' (Function.update owner id new)) :
    ∃ s', ((s.engines (.session number)).forM f) s = .ok ⟨⟩ s' ∧ Unchanged s s' ∧
      Places s' (reassigned owner number new) := by
  -- the owners when the subscriptions of `rest` are still to come
  let current (rest : List ℕ) (id : ℕ) : Option SubscriptionOwner :=
    if owner id = some (.session number) ∧ id ∉ rest then new else owner id
  have hmem : ∀ id, id ∈ s.engines (.session number) ↔ owner id = some (.session number) := by
    intro id
    rw [h.engine]
    constructor
    · rintro ⟨w, hw, heng⟩
      cases w with
      | session other =>
        cases heng
        exact hw
      | orphan ident => exact absurd heng nofun
    · exact fun hw => ⟨_, hw, rfl⟩
  have hfirst : current (s.engines (.session number)) = owner := by
    funext id
    exact if_neg fun hid => hid.2 ((hmem id).mpr hid.1)
  have hlast : current [] = reassigned owner number new := by
    funext id
    simp [current, reassigned]
  have hround : ∀ a rest t,
      (Unchanged s t ∧ Places t (current (a :: rest)) ∧ (a :: rest).Nodup ∧
        ∀ id ∈ a :: rest, owner id = some (.session number)) →
      ∃ t', f a t = .ok ⟨⟩ t' ∧ (Unchanged s t' ∧ Places t' (current rest) ∧ rest.Nodup ∧
        ∀ id ∈ rest, owner id = some (.session number)) := by
    rintro a rest t ⟨hunch, hplc, hnodup, hrest⟩
    obtain ⟨hnot, hnodup⟩ := List.nodup_cons.mp hnodup
    have ha : owner a = some (.session number) := hrest a List.mem_cons_self
    have hcur : current (a :: rest) a = some (.session number) := by simp [current, ha]
    obtain ⟨t', hstep, hframe, hplc'⟩ := hf t _ a hunch hplc hcur
    refine ⟨t', hstep, hunch.trans hframe, ?_, hnodup,
      fun id hid => hrest id (List.mem_cons_of_mem _ hid)⟩
    have hnext : Function.update (current (a :: rest)) a new = current rest := by
      funext id
      by_cases hid : id = a
      · subst hid
        simp [current, ha, hnot]
      · rw [update_of_ne hid]
        simp [current, hid]
    exact hnext ▸ hplc'
  obtain ⟨s', hrun, hunch, hplc, -, -⟩ := forM_ok
    (fun rest t => Unchanged s t ∧ Places t (current rest) ∧ rest.Nodup ∧
      ∀ id ∈ rest, owner id = some (.session number)) hround (s.engines (.session number))
    ⟨Unchanged.refl s, hfirst.symm ▸ h, h.nodup _, fun id hid => (hmem id).mp hid⟩
  exact ⟨s', hrun, hunch, hlast ▸ hplc⟩

lemma engines_eq_nil (h : Places s owner)
    (hnone : ∀ id w, owner id = some w → w.engine ≠ engine) : s.engines engine = [] := by
  refine List.eq_nil_iff_forall_not_mem.mpr fun id hid => ?_
  obtain ⟨w, hw, heng⟩ := (h.engine engine id).mp hid
  exact hnone id w hw heng

lemma reassigned_engine_ne
    (hnew : ∀ w, new = some w → w.engine ≠ .session number) (id : ℕ) (w : SubscriptionOwner)
    (hw : reassigned owner number new id = some w) : w.engine ≠ .session number := by
  unfold reassigned at hw
  by_cases hid : owner id = some (.session number)
  · rw [if_pos hid] at hw
    exact hnew w hw
  · rw [if_neg hid] at hw
    intro heng
    cases w with
    | session other =>
      cases heng
      exact hid hw
    | orphan ident => exact absurd heng nofun

/-- **`transferSubscriptionsToOrphan`** makes orphans of the subscriptions of a session. -/
lemma transferSubscriptionsToOrphan_ok (h : Places s owner) (number : ℕ)
    (horphan : s._orphanPublishEngine = true) :
    ∃ s', transferSubscriptionsToOrphan P number s = .ok ⟨⟩ s' ∧ Unchanged s s' ∧
      Places s' (reassigned owner number (some (.orphan (s.identity P number)))) := by
  let round (subscriptionId : ℕ) : M PUnit := do
    assert fun s => (s.subscriptions subscriptionId).publishEngine = some (.session number)
    unawaited do
      let srcPublishEngine ← moveSubscription P subscriptionId .orphan
      assertMoved subscriptionId srcPublishEngine .orphan
  have hround : ∀ t owner id, Unchanged s t → Places t owner → owner id = some (.session number) →
      ∃ t', round id t = .ok ⟨⟩ t' ∧ Unchanged t t' ∧
        Places t' (Function.update owner id (some (.orphan (s.identity P number)))) := by
    intro t owner' id hframe hplc hid
    have heng := hplc.publishEngine id _ hid
    have hmem : id ∈ t.engines (.session number) := hplc.mem hid
    have hnot : id ∉ t.engines .orphan := hplc.not_mem hid nofun
    have horphan' : t._orphanPublishEngine = true := hframe._orphanPublishEngine.trans horphan
    have hident : t.identity P number = s.identity P number := by
      unfold identity
      rw [hframe.sessions]
    have hmove : moveSubscription P id .orphan t =
        .ok (.session number) (t.moved P id (.session number) .orphan) :=
      moveSubscription_ok P heng hmem hnot
    have hmoved := places_moved_orphan P hplc hid horphan'
    have hdest : id ∈ (t.moved P id (.session number) .orphan).engines .orphan :=
      hmoved.mem (w := .orphan (t.identity P number)) (update_self ..)
    have hsrc : id ∉ (t.moved P id (.session number) .orphan).engines (.session number) :=
      hmoved.not_mem (w := .orphan (t.identity P number)) (update_self ..) nofun
    refine ⟨t.moved P id (.session number) .orphan, ?_, ⟨⟨rfl, rfl, rfl, rfl, rfl⟩, rfl, rfl⟩, ?_⟩
    · simp only [round]
      rw [assert_bind (decide_eq_true heng)]
      unfold unawaited
      rw [bind_ok _ hmove, assertMoved_ok hdest hsrc]
    · rw [← hident]
      exact hmoved
  obtain ⟨s', hrun, hunch, hplc⟩ := forM_reassigned h hround
  refine ⟨s', ?_, hunch, hplc⟩
  have hnil : s'.engines (.session number) = [] := by
    refine engines_eq_nil hplc (reassigned_engine_ne ?_)
    rintro w ⟨⟩
    exact nofun
  unfold transferSubscriptionsToOrphan
  rw [get_bind, bind_ok _ hrun, assert_ok]
  rw [hnil]
  rfl

/-- **`ServerSession.deleteSubscription`**, of a subscription of the session. -/
lemma deleteSubscription_ok (h : Places s owner)
    (hw : owner id = some (.session number)) (hasPendingNotifications : ℕ → Bool) :
    deleteSubscription number id hasPendingNotifications s =
      .ok .Good (s.terminated id (.session number) hasPendingNotifications) := by
  have hopen := h.openSession id number hw
  have hmem : id ∈ s.engines (.session number) := h.mem hw
  have hlive : (s.subscriptions id).closed = false := (h.live id).mpr (by rw [hw]; rfl)
  have hget : s.getSubscription number id = true := by
    simp [getSubscription, getSubscriptionById, hopen, hmem, hlive]
  have hterm : terminate id hasPendingNotifications s =
      .ok ⟨⟩ (s.terminated id (.session number) hasPendingNotifications) :=
    terminate_ok h hw hasPendingNotifications
  unfold deleteSubscription
  rw [get_bind]
  simp only [hget, Bool.not_true, false_eq_true, if_false]
  rw [bind_ok _ hterm, get_bind]
  by_cases hnil : (s.terminated id (.session number) hasPendingNotifications).engines
      (.session number) = []
  · rw [if_pos hnil, assert_bind, pure_ok]
    rw [hnil]
    rfl
  · rw [if_neg hnil]
    rfl

/-- `ServerSession.deleteSubscription`, of another subscription. -/
lemma deleteSubscription_refused (h : Places s owner)
    (hw : owner id ≠ some (.session number)) (hasPendingNotifications : ℕ → Bool) :
    deleteSubscription number id hasPendingNotifications s = .ok .BadSubscriptionIdInvalid s := by
  have hmem : id ∉ s.engines (.session number) := by
    intro hmem
    obtain ⟨w, hw', heng⟩ := (h.engine _ _).mp hmem
    cases w with
    | session other =>
      cases heng
      exact hw hw'
    | orphan ident => exact absurd heng nofun
  have hget : s.getSubscription number id = false := by
    simp [getSubscription, getSubscriptionById, hmem]
  unfold deleteSubscription
  rw [get_bind]
  simp only [hget, Bool.not_false, if_true]
  rfl

/-- **`ServerSession.close`** ends the subscriptions of a session. -/
lemma close_ok (h : Places s owner) (number : ℕ) (hasPendingNotifications : ℕ → Bool) :
    ∃ s', close number hasPendingNotifications s = .ok ⟨⟩ s' ∧ Unchanged s s' ∧
      Places s' (reassigned owner number none) := by
  have hround : ∀ t owner id, Unchanged s t → Places t owner → owner id = some (.session number) →
      ∃ t', (discard (deleteSubscription number id hasPendingNotifications) : M PUnit) t =
        .ok ⟨⟩ t' ∧ Unchanged t t' ∧ Places t' (Function.update owner id none) := by
    intro t owner' id hframe hplc hid
    refine ⟨t.terminated id (.session number) hasPendingNotifications, ?_,
      ⟨⟨rfl, rfl, rfl, rfl, rfl⟩, rfl, rfl⟩, places_terminated hplc hid hasPendingNotifications⟩
    have hdelete := deleteSubscription_ok hplc hid hasPendingNotifications
    change EStateM.map _ _ _ = _
    unfold EStateM.map
    rw [hdelete]
  obtain ⟨s', hrun, hunch, hplc⟩ := forM_reassigned h hround
  refine ⟨s', ?_, hunch, hplc⟩
  have hnil : s'.engines (.session number) = [] :=
    engines_eq_nil hplc (reassigned_engine_ne nofun)
  unfold close
  rw [get_bind, bind_ok _ hrun, assert_ok]
  rw [hnil]
  rfl

lemma reassigned_ne (hnew : new ≠ some (.session number)) (id : ℕ) :
    reassigned owner number new id ≠ some (.session number) := by
  unfold reassigned
  by_cases hid : owner id = some (.session number)
  · rw [if_pos hid]
    exact hnew
  · rw [if_neg hid]
    exact hid

lemma places_erase (h : Places s owner) (hnone : ∀ id, owner id ≠ some (.session number)) :
    Places { s with _sessions := s._sessions.erase number } owner := by
  refine { h with openSession := ?_ }
  intro id other hother
  refine (List.mem_erase_of_ne ?_).mpr (h.openSession id other hother)
  rintro rfl
  exact hnone id hother

/-- What the owner of the subscriptions of a session becomes when the session is closed. -/
def closedOwner (s : SubscriptionPlaces) (number : ℕ) (deleteSubscriptions : Bool) :
    Option SubscriptionOwner :=
  if deleteSubscriptions then none else some (.orphan (s.identity P number))

section

variable (h : Places s owner)
include h

/-- **`ServerEngine.closeSession`** ends the subscriptions of a session, or makes orphans of them. -/
lemma closeSession_ok (hopen : number ∈ s._sessions)
    (delete : Bool) (hasPendingNotifications : ℕ → Bool) :
    ∃ s', closeSession P number delete hasPendingNotifications s = .ok ⟨⟩ s' ∧
      WaitsUnchanged s s' ∧ s'._sessions = s._sessions.erase number ∧
      Places s' (reassigned owner number (s.closedOwner P number delete)) := by
  unfold closeSession closedOwner
  rw [get_bind, check_bind _ hopen]
  cases delete with
  | true =>
    simp only [if_true]
    obtain ⟨s', hclose, hunch, hplc⟩ := close_ok h number hasPendingNotifications
    rw [bind_ok _ hclose, modify_ok]
    refine ⟨_, rfl, ?_, ?_, places_erase hplc (reassigned_ne nofun)⟩
    · exact hunch.toWaitsUnchanged.trans ⟨rfl, rfl, rfl, rfl, rfl⟩
    · exact congrArg (List.erase · number) hunch._sessions
  | false =>
    simp only [false_eq_true, if_false]
    have hflag : Places { s with _orphanPublishEngine := true } owner :=
      { h with orphans := fun _ _ _ => rfl }
    obtain ⟨s₁, horphan, hunch₁, hplc₁⟩ :=
      transferSubscriptionsToOrphan_ok P hflag number rfl
    obtain ⟨s₂, hclose, hunch₂, hplc₂⟩ := close_ok hplc₁ number hasPendingNotifications
    have hnone : ∀ id, reassigned owner number (some (.orphan (s.identity P number))) id ≠
        some (.session number) := reassigned_ne nofun
    have howner : reassigned (reassigned owner number (some (.orphan (s.identity P number)))) number
        none = reassigned owner number (some (.orphan (s.identity P number))) := by
      funext id
      exact if_neg (hnone id)
    rw [modify_bind, bind_ok _ horphan, bind_ok _ hclose, modify_ok]
    refine ⟨_, rfl, ?_, ?_, places_erase (howner ▸ hplc₂) hnone⟩
    · have hkept : WaitsUnchanged s { s with _orphanPublishEngine := true } :=
        ⟨rfl, rfl, rfl, rfl, rfl⟩
      exact (hkept.trans (hunch₁.toWaitsUnchanged.trans hunch₂.toWaitsUnchanged)).trans
        ⟨rfl, rfl, rfl, rfl, rfl⟩
    · exact congrArg (List.erase · number) (hunch₂._sessions.trans hunch₁._sessions)

/-! ### Subscriptions -/

/-- **`createSubscription`** gives a new subscription to a session. -/
lemma createSubscription_ok (hopen : number ∈ s._sessions) :
    ∃ s', createSubscription number s = .ok ⟨⟩ s' ∧ Unchanged s s' ∧
      Places s' (Function.update owner s.next_subscriptionId (some (.session number))) := by
  let n := s.next_subscriptionId
  let fresh : OwnedSubscription := ⟨false, true, some (.session number), none, none⟩
  have hnone : owner n = none := by
    rw [← Option.not_isSome_iff_eq_none]
    exact fun hsome => absurd (h.known n hsome) (Nat.lt_irrefl _)
  have hnot : ∀ engine, n ∉ s.engines engine := by
    intro engine hmem
    obtain ⟨w, hw, -⟩ := (h.engine engine n).mp hmem
    exact absurd (hnone.symm.trans hw) nofun
  let s₁ : SubscriptionPlaces :=
    SubscriptionPlaces.setSubscription { s with next_subscriptionId := n + 1 } n fun _ => fresh
  have hself : s₁.subscriptions n = fresh := setSubscription_subscriptions_self _ _ _
  let s₂ : SubscriptionPlaces := (s₁.setEngine (.session number) fun table =>
    table ++ [n]).setSubscription n fun subscription =>
      { subscription with publishEngine := some (.session number) }
  have hadd : addTo (.session number) n s₁ = .ok ⟨⟩ s₂ := by
    refine addTo_ok ?_ (hnot (.session number))
    rw [hself]
    rfl
  have hself₂ : s₂.subscriptions n = fresh := by
    refine (setSubscription_subscriptions_self _ _ _).trans ?_
    change { s₁.subscriptions n with publishEngine := some (.session number) } = fresh
    rw [hself]
  let s₃ : SubscriptionPlaces := s₂.setSubscription n fun subscription =>
    { subscription with session := some number }
  have hself₃ : s₃.subscriptions n = { fresh with session := some number } := by
    refine (setSubscription_subscriptions_self _ _ _).trans ?_
    rw [hself₂]
  refine ⟨s₃, ?_, ⟨⟨rfl, rfl, rfl, rfl, rfl⟩, rfl, rfl⟩, ?_⟩
  · have hfirst : (s₂.subscriptions n).session = none := by rw [hself₂]
    have hsnd : (s₃.subscriptions n).session = some number := by rw [hself₃]
    unfold createSubscription assignSubscription
    rw [get_bind, modify_bind, modify_bind, bind_ok _ hadd, assert_bind (decide_eq_true hfirst),
      modify_bind, assert_ok (decide_eq_true hsnd)]
  · refine h.update n ?_ ?_ ?_ rfl rfl (Nat.le_succ _) ?_ ?_ nofun ?_
    · intro engine other
      change other ∈ (s.setEngine (.session number) fun table => table ++ [n]).engines engine ↔ _
      have hother : other ∈ s.engines engine → other ≠ n := by
        rintro hmem rfl
        exact hnot engine hmem
      by_cases heq : engine = .session number
      · rw [heq, setEngine_engines_self, List.mem_append, List.mem_singleton]
        subst heq
        constructor
        · rintro (hmem | rfl)
          · exact Or.inl ⟨hother hmem, hmem⟩
          · exact Or.inr ⟨rfl, _, rfl, rfl⟩
        · exact fun hmem => hmem.imp And.right And.left
      · rw [setEngine_engines_of_ne _ _ heq]
        have heng : ¬∃ w, some (SubscriptionOwner.session number) = some w ∧
            w.engine = engine := by
          rintro ⟨w, ⟨⟩, hw⟩
          exact heq hw.symm
        refine ⟨fun hmem => Or.inl ⟨hother hmem, hmem⟩, ?_⟩
        rintro (⟨-, hmem⟩ | ⟨-, hw⟩)
        · exact hmem
        · exact absurd hw heng
    · intro engine
      change ((s.setEngine (.session number) fun table => table ++ [n]).engines engine).Nodup
      by_cases heq : engine = .session number
      · rw [heq, setEngine_engines_self]
        refine List.Nodup.append (h.nodup _) (List.nodup_singleton n) ?_
        rw [List.disjoint_singleton]
        exact hnot (.session number)
      · rw [setEngine_engines_of_ne _ _ heq]
        exact h.nodup engine
    · intro other hother
      have hfirst : s₁.subscriptions other = s.subscriptions other :=
        setSubscription_subscriptions_of_ne _ _ hother
      have hsnd : s₂.subscriptions other = s₁.subscriptions other :=
        setSubscription_subscriptions_of_ne (s₁.setEngine _ _) _ hother
      exact ((setSubscription_subscriptions_of_ne s₂ _ hother).trans hsnd).trans hfirst
    · rw [hself₃]
      exact ⟨fun _ => rfl, fun _ => rfl⟩
    · rintro w ⟨⟩
      rw [hself₃]
      exact ⟨Nat.lt_succ_self _, rfl, rfl⟩
    · rintro _ ⟨⟩
      exact hopen

lemma exists_owner_of_find (hfind : s.findSubscription id = true) :
    ∃ w, owner id = some w := by
  have hmem : ∃ engine, id ∈ s.engines engine := by
    rcases Bool.or_eq_true_iff.mp hfind with hsess | horphan
    · obtain ⟨number, -, hget⟩ := List.any_eq_true.mp hsess
      exact ⟨.session number, List.contains_iff_mem.mp hget⟩
    · exact ⟨.orphan, List.contains_iff_mem.mp (Bool.and_eq_true_iff.mp horphan).2⟩
  obtain ⟨engine, hmem⟩ := hmem
  obtain ⟨w, hw, -⟩ := (h.engine engine id).mp hmem
  exact ⟨w, hw⟩

lemma find_of_owner (hw : owner id = some w) :
    s.findSubscription id = true := by
  have hmem := h.mem hw
  cases w with
  | session number =>
    refine Bool.or_eq_true_iff.mpr (Or.inl (List.any_eq_true.mpr ⟨number, ?_, ?_⟩))
    · exact h.openSession id number hw
    · exact List.contains_iff_mem.mpr hmem
  | orphan ident =>
    refine Bool.or_eq_true_iff.mpr (Or.inr (Bool.and_eq_true_iff.mpr ⟨?_, ?_⟩))
    · exact h.orphans id ident hw
    · exact List.contains_iff_mem.mpr hmem

/-- **A transfer that is not refused** is of a subscription with another owner, which is compatible. -/
lemma of_refusal_eq_none (href : s.refusal P number id = none) :
    ∃ w, owner id = some w ∧ w.engine ≠ .session number ∧ s.compatible P number id = true := by
  unfold refusal at href
  split_ifs at href with hzero hfind hcompat heng hsess
  obtain ⟨w, hw⟩ := exists_owner_of_find h (by simpa using hfind)
  refine ⟨w, hw, ?_, by simpa using hcompat⟩
  rintro heq
  exact heng ((h.publishEngine id w hw).trans (congrArg some heq))

end

/-- The state when a transfer begins to wait. -/
def transferred (s : SubscriptionPlaces) (id number : ℕ) (src : PublishEngineReference)
    (stage : TransferStage) : SubscriptionPlaces :=
  let s₁ := s.setSubscription id fun subscription => { subscription with session := some number }
  { s₁.moved P id src (.session number) with
      transfers := s.transfers ++ [⟨id, number, src, stage⟩] }

lemma places_waits (h : Places s owner) (transfers : List WaitingTransfer) (deletions : List ℕ) :
    Places { s with transfers, deletions } owner :=
  { h with }

section

variable (h : Places s owner) (hw : owner id = some w) (hopen : number ∈ s._sessions)
include h hw hopen

lemma places_transferred (stage : TransferStage) :
    Places (s.transferred P id number w.engine stage)
      (Function.update owner id (some (.session number))) := by
  have hlive : (s.subscriptions id).closed = false := (h.live id).mpr (by rw [hw]; rfl)
  have hsess : ∀ other, SubscriptionOwner.session number = .session other →
      other ∈ s._sessions := by
    rintro _ ⟨⟩
    exact hopen
  refine places_waits ?_ _ _
  unfold moved
  rw [setSubscription_setEngine, setSubscription_setEngine, setSubscription_setSubscription]
  exact h.reassign (.session number) hw hlive rfl rfl nofun hsess

/-- **`ServerEngine.transferSubscription`**, of a subscription of another, compatible owner. -/
lemma transferSubscription_ok (heng : w.engine ≠ .session number)
    (href : s.refusal P number id = none) (sendAll : Bool) :
    transferSubscription P number id sendAll s =
      .ok none (s.transferred P id number w.engine
        (if sendAll then .resending else .answering)) := by
  let s₁ := s.setSubscription id fun subscription => { subscription with session := some number }
  have hpublishEngine : (s₁.subscriptions id).publishEngine = some w.engine := by
    rw [setSubscription_subscriptions_self]
    exact h.publishEngine id w hw
  have hmove : moveSubscription P id (.session number) s₁ =
      .ok w.engine (s₁.moved P id w.engine (.session number)) :=
    moveSubscription_ok P hpublishEngine (h.mem hw) (h.not_mem hw heng.symm)
  unfold transferSubscription
  rw [get_bind, href]
  dsimp only
  rw [modify_bind, bind_ok _ hmove]
  cases sendAll with
  | true => rfl
  | false =>
    have hplc := places_transferred P h hw hopen .answering
    have hdest : id ∈ (s₁.moved P id w.engine (.session number)).engines (.session number) :=
      hplc.mem (w := .session number) (update_self ..)
    have hsrc : id ∉ (s₁.moved P id w.engine (.session number)).engines w.engine :=
      hplc.not_mem (w := .session number) (update_self ..) heng
    simp only [false_eq_true, if_false]
    rw [bind_ok _ (assertMoved_ok hdest hsrc)]
    rfl

end

/-- `ServerEngine.transferSubscription`, when it is refused. -/
lemma transferSubscription_refused {statusCode : StatusCode}
    (href : s.refusal P number id = some statusCode) (sendAll : Bool) :
    transferSubscription P number id sendAll s = .ok (some statusCode) s := by
  unfold transferSubscription
  rw [get_bind, href]
  rfl

lemma places_setSubscription (h : Places s owner) (hw : owner id = some w) :
    Places (s.setSubscription id fun subscription => { subscription with closed := false }) owner := by
  have hlive : (s.subscriptions id).closed = false := (h.live id).mpr (by rw [hw]; rfl)
  have hself : s.setSubscription id (fun subscription => { subscription with closed := false }) =
      s.setSubscription id fun subscription => subscription := by
    refine s.setSubscription_congr ?_
    rw [← hlive]
  have hsame : (s.setSubscription id fun subscription => subscription) = s := by
    unfold setSubscription
    rw [Function.update_eq_self]
  rw [hself, hsame]
  exact h

variable {transfer : WaitingTransfer}

section

variable (h : Places s owner)
  (hw : owner transfer.subscriptionId = some (.session transfer.session))
include h hw

/-- **A transfer goes on**, when the subscription is where it went. -/
lemma resend_ok (hsrc : transfer.srcPublishEngine ≠ .session transfer.session) :
    ∃ s', resend transfer s = .ok ⟨⟩ s' ∧ Places s' owner ∧ s'.sessions = s.sessions ∧
      s'.sessionCount = s.sessionCount ∧ s'._sessions = s._sessions ∧
      s'.transfers = s.transfers ++ [{ transfer with stage := .answering }] ∧
      s'.deletions = s.deletions ∧ s'.rejections = s.rejections := by
  let s₁ := s.setSubscription transfer.subscriptionId fun subscription =>
    { subscription with closed := false }
  have hplc : Places s₁ owner := places_setSubscription h hw
  have hmem : transfer.subscriptionId ∈ s₁.engines (.session transfer.session) := hplc.mem hw
  have hmoved : assertMoved transfer.subscriptionId transfer.srcPublishEngine
      (.session transfer.session) s₁ = .ok ⟨⟩ s₁ := assertMoved_ok hmem (hplc.not_mem hw hsrc)
  unfold resend
  rw [modify_bind, bind_ok _ hmoved, modify_ok]
  exact ⟨_, rfl, places_waits hplc _ _, rfl, rfl, rfl, rfl, rfl, rfl⟩

/-- **A transfer ends**, when the subscription is where it went. -/
lemma answer_ok :
    answer transfer s = .ok ⟨⟩ s := by
  have hsess := h.session _ _ hw
  have heng := h.publishEngine _ _ hw
  have hopen := h.openSession _ _ hw
  unfold answer
  rw [assert_bind (decide_eq_true hsess), assert_ok]
  refine Bool.and_eq_true_iff.mpr ⟨List.contains_iff_mem.mpr hopen, decide_eq_true heng⟩

end

/-- **`deleteOrphanSubscription`** ends an orphan. -/
lemma deleteOrphanSubscription_ok (h : Places s owner) {ident : TransferSessionIdentity}
    (hw : owner id = some (.orphan ident)) (hasPendingNotifications : ℕ → Bool) :
    ∃ s', deleteOrphanSubscription id hasPendingNotifications s = .ok .Good s' ∧ Unchanged s s' ∧
      Places s' (Function.update owner id none) := by
  have hterm : terminate id hasPendingNotifications s =
      .ok ⟨⟩ (s.terminated id .orphan hasPendingNotifications) :=
    terminate_ok h hw hasPendingNotifications
  have hmem : id ∈ s.engines .orphan := h.mem hw
  let s' : SubscriptionPlaces := (s.setEngine .orphan fun table => table.erase id).setSubscription id
    fun subscription => { subscription with
      closed := true, timerId := false, publishEngine := none, session := none }
  have hdispose : dispose id (s.terminated id .orphan hasPendingNotifications) = .ok ⟨⟩ s' := by
    unfold dispose terminated
    rw [modify_ok, setSubscription_setSubscription]
    refine congrArg (EStateM.Result.ok _) (setSubscription_congr _ ?_)
    split <;> rfl
  refine ⟨s', ?_, ⟨⟨rfl, rfl, rfl, rfl, rfl⟩, rfl, rfl⟩, h.remove hw rfl⟩
  have hcount : (s'.engines .orphan).length + 1 = (s.engines .orphan).length := by
    have hlen : (s'.engines .orphan).length = (s.engines .orphan).length - 1 := by
      change ((s.setEngine .orphan fun table => table.erase id).engines .orphan).length = _
      rw [setEngine_engines_self, List.length_erase_of_mem hmem]
    have hpos := List.length_pos_of_mem hmem
    omega
  unfold deleteOrphanSubscription
  rw [get_bind]
  simp only [h.orphans id ident hw, Bool.not_true, false_eq_true, if_false]
  rw [assert_bind (find_of_owner h hw), get_bind, bind_ok _ hterm, bind_ok _ hdispose,
    assert_bind (decide_eq_true hcount), pure_ok]

end SubscriptionPlaces

end NodeOpcua
