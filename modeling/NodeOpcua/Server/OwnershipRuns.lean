import NodeOpcua.Server.SubscriptionOwnership

set_option autoImplicit false

/-!
# The owners of subscriptions over a run

The places where the owner of a subscription is stored agree in every run in which nothing happens to
a subscription while a transfer or the deletion of it waits.

## Main definitions

* `SubscriptionPlaces.RetainedFrom`, `AcceptedIn`.
* `SubscriptionPlaces.OwnershipKept`, `SubscriptionPlaces.Undisturbed`.
-/

namespace NodeOpcua

open Function (update_of_ne update_self)
open Mealy (trace)
open Prod (snd)

namespace PublishEngineReference

/-- The session that has an engine. -/
def session? : PublishEngineReference → Option ℕ
  | session number => some number
  | orphan => none

end PublishEngineReference

namespace SubscriptionPlaces

open Throwing

variable (P : TransferPolicy)

/-- The steps of a run: a state and what happened in it. -/
abbrev History := List (SubscriptionPlaces × OwnershipEvent)

/-! ### What is said of a run -/

/-- **The identity of an orphan comes from its last owner**: the session in whose engine it was when
that session was closed; since then it is an orphan. -/
def RetainedFrom (H : History) (id : ℕ) (identity : TransferSessionIdentity) : Prop :=
  ∃ H₁ s number hasPendingNotifications H₂,
    H = H₁ ++ (s, .closeSession number false hasPendingNotifications) :: H₂ ∧
      id ∈ s.engines (.session number) ∧ identity = s.identity P number ∧
      ∀ q ∈ H₂, id ∈ q.1.engines .orphan

/-- **The identity of the owner**: of the session that has the subscription, or the one that is
retained. -/
def OwnerIdentity (H : History) (s : SubscriptionPlaces) (id : ℕ)
    (identity : TransferSessionIdentity) : Prop :=
  (∃ number, id ∈ s.engines (.session number) ∧ identity = s.identity P number) ∨
    (id ∈ s.engines .orphan ∧ RetainedFrom P H id identity)

/-- **A transfer was accepted**: it was asked for, and the session was compatible with the owner. -/
def AcceptedIn (H : History) (number id : ℕ) : Prop :=
  ∃ H₁ s sendInitialValues H₂ identity,
    H = H₁ ++ (s, .transferSubscription number id sendInitialValues) :: H₂ ∧
      OwnerIdentity P H₁ s id identity ∧
      sessionsCompatibleForTransfer P.makeSHA1Thumbprint (some identity) (s.sessions number)
        P.allowAnonymousSubscriptionTransferOnUnsecuredChannel = true

/-- **What comes out of a step**: only the closing of an unknown session throws; and a transfer that is
answered with Good was accepted, and the subscription is in the engine of the session. -/
def Proper (H : History) (q : SubscriptionPlaces × OwnershipEvent) : Prop :=
  ∀ output ∈ (q.1.step P q.2).2,
    match output with
    | .threw failure => failure = .noSession
    | .answered number id statusCode => statusCode = .Good →
      AcceptedIn P H number id ∧ id ∈ (q.1.step P q.2).1.engines (.session number)

/-- **The owners are kept**: a live subscription is in one engine, which it knows, of a session that is
not closed, which it knows, or of the orphans; an orphan has the identity of its last owner; and every
step was proper. -/
structure OwnershipKept (H : History) (s : SubscriptionPlaces) : Prop where
  owned : ∀ id, (s.subscriptions id).closed = false → ∃ engine,
    (∀ other, id ∈ s.engines other ↔ other = engine) ∧
      (s.subscriptions id).publishEngine = some engine ∧
      (s.subscriptions id).session = engine.session? ∧
      ∀ number, engine = .session number → number ∈ s._sessions
  live : ∀ engine, ∀ id ∈ s.engines engine, (s.subscriptions id).closed = false
  retained : ∀ id ∈ s.engines .orphan, ∃ identity,
    (s.subscriptions id).transferSessionIdentity = some identity ∧ RetainedFrom P H id identity
  proper : ∀ H₁ q H₂, H = H₁ ++ q :: H₂ → Proper P H₁ q
  rejections : s.rejections = 0

/-- **The events that leave alone what waits.** While a transfer of a subscription waits, its session is
not closed and the subscription neither goes to another session nor ends; and while the deletion of an
orphan waits, it does not go to a session, end, or be deleted once more. -/
def Undisturbed (s : SubscriptionPlaces) : OwnershipEvent → Prop
  | .closeSession number _ _ => ∀ transfer ∈ s.transfers, transfer.session ≠ number
  | .transferSubscription number id _ => number ∈ s._sessions → s.refusal P number id = none →
    (∀ transfer ∈ s.transfers, transfer.subscriptionId ≠ id) ∧ id ∉ s.deletions
  | .deleteSubscription number id _ => s.getSubscription number id = true →
    ∀ transfer ∈ s.transfers, transfer.subscriptionId ≠ id
  | .deleteOrphanSubscription id => id ∉ s.deletions
  | .expire id _ => (s.subscriptions id).timerId = true → (s.subscriptions id).closed = false →
    (∀ transfer ∈ s.transfers, transfer.subscriptionId ≠ id) ∧ id ∉ s.deletions
  | _ => True

/-! ### The invariant -/

variable {s s' : SubscriptionPlaces} {owner owner' : ℕ → Option SubscriptionOwner} {H : History}

/-- **The places and what waits**: a transfer waits for a subscription that is where it went, and the
deletion of an orphan for an orphan. -/
structure Coherent (s : SubscriptionPlaces) (owner : ℕ → Option SubscriptionOwner) : Prop where
  places : Places s owner
  sessions : s._sessions.Nodup
  known : ∀ number ∈ s._sessions, number < s.sessionCount
  transfers : ∀ transfer ∈ s.transfers,
    owner transfer.subscriptionId = some (.session transfer.session) ∧
      transfer.srcPublishEngine ≠ .session transfer.session
  deletions : s.deletions.Nodup
  orphans : ∀ id ∈ s.deletions, ∃ identity, owner id = some (.orphan identity)
  rejections : s.rejections = 0

/-- **The history of the owners and of the transfers that wait.** -/
structure Explained (H : History) (s : SubscriptionPlaces) (owner : ℕ → Option SubscriptionOwner) :
    Prop where
  retained : ∀ id identity, owner id = some (.orphan identity) → RetainedFrom P H id identity
  accepted : ∀ transfer ∈ s.transfers, AcceptedIn P H transfer.session transfer.subscriptionId

variable {identity : TransferSessionIdentity} {id : ℕ}

lemma RetainedFrom.append
    (h : RetainedFrom P H id identity) (e : OwnershipEvent) (hmem : id ∈ s.engines .orphan) :
    RetainedFrom P (H ++ [(s, e)]) id identity := by
  obtain ⟨H₁, t, number, pending, H₂, rfl, hid, hident, hsince⟩ := h
  refine ⟨H₁, t, number, pending, H₂ ++ [(s, e)], by simp, hid, hident, ?_⟩
  intro q hq
  rcases List.mem_append.mp hq with hq | hq
  · exact hsince q hq
  · rw [List.mem_singleton.mp hq]
    exact hmem

lemma AcceptedIn.append {number id : ℕ} (h : AcceptedIn P H number id)
    (q : SubscriptionPlaces × OwnershipEvent) : AcceptedIn P (H ++ [q]) number id := by
  obtain ⟨H₁, t, sendInitialValues, H₂, identity, rfl, howner, hcompat⟩ := h
  exact ⟨H₁, t, sendInitialValues, H₂ ++ [q], identity, by simp, howner, hcompat⟩

/-- **A step that gives no subscription a retained identity and accepts no transfer.** -/
lemma Explained.append (h : Explained P H s owner) (hplc : Places s owner) (e : OwnershipEvent)
    (howner : ∀ id identity, owner' id = some (.orphan identity) →
      owner id = some (.orphan identity))
    (htransfers : ∀ transfer ∈ s'.transfers, ∃ before ∈ s.transfers,
      transfer.session = before.session ∧ transfer.subscriptionId = before.subscriptionId) :
    Explained P (H ++ [(s, e)]) s' owner' where
  retained := by
    intro id identity hid
    have hid := howner id identity hid
    exact (h.retained id identity hid).append P e (hplc.mem hid)
  accepted := by
    intro transfer htrans
    obtain ⟨before, hbefore, hsess, hsub⟩ := htransfers transfer htrans
    rw [hsess, hsub]
    exact (h.accepted before hbefore).append P _

/-- **The owners change** without those of the subscriptions for which something waits. -/
lemma Coherent.update (h : Coherent s owner) (hplc : Places s' owner')
    (hunch : WaitsUnchanged s s') (hnodup : s'._sessions.Nodup)
    (hsess : ∀ number ∈ s'._sessions, number ∈ s._sessions)
    (htransfers : ∀ transfer ∈ s.transfers,
      owner' transfer.subscriptionId = owner transfer.subscriptionId)
    (hdeletions : ∀ id ∈ s.deletions, owner' id = owner id) : Coherent s' owner' where
  places := hplc
  sessions := hnodup
  known := by
    intro number hnum
    rw [hunch.sessionCount]
    exact h.known number (hsess number hnum)
  transfers := by
    intro transfer htrans
    rw [hunch.transfers] at htrans
    rw [htransfers transfer htrans]
    exact h.transfers transfer htrans
  deletions := by
    rw [hunch.deletions]
    exact h.deletions
  orphans := by
    intro id hid
    rw [hunch.deletions] at hid
    rw [hdeletions id hid]
    exact h.orphans id hid
  rejections := hunch.rejections.trans h.rejections

lemma Coherent.update_unchanged (h : Coherent s owner) (hplc : Places s' owner')
    (hunch : Unchanged s s')
    (htransfers : ∀ transfer ∈ s.transfers,
      owner' transfer.subscriptionId = owner transfer.subscriptionId)
    (hdeletions : ∀ id ∈ s.deletions, owner' id = owner id) : Coherent s' owner' := by
  refine h.update hplc hunch.toWaitsUnchanged ?_ ?_ htransfers hdeletions
  · rw [hunch._sessions]
    exact h.sessions
  · intro number hnum
    rwa [hunch._sessions] at hnum

/-! ### Steps -/

/-- **A step keeps the owners.** -/
def Keeps (H : History) (s : SubscriptionPlaces) (e : OwnershipEvent) : Prop :=
  ∃ owner, Coherent (s.step P e).1 owner ∧ Explained P (H ++ [(s, e)]) (s.step P e).1 owner ∧
    Proper P H (s, e)

variable {e : OwnershipEvent}

lemma proper_of_nil (h : (s.step P e).2 = []) : Proper P H (s, e) := by
  intro output hout
  rw [h] at hout
  exact absurd hout List.not_mem_nil

section

variable (hcoh : Coherent s owner) (hexpl : Explained P H s owner)
include hcoh hexpl

lemma keeps_of_eq (h : s.step P e = (s, [])) : Keeps P H s e := by
  refine ⟨owner, ?_, ?_, proper_of_nil P (congrArg snd h)⟩
  · rw [h]
    exact hcoh
  · rw [h]
    exact hexpl.append P hcoh.places e (fun _ _ hid => hid)
      fun transfer htrans => ⟨transfer, htrans, rfl, rfl⟩

lemma keeps_createSession (sess : TransferSession) : Keeps P H s (.createSession sess) := by
  have h := hcoh.places
  have hnew : s.sessionCount ∉ s._sessions :=
    fun hmem => absurd (hcoh.known _ hmem) (Nat.lt_irrefl _)
  refine ⟨owner, { hcoh with places := ?_, sessions := ?_, known := ?_ }, ?_, proper_of_nil P rfl⟩
  · exact { h with
    openSession := fun id number hid => List.mem_append_left _ (h.openSession id number hid) }
  · refine List.Nodup.append hcoh.sessions (List.nodup_singleton _) ?_
    rw [List.disjoint_singleton]
    exact hnew
  · intro number hnum
    rcases List.mem_append.mp hnum with hnum | hnum
    · exact Nat.lt_succ_of_lt (hcoh.known number hnum)
    · rw [List.mem_singleton.mp hnum]
      exact Nat.lt_succ_self _
  · exact hexpl.append P h _ (fun _ _ hid => hid)
      fun transfer htrans => ⟨transfer, htrans, rfl, rfl⟩

lemma keeps_changeSession
    (number : ℕ) (sess : TransferSession) : Keeps P H s (.changeSession number sess) := by
  have h := hcoh.places
  refine ⟨owner, ⟨{ h with }, hcoh.sessions, hcoh.known, hcoh.transfers,
    hcoh.deletions, hcoh.orphans, hcoh.rejections⟩, ?_, proper_of_nil P rfl⟩
  exact hexpl.append P h _ (fun _ _ hid => hid)
    fun transfer htrans => ⟨transfer, htrans, rfl, rfl⟩

lemma keeps_createSubscription (number : ℕ) : Keeps P H s (.createSubscription number) := by
  have h := hcoh.places
  by_cases hopen : number ∈ s._sessions
  · obtain ⟨s', hcreate, hunch, hplc⟩ := createSubscription_ok h hopen
    have hstep : s.step P (.createSubscription number) = (s', []) := by
      unfold step
      dsimp only
      rw [if_pos hopen, hcreate]
      rfl
    have hne : ∀ id w, owner id = some w → id ≠ s.next_subscriptionId := by
      rintro id w hid rfl
      exact absurd (h.known _ (Option.isSome_iff_exists.mpr ⟨w, hid⟩)) (Nat.lt_irrefl _)
    refine ⟨Function.update owner s.next_subscriptionId (some (.session number)), ?_, ?_,
      proper_of_nil P (congrArg snd hstep)⟩
    · rw [hstep]
      refine hcoh.update_unchanged hplc hunch ?_ ?_
      · intro transfer htrans
        exact update_of_ne (hne _ _ (hcoh.transfers transfer htrans).1) ..
      · intro id hid
        obtain ⟨identity, howner⟩ := hcoh.orphans id hid
        exact update_of_ne (hne _ _ howner) ..
    · rw [hstep]
      refine hexpl.append P h _ ?_ ?_
      · intro id identity hid
        by_cases heq : id = s.next_subscriptionId
        · rw [heq, update_self] at hid
          exact absurd hid nofun
        · rwa [update_of_ne heq] at hid
      · intro transfer htrans
        rw [hunch.transfers] at htrans
        exact ⟨transfer, htrans, rfl, rfl⟩
  · exact keeps_of_eq P hcoh hexpl (if_neg hopen)

lemma keeps_closeSession
    (number : ℕ) (delete : Bool) (hasPendingNotifications : ℕ → Bool)
    (hwaits : ∀ transfer ∈ s.transfers, transfer.session ≠ number) :
    Keeps P H s (.closeSession number delete hasPendingNotifications) := by
  have h := hcoh.places
  by_cases hopen : number ∈ s._sessions
  · obtain ⟨s', hclose, hunch, hsess, hplc⟩ :=
      closeSession_ok P h hopen delete hasPendingNotifications
    have hstep : s.step P (.closeSession number delete hasPendingNotifications) =
        (s', []) := by
      unfold step
      dsimp only
      rw [hclose]
      rfl
    refine ⟨reassigned owner number (s.closedOwner P number delete), ?_, ⟨?_, ?_⟩,
      proper_of_nil P (congrArg snd hstep)⟩
    · rw [hstep]
      refine hcoh.update hplc hunch ?_ ?_ ?_ ?_
      · rw [hsess]
        exact hcoh.sessions.erase number
      · intro other hother
        rw [hsess] at hother
        exact List.mem_of_mem_erase hother
      · intro transfer htrans
        refine if_neg ?_
        rw [(hcoh.transfers transfer htrans).1]
        rintro ⟨⟩
        exact hwaits transfer htrans rfl
      · intro id hid
        obtain ⟨identity, howner⟩ := hcoh.orphans id hid
        refine if_neg ?_
        rw [howner]
        exact nofun
    · intro id identity hid
      unfold reassigned at hid
      by_cases howner : owner id = some (.session number)
      · rw [if_pos howner] at hid
        cases delete with
        | true => exact absurd hid nofun
        | false =>
          cases hid
          exact ⟨H, s, number, hasPendingNotifications, [], rfl, h.mem howner, rfl,
            fun q hq => absurd hq List.not_mem_nil⟩
      · rw [if_neg howner] at hid
        exact (hexpl.retained id identity hid).append P _ (h.mem hid)
    · intro transfer htrans
      rw [hstep, hunch.transfers] at htrans
      exact (hexpl.accepted transfer htrans).append P _
  · have hstep : s.step P (.closeSession number delete hasPendingNotifications) =
        (s, [.threw .noSession]) := by
      unfold step closeSession
      dsimp only
      rw [get_bind]
      have hcheck : (check .noSession (number ∈ s._sessions) : M PUnit) s =
          .error .noSession s := by
        unfold check
        rw [if_neg hopen]
        rfl
      rw [bind_error _ hcheck]
      rfl
    refine ⟨owner, ?_, ?_, ?_⟩
    · rw [hstep]
      exact hcoh
    · rw [hstep]
      exact hexpl.append P h _ (fun _ _ hid => hid)
        fun transfer htrans => ⟨transfer, htrans, rfl, rfl⟩
    · intro output hout
      rw [hstep] at hout
      rw [List.mem_singleton.mp hout]

end

lemma sourceIdentity_eq (h : Places s owner) {w : SubscriptionOwner}
    (hw : owner id = some w) (hexpl : Explained P H s owner) :
    ∃ identity, s.sourceIdentity P id = some identity ∧ OwnerIdentity P H s id identity := by
  have hsess := h.session id w hw
  have hmem := h.mem hw
  unfold sourceIdentity
  rw [hsess]
  cases w with
  | session number => exact ⟨s.identity P number, rfl, Or.inl ⟨number, hmem, rfl⟩⟩
  | orphan identity =>
    refine ⟨identity, h.retained id identity hw, Or.inr ⟨hmem, ?_⟩⟩
    exact hexpl.retained id identity hw

lemma refusal_ne_good {number id : ℕ} : s.refusal P number id ≠ some .Good := by
  unfold refusal
  split_ifs <;> decide

section

variable (hcoh : Coherent s owner) (hexpl : Explained P H s owner)
include hcoh hexpl

lemma keeps_transferSubscription (number id : ℕ) (sendAll : Bool)
    (hwaits : number ∈ s._sessions → s.refusal P number id = none →
      (∀ transfer ∈ s.transfers, transfer.subscriptionId ≠ id) ∧ id ∉ s.deletions) :
    Keeps P H s (.transferSubscription number id sendAll) := by
  have h := hcoh.places
  by_cases hopen : number ∈ s._sessions
  · cases href : s.refusal P number id with
    | some statusCode =>
      have hstep : s.step P (.transferSubscription number id sendAll) =
          (s, [.answered number id statusCode]) := by
        unfold step
        dsimp only
        rw [if_pos hopen, transferSubscription_refused P href]
        rfl
      refine ⟨owner, ?_, ?_, ?_⟩
      · rw [hstep]
        exact hcoh
      · rw [hstep]
        exact hexpl.append P h _ (fun _ _ hid => hid)
          fun transfer htrans => ⟨transfer, htrans, rfl, rfl⟩
      · intro output hout
        rw [hstep] at hout
        rw [List.mem_singleton.mp hout]
        rintro rfl
        exact absurd href (refusal_ne_good P)
    | none =>
      obtain ⟨hnotransfer, hnodeletion⟩ := hwaits hopen href
      obtain ⟨w, hw, heng, hcompat⟩ := of_refusal_eq_none P h href
      obtain ⟨identity, hsrc, hident⟩ := sourceIdentity_eq P h hw hexpl
      let stage : TransferStage := if sendAll then .resending else .answering
      have hstep : s.step P (.transferSubscription number id sendAll) =
          (s.transferred P id number w.engine stage, []) := by
        unfold step
        dsimp only
        rw [if_pos hopen, transferSubscription_ok P h hw hopen heng href]
        rfl
      have hplc := places_transferred P h hw hopen stage
      refine ⟨Function.update owner id (some (.session number)), ?_, ⟨?_, ?_⟩,
        proper_of_nil P (congrArg snd hstep)⟩
      · rw [hstep]
        refine { hcoh with places := hplc, transfers := ?_, orphans := ?_ }
        · intro transfer htrans
          rcases List.mem_append.mp htrans with htrans | htrans
          · rw [update_of_ne (hnotransfer transfer htrans)]
            exact hcoh.transfers transfer htrans
          · rw [List.mem_singleton.mp htrans]
            exact ⟨Function.update_self .., heng⟩
        · intro other hother
          rw [update_of_ne (ne_of_mem_of_not_mem hother hnodeletion)]
          exact hcoh.orphans other hother
      · intro other identity' hother
        by_cases heq : other = id
        · rw [heq, update_self] at hother
          exact absurd hother nofun
        · rw [update_of_ne heq] at hother
          exact (hexpl.retained other identity' hother).append P _ (h.mem hother)
      · intro transfer htrans
        rw [hstep] at htrans
        rcases List.mem_append.mp htrans with htrans | htrans
        · exact (hexpl.accepted transfer htrans).append P _
        · rw [List.mem_singleton.mp htrans]
          refine ⟨H, s, sendAll, [], identity, rfl, hident, ?_⟩
          rw [← hsrc]
          exact hcompat
  · exact keeps_of_eq P hcoh hexpl (if_neg hopen)

lemma keeps_resumeTransfer (transfer : ℕ) : Keeps P H s (.resumeTransfer transfer) := by
  have h := hcoh.places
  cases hwait : s.transfers[transfer]? with
  | none =>
    refine keeps_of_eq P hcoh hexpl ?_
    unfold step
    dsimp only
    rw [hwait]
  | some waiting =>
    have hmem : waiting ∈ s.transfers := List.mem_of_getElem? hwait
    obtain ⟨howner, hsrc⟩ := hcoh.transfers waiting hmem
    let s₀ : SubscriptionPlaces := { s with transfers := s.transfers.eraseIdx transfer }
    have hrest : ∀ other ∈ s.transfers.eraseIdx transfer, other ∈ s.transfers :=
      fun other hother => List.mem_of_mem_eraseIdx hother
    have hplc₀ : Places s₀ owner := places_waits h _ _
    cases hstage : waiting.stage with
    | resending =>
      obtain ⟨s', hresend, hplc, hsessions, hcount, hopen, htransfers, hdeletions, hrejections⟩ :=
        resend_ok hplc₀ howner hsrc
      have hstep : s.step P (.resumeTransfer transfer) = (s', []) := by
        unfold step
        dsimp only
        rw [hwait]
        dsimp only
        rw [hstage]
        rw [hresend]
        rfl
      have hcases : ∀ other ∈ s'.transfers, ∃ before ∈ s.transfers, other.session = before.session ∧
          other.subscriptionId = before.subscriptionId ∧
            other.srcPublishEngine = before.srcPublishEngine := by
        intro other hother
        rw [htransfers] at hother
        rcases List.mem_append.mp hother with hother | hother
        · exact ⟨other, hrest other hother, rfl, rfl, rfl⟩
        · rw [List.mem_singleton.mp hother]
          exact ⟨waiting, hmem, rfl, rfl, rfl⟩
      refine ⟨owner, ?_, ?_, proper_of_nil P (congrArg snd hstep)⟩
      · rw [hstep]
        refine ⟨hplc, hopen ▸ hcoh.sessions, ?_, ?_, hdeletions ▸ hcoh.deletions, ?_,
          hrejections.trans hcoh.rejections⟩
        · intro number hnum
          rw [hopen] at hnum
          rw [hcount]
          exact hcoh.known number hnum
        · intro other hother
          obtain ⟨before, hbefore, hsess, hid, hsource⟩ := hcases other hother
          rw [hsess, hid, hsource]
          exact hcoh.transfers before hbefore
        · intro id hid
          rw [hdeletions] at hid
          exact hcoh.orphans id hid
      · rw [hstep]
        refine hexpl.append P h _ (fun _ _ hid => hid) ?_
        intro other hother
        obtain ⟨before, hbefore, hsess, hid, -⟩ := hcases other hother
        exact ⟨before, hbefore, hsess, hid⟩
    | answering =>
      have hstep : s.step P (.resumeTransfer transfer) =
          (s₀, [.answered waiting.session waiting.subscriptionId .Good]) := by
        unfold step
        dsimp only
        rw [hwait]
        dsimp only
        rw [hstage]
        rw [answer_ok hplc₀ howner]
        rfl
      refine ⟨owner, ?_, ?_, ?_⟩
      · rw [hstep]
        exact { hcoh with
          places := hplc₀
          transfers := fun other hother => hcoh.transfers other (hrest other hother) }
      · rw [hstep]
        exact hexpl.append P h _ (fun _ _ hid => hid)
          fun other hother => ⟨other, hrest other hother, rfl, rfl⟩
      · intro output hout
        rw [hstep] at hout
        rw [List.mem_singleton.mp hout]
        intro _
        refine ⟨hexpl.accepted waiting hmem, ?_⟩
        rw [hstep]
        exact h.mem howner

/-- **A subscription for which nothing waits loses its owner.** -/
lemma keeps_removed {s₀ : SubscriptionPlaces} (hcoh₀ : Coherent s₀ owner)
    (htransfers₀ : s₀.transfers = s.transfers) (s' : SubscriptionPlaces)
    (hstep : s.step P e = (s', [])) (hunch : Unchanged s₀ s')
    (hplc : Places s' (Function.update owner id none))
    (hnotransfer : ∀ transfer ∈ s.transfers, transfer.subscriptionId ≠ id)
    (hnodeletion : id ∉ s₀.deletions) : Keeps P H s e := by
  refine ⟨Function.update owner id none, ?_, ?_, proper_of_nil P (congrArg snd hstep)⟩
  · rw [hstep]
    refine hcoh₀.update_unchanged hplc hunch ?_ ?_
    · intro transfer htrans
      rw [htransfers₀] at htrans
      exact update_of_ne (hnotransfer transfer htrans) ..
    · intro other hother
      exact update_of_ne (ne_of_mem_of_not_mem hother hnodeletion) ..
  · rw [hstep]
    refine hexpl.append P hcoh.places _ ?_ ?_
    · intro other identity hother
      by_cases heq : other = id
      · rw [heq, update_self] at hother
        exact absurd hother nofun
      · rwa [update_of_ne heq] at hother
    · intro transfer htrans
      rw [hunch.transfers, htransfers₀] at htrans
      exact ⟨transfer, htrans, rfl, rfl⟩

end

lemma Coherent.not_mem_deletions (h : Coherent s owner) {id number : ℕ}
    (hid : owner id = some (.session number)) : id ∉ s.deletions := by
  intro hmem
  obtain ⟨identity, horphan⟩ := h.orphans id hmem
  exact absurd (hid.symm.trans horphan) nofun

lemma Coherent.not_transferred (h : Coherent s owner) (hid : owner id = some (.orphan identity)) :
    ∀ transfer ∈ s.transfers, transfer.subscriptionId ≠ id := by
  rintro transfer htrans rfl
  exact absurd (hid.symm.trans (h.transfers transfer htrans).1) nofun

section

variable (hcoh : Coherent s owner) (hexpl : Explained P H s owner)
include hcoh hexpl

lemma keeps_deleteSubscription (number id : ℕ) (hasPendingNotifications : ℕ → Bool)
    (hwaits : s.getSubscription number id = true →
      ∀ transfer ∈ s.transfers, transfer.subscriptionId ≠ id) :
    Keeps P H s (.deleteSubscription number id hasPendingNotifications) := by
  have h := hcoh.places
  by_cases howner : owner id = some (.session number)
  · have hget : s.getSubscription number id = true := by
      have hmem : id ∈ s.engines (.session number) := h.mem howner
      have hlive : (s.subscriptions id).closed = false := (h.live id).mpr (by rw [howner]; rfl)
      simp [getSubscription, getSubscriptionById, h.openSession id number howner, hmem, hlive]
    refine keeps_removed P hcoh hexpl hcoh rfl
      (s.terminated id (.session number) hasPendingNotifications) ?_
      ⟨⟨rfl, rfl, rfl, rfl, rfl⟩, rfl, rfl⟩ (places_terminated h howner hasPendingNotifications)
      (hwaits hget) (hcoh.not_mem_deletions howner)
    unfold step
    dsimp only
    rw [deleteSubscription_ok h howner]
    rfl
  · refine keeps_of_eq P hcoh hexpl ?_
    unfold step
    dsimp only
    rw [deleteSubscription_refused h howner]
    rfl

lemma keeps_deleteOrphanSubscription (id : ℕ) (hwaits : id ∉ s.deletions) :
    Keeps P H s (.deleteOrphanSubscription id) := by
  have h := hcoh.places
  by_cases hfind : (s._orphanPublishEngine && s.getSubscriptionById .orphan id) = true
  · have hstep : s.step P (.deleteOrphanSubscription id) =
        ({ s with deletions := s.deletions ++ [id] }, []) := if_pos hfind
    have hmem : id ∈ s.engines .orphan :=
      List.contains_iff_mem.mp (Bool.and_eq_true_iff.mp hfind).2
    obtain ⟨w, hw, heng⟩ := (h.engine _ _).mp hmem
    refine ⟨owner, ?_, ?_, proper_of_nil P (congrArg snd hstep)⟩
    · rw [hstep]
      refine { hcoh with places := places_waits h _ _, deletions := ?_, orphans := ?_ }
      · refine List.Nodup.append hcoh.deletions (List.nodup_singleton id) ?_
        rw [List.disjoint_singleton]
        exact hwaits
      · intro other hother
        rcases List.mem_append.mp hother with hother | hother
        · exact hcoh.orphans other hother
        · rw [List.mem_singleton.mp hother]
          cases w with
          | session number => exact absurd heng nofun
          | orphan identity => exact ⟨identity, hw⟩
    · rw [hstep]
      exact hexpl.append P h _ (fun _ _ hid => hid)
        fun transfer htrans => ⟨transfer, htrans, rfl, rfl⟩
  · exact keeps_of_eq P hcoh hexpl (if_neg hfind)

lemma keeps_resumeDeletion (deletion : ℕ) (hasPendingNotifications : ℕ → Bool) :
    Keeps P H s (.resumeDeletion deletion hasPendingNotifications) := by
  have h := hcoh.places
  cases hwait : s.deletions[deletion]? with
  | none =>
    refine keeps_of_eq P hcoh hexpl ?_
    unfold step
    dsimp only
    rw [hwait]
  | some id =>
    obtain ⟨hlt, hget⟩ := List.getElem?_eq_some_iff.mp hwait
    have hmem : id ∈ s.deletions := List.mem_of_getElem? hwait
    obtain ⟨identity, howner⟩ := hcoh.orphans id hmem
    let s₀ : SubscriptionPlaces := { s with deletions := s.deletions.eraseIdx deletion }
    have hrest : s.deletions.eraseIdx deletion = s.deletions.erase id := by
      rw [← hget, hcoh.deletions.erase_getElem]
    have hcoh₀ : Coherent s₀ owner := by
      refine { hcoh with places := places_waits h _ _, deletions := ?_, orphans := ?_ }
      · exact hcoh.deletions.eraseIdx deletion
      · exact fun other hother => hcoh.orphans other (List.mem_of_mem_eraseIdx hother)
    obtain ⟨s', hdelete, hunch, hplc⟩ :=
      deleteOrphanSubscription_ok hcoh₀.places howner hasPendingNotifications
    refine keeps_removed P hcoh hexpl hcoh₀ rfl s' ?_ hunch hplc
      (hcoh.not_transferred howner) ?_
    · unfold step
      dsimp only
      rw [hwait]
      change outcome _ (deleteOrphanSubscription id hasPendingNotifications s₀) = _
      rw [hdelete]
      rfl
    · change id ∉ s.deletions.eraseIdx deletion
      rw [hrest]
      exact hcoh.deletions.not_mem_erase

lemma keeps_expire (id : ℕ) (hasPendingNotifications : ℕ → Bool)
    (hwaits : (s.subscriptions id).timerId = true → (s.subscriptions id).closed = false →
      (∀ transfer ∈ s.transfers, transfer.subscriptionId ≠ id) ∧ id ∉ s.deletions) :
    Keeps P H s (.expire id hasPendingNotifications) := by
  have h := hcoh.places
  by_cases htimer : (s.subscriptions id).timerId = true
  · cases hclo : (s.subscriptions id).closed with
    | true =>
      refine keeps_of_eq P hcoh hexpl ?_
      unfold step terminate
      dsimp only
      rw [if_pos htimer, get_bind, hclo]
      rfl
    | false =>
      obtain ⟨hnotransfer, hnodeletion⟩ := hwaits htimer hclo
      obtain ⟨w, hw⟩ := Option.isSome_iff_exists.mp ((h.live id).mp hclo)
      refine keeps_removed P hcoh hexpl hcoh rfl
        (s.terminated id w.engine hasPendingNotifications) ?_
        ⟨⟨rfl, rfl, rfl, rfl, rfl⟩, rfl, rfl⟩ (places_terminated h hw hasPendingNotifications)
        hnotransfer hnodeletion
      unfold step
      dsimp only
      rw [if_pos htimer, terminate_ok h hw]
      rfl
  · exact keeps_of_eq P hcoh hexpl (if_neg htimer)

/-- **What one event keeps.** -/
lemma keeps_of_undisturbed (e : OwnershipEvent) (he : s.Undisturbed P e) : Keeps P H s e := by
  cases e with
  | createSession sess => exact keeps_createSession P hcoh hexpl sess
  | changeSession number sess =>
    exact keeps_changeSession P hcoh hexpl number sess
  | createSubscription number => exact keeps_createSubscription P hcoh hexpl number
  | closeSession number delete hasPendingNotifications =>
    exact keeps_closeSession P hcoh hexpl number delete
      hasPendingNotifications he
  | transferSubscription number id sendAll =>
    exact keeps_transferSubscription P hcoh hexpl number id sendAll he
  | resumeTransfer transfer => exact keeps_resumeTransfer P hcoh hexpl transfer
  | deleteSubscription number id hasPendingNotifications =>
    exact keeps_deleteSubscription P hcoh hexpl number id hasPendingNotifications he
  | deleteOrphanSubscription id =>
    exact keeps_deleteOrphanSubscription P hcoh hexpl id he
  | resumeDeletion deletion hasPendingNotifications =>
    exact keeps_resumeDeletion P hcoh hexpl deletion hasPendingNotifications
  | expire id hasPendingNotifications =>
    exact keeps_expire P hcoh hexpl id hasPendingNotifications he

end

/-! ### Runs -/

lemma coherent_new (next_subscriptionId : ℕ) : Coherent (new next_subscriptionId) fun _ => none where
  places :=
    { engine := fun _ _ => ⟨fun hid => absurd hid List.not_mem_nil, fun ⟨_, hw, _⟩ => absurd hw nofun⟩
      nodup := fun _ => List.nodup_nil
      live := fun _ => ⟨nofun, nofun⟩
      publishEngine := nofun
      session := nofun
      retained := nofun
      openSession := nofun
      orphans := nofun
      known := nofun }
  sessions := List.nodup_nil
  known := nofun
  transfers := nofun
  deletions := List.nodup_nil
  orphans := nofun
  rejections := rfl

lemma Coherent.ownershipKept (h : Coherent s owner) (hexpl : Explained P H s owner)
    (hproper : ∀ H₁ q H₂, H = H₁ ++ q :: H₂ → Proper P H₁ q) : OwnershipKept P H s where
  owned := by
    intro id hlive
    obtain ⟨w, hw⟩ := Option.isSome_iff_exists.mp ((h.places.live id).mp hlive)
    refine ⟨w.engine, ?_, h.places.publishEngine id w hw, ?_, ?_⟩
    · intro other
      refine ⟨fun hmem => ?_, fun heq => heq ▸ h.places.mem hw⟩
      exact not_not.mp fun hne => h.places.not_mem hw hne hmem
    · rw [h.places.session id w hw]
      cases w <;> rfl
    · intro number heng
      cases w with
      | session other =>
        cases heng
        exact h.places.openSession id number hw
      | orphan identity => exact absurd heng nofun
  live := by
    intro engine id hid
    obtain ⟨w, hw, -⟩ := (h.places.engine engine id).mp hid
    exact (h.places.live id).mpr (Option.isSome_iff_exists.mpr ⟨w, hw⟩)
  retained := by
    intro id hid
    obtain ⟨w, hw, heng⟩ := (h.places.engine _ id).mp hid
    cases w with
    | session number => exact absurd heng nofun
    | orphan identity =>
      exact ⟨identity, h.places.retained id identity hw, hexpl.retained id identity hw⟩
  proper := hproper
  rejections := h.rejections

/-- **Subscription ownership.** In every run in which nothing happens to a subscription while a transfer
or the deletion of it waits, each live subscription is in the engine of one session, or of the orphans,
and knows it; a transfer that is answered with Good was accepted for the identity of the owner; and no
assertion fails. -/
theorem run_ownershipKept (next_subscriptionId : ℕ) (events : List OwnershipEvent)
    (hevents : Mealy.Along (step P) (Undisturbed P) (new next_subscriptionId) events) :
    OwnershipKept P (trace (step P) (new next_subscriptionId) events)
      (Mealy.run (step P) (new next_subscriptionId) events).1 := by
  have hinv := Mealy.run_history (H := [])
    (I := fun H s => ∃ owner, Coherent s owner ∧ Explained P H s owner ∧
      ∀ H₁ q H₂, H = H₁ ++ q :: H₂ → Proper P H₁ q)
    (A := Undisturbed P) ?_ ⟨fun _ => none, coherent_new _, ⟨nofun, nofun⟩, ?_⟩ hevents
  · obtain ⟨owner, hcoh, hexpl, hproper⟩ := hinv
    exact hcoh.ownershipKept P hexpl hproper
  · rintro H s e ⟨owner, hcoh, hexpl, hproper⟩ he
    obtain ⟨owner', hcoh', hexpl', hlast⟩ :=
      keeps_of_undisturbed P hcoh hexpl e he
    refine ⟨owner', hcoh', hexpl', ?_⟩
    intro H₁ q H₂ heq
    rcases List.eq_nil_or_concat H₂ with rfl | ⟨H₃, r, rfl⟩
    · obtain ⟨rfl, hq⟩ := List.append_inj' heq rfl
      cases hq
      exact hlast
    · rw [List.concat_eq_append, ← List.cons_append, ← List.append_assoc] at heq
      exact hproper H₁ q H₃ (List.append_inj' heq rfl).1
  · intro H₁ q H₂ heq
    exact absurd heq.symm (List.append_ne_nil_of_right_ne_nil _ (List.cons_ne_nil _ _))

end SubscriptionPlaces

/-! ### Two transfers -/

/-- A server whose sessions have no user. -/
def openTransfers : TransferPolicy where
  makeSHA1Thumbprint := fun _ => ""
  allowAnonymousSubscriptionTransferOnUnsecuredChannel := false

/-- A session without a user. -/
def userlessSession : TransferSession := ⟨none, none, none⟩

/-- A session is closed, another one takes its subscription, and closes in turn. -/
theorem ownershipKept_orphan :
    SubscriptionPlaces.OwnershipKept openTransfers
      (trace (SubscriptionPlaces.step openTransfers) (.new 1)
        [.createSession userlessSession, .createSession userlessSession, .createSubscription 0,
          .closeSession 0 false fun _ => false, .transferSubscription 1 1 true, .resumeTransfer 0,
          .resumeTransfer 0, .closeSession 1 true fun _ => false])
      (Mealy.run (SubscriptionPlaces.step openTransfers) (.new 1)
        [.createSession userlessSession, .createSession userlessSession, .createSubscription 0,
          .closeSession 0 false fun _ => false, .transferSubscription 1 1 true, .resumeTransfer 0,
          .resumeTransfer 0, .closeSession 1 true fun _ => false]).1 := by
  refine SubscriptionPlaces.run_ownershipKept openTransfers 1 _
    ⟨trivial, trivial, trivial, ?_, fun _ _ => by decide, trivial, trivial, ?_, trivial⟩
  · unfold SubscriptionPlaces.Undisturbed
    decide
  · unfold SubscriptionPlaces.Undisturbed
    decide

/-- **Two sessions ask for the same subscription**: while the initial values are sent for the first one,
the second one gets the subscription, and the assertions of the first transfer fail. -/
theorem assertion_fails_concurrent_transfers :
    ¬∀ events : List OwnershipEvent,
      SubscriptionPlaces.OwnershipKept openTransfers
        (trace (SubscriptionPlaces.step openTransfers) (.new 1) events)
        (Mealy.run (SubscriptionPlaces.step openTransfers) (.new 1) events).1 := by
  intro h
  let before : List OwnershipEvent := [.createSession userlessSession, .createSession userlessSession,
    .createSession userlessSession, .createSubscription 0, .transferSubscription 1 1 true,
    .transferSubscription 2 1 true]
  have hproper := (h (before ++ [.resumeTransfer 0])).proper
    (trace (SubscriptionPlaces.step openTransfers) (.new 1) before)
    ((Mealy.run (SubscriptionPlaces.step openTransfers) (.new 1) before).1, .resumeTransfer 0) []
    (Mealy.trace_append _ _ _ _) (.threw .assertion) (by decide)
  exact absurd hproper (by decide)

end NodeOpcua
