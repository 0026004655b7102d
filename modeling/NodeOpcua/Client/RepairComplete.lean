import NodeOpcua.Client.SessionRepair

set_option autoImplicit false

/-!
# A repair that leaves nothing out

When a repair calls back without an error, the publish engine should be at work again, and every
subscription should have caught up. The invariant says what is left to do in each phase.

## Main definitions

* `RepairComplete`.
* `SessionRepair.Effective`.

## Main results

* `SessionRepair.sound_step`, `SessionRepair.run_repairComplete`.
-/

namespace NodeOpcua

open ClientSidePublishEngine
open Bool (or_eq_true not_eq_true')
open List (mem_cons_of_mem mem_cons_self)

/-- The subscriptions with these names are among the subscriptions. -/
def Covered (names : List ℕ) (subscriptions : List RegisteredSubscription) : Prop :=
  ∀ name ∈ names, ∃ subscription ∈ subscriptions, subscription.name = name

/-- **A repair is complete**: the engine is not suspended, the subscriptions that were there before are
still registered, and were republished to the end or recreated, and there are Publish requests again. -/
structure RepairComplete (s : SessionRepair) : Prop where
  resumed : s.engine.isSuspended = false
  registered : Covered s.before s.subscriptions
  recovered : ∀ name ∈ s.before, name ∈ s.recovered
  replenished : s.subscriptions ≠ [] → ∃ (engine : ClientSidePublishEngine) (isChannelValid : Bool),
    engine.isSuspended = false ∧ s.engine = engine.replenish_publish_request_queue isChannelValid

/-- A repair that calls back without an error while the session is open is complete. -/
def RepairReport.Truthful (report : RepairReport) : Prop :=
  report.failed = false → report.session.hasBeenClosed = false → RepairComplete report.session

/-- What the loop has still to republish. -/
structure Remaining (before recovered : List ℕ) (subscriptions entries : List RegisteredSubscription) :
    Prop where
  left : ∀ name ∈ before, name ∈ recovered ∨ ∃ entry ∈ entries, entry.name = name
  registered : ∀ entry ∈ entries, entry ∈ subscriptions
  nodup : entries.Nodup

variable {subscriptions entries : List RegisteredSubscription}

lemma Remaining.tail {before recovered : List ℕ} {sub : RegisteredSubscription}
    (h : Remaining before recovered subscriptions (sub :: entries)) :
    Remaining before (sub.name :: recovered) subscriptions entries := by
  refine ⟨fun name hname => ?_, fun entry hentry => h.registered entry (mem_cons_of_mem _ hentry),
    (List.nodup_cons.mp h.nodup).2⟩
  rcases h.left name hname with hrecov | ⟨entry, hentry, rfl⟩
  · exact .inl (mem_cons_of_mem _ hrecov)
  · rcases List.mem_cons.mp hentry with rfl | hentry
    · exact .inl mem_cons_self
    · exact .inr ⟨entry, hentry, rfl⟩

lemma Remaining.recovered {before recovered : List ℕ} {name : ℕ}
    (h : Remaining before (name :: recovered) subscriptions entries) (hname : name ∈ recovered) :
    Remaining before recovered subscriptions entries := by
  refine ⟨fun other hother => (h.left other hother).imp_left fun hmem => ?_, h.registered, h.nodup⟩
  rcases List.mem_cons.mp hmem with rfl | hmem
  · exact hname
  · exact hmem

namespace SessionRepair

/-! ### The invariant -/

/-- What is left to do after the subscription was recreated. -/
def CallerTracked (s : SessionRepair) (subscription : RegisteredSubscription) :
    RecreationCaller → Prop
  | .recreateSubscriptions _ => s.engine.isSuspended = true
  | .askSubscriptionRepublish newSession entries =>
    Remaining s.before (subscription.name :: s.recovered) s.subscriptions entries ∧
      s.engine.isSuspended = newSession

/-- **What is left to do** in a phase. -/
def Tracked (s : SessionRepair) : Prop :=
  match s.phase with
  | .idle => True
  | .stuck => True
  | .activating => Covered s.before s.subscriptions
  | .retrying => Covered s.before s.subscriptions
  | .creatingSubscription subscription caller =>
    Covered s.before (subscription :: s.subscriptions) ∧ s.CallerTracked subscription caller
  | .creatingMonitoredItems subscription caller =>
    Covered s.before s.subscriptions ∧ s.CallerTracked subscription caller
  | .yielding newSession subscription entries =>
    Covered s.before s.subscriptions ∧
      Remaining s.before s.recovered s.subscriptions (subscription :: entries) ∧
      s.engine.isSuspended = newSession
  | .republishing newSession subscription entries =>
    Covered s.before s.subscriptions ∧
      Remaining s.before s.recovered s.subscriptions (subscription :: entries) ∧
      s.engine.isSuspended = newSession
  | _ => Covered s.before s.subscriptions ∧ s.engine.isSuspended = true

/-- The numbers of the subscriptions are distinct, and a session that is terminated is closed. -/
structure WellFormed (s : SessionRepair) : Prop where
  distinct : s.getSubscriptionIds.Nodup
  session : s.engine.session = false → s.hasBeenClosed = true

/-- **The invariant.** -/
structure Sound (s : SessionRepair) : Prop extends WellFormed s where
  tracked : s.Tracked

/-- What comes out of a step. -/
def Advances (result : SessionRepair × List RepairReport) : Prop :=
  Sound result.1 ∧ ∀ report ∈ result.2, report.Truthful

variable {s : SessionRepair}

lemma advances_wait (h : Sound s) : Advances (s, []) :=
  ⟨h, fun _ hreport => absurd hreport List.not_mem_nil⟩

/-! ### The end of an attempt -/

section

variable (h : WellFormed s)
include h

lemma advances_callback_failed : Advances (s.callback true) := by
  refine ⟨⟨⟨h.distinct, h.session⟩, trivial⟩, fun report hreport hfailed => ?_⟩
  obtain rfl := List.mem_singleton.mp hreport
  cases hfailed

lemma advances_callback
    (hcompl : s.hasBeenClosed = false → RepairComplete { s with phase := .idle }) :
    Advances (s.callback false) := by
  refine ⟨⟨⟨h.distinct, h.session⟩, trivial⟩, fun report hreport _ hclo => ?_⟩
  obtain rfl := List.mem_singleton.mp hreport
  exact hcompl hclo

lemma advances_attemptDone_of_stop (hstop : s._shouldNotContinue = true)
    (failed : Bool) : Advances (s.attemptDone failed) := by
  rw [attemptDone, if_pos hstop]
  exact advances_callback_failed h

lemma advances_attemptDone_failed (hcov : Covered s.before s.subscriptions) :
    Advances (s.attemptDone true) := by
  by_cases hstop : s._shouldNotContinue = true
  · exact advances_attemptDone_of_stop h hstop true
  have hopen : s.hasBeenClosed = false := by
    rw [_shouldNotContinue, or_eq_true, not_or, Bool.not_eq_true] at hstop
    exact hstop.1
  rw [attemptDone, if_neg hstop, if_pos rfl, if_pos (by rw [hopen]; rfl)]
  exact advances_wait ⟨⟨h.distinct, h.session⟩, hcov⟩

lemma advances_attemptDone (hcompl : RepairComplete { s with phase := .idle }) :
    Advances (s.attemptDone false) := by
  rw [attemptDone]
  split
  · exact advances_callback_failed h
  · exact advances_callback h fun _ => hcompl

end

variable {newSession : Bool}

/-- **The subscriptions were republished**: publishing goes on. -/
lemma advances_republishDone (h : WellFormed s)
    (hdone : s._shouldNotContinue = true ∨ (Covered s.before s.subscriptions ∧
      Remaining s.before s.recovered s.subscriptions [] ∧ s.engine.isSuspended = newSession)) :
    Advances (s.republishDone newSession) := by
  by_cases hstop : s._shouldNotContinue = true
  · rw [republishDone, if_pos hstop]
    exact advances_attemptDone_of_stop h hstop true
  obtain ⟨hcov, hrem, hsusp⟩ := hdone.resolve_left hstop
  have hrecov : ∀ name ∈ s.before, name ∈ s.recovered := by
    intro name hname
    rcases hrem.left name hname with hmem | ⟨entry, hentry, -⟩
    · exact hmem
    · exact absurd hentry List.not_mem_nil
  have hsame := replenish_publish_request_queue_same s.engine s.isChannelValid
  simp only [republishDone, if_neg hstop]
  cases newSession with
  | false =>
    simp only [Bool.false_eq_true, if_false]
    split
    · refine advances_attemptDone ⟨h.distinct, fun hsess => h.session (hsame.session ▸ hsess)⟩
        ⟨hsame.suspended.trans hsusp, hcov, hrecov,
          fun _ => ⟨s.engine, s.isChannelValid, hsusp, rfl⟩⟩
    · next hnone =>
      exact advances_attemptDone h ⟨hsusp, hcov, hrecov, fun hne => absurd hne hnone⟩
  | true =>
    -- the engine is suspended, so the queue is filled when it is resumed
    have hresume : ∀ engine : ClientSidePublishEngine, engine.isSuspended = true →
        engine.suspend false s.isChannelValid =
          replenish_publish_request_queue { engine with isSuspended := false } s.isChannelValid := by
      intro engine heng
      simp [suspend, heng]
    have hstart : ∀ engine : ClientSidePublishEngine, engine.isSuspended = true →
        engine.session = s.engine.session →
        Advances (startPublishing { s with engine }) := by
      intro engine heng hsess
      have hresumed := replenish_publish_request_queue_same { engine with isSuspended := false }
        s.isChannelValid
      rw [startPublishing, if_neg (show ¬ _shouldNotContinue { s with engine } = true from hstop)]
      refine advances_attemptDone ⟨h.distinct, fun hnone => h.session ?_⟩ ⟨?_, hcov, hrecov,
        fun _ => ⟨{ engine with isSuspended := false }, s.isChannelValid, rfl, hresume engine heng⟩⟩
      · rw [← hsess, ← hnone]
        rw [hresume engine heng]
        exact hresumed.session.symm
      · show (engine.suspend false s.isChannelValid).isSuspended = false
        rw [hresume engine heng]
        exact hresumed.suspended
    simp only [if_true]
    split
    · exact hstart _ (hsame.suspended.trans hsusp) hsame.session
    · exact hstart s.engine hsusp rfl

/-! ### Republishing -/

variable {entries : List RegisteredSubscription}

section

variable (h : WellFormed s)
include h

lemma advances_processAll (hcov : Covered s.before s.subscriptions)
    (hrem : Remaining s.before s.recovered s.subscriptions entries)
    (hsusp : s.engine.isSuspended = newSession) : Advances (s.processAll newSession entries) := by
  cases entries with
  | nil => exact advances_republishDone h (.inr ⟨hcov, hrem, hsusp⟩)
  | cons sub entries =>
    exact advances_wait ⟨⟨h.distinct, h.session⟩, hcov, hrem, hsusp⟩

lemma advances_ask_for_subscription_republish
    (hcov : Covered s.before s.subscriptions) (hsusp : s.engine.isSuspended = newSession) :
    Advances (s._ask_for_subscription_republish newSession) := by
  rw [_ask_for_subscription_republish]
  split
  · next hstop => exact advances_attemptDone_of_stop h hstop true
  · exact advances_processAll h hcov
      ⟨fun name hname => .inr (hcov name hname), fun _ hentry => hentry, h.distinct.of_map⟩ hsusp

lemma WellFormed.stop_of_stop2 (hstop : s._shouldNotContinue2 = true) :
    s._shouldNotContinue = true := by
  rw [_shouldNotContinue2, or_eq_true, not_eq_true'] at hstop
  rcases hstop with hsess | hstop
  · rw [_shouldNotContinue, h.session hsess]
    rfl
  · exact hstop

lemma advances_checkAfterRepublish (hrem : s._shouldNotContinue2 = false →
      Covered s.before s.subscriptions ∧ Remaining s.before s.recovered s.subscriptions entries ∧
        s.engine.isSuspended = newSession) :
    Advances (s.checkAfterRepublish newSession entries) := by
  rw [checkAfterRepublish]
  split
  · next hstop => exact advances_republishDone h (.inl (h.stop_of_stop2 hstop))
  · next hstop =>
    obtain ⟨hcov, hleft, hsusp⟩ := hrem (Bool.not_eq_true _ ▸ hstop)
    exact advances_processAll h hcov hleft hsusp

/-! ### Recreating -/

lemma wellFormed_unregister (sub : RegisteredSubscription) :
    WellFormed (s.unregisterSubscription sub) := by
  refine ⟨h.distinct.sublist (List.filter_sublist.map _), fun hsess => h.session ?_⟩
  rw [← hsess]
  show s.engine.session = (s.engine.unregisterSubscription sub.subscriptionId).session
  unfold ClientSidePublishEngine.unregisterSubscription
  split_ifs <;> rfl

end

lemma unregister_isSuspended (sub : RegisteredSubscription) :
    (s.unregisterSubscription sub).engine.isSuspended = s.engine.isSuspended := by
  show (s.engine.unregisterSubscription sub.subscriptionId).isSuspended = _
  unfold ClientSidePublishEngine.unregisterSubscription
  split_ifs <;> rfl

lemma WellFormed.mem_unregister (h : WellFormed s) {sub entry : RegisteredSubscription}
    (hsub : sub ∈ s.subscriptions) (hentry : entry ∈ s.subscriptions)
    (hne : entry ≠ sub) : entry ∈ (s.unregisterSubscription sub).subscriptions := by
  refine List.mem_filter.mpr ⟨hentry, ?_⟩
  rw [decide_eq_true_eq]
  exact fun heq => hne (List.inj_on_of_nodup_map h.distinct hentry hsub heq)

variable {subscription : RegisteredSubscription}

lemma WellFormed.covered_unregister (h : WellFormed s)
    (hsub : subscription ∈ s.subscriptions) (hcov : Covered s.before s.subscriptions) :
    Covered s.before (subscription :: (s.unregisterSubscription subscription).subscriptions) := by
  intro name hname
  obtain ⟨entry, hentry, rfl⟩ := hcov name hname
  by_cases heq : entry = subscription
  · exact ⟨entry, heq ▸ mem_cons_self, rfl⟩
  · exact ⟨entry, mem_cons_of_mem _ (h.mem_unregister hsub hentry heq), rfl⟩

lemma advances_transferDone (h : WellFormed s) (hready : s._shouldNotContinue = true ∨
    (Covered s.before s.subscriptions ∧ s.engine.isSuspended = true)) : Advances s.transferDone := by
  rw [transferDone]
  split
  · next hstop => exact advances_attemptDone_of_stop h hstop true
  · next hstop =>
    obtain ⟨hcov, hsusp⟩ := hready.resolve_left hstop
    exact advances_ask_for_subscription_republish h hcov hsusp

/-- **Subscriptions are recreated**, one after the other. -/
lemma advances_recreateSubscriptions (h : WellFormed s) (subscriptionIds : List ℕ)
    (hready : s._shouldNotContinue = true ∨
      (Covered s.before s.subscriptions ∧ s.engine.isSuspended = true)) :
    Advances (s.recreateSubscriptions subscriptionIds) := by
  induction subscriptionIds with
  | nil => exact advances_transferDone h hready
  | cons subscriptionId subscriptionIds ih =>
    rw [recreateSubscriptions]
    by_cases hstop : s._shouldNotContinue = true
    · rw [if_pos hstop]
      exact advances_attemptDone_of_stop h hstop true
    rw [if_neg hstop]
    obtain ⟨hcov, hsusp⟩ := hready.resolve_left hstop
    split
    · exact ih
    · next sub hfind =>
      have hmem := List.mem_of_find?_eq_some hfind
      have hformed := wellFormed_unregister h sub
      have hsess : (s.unregisterSubscription sub).engine.session ≠ false := by
        intro hnone
        refine hstop ?_
        rw [_shouldNotContinue, or_eq_true]
        exact .inl (hformed.session hnone)
      rw [if_neg (by rwa [not_eq_true', ← ne_eq])]
      exact advances_wait ⟨⟨hformed.distinct, hformed.session⟩, h.covered_unregister hmem hcov,
        (unregister_isSuspended sub).trans hsusp⟩

lemma advances_recreateForRepublish (h : WellFormed s) (hcov : Covered s.before s.subscriptions)
    (hrem : Remaining s.before s.recovered s.subscriptions (subscription :: entries))
    (hsusp : s.engine.isSuspended = newSession) :
    Advances (s.recreateForRepublish newSession subscription entries) := by
  have hmem := hrem.registered subscription mem_cons_self
  have hformed := wellFormed_unregister h subscription
  rw [recreateForRepublish]
  split
  · next hsess =>
    refine advances_republishDone hformed (.inl ?_)
    rw [_shouldNotContinue, hformed.session (not_eq_true' _ ▸ hsess)]
    rfl
  · refine advances_wait ⟨⟨hformed.distinct, hformed.session⟩, h.covered_unregister hmem hcov,
      ⟨hrem.tail.left, fun entry hentry => ?_, hrem.tail.nodup⟩,
      (unregister_isSuspended subscription).trans hsusp⟩
    refine h.mem_unregister hmem (hrem.tail.registered entry hentry) ?_
    rintro rfl
    exact (List.nodup_cons.mp hrem.nodup).1 hentry

variable {caller : RecreationCaller}

/-- **The recreation of a subscription fails**: what is left must not depend on it. -/
lemma advances_recreationFailed (h : WellFormed s) (sub : RegisteredSubscription)
    (hready : s._shouldNotContinue = true ∨
      (Covered s.before s.subscriptions ∧ s.CallerTracked sub caller ∧
        ∀ newSession entries, caller = .askSubscriptionRepublish newSession entries →
          ∀ entry ∈ sub :: entries, entry.name ∈ s.recovered)) :
    Advances (s.recreationFailed caller) := by
  cases caller with
  | recreateSubscriptions subscriptionIds =>
    exact advances_recreateSubscriptions h subscriptionIds
      (hready.imp_right fun hready => ⟨hready.1, hready.2.1⟩)
  | askSubscriptionRepublish newSession entries =>
    refine advances_republishDone h (hready.imp_right fun ⟨hcov, htrack, hrecov⟩ =>
      ⟨hcov, ⟨fun name hname => .inl ?_, by nofun, List.nodup_nil⟩, htrack.2⟩)
    have hall := hrecov newSession entries rfl
    rcases htrack.1.left name hname with hmem | ⟨entry, hentry, rfl⟩
    · rcases List.mem_cons.mp hmem with rfl | hmem
      · exact hall sub mem_cons_self
      · exact hmem
    · exact hall entry (mem_cons_of_mem _ hentry)

lemma registerSubscription_engine (engine : ClientSidePublishEngine) (subscriptionId timeoutHint : ℕ)
    (valid : Bool) :
    (engine.registerSubscription subscriptionId timeoutHint valid).isSuspended =
        engine.isSuspended ∧
      (engine.registerSubscription subscriptionId timeoutHint valid).session =
        engine.session := by
  unfold ClientSidePublishEngine.registerSubscription
  split
  · exact ⟨rfl, rfl⟩
  · exact ⟨(replenish_publish_request_queue_same _ valid).suspended,
      (replenish_publish_request_queue_same _ valid).session⟩

/-- **The server answers `CreateSubscription`.** When it does not create the subscription, the repair
should not continue. -/
lemma advances_subscriptionCreated
    (h : WellFormed s) (hcov : Covered s.before (subscription :: s.subscriptions))
    (hclr : s.CallerTracked subscription caller) (resp : Option (ℕ × ℕ))
    (heff : resp = none → s._shouldNotContinue = true) :
    Advances (s.subscriptionCreated subscription caller resp) := by
  rcases resp with _ | ⟨subscriptionId, timeoutHint⟩
  · exact advances_recreationFailed h subscription (.inl (heff rfl))
  rw [subscriptionCreated]
  split
  · next hsess =>
    refine advances_recreationFailed h subscription (.inl ?_)
    rw [_shouldNotContinue, h.session (not_eq_true' _ ▸ hsess)]
    rfl
  split
  · exact advances_wait ⟨⟨h.distinct, h.session⟩, trivial⟩
  next hfresh =>
  let created : RegisteredSubscription := { subscription with subscriptionId }
  obtain ⟨hsusp, hsess⟩ :=
    registerSubscription_engine s.engine subscriptionId timeoutHint s.isChannelValid
  have hperm : (s.registerSubscription created timeoutHint).subscriptions.Perm
      (created :: s.subscriptions) := List.perm_orderedInsert _ _ _
  have hformed : WellFormed (s.registerSubscription created timeoutHint) := by
    refine ⟨?_, fun hnone => h.session (hsess.symm.trans hnone)⟩
    rw [getSubscriptionIds, (hperm.map _).nodup_iff, List.map_cons, List.nodup_cons]
    exact ⟨hfresh, h.distinct⟩
  have hcov' : Covered s.before (s.registerSubscription created timeoutHint).subscriptions := by
    intro name hname
    obtain ⟨entry, hentry, rfl⟩ := hcov name hname
    rcases List.mem_cons.mp hentry with rfl | hentry
    · exact ⟨created, hperm.mem_iff.mpr mem_cons_self, rfl⟩
    · exact ⟨entry, hperm.mem_iff.mpr (mem_cons_of_mem _ hentry), rfl⟩
  dsimp only
  split
  · next hstop => exact advances_recreationFailed hformed created (.inl hstop)
  · refine advances_wait ⟨⟨hformed.distinct, hformed.session⟩, hcov', ?_⟩
    cases caller with
    | recreateSubscriptions subscriptionIds => exact hsusp.trans hclr
    | askSubscriptionRepublish newSession entries =>
      exact ⟨⟨hclr.1.left, fun entry hentry => hperm.mem_iff.mpr
        (mem_cons_of_mem _ (hclr.1.registered entry hentry)), hclr.1.nodup⟩,
        hsusp.trans hclr.2⟩

lemma advances_recreationDone (h : WellFormed s) (hcov : Covered s.before s.subscriptions)
    (hclr : s.CallerTracked subscription caller) :
    Advances ((s.recover subscription).recreationDone caller) := by
  have hformed : WellFormed (s.recover subscription) := ⟨h.distinct, h.session⟩
  cases caller with
  | recreateSubscriptions subscriptionIds =>
    exact advances_recreateSubscriptions hformed subscriptionIds (.inr ⟨hcov, hclr⟩)
  | askSubscriptionRepublish newSession entries =>
    exact advances_processAll hformed hcov hclr.1 hclr.2

/-! ### Answers -/

/-- What an error of a Republish request leaves out. -/
def ErrorHarmless (s : SessionRepair) (subscription : RegisteredSubscription)
    (entries : List RegisteredSubscription) (err : RepublishError) : Prop :=
  s._shouldNotContinue2 = true ∨
    if err.badSessionInvalid then ∀ entry ∈ subscription :: entries, entry.name ∈ s.recovered
    else err.subscriptionIdInvalid = true ∨ err.badMessageNotAvailable = true ∨
      subscription.name ∈ s.recovered

section

variable (h : WellFormed s) (hcov : Covered s.before s.subscriptions)
include h hcov

/-- **The server answers `Republish`.** -/
lemma advances_republished
    (hrem : Remaining s.before s.recovered s.subscriptions (subscription :: entries))
    (hsusp : s.engine.isSuspended = newSession) (answer : RepublishAnswer)
    (heff : ∀ err, answer = .error err → s.ErrorHarmless subscription entries err) :
    Advances (s.republished newSession subscription entries answer) := by
  have hformed : WellFormed (s.recover subscription) := ⟨h.distinct, h.session⟩
  cases answer with
  | badMessageNotAvailable =>
    exact advances_checkAfterRepublish hformed fun _ => ⟨hcov, hrem.tail, hsusp⟩
  | notificationMessage =>
    exact advances_wait ⟨⟨h.distinct, h.session⟩, hcov, hrem, hsusp⟩
  | error err =>
    rw [republished]
    by_cases hstop : s._shouldNotContinue2 = true
    · rw [if_pos hstop]
      exact advances_republishDone h (.inl (h.stop_of_stop2 hstop))
    rw [if_neg hstop]
    have hharm := (heff err rfl).resolve_left hstop
    by_cases hsess : err.badSessionInvalid = true
    · -- the loop ends with this subscription
      rw [if_pos hsess] at hharm ⊢
      refine advances_republishDone h (.inr ⟨hcov,
        ⟨fun name hname => .inl ?_, by nofun, List.nodup_nil⟩, hsusp⟩)
      rcases hrem.left name hname with hmem | ⟨entry, hentry, rfl⟩
      · exact hmem
      · exact hharm entry hentry
    rw [if_neg hsess] at hharm ⊢
    by_cases hunk : err.subscriptionIdInvalid = true
    · rw [if_pos hunk]
      exact advances_recreateForRepublish h hcov hrem hsusp
    rw [if_neg hunk]
    by_cases hover : err.badMessageNotAvailable = true
    · rw [if_pos hover]
      exact advances_processAll hformed hcov hrem.tail hsusp
    rw [if_neg hover]
    have hrecov := (hharm.resolve_left hunk).resolve_left hover
    exact advances_checkAfterRepublish h fun _ =>
      ⟨hcov, hrem.tail.recovered hrecov, hsusp⟩

lemma advances_attempt_subscription_transfer (hsusp : s.engine.isSuspended = true) :
    Advances s.attempt_subscription_transfer := by
  rw [attempt_subscription_transfer]
  split
  · exact advances_transferDone h (.inr ⟨hcov, hsusp⟩)
  · exact advances_wait ⟨⟨h.distinct, h.session⟩, hcov, hsusp⟩

/-- The server answers `ActivateSession`, for the new session. -/
lemma advances_newSessionActivated (hsusp : s.engine.isSuspended = true) (failed : Bool) :
    Advances (s.newSessionActivated failed) := by
  rw [newSessionActivated]
  split
  · cases hcli : s._client with
    | false => exact advances_wait ⟨⟨h.distinct, hcli ▸ h.session⟩, trivial⟩
    | true => exact advances_wait ⟨⟨h.distinct, hcli ▸ h.session⟩, hcov, hsusp⟩
  split
  · next hstop => exact advances_attemptDone_of_stop h hstop true
  split
  · exact advances_wait ⟨⟨h.distinct, h.session⟩, hcov, hsusp⟩
  · exact advances_attempt_subscription_transfer h hcov hsusp

lemma advances_repeatedAction :
    Advances s.repeatedAction := by
  rw [repeatedAction]
  split
  · exact advances_callback_failed h
  · exact advances_wait ⟨⟨h.distinct, h.session⟩, hcov⟩

end

lemma advances_repair_client_session (h : WellFormed s) : Advances s.repair_client_session := by
  rw [repair_client_session]
  split
  · next hclo =>
    exact advances_callback h fun hopen => absurd (hopen.symm.trans hclo) Bool.false_ne_true
  · refine advances_repeatedAction ⟨h.distinct, h.session⟩ fun name hname => ?_
    exact List.mem_map.mp hname

/-- The server answers `ActivateSession`, for the session that there was. -/
lemma advances_activated (h : WellFormed s) (hcov : Covered s.before s.subscriptions)
    (failed : Bool)
    (heff : failed = false → s._shouldNotContinue = true ∨ s.engine.isSuspended = false) :
    Advances (s.activated failed) := by
  rw [activated]
  by_cases hstop : s._shouldNotContinue = true
  · rw [if_pos hstop]
    exact advances_attemptDone_of_stop h hstop true
  rw [if_neg hstop]
  cases failed with
  | true =>
    have heng : (s.engine.suspend true s.isChannelValid).isSuspended = true ∧
        (s.engine.suspend true s.isChannelValid).session = s.engine.session := by
      rw [suspend]
      split
      · next hsusp => exact ⟨hsusp, rfl⟩
      · exact ⟨rfl, rfl⟩
    exact advances_wait ⟨⟨h.distinct, fun hnone => h.session (heng.2.symm.trans hnone)⟩,
      hcov, heng.1⟩
  | false =>
    exact advances_ask_for_subscription_republish h hcov ((heff rfl).resolve_left hstop)

/-! ### Steps -/

/-- **The answers after which nothing is left out**, unless the repair should not continue: the old
session is activated only while the engine is not suspended; a subscription is created when it is to be
recreated; and an error that ends the republishing of a subscription, or of all, comes when nothing is
left to republish. -/
def Effective (s : SessionRepair) : RepairEvent → Prop
  | .activated false => s.phase = .activating →
      s._shouldNotContinue = true ∨ s.engine.isSuspended = false
  | .subscriptionCreated none => ∀ subscription caller,
      s.phase = .creatingSubscription subscription caller → s._shouldNotContinue = true
  | .monitoredItemsCreated true => ∀ subscription newSession entries,
      s.phase = .creatingMonitoredItems subscription (.askSubscriptionRepublish newSession entries) →
      s._shouldNotContinue = true ∨ ∀ entry ∈ subscription :: entries, entry.name ∈ s.recovered
  | .republished (.error err) => ∀ newSession subscription entries,
      s.phase = .republishing newSession subscription entries →
      s.ErrorHarmless subscription entries err
  | _ => True

lemma Sound.engine (h : Sound s) {engine : ClientSidePublishEngine}
    (hsusp : engine.isSuspended = s.engine.isSuspended)
    (hsess : engine.session = s.engine.session) : Sound { s with engine } := by
  refine ⟨⟨h.distinct, fun hnone => h.session (hsess.symm.trans hnone)⟩, ?_⟩
  have htrack := h.tracked
  simp only [Tracked, CallerTracked] at htrack ⊢
  rw [hsusp]
  exact htrack

lemma Sound.publish (h : Sound s) (input : Input Unit)
    (hinput : (s.engine.step input).1.isSuspended = s.engine.isSuspended ∧
      (s.engine.step input).1.session = s.engine.session) : Advances (s.publish input) :=
  advances_wait (h.engine hinput.1 hinput.2)

section

variable (engine : ClientSidePublishEngine)

lemma step_immediate_same :
    (engine.step (V := Unit) .immediate).1.isSuspended = engine.isSuspended ∧
      (engine.step (V := Unit) .immediate).1.session = engine.session := by
  simp only [ClientSidePublishEngine.step]
  split_ifs
  · exact ⟨rfl, rfl⟩
  · exact ⟨rfl, rfl⟩
  · exact ⟨rfl, rfl⟩

lemma step_timer_same (valid : Bool) :
    (engine.step (V := Unit) (.timer valid)).1.isSuspended = engine.isSuspended ∧
      (engine.step (V := Unit) (.timer valid)).1.session = engine.session := by
  simp only [ClientSidePublishEngine.step]
  split_ifs
  · exact ⟨rfl, rfl⟩
  · have hsame := (send_publish_request_same { engine with timers := engine.timers - 1 } valid).1
    exact ⟨hsame.suspended, hsame.session⟩
  · exact ⟨rfl, rfl⟩

lemma step_answer_same (pos : ℕ)
    (res : Except PublishError (PublishResponse Unit)) (valid : Bool) :
    (engine.step (.answer pos res valid)).1.isSuspended = engine.isSuspended ∧
      (engine.step (.answer pos res valid)).1.session = engine.session := by
  simp only [ClientSidePublishEngine.step]
  split
  · exact ⟨rfl, rfl⟩
  · cases res with
    | ok resp =>
      have hsame := (publishCallback_ok
        { engine with pendingRequests := engine.pendingRequests.eraseIdx pos } resp
        valid).1
      exact ⟨hsame.suspended, hsame.session⟩
    | error err =>
      have hsame := (publishCallback_error (V := Unit)
        { engine with pendingRequests := engine.pendingRequests.eraseIdx pos } err
        valid).1
      exact ⟨hsame.suspended, hsame.session⟩

end

lemma Sound.ready (h : Sound s) {phase : RepairPhase} (hphase : s.phase = phase)
    (hready : phase = .creatingSession ∨ phase = .activatingNewSession ∨ phase = .closingNewSession ∨
      phase = .beforeSubscriptionRecreate ∨ ∃ subscriptionIds, phase = .transferring subscriptionIds) :
    Covered s.before s.subscriptions ∧ s.engine.isSuspended = true := by
  have htrack := h.tracked
  rw [Tracked, hphase] at htrack
  rcases hready with rfl | rfl | rfl | rfl | ⟨subscriptionIds, rfl⟩
  · exact htrack
  · exact htrack
  · exact htrack
  · exact htrack
  · exact htrack

/-- **What happens keeps the invariant**, and the repair calls back without an error only when it is
complete. -/
theorem sound_step (h : Sound s) (event : RepairEvent) (heff : s.Effective event) :
    Advances (s.step event) := by
  have hformed := h.toWellFormed
  have htrack := h.tracked
  cases event with
  | repair =>
    rw [step]
    split
    · exact advances_repair_client_session hformed
    · exact advances_wait h
  | activated failed =>
    simp only [step]
    split
    · next hphase =>
      rw [Tracked, hphase] at htrack
      refine advances_activated hformed htrack failed ?_
      rintro rfl
      exact heff hphase
    · next hphase =>
      have hready := h.ready hphase (.inr (.inl rfl))
      exact advances_newSessionActivated hformed hready.1 hready.2 failed
    · exact advances_wait h
  | sessionCreated failed =>
    simp only [step]
    split
    · next hphase =>
      have hready := h.ready hphase (.inl rfl)
      split
      · exact advances_attemptDone_failed hformed hready.1
      · exact advances_wait ⟨⟨h.distinct, h.session⟩, hready⟩
    · exact advances_wait h
  | newSessionClosed =>
    simp only [step]
    split
    · next hphase =>
      exact advances_attemptDone_failed hformed (h.ready hphase (.inr (.inr (.inl rfl)))).1
    · exact advances_wait h
  | hookDone failed =>
    simp only [step]
    split
    · next hphase =>
      have hready := h.ready hphase (.inr (.inr (.inr (.inl rfl))))
      split
      · exact advances_attemptDone_failed hformed hready.1
      · exact advances_attempt_subscription_transfer hformed hready.1 hready.2
    · exact advances_wait h
  | transferred results =>
    simp only [step]
    split
    · next subscriptionIds hphase =>
      have hready := h.ready hphase (.inr (.inr (.inr (.inr ⟨_, rfl⟩))))
      split
      · exact advances_attemptDone_failed hformed hready.1
      · cases results with
        | none | some results => exact advances_recreateSubscriptions hformed _ (.inr hready)
    · exact advances_wait h
  | subscriptionCreated resp =>
    simp only [step]
    split
    · next sub caller hphase =>
      rw [Tracked, hphase] at htrack
      refine advances_subscriptionCreated hformed htrack.1 htrack.2 resp ?_
      rintro rfl
      exact heff sub caller hphase
    · exact advances_wait h
  | monitoredItemsCreated failed =>
    simp only [step]
    split
    · next sub caller hphase =>
      rw [Tracked, hphase] at htrack
      cases failed with
      | false => exact advances_recreationDone hformed htrack.1 htrack.2
      | true =>
        refine advances_recreationFailed hformed sub ?_
        rcases Bool.eq_false_or_eq_true s._shouldNotContinue with hstop | hgo
        · exact .inl hstop
        · refine .inr ⟨htrack.1, htrack.2, ?_⟩
          rintro newSession entries rfl
          rcases heff sub newSession entries hphase with hstop | hrecov
          · exact absurd (hgo.symm.trans hstop) Bool.false_ne_true
          · exact hrecov
    · exact advances_wait h
  | immediate =>
    simp only [step]
    split
    · next newSession sub entries hphase =>
      rw [Tracked, hphase] at htrack
      split
      · next hend =>
        -- the session is closed
        refine advances_checkAfterRepublish hformed fun hgo => absurd hend ?_
        simp only [_shouldNotContinue2, _shouldNotContinue, hasBeenClosed, Bool.or_eq_false_iff] at hgo
        rw [or_eq_true, not_or]
        exact ⟨by rw [hgo.1]; exact Bool.false_ne_true, by rw [hgo.2.1.2]; exact Bool.false_ne_true⟩
      · exact advances_wait ⟨⟨h.distinct, h.session⟩, htrack⟩
    · exact advances_wait h
  | republished answer =>
    simp only [step]
    split
    · next newSession sub entries hphase =>
      rw [Tracked, hphase] at htrack
      obtain ⟨hcov, hrem, hsusp⟩ := htrack
      refine advances_republished hformed hcov hrem hsusp answer ?_
      rintro err rfl
      exact heff newSession sub entries hphase
    · exact advances_wait h
  | retry =>
    simp only [step]
    split
    · next hphase =>
      rw [Tracked, hphase] at htrack
      split
      · exact advances_callback_failed hformed
      · exact advances_repeatedAction hformed htrack
    · exact advances_wait h
  | closing | closeEvent | disposed =>
    exact advances_wait ⟨⟨h.distinct, fun _ => by simp [hasBeenClosed]⟩, htrack⟩
  | channelChange usable valid =>
    exact advances_wait ⟨⟨h.distinct, h.session⟩, htrack⟩
  | publishImmediate => exact h.publish _ (step_immediate_same _)
  | publishTimer => exact h.publish _ (step_timer_same _ _)
  | publishAnswer pos res => exact h.publish _ (step_answer_same _ pos res _)

/-- **Every repair is complete** in the runs after whose answers nothing is left out: when a repair calls
back without an error while the session is open, the publish engine is not suspended, the subscriptions
that were there before are registered and were republished to the end or recreated, and Publish requests
were replenished.

**Proof sketch.** The invariant is kept by each step. -/
theorem run_repairComplete (hidle : s.phase = .idle) (hformed : WellFormed s)
    (events : List RepairEvent) (heffective : Mealy.Along step Effective s events) :
    ∀ report ∈ (Mealy.run step s events).2, report.Truthful := by
  have hsound : Sound s := by
    refine ⟨hformed, ?_⟩
    rw [Tracked, hidle]
    trivial
  exact Mealy.run_output step (I := Sound) (fun _ event h hevent => (sound_step h event hevent).1)
    (fun _ event h hevent => (sound_step h event hevent).2) hsound heffective

/-! ### A session with two subscriptions -/

/-- A session with two subscriptions. -/
def withTwoSubscriptions : SessionRepair where
  engine := { ClientSidePublishEngine.new with
    activeSubscriptionCount := 2
    subscriptionMap := [7, 8] }
  subscriptions := [⟨0, 7⟩, ⟨1, 8⟩]
  _client := true
  _closed := false
  _closeEventHasBeenEmitted := false
  usable := true
  isChannelValid := true
  hasBeforeSubscriptionRecreate := false
  phase := .idle
  before := []
  recovered := []

/-- The session cannot be activated, one subscription is transferred to a new session and the other one
is recreated, and both are republished. -/
theorem repairComplete_newSession :
    let events : List RepairEvent := [.repair, .activated true, .sessionCreated false,
      .activated false, .transferred (some [true, false]), .subscriptionCreated (some (9, 1000)),
      .monitoredItemsCreated false, .immediate, .republished .notificationMessage, .immediate,
      .republished .badMessageNotAvailable, .immediate, .republished .badMessageNotAvailable]
    (∀ report ∈ (Mealy.run step withTwoSubscriptions events).2, report.Truthful) ∧
      (Mealy.run step withTwoSubscriptions events).2.map (·.failed) = [false] := by
  refine ⟨run_repairComplete rfl ⟨by decide, by decide⟩ _ ?_, by decide⟩
  exact ⟨trivial, trivial, trivial, fun hphase => absurd hphase (by decide), trivial, trivial, trivial,
    trivial, trivial, trivial, trivial, trivial, trivial, trivial⟩

/-- A repair has called back without an error, and has left something out. -/
def leavesOut (report : RepairReport) : Bool :=
  !report.failed && !report.session.hasBeenClosed &&
    (report.session.engine.isSuspended || report.session.before.any fun name =>
      !report.session.recovered.contains name ||
        !(report.session.subscriptions.any fun subscription => subscription.name = name))

lemma not_truthful_of_leavesOut {reports : List RepairReport} (h : reports.any leavesOut = true) :
    ¬ ∀ report ∈ reports, report.Truthful := by
  intro htruthful
  obtain ⟨report, hreport, hleft⟩ := List.any_eq_true.mp h
  simp only [leavesOut, Bool.and_eq_true, or_eq_true, not_eq_true', List.any_eq_true] at hleft
  obtain ⟨⟨hfailed, hopen⟩, hleft⟩ := hleft
  have hcompl := htruthful report hreport hfailed hopen
  rcases hleft with hsusp | ⟨name, hname, hrecov | hreg⟩
  · exact absurd (hcompl.resumed.symm.trans hsusp) Bool.false_ne_true
  · rw [List.contains_eq_mem, decide_eq_false_iff_not] at hrecov
    exact hrecov (hcompl.recovered name hname)
  · obtain ⟨sub, hsub, hsame⟩ := hcompl.registered name hname
    rw [List.any_eq_false] at hreg
    exact hreg sub hsub (decide_eq_true hsame)

/-- **Repairs that leave something out**: the engine stays suspended when a new session cannot be created
and the old one is activated at the next attempt; a subscription is forgotten when it cannot be recreated;
and a subscription is not republished when the answer is an error. -/
theorem repair_leaves_out :
    let suspended : List RepairEvent := [.repair, .activated true, .sessionCreated true, .retry,
      .activated false, .immediate, .republished .badMessageNotAvailable, .immediate,
      .republished .badMessageNotAvailable]
    let forgotten : List RepairEvent := [.repair, .activated true, .sessionCreated false,
      .activated false, .transferred (some [true, false]), .subscriptionCreated none, .immediate,
      .republished .badMessageNotAvailable]
    let skipped : List RepairEvent := [.repair, .activated false, .immediate,
      .republished (.error {}), .immediate, .republished .badMessageNotAvailable]
    ∀ events ∈ [suspended, forgotten, skipped],
      ¬ ∀ report ∈ (Mealy.run step withTwoSubscriptions events).2, report.Truthful := by
  intro suspended forgotten skipped events hevents
  refine not_truthful_of_leavesOut ?_
  rcases List.mem_cons.mp hevents with rfl | hevents
  · decide
  rcases List.mem_cons.mp hevents with rfl | hevents
  · decide
  obtain rfl := List.mem_singleton.mp hevents
  decide

end SessionRepair

end NodeOpcua
