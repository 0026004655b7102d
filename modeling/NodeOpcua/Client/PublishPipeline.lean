import NodeOpcua.Client.ClientPublishEngine

set_option autoImplicit false

/-!
# The pipeline of Publish requests

The engine is to keep some requests pending, but not more than the server accepts. This file says what
each step of it must do for that, and which steps do so.

## Main definitions

* `ClientSidePublishEngine.KeepsPipeline`.
* `ClientSidePublishEngine.PipelineCondition`.
-/

namespace NodeOpcua

namespace ClientSidePublishEngine

variable {V : Type}

/-! ### What is expected of a step -/

section

variable (engine : ClientSidePublishEngine)

/-- The input is an answer after which the engine must not fall silent: a response, or the error
`BadTooManyPublishRequests`, to a request that is pending. -/
def MustRenew : Input V → Prop
  | .answer position (.ok _) _ => position < engine.pendingRequests.length
  | .answer position (.error err) _ =>
    position < engine.pendingRequests.length ∧ err.badTooManyPublishRequests = true
  | _ => False

/-- The engine has work to do. -/
def Serves : Prop :=
  engine.subscriptionMap ≠ [] ∧ engine.isSuspended = false ∧ engine.session = true

/-- A request is pending, or a send is scheduled. -/
def Alive : Prop :=
  engine.pendingRequests ≠ [] ∨ 0 < engine.immediates + engine.timers

end

/-- **What is expected of a step**: the pending requests are counted and are within the limit when one
is sent, the registered subscriptions are counted, and the engine does not fall silent. -/
structure KeepsPipeline (engine : ClientSidePublishEngine) (input : Input V) : Prop where
  counted : (step engine input).1.nbPendingPublishRequests =
    (step engine input).1.pendingRequests.length
  nonneg : 0 ≤ (step engine input).1.nbPendingPublishRequests
  limited : ∀ request nbPending limit,
    PublishEngineEvent.sent request nbPending limit ∈ (step engine input).2 → nbPending ≤ limit
  alive : MustRenew engine input → (step engine input).1.Serves → (step engine input).1.Alive
  active : (step engine input).1.activeSubscriptionCount =
    (step engine input).1.subscriptionMap.length

/-- **The condition of a step**: a subscription that is unregistered is registered; a send that is due
finds fewer requests pending than the limit; and when the server refuses a request because there are
too many, another one is pending or scheduled. -/
def PipelineCondition (engine : ClientSidePublishEngine) : Input V → Prop
  | .unregisterSubscription subscriptionId =>
    subscriptionId = 0 ∨ subscriptionId ∈ engine.subscriptionMap
  | .immediate =>
    engine.immediates ≠ 0 → engine.session = true → engine.isSuspended = false →
      engine.nbPendingPublishRequests < engine.nbMaxPublishRequestsAcceptedByServer
  | .answer position (.error err) _ =>
    position < engine.pendingRequests.length → err.badTooManyPublishRequests = true →
      engine.Serves → 2 ≤ engine.pendingRequests.length ∨ 0 < engine.immediates + engine.timers
  | _ => True

/-! ### The invariant -/

/-- **The invariant of the runs whose steps do what is expected.** -/
structure PipelineInvariant (engine : ClientSidePublishEngine) : Prop where
  counted : engine.nbPendingPublishRequests = engine.pendingRequests.length
  limited : engine.nbPendingPublishRequests ≤ engine.nbMaxPublishRequestsAcceptedByServer
  active : engine.activeSubscriptionCount = engine.subscriptionMap.length

lemma pipelineInvariant_new : new.PipelineInvariant := ⟨rfl, by decide, rfl⟩

variable {engine engine' : ClientSidePublishEngine}

lemma SameCounters.invariant (hsame : SameCounters engine engine') (h : engine.PipelineInvariant) :
    engine'.PipelineInvariant := by
  obtain ⟨hcnt, hlim, hact⟩ := h
  refine ⟨?_, ?_, ?_⟩
  · rw [hsame.nbPending, hsame.pending, hcnt]
  · rw [hsame.nbPending, hsame.limit]
    exact hlim
  · rw [hsame.active, hsame.subscriptions, hact]

lemma SameCounters.serves_iff
    (hsame : SameCounters engine engine') : engine'.Serves ↔ engine.Serves := by
  unfold Serves
  rw [hsame.subscriptions, hsame.suspended, hsame.session]

/-! ### The steps -/

variable {engine : ClientSidePublishEngine}

lemma length_eraseIdx_cast {pos : ℕ} (h : pos < engine.pendingRequests.length) :
    ((engine.pendingRequests.eraseIdx pos).length : ℤ) = engine.pendingRequests.length - 1 := by
  rw [List.length_eraseIdx_of_lt h]
  omega

variable {input : Input V}

/-- **A step that meets its condition** keeps the invariant. -/
lemma step_invariant (h : engine.PipelineInvariant) (hcond : PipelineCondition engine input) :
    (step engine input).1.PipelineInvariant := by
  have hcnt := h.counted
  have hlim := h.limited
  have hact := h.active
  cases input with
  | registerSubscription subId timeoutHint valid =>
    simp only [step, registerSubscription]
    split_ifs
    · exact h
    · refine (replenish_publish_request_queue_same _ valid).invariant
        ⟨hcnt, hlim, ?_⟩
      simp [hact]
  | unregisterSubscription subId =>
    simp only [step, unregisterSubscription]
    split_ifs with hzero
    · exact h
    · have hmem : subId ∈ engine.subscriptionMap := hcond.resolve_left hzero
      refine ⟨hcnt, hlim, ?_⟩
      have hpos := List.length_pos_of_mem hmem
      simp only [List.length_erase_of_mem hmem]
      omega
  | suspend suspendedState valid =>
    simp only [step, suspend]
    split_ifs
    · exact h
    · exact ⟨hcnt, hlim, hact⟩
    · exact (replenish_publish_request_queue_same _ valid).invariant
        ⟨hcnt, hlim, hact⟩
  | cleanup subId | terminate => exact ⟨hcnt, hlim, hact⟩
  | immediate =>
    simp only [step]
    split_ifs with hnone hstop
    · exact h
    · exact ⟨hcnt, hlim, hact⟩
    · simp only [Bool.or_eq_true, Bool.not_eq_eq_eq_not, Bool.not_true, not_or,
        Bool.not_eq_false, Bool.not_eq_true] at hstop
      have hlt := hcond hnone hstop.1 hstop.2
      refine ⟨?_, ?_, hact⟩
      · simp [internalSendPublishRequest, hcnt]
      · simp only [internalSendPublishRequest]
        omega
  | timer valid =>
    simp only [step]
    split_ifs
    · exact h
    · exact (send_publish_request_same _ valid).1.invariant
        ⟨hcnt, hlim, hact⟩
    · exact ⟨hcnt, hlim, hact⟩
  | answer pos result valid =>
    simp only [step]
    cases hreq : engine.pendingRequests[pos]? with
    | none => exact h
    | some req =>
      have hlen := length_eraseIdx_cast (List.getElem?_eq_some_iff.mp hreq).1
      cases result with
      | ok resp =>
        refine (publishCallback_ok _ resp valid).1.invariant ⟨?_, ?_, hact⟩
        · dsimp only
          omega
        · dsimp only
          omega
      | error err =>
        refine (publishCallback_error (V := V) _ err valid).1.invariant
          ⟨?_, ?_, hact⟩
        · dsimp only
          omega
        · dsimp only
          split_ifs <;> omega
  | republished subId notificationMessage => exact h

lemma keepsPipeline_of_invariant (h : (step engine input).1.PipelineInvariant)
    (hlim : ∀ request nbPending limit,
      PublishEngineEvent.sent request nbPending limit ∈ (step engine input).2 → nbPending ≤ limit)
    (halive : MustRenew engine input → (step engine input).1.Serves → (step engine input).1.Alive) :
    KeepsPipeline engine input :=
  ⟨h.counted, by rw [h.counted]; omega, hlim, halive, h.active⟩

variable {result : Except PublishError (PublishResponse V)}

lemma sent_notMem_answerEvents {req req' : ClientPublishRequest} {nbPending limit : ℤ} :
    PublishEngineEvent.sent req' nbPending limit ∉ answerEvents req result := by
  cases result with
  | ok resp | error err => simp [answerEvents]

/-- **An answer** does what is expected when it meets its condition. -/
lemma answer_alive {pos : ℕ} {valid : Bool} (h : engine.PipelineInvariant)
    (hcond : PipelineCondition engine (.answer pos result valid))
    (hrenew : MustRenew engine (.answer pos result valid))
    (hserves : (step engine (.answer pos result valid)).1.Serves) :
    (step engine (.answer pos result valid)).1.Alive := by
  have hlim := h.limited
  have hact := h.active
  have hposition : pos < engine.pendingRequests.length := by
    cases result with
    | ok resp => exact hrenew
    | error err => exact hrenew.1
  have hlen := length_eraseIdx_cast hposition
  revert hserves
  simp only [step, List.getElem?_eq_getElem hposition]
  intro hserves
  cases result with
  | ok resp =>
    obtain ⟨hsame, hsched⟩ := publishCallback_ok
      { engine with pendingRequests := engine.pendingRequests.eraseIdx pos } resp
      valid
    obtain ⟨hsubs, hsusp, -⟩ := hsame.serves_iff.mp hserves
    have hpos := List.length_pos_iff.mpr hsubs
    dsimp only at hpos
    exact Or.inr (hsched hsusp (by dsimp only; omega) (by dsimp only; omega))
  | error err =>
    obtain ⟨hsame, hsched⟩ := publishCallback_error (V := V)
      { engine with pendingRequests := engine.pendingRequests.eraseIdx pos } err
      valid
    have hcount := hsched hrenew.2
    rcases hcond hposition hrenew.2 (hsame.serves_iff.mp hserves) with htwo | hone
    · refine Or.inl ?_
      rw [hsame.pending]
      dsimp only
      intro hnil
      rw [hnil] at hlen
      simp at hlen
      omega
    · exact Or.inr (hcount ▸ hone)

/-- **A step** does what is expected exactly when it meets its condition.

**Proof sketch.** A step that meets its condition keeps the invariant. Only a send that is due sends,
and only an answer may leave the engine silent. The other way round, a send above the limit, an
unknown subscription that is unregistered, and the refusal of the only request are seen at once. -/
theorem keepsPipeline_iff (h : engine.PipelineInvariant) :
    KeepsPipeline engine input ↔ PipelineCondition engine input := by
  constructor
  · intro hkeeps
    cases input with
    | unregisterSubscription subId =>
      by_contra hcond
      simp only [PipelineCondition, not_or] at hcond
      have hact := hkeeps.active
      simp only [step, unregisterSubscription, if_neg hcond.1,
        List.erase_of_not_mem hcond.2, h.active] at hact
      omega
    | immediate =>
      intro hnone hsess hsusp
      have hlim := hkeeps.limited
      simp only [step, if_neg hnone, hsess, hsusp, Bool.not_true, Bool.or_self,
        Bool.false_eq_true, if_false, List.mem_singleton] at hlim
      have hle := hlim _ _ _ rfl
      simp only [internalSendPublishRequest] at hle
      omega
    | answer pos result valid =>
      cases result with
      | ok resp => trivial
      | error err =>
        intro hposition htoo hserves
        obtain ⟨hsame, hsched⟩ := publishCallback_error (V := V)
          { engine with pendingRequests := engine.pendingRequests.eraseIdx pos } err
          valid
        have halive := hkeeps.alive ⟨hposition, htoo⟩
        simp only [step, List.getElem?_eq_getElem hposition] at halive
        have hlen := length_eraseIdx_cast hposition
        rcases halive (hsame.serves_iff.mpr hserves) with hpend | hcount
        · rw [hsame.pending] at hpend
          have hpos := List.length_pos_iff.mpr hpend
          dsimp only at hpos
          exact Or.inl (by omega)
        · exact Or.inr (hsched htoo ▸ hcount)
    | _ => trivial
  · intro hcond
    have hinv := step_invariant h hcond
    cases input with
    | immediate =>
      refine keepsPipeline_of_invariant hinv (fun req nbPending limit hmem => ?_) nofun
      have hlim := hinv.limited
      revert hmem hlim
      simp only [step]
      split_ifs
      · simp
      · simp
      · simp only [List.mem_singleton, PublishEngineEvent.sent.injEq]
        rintro ⟨-, rfl, rfl⟩ hlim
        exact hlim
    | timer valid =>
      refine keepsPipeline_of_invariant hinv (fun req nbPending limit hmem => ?_) nofun
      revert hmem
      simp only [step]
      split_ifs <;> simp
    | answer pos result valid =>
      refine keepsPipeline_of_invariant hinv (fun req nbPending limit hmem => ?_)
        (answer_alive h hcond)
      simp only [step] at hmem
      split at hmem
      · simp at hmem
      · exact absurd hmem sent_notMem_answerEvents
    | republished subId notificationMessage =>
      exact keepsPipeline_of_invariant hinv (by simp [step]) nofun
    | _ => exact keepsPipeline_of_invariant hinv nofun nofun

/-! ### Runs -/

/-- **The steps of a run** of a new engine do what is expected exactly when each of them meets its
condition. -/
theorem run_keepsPipeline_iff (inputs : List (Input V)) :
    Mealy.Along step KeepsPipeline new inputs ↔ Mealy.Along step PipelineCondition new inputs :=
  Mealy.along_iff step (I := PipelineInvariant)
    (fun _ _ h hkeeps => step_invariant h ((keepsPipeline_iff h).mp hkeeps))
    (fun _ _ h => keepsPipeline_iff h) pipelineInvariant_new inputs

/-- **Not every run keeps the pipeline**: the refusal of the only request leaves the engine silent; two
sends that were scheduled together go beyond a limit that was lowered meanwhile; and an unknown
subscription is subtracted from the active ones. -/
theorem runs_not_keepsPipeline :
    let send : Input Unit := .immediate
    let refused : Input Unit :=
      .answer 0 (.error { badTooManyPublishRequests := true }) true
    let failed : Input Unit := .answer 0 (.error { connectionBreak := true }) true
    let registered : Input Unit := .registerSubscription 1 1000 true
    ¬ Mealy.Along step KeepsPipeline new
        [registered, send, send, send, send, send, failed, failed, failed, failed, refused] ∧
      ¬ Mealy.Along step KeepsPipeline new [registered, send, send, refused, send] ∧
      ¬ Mealy.Along step KeepsPipeline new
        ([registered, .unregisterSubscription 2] : List (Input Unit)) := by
  refine ⟨fun h => ?_, fun h => ?_, fun h => ?_⟩
  · have halive := h.2.2.2.2.2.2.2.2.2.2.1.alive ⟨by decide, rfl⟩ ⟨by decide, rfl, rfl⟩
    exact absurd halive (by unfold Alive; decide)
  · have hlim := h.2.2.2.2.1.limited _ _ _ (List.mem_singleton.mpr rfl)
    exact absurd hlim (by decide)
  · exact absurd h.2.1.active (by decide)

end ClientSidePublishEngine

end NodeOpcua
