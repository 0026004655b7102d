import NodeOpcua.Client.ClientPublishEngine

set_option autoImplicit false

/-!
# The acknowledgements of a client

A message with data that the client receives is to be acknowledged once. Its acknowledgement waits in
the engine, is carried by a request that is pending, or was carried by a request that the server has
answered successfully. This file counts the acknowledgements in these three places.

## Main definitions

* `ClientSidePublishEngine.held`, `ClientSidePublishEngine.KeepsAcknowledgements`.
* `ClientSidePublishEngine.AcknowledgementCondition`.

## Design

* A message is known by its acknowledgement. One that is received twice is to be acknowledged twice.
-/

namespace NodeOpcua

namespace ClientSidePublishEngine

variable {V : Type}

/-! ### The three places -/

/-- How often the acknowledgement waits in the engine or is carried by a pending request. -/
def held (engine : ClientSidePublishEngine) (a : SubscriptionAcknowledgement) : ℕ :=
  engine.subscriptionAcknowledgements.count a +
    (engine.pendingRequests.flatMap (·.subscriptionAcknowledgements)).count a

/-- How often the acknowledgement was carried by a request that was answered successfully. -/
def acknowledgedCount (a : SubscriptionAcknowledgement) : List (PublishEngineEvent V) → ℕ
  | [] => 0
  | .acknowledged subscriptionAcknowledgements :: events =>
    subscriptionAcknowledgements.count a + acknowledgedCount a events
  | _ :: events => acknowledgedCount a events

/-- How often a message with data was received that is to be acknowledged so. -/
def receivedCount (a : SubscriptionAcknowledgement) : List (PublishEngineEvent V) → ℕ
  | [] => 0
  | .received subscriptionId notificationMessage :: events =>
    (acknowledgementsOf subscriptionId notificationMessage).count a + receivedCount a events
  | _ :: events => receivedCount a events

section

variable (a : SubscriptionAcknowledgement) (events events' : List (PublishEngineEvent V))

lemma acknowledgedCount_append :
    acknowledgedCount a (events ++ events') =
      acknowledgedCount a events + acknowledgedCount a events' := by
  induction events with
  | nil => simp [acknowledgedCount]
  | cons event events ih =>
    cases event with
    | acknowledged as => simp only [List.cons_append, acknowledgedCount, ih]; omega
    | _ => simpa only [List.cons_append, acknowledgedCount] using ih

lemma receivedCount_append :
    receivedCount a (events ++ events') = receivedCount a events + receivedCount a events' := by
  induction events with
  | nil => simp [receivedCount]
  | cons event events ih =>
    cases event with
    | received subId message => simp only [List.cons_append, receivedCount, ih]; omega
    | _ => simpa only [List.cons_append, receivedCount] using ih

end

/-! ### What is expected of a step -/

section

variable (engine : ClientSidePublishEngine) (input : Input V)

/-- The message is for a subscription that is registered before and after the step. -/
def StaysRegistered (a : SubscriptionAcknowledgement) : Prop :=
  a.subscriptionId ∈ engine.subscriptionMap ∧
    a.subscriptionId ∈ (step engine input).1.subscriptionMap

/-- The acknowledgement is in one of the three places as often as it was, and once more for a message
that is received. -/
def Conserves (a : SubscriptionAcknowledgement) : Prop :=
  (step engine input).1.held a + acknowledgedCount a (step engine input).2 =
    engine.held a + receivedCount a (step engine input).2

/-- **What is expected of a step**: no acknowledgement for a subscription that stays registered is lost
or doubled, and every message with data that is received has one. -/
def KeepsAcknowledgements : Prop :=
  ∀ a, StaysRegistered engine input a → Conserves engine input a

end

/-- **The condition of a step**: a request that fails carries no acknowledgement for a registered
subscription; a message with data is not received through Republish; and the acknowledgements of a
subscription are not dropped while it is registered. -/
def AcknowledgementCondition (engine : ClientSidePublishEngine) : Input V → Prop
  | .answer position (.error _) _ =>
    ∀ request, engine.pendingRequests[position]? = some request →
      ∀ a ∈ request.subscriptionAcknowledgements, a.subscriptionId ∉ engine.subscriptionMap
  | .republished subscriptionId notificationMessage =>
    notificationMessage.notificationData ≠ [] → subscriptionId ∉ engine.subscriptionMap
  | .cleanup subscriptionId =>
    subscriptionId ∈ engine.subscriptionMap →
      ∀ a ∈ engine.subscriptionAcknowledgements, a.subscriptionId ≠ subscriptionId
  | _ => True

/-! ### The steps -/

lemma SameCounters.held_eq {engine engine' : ClientSidePublishEngine}
    (hsame : SameCounters engine engine') (a : SubscriptionAcknowledgement) :
    engine'.held a = engine.held a := by
  unfold held
  rw [hsame.acknowledgements, hsame.pending]

lemma count_flatMap_eraseIdx {reqs : List ClientPublishRequest} {pos : ℕ}
    {req : ClientPublishRequest} (h : reqs[pos]? = some req)
    (a : SubscriptionAcknowledgement) :
    (reqs.flatMap (·.subscriptionAcknowledgements)).count a =
      ((reqs.eraseIdx pos).flatMap (·.subscriptionAcknowledgements)).count a +
        req.subscriptionAcknowledgements.count a := by
  induction reqs generalizing pos with
  | nil => simp at h
  | cons r reqs ih =>
    cases pos with
    | zero =>
      obtain rfl := Option.some.inj h
      simp only [List.eraseIdx_cons_zero, List.flatMap_cons, List.count_append]
      omega
    | succ pos =>
      have hcount := ih h
      simp only [List.eraseIdx_cons_succ, List.flatMap_cons, List.count_append]
      omega

variable {engine : ClientSidePublishEngine}

/-- **A step without an answer, a Republish or a clean-up** conserves every acknowledgement. -/
lemma conserves_of_sameCounters {input : Input V}
    (hsame : ∀ a, (step engine input).1.held a = engine.held a) (hevents : (step engine input).2 = [])
    (a : SubscriptionAcknowledgement) : Conserves engine input a := by
  unfold Conserves
  rw [hevents, hsame]
  rfl

section

variable (engine : ClientSidePublishEngine)

lemma conserves_immediate (a : SubscriptionAcknowledgement) :
    Conserves (V := V) engine .immediate a := by
  unfold Conserves
  simp only [step]
  split_ifs
  · rfl
  · rfl
  · simp only [internalSendPublishRequest, held, acknowledgedCount, receivedCount,
      List.flatMap_append, List.flatMap_cons, List.flatMap_nil, List.append_nil, List.count_append,
      List.count_nil]
    omega

/-- **A successful answer** takes the acknowledgements of its request, and brings that of its
message. -/
lemma conserves_answer_ok (pos : ℕ)
    (resp : PublishResponse V) (valid : Bool) (a : SubscriptionAcknowledgement) :
    Conserves engine (.answer pos (.ok resp) valid) a := by
  unfold Conserves
  simp only [step]
  cases hreq : engine.pendingRequests[pos]? with
  | none => rfl
  | some req =>
    have hcount := count_flatMap_eraseIdx hreq a
    rw [(publishCallback_ok _ resp valid).1.held_eq a]
    simp only [held, answerEvents, acknowledgedCount, receivedCount, List.count_append]
    omega

/-- **A failing answer** loses what its request carries. -/
lemma conserves_answer_error_iff (pos : ℕ)
    (err : PublishError) (valid : Bool) (a : SubscriptionAcknowledgement) :
    Conserves (V := V) engine (.answer pos (.error err) valid) a ↔
      ∀ req, engine.pendingRequests[pos]? = some req →
        a ∉ req.subscriptionAcknowledgements := by
  unfold Conserves
  simp only [step]
  cases hreq : engine.pendingRequests[pos]? with
  | none => exact iff_of_true rfl (by simp)
  | some req =>
    have hcount := count_flatMap_eraseIdx hreq a
    rw [(publishCallback_error (V := V) _ err valid).1.held_eq a]
    simp only [held, answerEvents, acknowledgedCount, receivedCount, Option.some.injEq,
      forall_eq', ← List.count_eq_zero]
    omega

lemma conserves_republished_iff (subId : ℕ)
    (message : NotificationMessage V) (a : SubscriptionAcknowledgement) :
    Conserves engine (.republished subId message) a ↔
      a ∉ acknowledgementsOf subId message := by
  unfold Conserves
  simp only [step, acknowledgedCount, receivedCount, ← List.count_eq_zero]
  omega

lemma conserves_cleanup_iff (subId : ℕ) (a : SubscriptionAcknowledgement) :
    Conserves (V := V) engine (.cleanup subId) a ↔
      (a.subscriptionId = subId → a ∉ engine.subscriptionAcknowledgements) := by
  unfold Conserves
  simp only [step, cleanup_acknowledgment_for_subscription, held, acknowledgedCount, receivedCount]
  by_cases hid : a.subscriptionId = subId
  · have hnone : (engine.subscriptionAcknowledgements.filter
        fun b => b.subscriptionId ≠ subId).count a = 0 :=
      List.count_eq_zero.mpr fun hmem => by simp [hid] at hmem
    simp only [hid, forall_const, ← List.count_eq_zero]
    omega
  · rw [List.count_filter (by simpa using hid)]
    simp [hid]

end

variable {a : SubscriptionAcknowledgement}

lemma mem_acknowledgementsOf_iff {subId : ℕ} {message : NotificationMessage V} :
    a ∈ acknowledgementsOf subId message ↔
      message.notificationData ≠ [] ∧ a = ⟨subId, message.sequenceNumber⟩ := by
  unfold acknowledgementsOf
  split_ifs with h
  · simp only [List.mem_singleton]
    exact (and_iff_right fun hnil => h (by rw [hnil]; rfl)).symm
  · have hnil := List.length_eq_zero_iff.mp (not_not.mp h)
    simp [hnil]

/-- **A step** does what is expected exactly when it meets its condition. -/
theorem keepsAcknowledgements_iff (engine : ClientSidePublishEngine) (input : Input V) :
    KeepsAcknowledgements engine input ↔ AcknowledgementCondition engine input := by
  cases input with
  | registerSubscription subId timeoutHint valid =>
    refine iff_of_true (fun a _ => conserves_of_sameCounters (fun a => ?_) rfl a) trivial
    simp only [step, registerSubscription]
    split_ifs
    · rfl
    · exact (replenish_publish_request_queue_same _ valid).held_eq a
  | unregisterSubscription subId =>
    refine iff_of_true (fun a _ => conserves_of_sameCounters (fun a => ?_) rfl a) trivial
    simp only [step, unregisterSubscription]
    split_ifs <;> rfl
  | suspend suspendedState valid =>
    refine iff_of_true (fun a _ => conserves_of_sameCounters (fun a => ?_) rfl a) trivial
    simp only [step, suspend]
    split_ifs
    · rfl
    · rfl
    · exact (replenish_publish_request_queue_same _ valid).held_eq a
  | terminate => exact iff_of_true (fun a _ => rfl) trivial
  | immediate => exact iff_of_true (fun a _ => conserves_immediate engine a) trivial
  | timer valid =>
    refine iff_of_true (fun a _ => conserves_of_sameCounters (fun a => ?_) ?_ a) trivial
    · simp only [step]
      split_ifs
      · rfl
      · exact (send_publish_request_same _ valid).1.held_eq a
      · rfl
    · simp only [step]
      split_ifs <;> rfl
  | cleanup subId =>
    simp only [KeepsAcknowledgements, conserves_cleanup_iff, AcknowledgementCondition]
    constructor
    · intro h hreg a hmem hid
      exact h a ⟨hid ▸ hreg, hid ▸ hreg⟩ hid hmem
    · intro h a hstays hid hmem
      exact h (hid ▸ hstays.1) a hmem hid
  | republished subId message =>
    simp only [KeepsAcknowledgements, conserves_republished_iff, AcknowledgementCondition,
      mem_acknowledgementsOf_iff]
    constructor
    · intro h hdata hreg
      exact h ⟨subId, message.sequenceNumber⟩ ⟨hreg, hreg⟩ ⟨hdata, rfl⟩
    · rintro h a hstays ⟨hdata, rfl⟩
      exact h hdata hstays.1
  | answer pos result valid =>
    cases result with
    | ok resp =>
      exact iff_of_true
        (fun a _ => conserves_answer_ok engine pos resp valid a) trivial
    | error err =>
      simp only [KeepsAcknowledgements, conserves_answer_error_iff, AcknowledgementCondition]
      constructor
      · intro h req hreq a hmem hreg
        refine h a ⟨hreg, ?_⟩ req hreq hmem
        simp only [step, hreq]
        rw [(publishCallback_error (V := V) _ err valid).1.subscriptions]
        exact hreg
      · intro h a hstays req hreq hmem
        exact h req hreq a hmem hstays.1

/-! ### Runs -/

/-- **What the places hold** after a run in which a subscription stays registered. -/
lemma run_conserves {inputs : List (Input V)}
    (h : Mealy.Along step KeepsAcknowledgements engine inputs)
    (hstays : Mealy.Along step (fun e i => StaysRegistered e i a) engine inputs) :
    (Mealy.run step engine inputs).1.held a +
        acknowledgedCount a (Mealy.run step engine inputs).2 =
      engine.held a + receivedCount a (Mealy.run step engine inputs).2 := by
  induction inputs generalizing engine with
  | nil => rfl
  | cons input inputs ih =>
    have hstep := h.1 a hstays.1
    have hrest := ih h.2 hstays.2
    unfold Conserves at hstep
    rw [Mealy.run_cons_fst, Mealy.run_cons_snd, acknowledgedCount_append, receivedCount_append]
    omega

/-- **The steps of a run** do what is expected exactly when each of them meets its condition; and when
they do, the acknowledgement of every message with data that is received for a subscription that stays
registered is in one of the three places, as often as the message was received. -/
theorem run_keepsAcknowledgements_iff (engine : ClientSidePublishEngine) (inputs : List (Input V)) :
    (Mealy.Along step KeepsAcknowledgements engine inputs ↔
      Mealy.Along step AcknowledgementCondition engine inputs) ∧
    (Mealy.Along step AcknowledgementCondition engine inputs →
      ∀ a, Mealy.Along step (fun e i => StaysRegistered e i a) engine inputs →
        (Mealy.run step engine inputs).1.held a +
            acknowledgedCount a (Mealy.run step engine inputs).2 =
          engine.held a + receivedCount a (Mealy.run step engine inputs).2) := by
  have hiff := Mealy.along_iff step (I := fun _ => True) (fun _ _ _ _ => trivial)
    (fun engine input _ => keepsAcknowledgements_iff (V := V) engine input) (s := engine) trivial
    inputs
  exact ⟨hiff, fun h a hstays => run_conserves (hiff.mpr h) hstays⟩

/-- **Not every run keeps the acknowledgements**: a request that fails loses those that it carries, and a
message that is received through Republish has none. -/
theorem runs_not_keepsAcknowledgements :
    let message : NotificationMessage Unit := ⟨1, [.statusChangeNotification .Good]⟩
    let response : Input Unit := .answer 0 (.ok ⟨1, [1], false, message⟩) true
    let failed : Input Unit := .answer 0 (.error { connectionBreak := true }) true
    let registered : Input Unit := .registerSubscription 1 1000 true
    ¬ Mealy.Along step KeepsAcknowledgements new
        [registered, .immediate, response, .immediate, failed] ∧
      ¬ Mealy.Along step KeepsAcknowledgements new [registered, .republished 1 message] := by
  refine ⟨fun h => ?_, fun h => ?_⟩
  · exact absurd (h.2.2.2.2.1 ⟨1, 1⟩ (by unfold StaysRegistered; decide))
      (by unfold Conserves; decide)
  · exact absurd (h.2.1 ⟨1, 1⟩ (by unfold StaysRegistered; decide)) (by unfold Conserves; decide)

end ClientSidePublishEngine

end NodeOpcua
