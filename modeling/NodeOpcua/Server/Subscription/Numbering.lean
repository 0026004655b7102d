import NodeOpcua.Server.MonitoredItem.Sampling
import NodeOpcua.Server.Subscription.Messages

set_option autoImplicit false

/-!
# The numbers of the messages of a subscription

The messages that a subscription sends over its life, to whichever session it belongs, are numbered
consecutively; a message is acknowledged once; and the numbers that are reported as available are
those of the messages that can be sent again. The last holds unless a `TransferredSubscription`
publishes, the count of unacknowledged messages unless old messages are discarded.

## Main definitions

* `Numbered`.
* `SubscriptionLife.TransferredIsSilent`, `MessagesKept`.

## Main results

* `SubscriptionLife.numbering`.
* `SubscriptionLife.unacknowledgedMessageCount_eq`.
-/

namespace NodeOpcua

open Mealy (run_cons_snd trace)

variable {V I : Type}

open SequenceNumberGenerator (MAXVALUE)

/-! ### Responses -/

/-- A keep-alive message has no notification. -/
def PublishResponse.isKeepAlive (r : PublishResponse V) : Bool :=
  r.notificationMessage.notificationData.isEmpty

/-- The response that a session gets. -/
def SubscriptionOutput.response? : SubscriptionOutput V → Option (ℕ × PublishResponse V)
  | .response session r => some (session, r)
  | _ => none

/-- The responses to all the sessions. -/
def responses (outputs : List (SubscriptionOutput V)) : List (PublishResponse V) :=
  (outputs.filterMap SubscriptionOutput.response?).map Prod.snd

/-- The responses to one session. -/
def received (session : ℕ) (outputs : List (SubscriptionOutput V)) : List (PublishResponse V) :=
  ((outputs.filterMap SubscriptionOutput.response?).filter fun r => r.1 = session).map Prod.snd

/-- How many messages with notifications there are. -/
def messages (rs : List (PublishResponse V)) : ℕ := rs.countP fun r => !r.isKeepAlive

/-- How many messages with notifications have the number. -/
def published (n : ℕ) (rs : List (PublishResponse V)) : ℕ :=
  rs.countP fun r => !r.isKeepAlive && r.notificationMessage.sequenceNumber = n

/-- How often the number was acknowledged with `Good`. -/
def acknowledgedGood (n : ℕ) (outputs : List (SubscriptionOutput V)) : ℕ :=
  outputs.countP fun
    | .acknowledged sequenceNumber statusCode => sequenceNumber = n && statusCode = .Good
    | _ => false

/-- The numbers that are reported as available. -/
def SubscriptionOutput.availableSequenceNumbers? : SubscriptionOutput V → Option (List ℕ)
  | .response _ r => some r.availableSequenceNumbers
  | .transferResult availableSequenceNumbers => some availableSequenceNumbers
  | _ => none

/-- **Consecutive numbers**, after `k` messages: the next one has the number `k + 1`, up to the wrap
of the generator, and the keep-alive messages before it have that number too. -/
def Numbered : ℕ → List (PublishResponse V) → Prop
  | _, [] => True
  | k, r :: rs =>
    r.notificationMessage.sequenceNumber = 1 + k % MAXVALUE ∧
      Numbered (if r.isKeepAlive then k else k + 1) rs

lemma responses_append (as bs : List (SubscriptionOutput V)) :
    responses (as ++ bs) = responses as ++ responses bs := by
  simp [responses]

lemma acknowledgedGood_append (n : ℕ) (as bs : List (SubscriptionOutput V)) :
    acknowledgedGood n (as ++ bs) = acknowledgedGood n as + acknowledgedGood n bs :=
  List.countP_append

lemma numbered_append {k : ℕ} {as bs : List (PublishResponse V)} :
    Numbered k (as ++ bs) ↔ Numbered k as ∧ Numbered (k + messages as) bs := by
  induction as generalizing k with
  | nil => simp [Numbered, messages]
  | cons r as ih =>
    have hcount : (if r.isKeepAlive then k else k + 1) + messages as = k + messages (r :: as) := by
      unfold messages
      rw [List.countP_cons]
      cases r.isKeepAlive <;> simp [Nat.add_assoc, Nat.add_comm]
    rw [List.cons_append, Numbered, Numbered, ih, hcount, and_assoc]

lemma Numbered.published_le {rs : List (PublishResponse V)} {k n : ℕ} (h : Numbered k rs)
    (hwrap : k + messages rs ≤ MAXVALUE) :
    published n rs ≤ if n ≤ k then 0 else 1 := by
  induction rs generalizing k with
  | nil => exact Nat.zero_le _
  | cons r rs ih =>
    obtain ⟨hnum, h⟩ := h
    unfold published messages at *
    rw [List.countP_cons] at hwrap ⊢
    cases hkeep : r.isKeepAlive with
    | true =>
      simp only [hkeep, if_true, Bool.not_true, Bool.false_and, Bool.false_eq_true, if_false,
        Nat.add_zero] at h hwrap ⊢
      exact ih h hwrap
    | false =>
      simp only [hkeep, Bool.false_eq_true, if_false, Bool.not_false, Bool.true_and, if_true,
        decide_eq_true_eq] at h hwrap ⊢
      have hrest := ih h (by omega)
      have hmod : k % MAXVALUE = k := Nat.mod_eq_of_lt (by omega)
      split_ifs at hrest ⊢ <;> omega

/-! ### Steps -/

/-- The generator after `k` messages. -/
lemma SequenceNumberGenerator.next_count {g : SequenceNumberGenerator} {k : ℕ}
    (h : g._counter = 1 + k % MAXVALUE) : g.next.2._counter = 1 + (k + 1) % MAXVALUE := by
  unfold next
  simp only [h, MAXVALUE]
  split_ifs <;> omega

namespace Subscription

lemma foundIndex_some {α : Type} {p : α → Bool} {l : List α} {i : ℕ}
    (h : foundIndex p l = some i) :
    ∃ as a bs, l = as ++ a :: bs ∧ p a = true ∧ l.eraseIdx i = as ++ bs := by
  induction l generalizing i with
  | nil => cases h
  | cons b l ih =>
    unfold foundIndex at h
    split at h
    next j hj =>
      obtain ⟨as, a, bs, rfl, ha, herase⟩ := ih hj
      cases h
      exact ⟨b :: as, a, bs, rfl, ha, congrArg (b :: ·) herase⟩
    next hnone =>
      split_ifs at h with hb
      cases h
      exact ⟨[], b, l, rfl, hb, rfl⟩

end Subscription

namespace Retransmission

lemma responses_response (session : ℕ) (r : Option (PublishResponse V)) :
    responses (response session r) = r.toList := by
  cases r <;> rfl

lemma responses_tick (session : ℕ) (r : Option (PublishResponse V)) (expired : Bool) :
    responses (response session r ++ if expired then [.expired] else []) = r.toList := by
  cases r <;> cases expired <;> rfl

lemma acknowledgedGood_response (n session : ℕ) (r : Option (PublishResponse V)) :
    acknowledgedGood n (response session r) = 0 := by
  cases r <;> rfl

variable {q q' : Retransmission V}

lemma Answer.numbered {r : Option (PublishResponse V)}
    (h : Answer q r q') {k : ℕ} (hk : q.generator._counter = 1 + k % MAXVALUE) :
    Numbered k r.toList ∧ q'.generator._counter = 1 + (k + messages r.toList) % MAXVALUE := by
  cases h with
  | silent => exact ⟨trivial, hk⟩
  | keepAlive subId => exact ⟨⟨hk, trivial⟩, hk⟩
  | publish subId moreNotifications data hdata =>
    refine ⟨⟨hk, trivial⟩, ?_⟩
    have hmessages : ∀ r : PublishResponse V, r.notificationMessage.notificationData = data →
        messages (some r).toList = 1 := by
      intro r hr
      simp [messages, PublishResponse.isKeepAlive, hr, hdata]
    rw [hmessages]
    · exact SequenceNumberGenerator.next_count hk
    · rfl

variable {outputs : List (SubscriptionOutput V)} {event : SubscriptionEvent V I} {session : ℕ}

section

variable (h : Step session q event outputs q')
include h

lemma Step.numbered {k : ℕ} (hk : q.generator._counter = 1 + k % MAXVALUE) :
    Numbered k (responses outputs) ∧
      q'.generator._counter = 1 + (k + messages (responses outputs)) % MAXVALUE := by
  cases h with
  | answer h =>
    rw [responses_response]
    exact h.numbered hk
  | tick hevent h expired =>
    rw [responses_tick]
    exact h.numbered (q := q.discard) hk
  | feedTransferred transferred subId =>
    exact ⟨⟨hk, trivial⟩, SequenceNumberGenerator.next_count hk⟩
  | _ => exact ⟨trivial, hk⟩

lemma Step.messages_le :
    messages (responses outputs) ≤ 1 := by
  refine List.countP_le_length.trans ?_
  have hans : ∀ r : Option (PublishResponse V), r.toList.length ≤ 1 := by
    intro r
    cases r with
    | none => exact Nat.zero_le 1
    | some r => exact Nat.le_refl 1
  cases h with
  | @answer _ r _ h => exact responses_response session r ▸ hans r
  | @tick _ r _ hevent h expired => exact responses_tick session r expired ▸ hans r
  | feedTransferred => exact Nat.le_refl 1
  | _ => exact Nat.zero_le 1

lemma Step.count_eq
    (htick : isTick event → q.sent.length ≤ Subscription.maxNotificationMessagesInQueue)
    (hdispose : event = .dispose → q.sent = []) (hcount : q.count = q.sent.length) :
    q'.count = q'.sent.length := by
  have hans : ∀ {q q' : Retransmission V} {r}, Answer q r q' → q.count = q.sent.length →
      q'.count = q'.sent.length := by
    intro q q' r h hcount
    cases h with
    | publish => simp [publish, hcount]
    | _ => exact hcount
  cases h with
  | answer h => exact hans h hcount
  | tick hevent h expired =>
    refine hans h ?_
    unfold discard
    rw [Nat.sub_eq_zero_of_le (htick hevent), List.drop_zero]
    exact hcount
  | acknowledge n h =>
    obtain ⟨as, a, bs, hsent, -, herase⟩ := Subscription.foundIndex_some h
    have hlen : (q.sent.length : ℤ) - 1 = (as ++ bs).length := by
      rw [hsent, List.length_append, List.length_append, List.length_cons]
      omega
    rw [hcount, herase, hlen]
  | dispose => rw [hcount, hdispose rfl]
  | _ => exact hcount

lemma Step.acknowledged_le (n : ℕ) :
    acknowledgedGood n outputs + q'.available.count n ≤
      q.available.count n + published n (responses outputs) := by
  have hans : ∀ {q q' : Retransmission V} {r}, Answer q r q' →
      q'.available.count n ≤ q.available.count n + published n r.toList := by
    intro q q' r h
    cases h with
    | publish subId moreNotifications data hdata =>
      simp only [available, publish, message, List.map_append, List.map_cons, List.map_nil,
        List.count_append, Option.toList_some, published, PublishResponse.isKeepAlive]
      simp [List.count_singleton, List.countP_cons, hdata]
    | _ => exact Nat.le_add_right _ _
  cases h with
  | answer h =>
    rw [responses_response, acknowledgedGood_response, Nat.zero_add]
    exact hans h
  | tick hevent h expired =>
    rw [responses_tick, acknowledgedGood_append, acknowledgedGood_response]
    have hexp : acknowledgedGood n
        (if expired = true then [SubscriptionOutput.expired (V := V)] else []) = 0 := by
      cases expired <;> rfl
    have hdiscard : q.discard.available.count n ≤ q.available.count n :=
      ((List.drop_sublist _ _).map _).count_le n
    have := hans h
    omega
  | acknowledge m h =>
    obtain ⟨as, a, bs, hsent, ha, herase⟩ := Subscription.foundIndex_some h
    have hnum : a.sequenceNumber = m := of_decide_eq_true ha
    simp only [available, herase]
    simp only [hsent, List.map_append, List.map_cons, List.count_append,
      List.count_cons, hnum]
    have hgood : acknowledgedGood n [.acknowledged (V := V) m .Good] = if m = n then 1 else 0 := by
      simp [acknowledgedGood, List.countP_cons]
    simp only [beq_iff_eq]
    omega
  | unknown m h =>
    have hbad : acknowledgedGood n [.acknowledged (V := V) m .BadSequenceNumberUnknown] = 0 := by
      simp [acknowledgedGood, StatusCode.BadSequenceNumberUnknown, StatusCode.Good]
    rw [hbad, Nat.zero_add]
    exact Nat.le_add_right _ _
  | dispose => exact Nat.zero_le _
  | _ => exact (Nat.zero_add _).trans_le (Nat.le_add_right _ _)

lemma Step.available_eq (hevent : ∀ transferred, event ≠ .feedTransferred transferred) :
    ∀ output ∈ outputs, ∀ ns ∈ output.availableSequenceNumbers?, ns = q'.available := by
  have hans : ∀ {q q' : Retransmission V} {r}, Answer q r q' →
      ∀ output ∈ response session r, ∀ ns ∈ output.availableSequenceNumbers?,
        ns = q'.available := by
    intro q q' r h output hout ns hns
    cases h with
    | silent => cases hout
    | _ =>
      obtain rfl := List.mem_singleton.mp hout
      exact (Option.some.inj hns).symm
  intro output hout ns hns
  cases h with
  | answer h => exact hans h output hout ns hns
  | tick hevent h expired =>
    rcases List.mem_append.mp hout with hout | hout
    · exact hans h output hout ns hns
    · cases expired
      · cases hout
      · obtain rfl := List.mem_singleton.mp hout
        cases hns
  | feedTransferred transferred subId => exact absurd rfl (hevent transferred)
  | dispose => cases hout
  | transferResult =>
    obtain rfl := List.mem_singleton.mp hout
    exact (Option.some.inj hns).symm
  | _ =>
    obtain rfl := List.mem_singleton.mp hout
    cases hns

lemma Step.received_eq (hevent : ∀ transferred, event ≠ .feedTransferred transferred) :
    received session outputs = responses outputs := by
  have hans : ∀ r : Option (PublishResponse V),
      received session (response session r) = responses (response session r) := by
    intro r
    cases r with
    | none => rfl
    | some r => simp [received, responses, response, SubscriptionOutput.response?]
  cases h with
  | @answer _ r _ h => exact hans r
  | @tick _ r _ hevent h expired =>
    have hexp : ∀ output ∈ (if expired = true then [SubscriptionOutput.expired (V := V)] else []),
        output.response? = none := by
      cases expired <;> simp [SubscriptionOutput.response?]
    have hr := hans r
    unfold received responses at hr ⊢
    rw [List.filterMap_append, List.filterMap_eq_nil_iff.mpr hexp, List.append_nil]
    exact hr
  | feedTransferred transferred subId => exact absurd rfl (hevent transferred)
  | _ => rfl

end

end Retransmission

lemma Subscription.mem_available_iff (s : Subscription V I) (n : ℕ) :
    n ∈ s.getAvailableSequenceNumbers ↔ (s.getMessageForSequenceNumber n).isSome = true := by
  simp [Subscription.getAvailableSequenceNumbers, Subscription.getMessageForSequenceNumber]

/-! ### Runs -/

namespace SubscriptionLife

open Retransmission (Step isTick)

variable [MonitoredItemInterface V I]

section

variable (l : SubscriptionLife V I) (event : SubscriptionEvent V I)

/-- No `TransferredSubscription` publishes. -/
def TransferredIsSilent : Prop :=
  ∀ session ∈ l.transferred, event ≠ .feedTransferred session

/-- No message that was sent is thrown away without its acknowledgement: a tick finds at most a
hundred of them, `dispose` none. -/
def MessagesKept : Prop :=
  (isTick event → l.subscription.state ≠ .CLOSED →
    l.subscription._sent_notification_messages.length ≤
      Subscription.maxNotificationMessagesInQueue) ∧
  (event = .dispose → l.subscription.state = .CLOSED →
    l.subscription._pending_notifications = [] →
    l.subscription._sent_notification_messages = [])

end

/-- The number of the next message is not the last one before the wrap. -/
def NumberIsNotLast (l : SubscriptionLife V I) (_ : SubscriptionEvent V I) : Prop :=
  l.subscription._sequence_number_generator._counter < MAXVALUE

variable {l : SubscriptionLife V I}

lemma run_numbered {k : ℕ}
    (hk : l.subscription._sequence_number_generator._counter = 1 + k % MAXVALUE)
    (events : List (SubscriptionEvent V I)) :
    Numbered k (responses (Mealy.run step l events).2) ∧
      (Mealy.run step l events).1.subscription._sequence_number_generator._counter =
        1 + (k + messages (responses (Mealy.run step l events).2)) % MAXVALUE := by
  induction events generalizing l k with
  | nil => exact ⟨trivial, hk⟩
  | cons event events ih =>
    obtain ⟨hout, hnext⟩ := (l.step_retransmission event).numbered hk
    obtain ⟨hrest, hlast⟩ := ih hnext
    have hmessages : messages (responses (Mealy.run step l (event :: events)).2) =
        messages (responses (l.step event).2) +
          messages (responses (Mealy.run step (l.step event).1 events).2) := by
      rw [run_cons_snd, responses_append]
      exact List.countP_append
    rw [hmessages, ← Nat.add_assoc]
    refine ⟨?_, hlast⟩
    rw [run_cons_snd, responses_append]
    exact numbered_append.mpr ⟨hout, hrest⟩

variable {event : SubscriptionEvent V I}

/-- What a step reports when no `TransferredSubscription` publishes. -/
lemma step_reports (h : l.TransferredIsSilent event) :
    received l.session (l.step event).2 = responses (l.step event).2 ∧
      ∀ output ∈ (l.step event).2, ∀ ns ∈ output.availableSequenceNumbers?,
        ns = (l.step event).1.subscription.getAvailableSequenceNumbers := by
  by_cases hevent : ∃ session, event = .feedTransferred session
  · obtain ⟨session, rfl⟩ := hevent
    have hmem : session ∉ l.transferred := fun hmem => h session hmem rfl
    have hstep : l.step (.feedTransferred session) = (l, []) := if_neg hmem
    rw [hstep]
    exact ⟨rfl, fun output hout => absurd hout List.not_mem_nil⟩
  · have hevent : ∀ session, event ≠ .feedTransferred session := fun session heq =>
      hevent ⟨session, heq⟩
    have hstep := l.step_retransmission event
    exact ⟨hstep.received_eq hevent, hstep.available_eq hevent⟩

variable {events : List (SubscriptionEvent V I)}

lemma run_received (h : Mealy.Along step TransferredIsSilent l events) {session : ℕ}
    (hsess : ∀ q ∈ trace step l events, q.1.session = session) :
    received session (Mealy.run step l events).2 = responses (Mealy.run step l events).2 := by
  induction events generalizing l with
  | nil => rfl
  | cons event events ih =>
    rw [Mealy.trace_cons, List.forall_mem_cons] at hsess
    obtain ⟨hfirst, hrest⟩ := hsess
    have hhead := (step_reports h.1).1
    have htail := ih h.2 hrest
    rw [show l.session = session from hfirst] at hhead
    have happend : ∀ as bs : List (SubscriptionOutput V),
        received session (as ++ bs) = received session as ++ received session bs := by
      intro as bs
      simp [received]
    rw [run_cons_snd, happend, responses_append, hhead, htail]

/-- **Well numbered lives**: the messages have consecutive numbers, over all the sessions and for
each session while it has the subscription; the numbers that are reported as available are those of
the messages that can be sent again. -/
structure WellNumbered (l : SubscriptionLife V I) (events : List (SubscriptionEvent V I)) :
    Prop where
  numbered : Numbered 0 (responses (Mealy.run step l events).2)
  owner : ∀ before during after, events = before ++ during ++ after → ∀ owner,
    (∀ q ∈ trace step (Mealy.run step l before).1 during, q.1.session = owner) →
    ∃ k, Numbered k (received owner (Mealy.run step (Mealy.run step l before).1 during).2)
  available : ∀ q ∈ trace step l events, ∀ output ∈ (step q.1 q.2).2,
    ∀ ns ∈ output.availableSequenceNumbers?, ∀ n,
      n ∈ ns ↔ ((step q.1 q.2).1.subscription.getMessageForSequenceNumber n).isSome = true

/-- **Numbering**. A life in which no `TransferredSubscription` publishes is well numbered. -/
theorem numbering {id priority : ℕ} {parameters : RevisedParameters} {publishingEnabled : Bool}
    {session : ℕ} {events : List (SubscriptionEvent V I)}
    (h : Mealy.Along step TransferredIsSilent
      (new id priority parameters publishingEnabled session) events) :
    WellNumbered (new id priority parameters publishingEnabled session) events := by
  let l : SubscriptionLife V I := new id priority parameters publishingEnabled session
  have hfirst : l.subscription._sequence_number_generator._counter = 1 + 0 % MAXVALUE := rfl
  refine ⟨(run_numbered hfirst events).1, ?_, ?_⟩
  · rintro before during after rfl owner howner
    obtain ⟨halong, -⟩ := (Mealy.along_append step).mp h
    obtain ⟨-, hduring⟩ := (Mealy.along_append step).mp halong
    obtain ⟨-, hbefore⟩ := run_numbered hfirst before
    rw [run_received hduring howner]
    exact ⟨_, (run_numbered hbefore during).1⟩
  · refine Mealy.trace_forall step (I := fun _ => True) (A := TransferredIsSilent)
      (P := fun l event => ∀ output ∈ (step l event).2, ∀ ns ∈ output.availableSequenceNumbers?,
        ∀ n, n ∈ ns ↔ ((step l event).1.subscription.getMessageForSequenceNumber n).isSome = true)
      (fun _ _ _ _ => trivial) (fun l event _ ha output hout ns hns n => ?_) trivial h
    rw [(step_reports ha).2 output hout ns hns]
    exact Subscription.mem_available_iff _ n

lemma run_acknowledged_le (l : SubscriptionLife V I) (events : List (SubscriptionEvent V I))
    (n : ℕ) :
    acknowledgedGood n (Mealy.run step l events).2 +
        (Mealy.run step l events).1.subscription.retransmission.available.count n ≤
      l.subscription.retransmission.available.count n +
        published n (responses (Mealy.run step l events).2) := by
  induction events generalizing l with
  | nil => exact (Nat.zero_add _).trans_le (Nat.le_add_right _ _)
  | cons event events ih =>
    have hstep := (l.step_retransmission event).acknowledged_le n
    have hrest := ih (l.step event).1
    have happend : published n (responses (Mealy.run step l (event :: events)).2) =
        published n (responses (l.step event).2) +
          published n (responses (Mealy.run step (l.step event).1 events).2) := by
      rw [run_cons_snd, responses_append]
      exact List.countP_append
    rw [happend, run_cons_snd, acknowledgedGood_append, Mealy.run_cons_fst]
    omega

lemma responses_run_cons (l : SubscriptionLife V I) (event : SubscriptionEvent V I)
    (events : List (SubscriptionEvent V I)) :
    responses (Mealy.run step l (event :: events)).2 =
      responses (l.step event).2 ++ responses (Mealy.run step (l.step event).1 events).2 := by
  rw [run_cons_snd, responses_append]

lemma run_messages_lt {k : ℕ}
    (hk : l.subscription._sequence_number_generator._counter = 1 + k) (hlt : k < MAXVALUE)
    (h : Mealy.Along step NumberIsNotLast l events) :
    k + messages (responses (Mealy.run step l events).2) < MAXVALUE := by
  induction events generalizing l k with
  | nil => exact hlt
  | cons event events ih =>
    have hstep := l.step_retransmission event
    have hlast : k + 1 < MAXVALUE := by
      have := h.1
      unfold NumberIsNotLast at this
      omega
    have hle := hstep.messages_le
    obtain ⟨-, hnext⟩ := hstep.numbered (k := k) (by rw [Nat.mod_eq_of_lt hlt]; exact hk)
    rw [Nat.mod_eq_of_lt (by omega)] at hnext
    have hrest := ih hnext (by omega) h.2
    have happend : messages (responses (Mealy.run step l (event :: events)).2) =
        messages (responses (l.step event).2) +
          messages (responses (Mealy.run step (l.step event).1 events).2) := by
      rw [responses_run_cons]
      exact List.countP_append
    omega

lemma step_count_eq (h : l.MessagesKept event) (hcount : l.subscription.unacknowledgedMessageCount =
      l.subscription._sent_notification_messages.length) :
    (l.step event).1.subscription.unacknowledgedMessageCount =
      (l.step event).1.subscription._sent_notification_messages.length := by
  have hstep := l.step_retransmission event
  rcases l.step_cases event with ⟨session, -, rfl, -⟩ | ⟨-, n, rfl, -⟩ |
    ⟨hclo, hpend, rfl, -⟩ | ⟨hopen, hopenStep⟩ | hnone
  · exact hstep.count_eq (fun hevent => hevent.elim) (fun hevent => nomatch hevent) hcount
  · exact hstep.count_eq (fun hevent => hevent.elim) (fun hevent => nomatch hevent) hcount
  · exact hstep.count_eq (fun hevent => hevent.elim) (fun hevent => h.2 hevent hclo hpend)
      hcount
  · by_cases hdispose : event = .dispose
    · subst hdispose
      rw [hopenStep]
      exact hcount
    · exact hstep.count_eq (fun hevent => h.1 hevent hopen) (fun hevent => absurd hevent hdispose)
        hcount
  · rw [hnone]
    exact hcount

/-- **Well counted lives**: the count of unacknowledged messages is the number of messages that are
kept. A number is acknowledged with `Good` at most as often as it was given to a message, which is at
most once before the wrap. -/
structure WellCounted (l : SubscriptionLife V I) (events : List (SubscriptionEvent V I)) :
    Prop where
  count_eq : (Mealy.run step l events).1.subscription.unacknowledgedMessageCount =
    (Mealy.run step l events).1.subscription._sent_notification_messages.length
  acknowledged_le : ∀ n, acknowledgedGood n (Mealy.run step l events).2 ≤
    published n (responses (Mealy.run step l events).2)
  acknowledged_once : Mealy.Along step NumberIsNotLast l events →
    ∀ n, acknowledgedGood n (Mealy.run step l events).2 ≤ 1

/-- **The count of unacknowledged messages**. A life in which the messages are kept until they are
acknowledged is well counted. -/
theorem unacknowledgedMessageCount_eq {id priority : ℕ} {parameters : RevisedParameters}
    {publishingEnabled : Bool} {session : ℕ} {events : List (SubscriptionEvent V I)}
    (h : Mealy.Along step MessagesKept
      (new id priority parameters publishingEnabled session) events) :
    WellCounted (new id priority parameters publishingEnabled session) events := by
  let l : SubscriptionLife V I := new id priority parameters publishingEnabled session
  have hacknowledged : ∀ n, acknowledgedGood n (Mealy.run step l events).2 ≤
      published n (responses (Mealy.run step l events).2) := by
    intro n
    have hle := l.run_acknowledged_le events n
    have hnone : l.subscription.retransmission.available.count n = 0 := rfl
    rw [hnone, Nat.zero_add] at hle
    exact le_of_add_le_left hle
  refine ⟨?_, hacknowledged, fun hwrap n => ?_⟩
  · exact Mealy.run_invariant step
      (I := fun l : SubscriptionLife V I => l.subscription.unacknowledgedMessageCount =
        l.subscription._sent_notification_messages.length)
      (fun l event hcount hkept => step_count_eq hkept hcount) rfl h
  · have hnum := (run_numbered (l := l) (k := 0) rfl events).1
    have hmessages := run_messages_lt (l := l) (k := 0) rfl (by decide) hwrap
    have hpub := hnum.published_le (n := n) (by omega)
    refine (hacknowledged n).trans (hpub.trans ?_)
    split_ifs
    · exact Nat.zero_le 1
    · exact Nat.le_refl 1

/-! ### Subscriptions to the value of a variable -/

/-- A subscription with the default publishing interval. -/
def ofSession (session maxKeepAliveCount maxNotificationsPerPublish : ℕ) :
    SubscriptionLife ScalarVariant (MonitoredItem ScalarVariant) :=
  new 1 0 (.adjust none maxKeepAliveCount 0 maxNotificationsPerPublish) true session

/-- An item in the mode that has queued the values. -/
def itemWithValues (monitoringMode : MonitoringMode) (values : List ℤ) :
    MonitoredItem ScalarVariant :=
  match (MonitoredItem.new 1 valueOfVariable (tenNotifications 0)).bind fun item =>
    values.foldlM (fun item value => item._enqueue_value { value := some value })
      { item with monitoringMode } with
  | .ok item | .error item => item

/-- The status change is published with a request of the session that loses the subscription. -/
theorem numbering_transfer :
    WellNumbered (ofSession 1 10 0)
      [.createMonitoredItem 1 (itemWithValues .Reporting [5, 6]), .timerTick 1, .transfer 2 1,
        .timerTick 1, .republish 2, .transferResult] :=
  numbering ⟨fun _ _ => nofun, fun _ _ => nofun, fun _ _ => nofun, fun _ _ => nofun,
    fun _ _ => nofun, fun _ _ => nofun, trivial⟩

/-- **A `TransferredSubscription`** reports its message as available, which cannot be sent again. -/
theorem numbering_feedTransferred :
    ¬ ∀ (id priority : ℕ) (parameters : RevisedParameters) (publishingEnabled : Bool) (session : ℕ)
      (events : List (SubscriptionEvent ScalarVariant (MonitoredItem ScalarVariant))),
      WellNumbered (new id priority parameters publishingEnabled session) events := by
  intro h
  have havailable := (h 1 0 (.adjust none 10 0 0) true 1
    [.transfer 2 0, .feedTransferred 1]).available _ (.tail _ (.head _)) _ (.head _) _ rfl 1
  revert havailable
  decide +kernel

/-- A value is published and acknowledged. -/
theorem unacknowledgedMessageCount_eq_acknowledge :
    WellCounted (ofSession 1 10 0)
      [.createMonitoredItem 1 (itemWithValues .Reporting [5]), .timerTick 1, .acknowledge 1,
        .acknowledge 1] :=
  unacknowledgedMessageCount_eq ⟨⟨fun _ _ => by decide +kernel, nofun⟩,
    ⟨fun _ _ => by decide +kernel, nofun⟩, ⟨nofun, nofun⟩, ⟨nofun, nofun⟩, trivial⟩

/-- **Discarded messages** stay in the count: after a hundred and one messages without an
acknowledgement a tick throws the first one away. -/
theorem unacknowledgedMessageCount_discard :
    ¬ ∀ (id priority : ℕ) (parameters : RevisedParameters) (publishingEnabled : Bool) (session : ℕ)
      (events : List (SubscriptionEvent ScalarVariant (MonitoredItem ScalarVariant))),
      WellCounted (new id priority parameters publishingEnabled session) events := by
  intro h
  have hcount := (h 1 0 (.adjust none 10 0 0) true 1
    ([.createMonitoredItem 1 (itemWithValues .Reporting [])] ++
      (List.replicate 101 [.monitoredItemChange 1 (itemWithValues .Reporting [5]),
        .timerTick 1]).flatten ++ [.timerTick 0])).count_eq
  revert hcount
  decide +kernel

end SubscriptionLife

end NodeOpcua
