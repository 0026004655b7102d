import NodeOpcua.Library.Consecutive
import NodeOpcua.Library.Mealy
import NodeOpcua.Server.Notification

set_option autoImplicit false

/-!
# Republish after a reconnection

When a client has connected again, it asks the server for the messages it has missed: for the number
after the last one it has received, and so on until the server does not have the message.

## Main definitions

* `RepublishSystem`, `_sendRepublish`, `_republish`, `RepublishSystem.KeepsRepublish`,
  `RepublishSystem.RepublishCondition`.

## Design

* The server numbers its messages from one. A keep-alive message has the number of the next message. The
  numbers do not roll over.
* The server may discard the oldest messages at any time, and discards those that are acknowledged.
* The loop runs for a number of iterations before something interrupts it, if it has not ended by then:
  the connection is lost again, an error is answered, or the session is closed. No Publish request is
  pending meanwhile.
-/

namespace NodeOpcua

open NotificationMessage (sequenceNumber)

variable {V : Type}

/-! ### The loop -/

/-- `onNotificationMessage`, as far as the number is concerned. -/
def onNotificationMessage (notificationMessage : NotificationMessage V) : ℤ :=
  notificationMessage.sequenceNumber

/-- **`_sendRepublish`**: the message that the server answers with, or nothing when it answers
`BadMessageNotAvailable`. -/
def _sendRepublish (retained : List (NotificationMessage V)) (lastSequenceNumber : ℤ) :
    Option (NotificationMessage V) :=
  retained.find? fun message => (message.sequenceNumber : ℤ) = lastSequenceNumber + 1

/-- What the loop leaves: the last number, the messages it has handed over, and whether it is done. -/
structure RepublishResult (V : Type) where
  lastSequenceNumber : ℤ
  delivered : List (NotificationMessage V)
  isDone : Bool
  deriving DecidableEq

/-- **`_republish`**, for a number of iterations. -/
def _republish (retained : List (NotificationMessage V)) : ℕ → ℤ → RepublishResult V
  | 0, lastSequenceNumber => ⟨lastSequenceNumber, [], false⟩
  | iterations + 1, lastSequenceNumber =>
    match _sendRepublish retained lastSequenceNumber with
    | none => ⟨lastSequenceNumber, [], true⟩
    | some message =>
      let rest := _republish retained iterations (onNotificationMessage message)
      { rest with delivered := message :: rest.delivered }

/-- **A subscription**: the next number and the messages that are retained for retransmission at the
server; and the last number and the acknowledgements at the client, with whether it is connected and the
numbers of the messages with data that it has received. -/
structure RepublishSystem (V : Type) where
  nextSequenceNumber : ℕ
  retained : List (NotificationMessage V)
  lastSequenceNumber : ℤ
  subscriptionAcknowledgements : List ℕ
  connected : Bool
  received : List ℕ
  deriving DecidableEq

namespace RepublishSystem

/-- A new subscription. -/
def new : RepublishSystem V where
  nextSequenceNumber := 1
  retained := []
  lastSequenceNumber := -1
  subscriptionAcknowledgements := []
  connected := true
  received := []

/-- What may happen: the server answers a Publish request, with a keep-alive message when there is no
data; the acknowledgements reach the server; the server discards the messages below a number; the
connection is lost; or the client connects again, and the loop runs. -/
inductive Input (V : Type)
  | publish (notificationData : List (NotificationData V))
  | acknowledge
  | forget (oldest : ℕ)
  | connectionLost
  | reconnect (iterations : ℕ) (resumes : Bool)

section

variable (s : RepublishSystem V) (message : NotificationMessage V)

/-- The client receives a message of a Publish response. One with data is acknowledged. -/
def receive : RepublishSystem V :=
  if message.notificationData.length ≠ 0 then
    { s with
      lastSequenceNumber := onNotificationMessage message
      subscriptionAcknowledgements := s.subscriptionAcknowledgements ++ [message.sequenceNumber]
      received := s.received ++ [message.sequenceNumber] }
  else { s with lastSequenceNumber := onNotificationMessage message }

/-- The server sends a message, and retains it when it has data. -/
def send : RepublishSystem V :=
  if message.notificationData.length ≠ 0 then
    { s with
      nextSequenceNumber := s.nextSequenceNumber + 1
      retained := s.retained ++ [message] }
  else s

end

/-- **The step**. A message that is sent while there is no connection is not received. -/
def step (s : RepublishSystem V) :
    Input V → RepublishSystem V × List (NotificationMessage V)
  | .publish notificationData =>
    let message : NotificationMessage V := ⟨s.nextSequenceNumber, notificationData⟩
    if s.connected then ((s.send message).receive message, [message]) else (s.send message, [])
  | .acknowledge =>
    if s.connected then
      ({ s with
          retained := s.retained.filter fun message =>
            message.sequenceNumber ∉ s.subscriptionAcknowledgements
          subscriptionAcknowledgements := [] }, [])
    else (s, [])
  | .forget oldest =>
    ({ s with retained := s.retained.filter fun message => oldest ≤ message.sequenceNumber }, [])
  | .connectionLost => ({ s with connected := false }, [])
  | .reconnect iterations resumes =>
    if s.connected then (s, [])
    else
      let result := _republish s.retained iterations s.lastSequenceNumber
      ({ s with
          lastSequenceNumber := result.lastSequenceNumber
          connected := result.isDone || resumes
          received := s.received ++ result.delivered.map (·.sequenceNumber) }, result.delivered)

/-! ### What is expected of a step -/

/-- The messages that the server retains and the client has not received. -/
def lost (s : RepublishSystem V) : List (NotificationMessage V) :=
  s.retained.filter fun message => message.sequenceNumber ∉ s.received

/-- **What is expected of the loop**: it hands over the lost messages from the first one on, in
increasing order and each once, and all of them when it ends by itself; it ends at a number that the
server does not have; and it ends when it may run for long enough. -/
structure HandsOver (s : RepublishSystem V) (iterations : ℕ) (result : RepublishResult V) : Prop where
  delivered : result.delivered <+: s.lost
  complete : result.isDone = true → result.delivered = s.lost
  increasing : result.delivered.Pairwise fun a b => a.sequenceNumber < b.sequenceNumber
  stops : result.isDone = true →
    ∀ message ∈ s.retained, (message.sequenceNumber : ℤ) ≠ result.lastSequenceNumber + 1
  ends : s.retained.length < iterations → result.isDone = true

/-- **What is expected of a step**: the loop hands over what is expected. -/
def KeepsRepublish (s : RepublishSystem V) : Input V → Prop
  | .reconnect iterations _ => s.connected = false →
    s.HandsOver iterations (_republish s.retained iterations s.lastSequenceNumber)
  | _ => True

/-- **The condition of a step**: a loop that asks at all starts when no message is lost, or when the
first lost message has the number after the last one that was received. -/
def RepublishCondition (s : RepublishSystem V) : Input V → Prop
  | .reconnect iterations _ => s.connected = false → iterations ≠ 0 →
    ∀ message ∈ s.lost.head?, (message.sequenceNumber : ℤ) = s.lastSequenceNumber + 1
  | _ => True

/-! ### The invariant -/

/-- The retained messages from a number on. -/
def ahead (s : RepublishSystem V) (n : ℕ) : List (NotificationMessage V) :=
  s.retained.filter fun message => n ≤ message.sequenceNumber

/-- **The invariant of all runs**: the retained messages have increasing numbers below the next one;
what was received and acknowledged does not exceed the last number; and the messages after that are
numbered consecutively up to the next one. -/
structure Invariant (s : RepublishSystem V) : Prop where
  sorted : s.retained.Pairwise fun a b => a.sequenceNumber < b.sequenceNumber
  below : ∀ message ∈ s.retained, message.sequenceNumber < s.nextSequenceNumber
  last_le : s.lastSequenceNumber ≤ s.nextSequenceNumber
  le_last : -1 ≤ s.lastSequenceNumber
  received_le : ∀ number ∈ s.received, (number : ℤ) ≤ s.lastSequenceNumber
  acknowledged : ∀ number ∈ s.subscriptionAcknowledgements, number ∈ s.received
  consecutive : ∀ n : ℕ, s.lastSequenceNumber < n → n ≤ s.nextSequenceNumber →
    ∃ m, m + (s.ahead n).length = s.nextSequenceNumber ∧
      Consecutive.From sequenceNumber m (s.ahead n)

lemma invariant_new : (new : RepublishSystem V).Invariant where
  sorted := .nil
  below := by simp [new]
  last_le := by simp [new]
  le_last := Int.le_refl _
  received_le := by simp [new]
  acknowledged := by simp [new]
  consecutive n hn hle := ⟨1, rfl, trivial⟩

variable {s : RepublishSystem V}

lemma ahead_eq_nil {n : ℕ}
    (h : ∀ msg ∈ s.retained, msg.sequenceNumber < n) : s.ahead n = [] := by
  refine List.filter_eq_nil_iff.mpr fun msg hmsg => ?_
  have := h msg hmsg
  simp only [decide_eq_true_eq]
  omega

/-- **A Publish response** keeps the invariant. -/
lemma invariant_publish (h : s.Invariant) (notificationData : List (NotificationData V)) :
    (step s (.publish notificationData)).1.Invariant := by
  have hbelow := h.below
  have hlast := h.last_le
  have hsorted : (s.retained ++ [(⟨s.nextSequenceNumber, notificationData⟩ :
      NotificationMessage V)]).Pairwise fun a b => a.sequenceNumber < b.sequenceNumber := by
    rw [List.pairwise_append]
    refine ⟨h.sorted, List.pairwise_singleton _ _, fun a ha b hb => ?_⟩
    rw [List.mem_singleton.mp hb]
    exact hbelow a ha
  have hbelow' : ∀ msg ∈ s.retained ++ [(⟨s.nextSequenceNumber, notificationData⟩ :
      NotificationMessage V)], msg.sequenceNumber < s.nextSequenceNumber + 1 := by
    intro msg hmsg
    rcases List.mem_append.mp hmsg with hmsg | hmsg
    · have := hbelow msg hmsg
      omega
    · rw [List.mem_singleton.mp hmsg]
      exact Nat.lt_succ_self _
  have hrecv : ∀ number ∈ s.received, (number : ℤ) ≤ s.nextSequenceNumber :=
    fun number hnum => Int.le_trans (h.received_le number hnum) hlast
  simp only [step]
  by_cases hdata : notificationData.length ≠ 0
  · simp only [send, if_pos hdata]
    cases s.connected with
    | true =>
      simp only [receive, if_pos hdata, if_true, onNotificationMessage]
      exact {
        sorted := hsorted
        below := hbelow'
        last_le := by dsimp only; omega
        le_last := by dsimp only; omega
        received_le := by
          intro number hnum
          rcases List.mem_append.mp hnum with hnum | hnum
          · exact hrecv number hnum
          · obtain rfl := List.mem_singleton.mp hnum
            exact Int.le_refl _
        acknowledged := by
          intro number hnum
          rcases List.mem_append.mp hnum with hnum | hnum
          · exact List.mem_append_left _ (h.acknowledged number hnum)
          · exact List.mem_append_right _ hnum
        consecutive := by
          -- the message that was sent is the last one received
          intro n hn hle
          dsimp only at hn hle
          rw [ahead_eq_nil fun msg hmsg =>
            Nat.lt_of_lt_of_le (hbelow' msg hmsg) (by omega)]
          exact ⟨_, rfl, trivial⟩ }
    | false =>
      simp only [Bool.false_eq_true, if_false]
      exact { h with
        sorted := hsorted
        below := hbelow'
        last_le := by dsimp only; omega
        consecutive := by
          intro n hn hle
          dsimp only at hn hle
          by_cases hnext : n = s.nextSequenceNumber + 1
          · rw [ahead_eq_nil fun msg hmsg =>
              Nat.lt_of_lt_of_le (hbelow' msg hmsg) (by omega)]
            exact ⟨_, rfl, trivial⟩
          · obtain ⟨m, hm, hfrom⟩ := h.consecutive n hn (by omega)
            refine ⟨m, ?_⟩
            unfold ahead at hm hfrom ⊢
            rw [List.filter_append, List.filter_cons_of_pos (by simp; omega), List.filter_nil]
            refine ⟨?_, Consecutive.from_append.mpr ⟨hfrom, hm.symm, trivial⟩⟩
            rw [List.length_append, List.length_singleton]
            dsimp only
            omega }
  · simp only [send, if_neg hdata]
    cases s.connected with
    | true =>
      simp only [receive, if_neg hdata, if_true, onNotificationMessage]
      exact {
        sorted := h.sorted
        below := hbelow
        last_le := Int.le_refl _
        le_last := by dsimp only; omega
        received_le := hrecv
        acknowledged := h.acknowledged
        consecutive := by
          intro n hn hle
          dsimp only at hn hle
          omega }
    | false =>
      exact h

lemma Invariant.retained_filter (h : s.Invariant)
    (keep : NotificationMessage V → Bool) (acknowledgements : List ℕ)
    (hacknowledgements : ∀ number ∈ acknowledgements, number ∈ s.received)
    (hkeep : ∀ n : ℕ, s.lastSequenceNumber < n → n ≤ s.nextSequenceNumber →
      ∃ m, m + ((s.ahead n).filter keep).length = s.nextSequenceNumber ∧
        Consecutive.From sequenceNumber m ((s.ahead n).filter keep)) :
    ({ s with
      retained := s.retained.filter keep
      subscriptionAcknowledgements := acknowledgements } : RepublishSystem V).Invariant where
  sorted := h.sorted.filter _
  below message hmsg := h.below message (List.mem_of_mem_filter hmsg)
  last_le := h.last_le
  le_last := h.le_last
  received_le := h.received_le
  acknowledged := hacknowledgements
  consecutive n hn hle := by
    obtain ⟨m, hm, hfrom⟩ := hkeep n hn hle
    unfold ahead at *
    rw [List.filter_comm] at hm hfrom
    exact ⟨m, hm, hfrom⟩

/-! ### The loop -/

variable {message : NotificationMessage V}

lemma _sendRepublish_eq_some {retained : List (NotificationMessage V)} {last : ℤ}
    (h : _sendRepublish retained last = some message) :
    message ∈ retained ∧ (message.sequenceNumber : ℤ) = last + 1 :=
  ⟨List.mem_of_find?_eq_some h, by simpa using List.find?_some h⟩

/-- **What the loop does** in any case: the last number does not decrease, and the messages that are
handed over are retained ones up to the last number. -/
lemma _republish_bounds (retained : List (NotificationMessage V)) (iters : ℕ) (last : ℤ) :
    last ≤ (_republish retained iters last).lastSequenceNumber ∧
      (∀ msg ∈ (_republish retained iters last).delivered, msg ∈ retained ∧
        (msg.sequenceNumber : ℤ) ≤ (_republish retained iters last).lastSequenceNumber) ∧
      ((_republish retained iters last).lastSequenceNumber = last ∨
        ∃ msg ∈ retained, (msg.sequenceNumber : ℤ) =
          (_republish retained iters last).lastSequenceNumber) := by
  induction iters generalizing last with
  | zero => exact ⟨Int.le_refl _, by simp [_republish], Or.inl rfl⟩
  | succ iters ih =>
    simp only [_republish]
    cases hsend : _sendRepublish retained last with
    | none => exact ⟨Int.le_refl _, by simp, Or.inl rfl⟩
    | some msg =>
      obtain ⟨hmem, hnum⟩ := _sendRepublish_eq_some hsend
      obtain ⟨hle, hdeliv, hlast⟩ := ih (onNotificationMessage msg)
      unfold onNotificationMessage at *
      refine ⟨by dsimp only; omega, fun m hm => ?_, Or.inr ?_⟩
      · rcases List.mem_cons.mp hm with rfl | hm
        · exact ⟨hmem, hle⟩
        · exact hdeliv m hm
      · rcases hlast with hlast | hlast
        · exact ⟨msg, hmem, hlast.symm⟩
        · exact hlast

/-- **The loop on messages that are ahead**: when those from the number that is asked for are numbered
consecutively from it, they are handed over one after the other.

**Proof sketch.** Induction on the iterations: the message asked for is the first one ahead, and the
others are those ahead of the next number. -/
lemma _republish_eq (retained : List (NotificationMessage V)) (iters n : ℕ) (last : ℤ)
    (hn : (n : ℤ) = last + 1) (hfrom : Consecutive.From sequenceNumber n
      (retained.filter fun msg => n ≤ msg.sequenceNumber)) :
    (_republish retained iters last).delivered =
        (retained.filter fun msg => n ≤ msg.sequenceNumber).take iters ∧
      ((_republish retained iters last).isDone = true ↔
        (retained.filter fun msg => n ≤ msg.sequenceNumber).length < iters) ∧
      (_republish retained iters last).lastSequenceNumber =
        last + (_republish retained iters last).delivered.length := by
  induction iters generalizing n last with
  | zero => simp [_republish]
  | succ iters ih =>
    have hfind : _sendRepublish retained last =
        (retained.filter fun msg => n ≤ msg.sequenceNumber).head? := by
      unfold _sendRepublish
      cases hahead : retained.filter fun msg => n ≤ msg.sequenceNumber with
      | nil =>
        refine List.find?_eq_none.mpr fun msg hmsg => ?_
        have := List.filter_eq_nil_iff.mp hahead msg hmsg
        simp only [decide_eq_true_eq] at this ⊢
        omega
      | cons first rest =>
        have hfirst : first.sequenceNumber = n := (hahead ▸ hfrom).1
        have hsame : retained.find? (fun msg => (msg.sequenceNumber : ℤ) = last + 1) =
            (retained.filter fun msg => n ≤ msg.sequenceNumber).find?
              fun msg => (msg.sequenceNumber : ℤ) = last + 1 := by
          rw [List.find?_filter]
          congr 1
          funext msg
          rw [Bool.eq_iff_iff]
          simp only [decide_eq_true_eq]
          omega
        rw [hsame, hahead, List.find?_cons_of_pos (by simp; omega)]
        rfl
    simp only [_republish, hfind]
    cases hahead : retained.filter fun msg => n ≤ msg.sequenceNumber with
    | nil => simp
    | cons first rest =>
      have hcons := hahead ▸ hfrom
      have hrest : rest = retained.filter fun msg => n + 1 ≤ msg.sequenceNumber := by
        have hfilt : retained.filter (fun msg => n + 1 ≤ msg.sequenceNumber) =
            (retained.filter fun msg => n ≤ msg.sequenceNumber).filter
              fun msg => n + 1 ≤ msg.sequenceNumber := by
          rw [List.filter_filter]
          refine List.filter_congr fun msg _ => ?_
          simp only [← Bool.decide_and, decide_eq_decide]
          omega
        rw [hfilt, hahead, List.filter_cons_of_neg (by simp [hcons.1])]
        refine (List.filter_eq_self.mpr fun msg hmsg => ?_).symm
        have := (hcons.2.number_mem hmsg).1
        simpa using this
      have hfirst : onNotificationMessage first = n := congrArg Int.ofNat hcons.1
      obtain ⟨hdeliv, hdone, hlast⟩ := ih (n + 1) (onNotificationMessage first)
        (by omega) (hrest ▸ hcons.2)
      rw [← hrest] at hdeliv hdone
      refine ⟨?_, ?_, ?_⟩
      · simp [hdeliv]
      · simp [hdone]
      · simp only [List.head?_cons, List.length_cons, hlast]
        omega

/-! ### The steps -/

section

variable (h : s.Invariant)
include h

/-- **Every step** keeps the invariant. -/
lemma step_invariant (input : Input V) :
    (step s input).1.Invariant := by
  cases input with
  | publish notificationData => exact invariant_publish h notificationData
  | acknowledge =>
    simp only [step]
    split_ifs
    · refine h.retained_filter _ [] (by simp) fun n hn hle => ?_
      -- what is acknowledged was received, so it is not ahead
      have hall : ((s.ahead n).filter fun msg =>
          msg.sequenceNumber ∉ s.subscriptionAcknowledgements) = s.ahead n := by
        refine List.filter_eq_self.mpr fun msg hmsg => ?_
        have hge := List.of_mem_filter hmsg
        simp only [decide_eq_true_eq] at hge ⊢
        intro hmem
        have := h.received_le _ (h.acknowledged _ hmem)
        omega
      rw [hall]
      exact h.consecutive n hn hle
    · exact h
  | forget oldest =>
    refine h.retained_filter _ s.subscriptionAcknowledgements h.acknowledged fun n hn hle => ?_
    obtain ⟨m, hm, hfrom⟩ := h.consecutive n hn hle
    obtain ⟨m', hm', hfrom'⟩ := hfrom.exists_filter_le oldest
    exact ⟨m', hm'.trans hm, hfrom'⟩
  | connectionLost => exact ⟨h.1, h.2, h.3, h.4, h.5, h.6, h.7⟩
  | reconnect iters resumes =>
    simp only [step]
    split_ifs
    · exact h
    · obtain ⟨hle, hdeliv, hlast⟩ := _republish_bounds s.retained iters s.lastSequenceNumber
      exact {
        sorted := h.sorted
        below := h.below
        last_le := by
          rcases hlast with hlast | ⟨msg, hmem, hnum⟩
          · exact Int.le_trans (Int.le_of_eq hlast) h.last_le
          · have := h.below msg hmem
            dsimp only
            omega
        le_last := Int.le_trans h.le_last hle
        received_le := by
          intro number hnum
          rcases List.mem_append.mp hnum with hnum | hnum
          · exact Int.le_trans (h.received_le number hnum) hle
          · obtain ⟨msg, hmsg, rfl⟩ := List.mem_map.mp hnum
            exact (hdeliv msg hmsg).2
        acknowledged := fun number hnum =>
          List.mem_append_left _ (h.acknowledged number hnum)
        consecutive := fun n hn hle' => h.consecutive n (Int.lt_of_le_of_lt hle hn) hle' }

lemma mem_lost_of_ahead (hmem : message ∈ s.retained)
    (hlt : s.lastSequenceNumber < message.sequenceNumber) : message ∈ s.lost := by
  refine List.mem_filter.mpr ⟨hmem, ?_⟩
  simp only [decide_eq_true_eq]
  intro hrecv
  have := h.received_le _ hrecv
  omega

/-- **What is lost** is what is ahead, when the first lost message has the next number. -/
lemma lost_eq_ahead {n : ℕ} (hn : (n : ℤ) = s.lastSequenceNumber + 1)
    (hhead : ∀ msg ∈ s.lost.head?, msg.sequenceNumber = n) : s.lost = s.ahead n := by
  refine List.filter_congr fun msg hmsg => ?_
  rw [Bool.eq_iff_iff]
  constructor
  · intro hlost
    have hmem : msg ∈ s.lost := List.mem_filter.mpr ⟨hmsg, hlost⟩
    have hsorted : s.lost.Pairwise fun a b => a.sequenceNumber < b.sequenceNumber :=
      h.sorted.filter _
    cases hcons : s.lost with
    | nil => simp [hcons] at hmem
    | cons first rest =>
      rw [hcons] at hmem hsorted hhead
      have hfirst := hhead first rfl
      rw [decide_eq_true_eq]
      rcases List.mem_cons.mp hmem with rfl | hrest
      · omega
      · have := List.rel_of_pairwise_cons hsorted hrest
        omega
  · intro hge
    rw [decide_eq_true_eq] at hge
    exact (List.mem_filter.mp (mem_lost_of_ahead h hmsg (by omega))).2

/-- **The loop** hands over what is expected when it starts at the first lost message. -/
lemma handsOver_of_head (iters : ℕ) (hhead : ∀ msg ∈ s.lost.head?,
      (msg.sequenceNumber : ℤ) = s.lastSequenceNumber + 1) :
    s.HandsOver iters (_republish s.retained iters s.lastSequenceNumber) := by
  have hge := h.le_last
  obtain ⟨n, hn⟩ := Int.eq_ofNat_of_zero_le (show 0 ≤ s.lastSequenceNumber + 1 by omega)
  have hlost : s.lost = s.ahead n :=
    lost_eq_ahead h hn.symm fun msg hmsg => by
      have := hhead msg hmsg
      omega
  have hfrom : Consecutive.From sequenceNumber n (s.ahead n) ∧
      (s.ahead n ≠ [] → n + (s.ahead n).length = s.nextSequenceNumber) := by
    cases hcons : s.ahead n with
    | nil => exact ⟨trivial, fun hne => absurd rfl hne⟩
    | cons first rest =>
      have hmem : first ∈ s.ahead n := by simp [hcons]
      have hbelow := h.below first (List.mem_of_mem_filter hmem)
      have hfirst := List.of_mem_filter hmem
      simp only [decide_eq_true_eq] at hfirst
      obtain ⟨m, hm, hfrom⟩ := h.consecutive n (by omega) (by omega)
      have hnum := hhead first (by rw [hlost, hcons]; rfl)
      rw [hcons] at hm hfrom
      obtain rfl : m = n := by
        have := hfrom.1
        omega
      exact ⟨hfrom, fun _ => hm⟩
  obtain ⟨hdeliv, hdone, hlastNumber⟩ :=
    _republish_eq s.retained iters n s.lastSequenceNumber hn.symm hfrom.1
  have hcompl : (_republish s.retained iters s.lastSequenceNumber).isDone = true →
      (_republish s.retained iters s.lastSequenceNumber).delivered = s.ahead n :=
    fun hd => hdeliv.trans (List.take_of_length_le (Nat.le_of_lt (hdone.mp hd)))
  refine ⟨?_, fun hd => hlost ▸ hcompl hd, ?_, fun hd msg hmsg hnum => ?_,
    fun hlt => ?_⟩
  · rw [hdeliv, hlost]
    exact List.take_prefix _ _
  · rw [hdeliv]
    exact (h.sorted.filter _).sublist (List.take_sublist _ _)
  · rw [hlastNumber, hcompl hd] at hnum
    have hmem : msg ∈ s.ahead n := by
      refine List.mem_filter.mpr ⟨hmsg, ?_⟩
      simp only [decide_eq_true_eq]
      omega
    have hnext := hfrom.2 (List.ne_nil_of_mem hmem)
    have := h.below msg hmsg
    omega
  · exact hdone.mpr (Nat.lt_of_le_of_lt (List.length_filter_le _ _) hlt)

/-- **A step** does what is expected exactly when it meets its condition.

**Proof sketch.** A loop whose first question is for the first lost message hands over the lost
messages. One that asks for another number hands over a message too early, or stops while a message is
lost. -/
theorem keepsRepublish_iff (input : Input V) :
    s.KeepsRepublish input ↔ s.RepublishCondition input := by
  cases input with
  | reconnect iters resumes =>
    constructor
    · intro hkeeps hconnected hiter msg hmsg
      obtain ⟨k, rfl⟩ := Nat.exists_eq_succ_of_ne_zero hiter
      have hdeliv := (hkeeps hconnected).delivered
      have hcompl := (hkeeps hconnected).complete
      obtain ⟨rest, hlost⟩ := List.head?_eq_some_iff.mp hmsg
      simp only [_republish] at hdeliv hcompl
      cases hsend : _sendRepublish s.retained s.lastSequenceNumber with
      | none =>
        rw [hsend] at hcompl
        rw [hlost] at hcompl
        cases hcompl rfl
      | some first =>
        rw [hsend, hlost] at hdeliv
        obtain ⟨rfl, -⟩ := List.cons_prefix_cons.mp hdeliv
        exact (_sendRepublish_eq_some hsend).2
    · intro hcond hconnected
      by_cases hiter : iters = 0
      · subst hiter
        exact ⟨List.nil_prefix, nofun, .nil, nofun, fun hlt => absurd hlt (Nat.not_lt_zero _)⟩
      · exact handsOver_of_head h iters (hcond hconnected hiter)
  | _ => exact Iff.rfl

end

/-! ### Runs -/

end RepublishSystem

end NodeOpcua
