import NodeOpcua.Server.Subscription.Delivery

set_option autoImplicit false

/-!
# The transfer of a subscription

What the two sessions get after a subscription was transferred: the old session the status change,
the new one the notifications that were pending.

## Main definitions

* `SubscriptionLife.Undisturbed`.
* `SubscriptionLife.Isolated`.

## Main results

* `SubscriptionLife.run_conserves`, `SubscriptionLife.isolated_iff`.
-/

namespace NodeOpcua

open List (append_nil not_mem_nil forall_mem_nil nil_append)
open Mealy (run_cons_snd)

variable {V I : Type}

open Fifo (Conserves)

/-! ### Deliveries -/

/-- The notifications that a session gets. -/
def delivered (session : ℕ) (outputs : List (SubscriptionOutput V)) : List (Notification V) :=
  (received session outputs).flatMap fun r =>
    unpackNotifications r.notificationMessage.notificationData

lemma delivered_append (session : ℕ) (as bs : List (SubscriptionOutput V)) :
    delivered session (as ++ bs) = delivered session as ++ delivered session bs := by
  simp [delivered, received]

/-- The status change for the session that loses the subscription. -/
def transferNotification : Notification V := .statusChange .GoodSubscriptionTransferred

namespace SubscriptionLife

lemma delivered_outputs (session owner : ℕ) {o : Outcome V I} (hexp : o.expired = false) :
    delivered session (outputs owner o) =
      if owner = session then unpackNotifications (responseData o.response) else [] := by
  rw [outputs_of_not_expired owner hexp]
  cases o.response with
  | none => simp [delivered, received, responseData, unpackNotifications]
  | some r =>
    by_cases howner : owner = session
    · simp [delivered, received, responseData, SubscriptionOutput.response?, howner]
    · simp [delivered, received, SubscriptionOutput.response?, howner]

/-- **What an undisturbed step does**: notifications that are taken from the front of the queue are
delivered to the session of the subscription, and no other session gets one. -/
structure Goes (l l' : SubscriptionLife V I) (outputs : List (SubscriptionOutput V)) : Prop where
  session : l'.session = l.session
  transferred : l'.transferred = l.transferred
  isOpen : l'.subscription.state ≠ .CLOSED
  conserves : ∃ added taken, Conserves l.subscription._pending_notifications added taken
      l'.subscription._pending_notifications ∧
    (delivered l.session outputs).Perm (taken.map InternalNotification.notification) ∧
    ∀ n ∈ added, n.notification.status? = none
  other : ∀ session, session ≠ l.session → delivered session outputs = []

lemma goes_of_added {l l' : SubscriptionLife V I} {outputs : List (SubscriptionOutput V)}
    (hsess : l'.session = l.session) (htrans : l'.transferred = l.transferred) (hopen : l'.subscription.state ≠ .CLOSED)
    (hnone : ∀ session, delivered session outputs = []) {added : List (InternalNotification V)}
    (hstatus : ∀ n ∈ added, n.notification.status? = none)
    (hadded : l'.subscription._pending_notifications =
      l.subscription._pending_notifications ++ added) : l.Goes l' outputs := by
  refine ⟨hsess, htrans, hopen, ⟨added, [], hadded.symm, ?_, hstatus⟩,
    fun session _ => hnone session⟩
  rw [hnone]
  exact List.Perm.refl _

variable [MonitoredItemInterface V I]

/-- **Undisturbed steps**: the subscription is neither transferred nor terminated, its life time does
not expire, and no monitored item is deleted. -/
def Undisturbed (l : SubscriptionLife V I) (event : SubscriptionEvent V I) : Prop :=
  (match event with
    | .transfer _ _ | .removeMonitoredItem _ | .terminate | .dispose => False
    | _ => True) ∧
  .expired ∉ (l.step event).2

variable {l : SubscriptionLife V I}

lemma call_goes {o : Outcome V I} {s : Subscription V I} (hopen : l.subscription.state ≠ .CLOSED)
    (hpend : s._pending_notifications = l.subscription._pending_notifications)
    (hexp : o.expired = false) (hserves : s.Serves o)
    (hgoesOn : l.subscription.GoesOn o.subscription) : l.Goes (l.call (some o)).1
      (l.call (some o)).2 := by
  obtain ⟨pending, taken, hharvests, rfl, hdata⟩ := hserves
  rw [call_some]
  refine ⟨rfl, rfl, hgoesOn.2 hopen, ?_, fun session hsess => ?_⟩
  · have hcsv : ∃ added, Conserves l.subscription._pending_notifications added taken
        o.subscription._pending_notifications ∧ ∀ n ∈ added, n.notification.status? = none := by
      rcases hharvests with ⟨hkept, -⟩ | ⟨hadded, -⟩
      · exact ⟨[], (append_nil _).trans (hkept.trans hpend).symm,
          fun _ hmem => absurd hmem not_mem_nil⟩
      · exact ⟨s.harvested, (hpend ▸ hadded).symm, s.harvested_status⟩
    obtain ⟨added, hcsv, hstatus⟩ := hcsv
    refine ⟨added, taken, hcsv, ?_, hstatus⟩
    rw [delivered_outputs _ _ hexp, if_pos rfl, hdata]
    exact unpackNotifications_perm taken
  · rw [delivered_outputs _ _ hexp, if_neg (Ne.symm hsess)]

variable {event : SubscriptionEvent V I}

lemma stepOpen_goes (hopen : l.subscription.state ≠ .CLOSED) (hundist : match event with
      | .transfer _ _ | .removeMonitoredItem _ | .terminate | .dispose => False
      | _ => True)
    (hexpired : .expired ∉ (l.stepOpen event).2) :
    l.Goes (l.stepOpen event).1 (l.stepOpen event).2 := by
  have hsame : ∀ outputs : List (SubscriptionOutput V), (∀ session, delivered session outputs = []) →
      l.Goes l outputs := fun outputs hnone =>
    goes_of_added rfl rfl hopen hnone (forall_mem_nil _) (append_nil _).symm
  have htick : ∀ n, .expired ∉ (l.call (l.subscription._tick n)).2 →
      l.Goes (l.call (l.subscription._tick n)).1 (l.call (l.subscription._tick n)).2 := by
    intro n hexpired
    cases h : l.subscription._tick n with
    | none => exact hsame [] fun _ => rfl
    | some o =>
      have ho : o.expired = false := by
        rw [h, call_some] at hexpired
        cases hexp : o.expired with
        | false => rfl
        | true => exact absurd (by simp [outputs, hexp]) hexpired
      refine call_goes hopen ?_ ho (Subscription._tick_serves hopen h ho)
        (Subscription._tick_goesOn hopen h ho)
      rw [Subscription.tickStart_eq]
  cases event with
  | timerTick n | reTick n => exact htick n hexpired
  | processSubscription n =>
    unfold stepOpen
    dsimp only
    split_ifs
    · cases h : l.subscription.process_subscription n with
      | none => exact hsame [] fun _ => rfl
      | some o =>
        exact call_goes hopen rfl (Subscription.process_subscription_answer h).2
          (Subscription.process_subscription_serves h) (Subscription.process_subscription_goesOn h)
    · exact hsame [] fun _ => rfl
  | acknowledge n =>
    unfold stepOpen Subscription.acknowledgeNotification
    dsimp only
    split
    · exact hsame _ fun _ => rfl
    · exact goes_of_added rfl rfl hopen (fun _ => rfl) (forall_mem_nil _) (append_nil _).symm
  | setPublishingMode publishingEnabled =>
    refine goes_of_added rfl rfl ?_ (fun _ => rfl) (forall_mem_nil _) (append_nil _).symm
    unfold stepOpen set Subscription.setPublishingMode
    dsimp only
    split_ifs
    · exact SubscriptionState.noConfusion
    · exact hopen
  | createMonitoredItem itemId item =>
    unfold stepOpen
    dsimp only
    split_ifs
    · exact hsame _ fun _ => rfl
    · exact goes_of_added rfl rfl hopen (fun _ => rfl) (forall_mem_nil _) (append_nil _).symm
  | applyOnSubscription | modify param | monitoredItemChange itemId item =>
    exact goes_of_added rfl rfl hopen (fun _ => rfl) (forall_mem_nil _) (append_nil _).symm
  | resendInitialValues items =>
    unfold stepOpen
    dsimp only
    split_ifs
    · exact goes_of_added rfl rfl SubscriptionState.noConfusion (fun _ => rfl)
        (Subscription.harvested_status _) rfl
    · exact hsame _ fun _ => rfl
  | removeMonitoredItem | terminate | transfer | dispose => exact hundist.elim
  | republish n | transferResult | publishClosed | feedTransferred => exact hsame _ fun _ => rfl

/-- **An undisturbed step**: either it is one of the session that has the subscription, or a
`TransferredSubscription` delivers its status change. -/
lemma step_goes (hopen : l.subscription.state ≠ .CLOSED) (h : l.Undisturbed event) :
    ((∀ session ∈ l.transferred, event ≠ .feedTransferred session) ∧
      l.Goes (l.step event).1 (l.step event).2) ∨
    (∃ session ∈ l.transferred, event = .feedTransferred session ∧
      (l.step event).1.session = l.session ∧
      (l.step event).1.transferred = l.transferred.erase session ∧
      (l.step event).1.subscription.state ≠ .CLOSED ∧
      (l.step event).1.subscription._pending_notifications =
        l.subscription._pending_notifications ∧
      ∀ s, delivered s (l.step event).2 = if session = s then [transferNotification] else []) := by
  obtain ⟨hevent, hexp⟩ := h
  by_cases hfeed : ∃ session ∈ l.transferred, event = .feedTransferred session
  · obtain ⟨session, hmem, rfl⟩ := hfeed
    have hstep : l.step (.feedTransferred session) =
        ({ l with
            subscription := l.subscription.publishTransferred.subscription
            transferred := l.transferred.erase session },
          outputs session l.subscription.publishTransferred) := if_pos hmem
    refine .inr ⟨session, hmem, rfl, ?_⟩
    rw [hstep]
    refine ⟨rfl, rfl, hopen, rfl, fun s => ?_⟩
    exact delivered_outputs s session rfl
  · have hsilent : ∀ session ∈ l.transferred, event ≠ .feedTransferred session :=
      fun session hmem heq => hfeed ⟨session, hmem, heq⟩
    refine .inl ⟨hsilent, ?_⟩
    rcases l.step_cases event with ⟨session, hmem, rfl, -⟩ | ⟨hclo, -⟩ | ⟨hclo, -⟩ |
      ⟨-, hstep⟩ | hstep
    · exact absurd rfl (hsilent session hmem)
    · exact absurd hclo hopen
    · exact absurd hclo hopen
    · rw [hstep] at hexp ⊢
      exact stepOpen_goes hopen hevent hexp
    · rw [hstep]
      exact goes_of_added rfl rfl hopen (fun _ => rfl) (forall_mem_nil _) (append_nil _).symm

variable {events : List (SubscriptionEvent V I)}

/-- **Delivery**. In an undisturbed run the pending notifications are delivered in order to the
session that has the subscription. -/
theorem run_conserves (hopen : l.subscription.state ≠ .CLOSED) (howner : l.session ∉ l.transferred)
    (h : Mealy.Along step Undisturbed l events) :
    ∃ added taken, Conserves l.subscription._pending_notifications added taken
        (Mealy.run step l events).1.subscription._pending_notifications ∧
      (delivered l.session (Mealy.run step l events).2).Perm
        (taken.map InternalNotification.notification) ∧
      ∀ n ∈ added, n.notification.status? = none := by
  induction events generalizing l with
  | nil => exact ⟨[], [], Conserves.refl _, List.Perm.refl _, forall_mem_nil _⟩
  | cons event events ih =>
    rcases step_goes hopen h.1 with ⟨-, hgoes⟩ |
      ⟨session, hmem, -, hsess, htrans, hopen', hpend, hdeliv⟩
    · obtain ⟨added₁, taken₁, hcsv₁, hperm₁, hstatus₁⟩ := hgoes.conserves
      have howner' : (l.step event).1.session ∉ (l.step event).1.transferred := by
        rw [hgoes.session, hgoes.transferred]
        exact howner
      obtain ⟨added₂, taken₂, hcsv₂, hperm₂, hstatus₂⟩ := ih hgoes.isOpen howner' h.2
      rw [hgoes.session] at hperm₂
      refine ⟨added₁ ++ added₂, taken₁ ++ taken₂, hcsv₁.trans hcsv₂, ?_,
        List.forall_mem_append.mpr ⟨hstatus₁, hstatus₂⟩⟩
      rw [run_cons_snd, delivered_append, List.map_append]
      exact hperm₁.append hperm₂
    · have howner' : (l.step event).1.session ∉ (l.step event).1.transferred := by
        rw [hsess, htrans]
        exact fun hmem => howner (List.mem_of_mem_erase hmem)
      obtain ⟨added, taken, hcsv, hperm, hstatus⟩ := ih hopen' howner' h.2
      rw [hpend] at hcsv
      rw [hsess] at hperm
      refine ⟨added, taken, hcsv, ?_, hstatus⟩
      have hne : session ≠ l.session := fun heq => howner (heq ▸ hmem)
      rw [run_cons_snd, delivered_append, hdeliv, if_neg hne]
      exact hperm

variable {session : ℕ}

/-- What another session gets in an undisturbed run: a status change, if it has a
`TransferredSubscription` that publishes. -/
lemma run_other (hopen : l.subscription.state ≠ .CLOSED) (h : Mealy.Along step Undisturbed l events)
    (hsess : session ≠ l.session) (hcount : l.transferred.count session ≤ 1) :
    (session ∈ l.transferred → .feedTransferred session ∈ events →
      delivered session (Mealy.run step l events).2 = [transferNotification]) ∧
    (session ∉ l.transferred ∨ .feedTransferred session ∉ events →
      delivered session (Mealy.run step l events).2 = []) := by
  induction events generalizing l with
  | nil => exact ⟨fun _ hmem => absurd hmem not_mem_nil, fun _ => rfl⟩
  | cons event events ih =>
    rw [run_cons_snd, delivered_append]
    rcases step_goes hopen h.1 with ⟨hsilent, hgoes⟩ |
      ⟨other, hmem, rfl, hsess', htrans, hopen', -, hdeliv⟩
    · have ih := ih hgoes.isOpen h.2 (by rwa [hgoes.session]) (by rwa [hgoes.transferred])
      rw [hgoes.transferred] at ih
      rw [hgoes.other session hsess, nil_append]
      refine ⟨fun hmem hevent => ih.1 hmem ?_, fun hnone => ih.2 (hnone.imp_right fun h hmem =>
        h (List.mem_cons_of_mem _ hmem))⟩
      rcases List.mem_cons.mp hevent with heq | hmem'
      · exact absurd heq.symm (hsilent session hmem)
      · exact hmem'
    · have hcount' : (l.transferred.erase other).count session ≤ 1 :=
        (List.erase_sublist.count_le session).trans hcount
      have ih := ih hopen' h.2 (by rwa [hsess']) (by rwa [htrans])
      rw [htrans] at ih
      rw [hdeliv]
      by_cases heq : other = session
      · subst heq
        have hgone : other ∉ l.transferred.erase other := by
          intro hmem'
          have hpos := List.count_pos_iff.mpr hmem'
          rw [List.count_erase_self] at hpos
          omega
        rw [if_pos rfl, ih.2 (.inl hgone)]
        refine ⟨fun _ _ => rfl, fun hnone => ?_⟩
        rcases hnone with hnone | hnone
        · exact absurd hmem hnone
        · exact absurd List.mem_cons_self hnone
      · have hiff : session ∈ l.transferred.erase other ↔ session ∈ l.transferred :=
          List.mem_erase_of_ne (Ne.symm heq)
        rw [hiff] at ih
        rw [if_neg heq, nil_append]
        refine ⟨fun hmem' hevent => ih.1 hmem' ?_, fun hnone => ih.2 (hnone.imp_right fun h hmem' =>
          h (List.mem_cons_of_mem _ hmem'))⟩
        rcases List.mem_cons.mp hevent with hfeed | hmem''
        · injection hfeed with hfeed
          exact absurd hfeed.symm heq
        · exact hmem''

/-! ### The new session -/

/-- The new session enables publishing and has a Publish request at each tick. -/
def drain (k : ℕ) : List (SubscriptionEvent V I) :=
  .setPublishingMode true :: List.replicate k (.timerTick 1)

section

variable (hopen : l.subscription.state ≠ .CLOSED) (hctr : l.subscription._life_time_counter = 0)
  (hen : l.subscription.publishingEnabled = true)
include hopen hctr hen

lemma timerTick_delivers (hpend : l.subscription._pending_notifications ≠ []) :
    delivered l.session (l.step (.timerTick 1)).2 ≠ [] := by
  obtain ⟨retick, htick⟩ := Subscription._tick_pending hopen hctr hen hpend
  have hstep : l.step (.timerTick 1) = l.call (l.subscription._tick 1) := if_neg hopen
  rw [hstep, htick, call_some]
  rw [delivered_outputs _ _ rfl, if_pos rfl]
  intro hnil
  have hperm := unpackNotifications_perm (takeNotifications
    l.subscription.tickStart.maxNotificationsPerPublish false
    l.subscription.tickStart._pending_notifications).1
  rw [show unpackNotifications (packNotifications _) = [] from hnil] at hperm
  have htaken := List.map_eq_nil_iff.mp hperm.nil_eq.symm
  refine takeNotifications_ne_nil l.subscription.tickStart.maxNotificationsPerPublish_pos ?_ htaken
  rw [Subscription.tickStart_eq]
  exact hpend

lemma timerTick_goes :
    l.Undisturbed (.timerTick 1) ∧
      (l.step (.timerTick 1)).1.subscription._life_time_counter = 0 ∧
      (l.step (.timerTick 1)).1.subscription.publishingEnabled = true := by
  have hreq : l.RequestAvailable (.timerTick 1) := by
    intro n hn
    injection hn
    omega
  obtain ⟨hctr', hexp⟩ :=
    step_lifeTime hctr hreq fun _ _ => ⟨nofun, .inl hen⟩
  refine ⟨⟨trivial, hexp⟩, hctr', ?_⟩
  have hstep : l.step (.timerTick 1) = l.call (l.subscription._tick 1) := if_neg hopen
  rw [hstep]
  cases htick : l.subscription._tick 1 with
  | none => exact hen
  | some o =>
    have hlife := Subscription._tick_lifeTime htick hctr
      fun _ => ⟨Nat.one_ne_zero, .inl hen⟩
    exact (Subscription._tick_goesOn hopen htick hlife.2).1.trans hen

lemma ticks_conserve (k : ℕ) :
    Mealy.Along step Undisturbed l (List.replicate k (.timerTick 1)) ∧
      ∃ added taken, Conserves l.subscription._pending_notifications added taken
          (Mealy.run step l (List.replicate k (.timerTick 1))).1.subscription._pending_notifications ∧
        (delivered l.session (Mealy.run step l (List.replicate k (.timerTick 1))).2).Perm
          (taken.map InternalNotification.notification) ∧
        min k l.subscription._pending_notifications.length ≤ taken.length := by
  induction k generalizing l with
  | zero => exact ⟨trivial, [], [], Conserves.refl _, List.Perm.refl _, Nat.zero_le _⟩
  | succ k ih =>
    obtain ⟨hundist, hctr', hen'⟩ := timerTick_goes hopen hctr hen
    obtain ⟨-, hgoes⟩ | ⟨session, -, hfeed, -⟩ := step_goes hopen hundist
    swap
    · cases hfeed
    obtain ⟨added₁, taken₁, hcsv₁, hperm₁, -⟩ := hgoes.conserves
    obtain ⟨halong, added₂, taken₂, hcsv₂, hperm₂, hle⟩ :=
      ih hgoes.isOpen hctr' hen'
    rw [hgoes.session] at hperm₂
    rw [List.replicate_succ]
    refine ⟨⟨hundist, halong⟩, added₁ ++ added₂, taken₁ ++ taken₂,
      hcsv₁.trans hcsv₂, ?_, ?_⟩
    · rw [run_cons_snd, delivered_append, List.map_append]
      exact hperm₁.append hperm₂
    · have hlen := congrArg List.length hcsv₁
      rw [List.length_append, List.length_append] at hlen
      rw [List.length_append]
      by_cases hpend : l.subscription._pending_notifications = []
      · rw [hpend]
        simp
      · have hpos : 0 < taken₁.length := by
          have hdeliv := timerTick_delivers hopen hctr hen hpend
          rw [← List.length_map InternalNotification.notification, ← hperm₁.length_eq]
          exact List.length_pos_iff.mpr hdeliv
        omega

end

/-- **The new session gets everything** that was pending. -/
lemma drain_delivers (hopen : l.subscription.state ≠ .CLOSED)
    {k : ℕ} (hk : l.subscription._pending_notifications.length ≤ k) :
    Mealy.Along step Undisturbed l (drain k) ∧
      ∃ rest, (delivered l.session (Mealy.run step l (drain k)).2).Perm
        (l.subscription._pending_notifications.map InternalNotification.notification ++ rest) := by
  have hstep : l.step (.setPublishingMode true) =
      ({ l with subscription := l.subscription.setPublishingMode true }, []) := if_neg hopen
  have hfirst : l.Undisturbed (.setPublishingMode true) := by
    refine ⟨trivial, ?_⟩
    rw [hstep]
    exact not_mem_nil
  have hticks := ticks_conserve (l := (l.step (.setPublishingMode true)).1)
    (by rw [hstep]; exact hopen) (by rw [hstep]; rfl) (by rw [hstep]; rfl) k
  obtain ⟨halong, added, taken, hcsv, hperm, hle⟩ := hticks
  refine ⟨⟨hfirst, halong⟩, ?_⟩
  unfold drain
  rw [run_cons_snd]
  rw [hstep] at hcsv hperm hle ⊢
  obtain ⟨rest, rfl⟩ := hcsv.exists_taken (show l.subscription._pending_notifications.length ≤ _ by
    have : min k l.subscription._pending_notifications.length ≤ taken.length := hle
    omega)
  refine ⟨rest.map InternalNotification.notification, ?_⟩
  rw [List.map_append] at hperm
  exact hperm

/-! ### Transfers -/

/-- **What a transfer should do**, whatever happens after it, as long as that drops no notification.
The old session gets the status change, at once or with its next Publish request, and nothing else;
the new session never gets the status change; it gets the notifications that were pending, and
those that come later, each once and in order; and it gets all of them when it sends enough Publish
requests. -/
structure Isolated (l : SubscriptionLife V I) (session pendingPublishRequestCount : ℕ) : Prop where
  old : ∀ events,
    Mealy.Along step Undisturbed (l.step (.transfer session pendingPublishRequestCount)).1 events →
    let outputs := (Mealy.run step l (.transfer session pendingPublishRequestCount :: events)).2
    (pendingPublishRequestCount ≠ 0 ∨ .feedTransferred l.session ∈ events →
      delivered l.session outputs = [transferNotification]) ∧
    (pendingPublishRequestCount = 0 → .feedTransferred l.session ∉ events →
      delivered l.session outputs = [])
  new : ∀ events,
    Mealy.Along step Undisturbed (l.step (.transfer session pendingPublishRequestCount)).1 events →
    transferNotification ∉ delivered session
      (Mealy.run step l (.transfer session pendingPublishRequestCount :: events)).2
  once : ∀ events,
    Mealy.Along step Undisturbed (l.step (.transfer session pendingPublishRequestCount)).1 events →
    let r := Mealy.run step l (.transfer session pendingPublishRequestCount :: events)
    ∃ added taken, Conserves l.subscription._pending_notifications added taken
        r.1.subscription._pending_notifications ∧
      (delivered session r.2).Perm (taken.map InternalNotification.notification)
  all : ∀ k ≥ l.subscription._pending_notifications.length,
    Mealy.Along step Undisturbed (l.step (.transfer session pendingPublishRequestCount)).1
      (drain k) ∧
    ∃ rest, (delivered session
        (Mealy.run step l (.transfer session pendingPublishRequestCount :: drain k)).2).Perm
      (l.subscription._pending_notifications.map InternalNotification.notification ++ rest)

lemma step_transfer_zero (hopen : l.subscription.state ≠ .CLOSED) (hsess : session ≠ l.session) :
    l.step (.transfer session 0) =
      ({ subscription := l.subscription.resetLifeTimeCounter
         session
         transferred := l.transferred.filter (· ≠ session) ++ [l.session] }, []) := by
  have hstep : l.step (.transfer session 0) = l.transfer session 0 :=
    (if_neg hopen).trans (if_neg hsess)
  rw [hstep]
  rfl

variable {session n : ℕ}

section

variable (hopen : l.subscription.state ≠ .CLOSED) (hsess : session ≠ l.session)
include hopen hsess

lemma step_transfer_pos (hn : n ≠ 0) :
    let s := l.subscription._addNotificationMessage (.statusChange .GoodSubscriptionTransferred) none
    l.step (.transfer session n) =
      ({ subscription := s.messagePublished.resetLifeTimeCounter
         session
         transferred := l.transferred.filter (· ≠ session) },
        [.response l.session s.publishResponse]) := by
  have hstep : l.step (.transfer session n) = l.transfer session n :=
    (if_neg hopen).trans (if_neg hsess)
  intro s
  rw [hstep]
  unfold transfer
  rw [Subscription.notifyTransfer_eq, if_neg hn]
  dsimp only
  rw [if_neg hn]
  rfl

/-- **The state after a transfer**: the subscription is open and belongs to the new session. -/
lemma step_transfer_state (n : ℕ) :
    let t := (l.step (.transfer session n)).1
    t.subscription.state ≠ .CLOSED ∧ t.session = session ∧ session ∉ t.transferred := by
  by_cases hn : n = 0
  · subst hn
    rw [step_transfer_zero hopen hsess]
    refine ⟨hopen, rfl, ?_⟩
    simp [hsess]
  · rw [step_transfer_pos hopen hsess hn]
    refine ⟨?_, rfl, ?_⟩
    · exact (Subscription.messagePublished_goesOn _).2 hopen
    · simp

end

/-- The session that has the subscription has no `TransferredSubscription` of it. -/
lemma step_session (h : l.session ∉ l.transferred)
    (event : SubscriptionEvent V I) : (l.step event).1.session ∉ (l.step event).1.transferred := by
  have hcall : ∀ out : Option (Outcome V I),
      (l.call out).1.session ∉ (l.call out).1.transferred := by
    intro out
    cases out with
    | none => exact h
    | some o => exact h
  rcases l.step_cases event with ⟨session, -, -, hstep⟩ | ⟨-, n, -, hstep⟩ | ⟨-, -, -, hstep⟩ |
    ⟨hopen, hstep⟩ | hstep
  · rw [hstep]
    exact fun hmem => h (List.mem_of_mem_erase hmem)
  · rw [hstep]
    exact hcall _
  · rw [hstep]
    exact h
  · cases event with
    | timerTick n | reTick n =>
      rw [hstep]
      exact hcall _
    | processSubscription n | createMonitoredItem itemId item | resendInitialValues items =>
      rw [hstep]
      unfold stepOpen
      dsimp only
      split_ifs
      · first | exact hcall _ | exact h
      · exact h
    | transfer session n =>
      by_cases hsess : session = l.session
      · have hself : l.stepOpen (.transfer session n) = (l, []) := if_pos hsess
        rw [hstep, hself]
        exact h
      · obtain ⟨-, hnew, hmem⟩ := step_transfer_state hopen hsess n
        rwa [hnew]
    | _ =>
      rw [hstep]
      exact h
  · rw [hstep]
    exact h

section

variable (hopen : l.subscription.state ≠ .CLOSED) (hsess : session ≠ l.session)
include hopen hsess

section

variable
  (h : ¬ ((n = 0 ∨ l.subscription._pending_notifications = []) ∧ transferNotification ∉ l.subscription._pending_notifications.map InternalNotification.notification))
include h

lemma mem_pending_of_not :
    transferNotification ∈ (l.step (.transfer session n)).1.subscription._pending_notifications.map
      InternalNotification.notification := by
  by_cases hn : n = 0
  · subst hn
    rw [step_transfer_zero hopen hsess]
    by_contra hmem
    exact h ⟨.inl rfl, hmem⟩
  · have hpend : l.subscription._pending_notifications ≠ [] := by
      intro hnil
      rw [hnil] at h
      exact h ⟨.inr rfl, not_mem_nil⟩
    rw [step_transfer_pos hopen hsess hn]
    refine List.mem_map.mpr
      ⟨⟨none, transferNotification, l.subscription.publishIntervalCount⟩, ?_, rfl⟩
    have hmem := mem_takeNotifications_of_status l.subscription.maxNotificationsPerPublish hpend
      (n := ⟨none, transferNotification, l.subscription.publishIntervalCount⟩) nofun
    exact (Subscription.messagePublished_pending _).symm ▸ hmem

lemma not_isolated :
    ¬ l.Isolated session n := by
  intro hisolated
  have hmem := mem_pending_of_not hopen hsess h
  obtain ⟨hopen', hnew, -⟩ := step_transfer_state hopen hsess n
  obtain ⟨halong, rest, hperm⟩ := drain_delivers hopen' (Nat.le_refl _)
  refine hisolated.new _ halong ?_
  rw [run_cons_snd, delivered_append]
  refine List.mem_append_right _ ?_
  rw [hnew] at hperm
  exact hperm.symm.subset (List.mem_append_left _ hmem)

end

lemma step_transfer_of (howner : l.session ∉ l.transferred)
    (hnone : n = 0 ∨ l.subscription._pending_notifications = []) :
    let t := l.step (.transfer session n)
    t.1.subscription._pending_notifications = l.subscription._pending_notifications ∧
      delivered session t.2 = [] ∧
      delivered l.session t.2 = (if n = 0 then [] else [transferNotification]) ∧
      t.1.transferred.count l.session = if n = 0 then 1 else 0 := by
  have hcount : (l.transferred.filter (· ≠ session)).count l.session = 0 :=
    List.count_eq_zero.mpr fun hmem => howner (List.mem_of_mem_filter hmem)
  by_cases hn : n = 0
  · subst hn
    rw [step_transfer_zero hopen hsess]
    refine ⟨rfl, rfl, rfl, ?_⟩
    rw [List.count_append, hcount]
    simp
  · have hpend := hnone.resolve_left hn
    let status : InternalNotification V :=
      ⟨none, transferNotification, l.subscription.publishIntervalCount⟩
    let s := l.subscription._addNotificationMessage transferNotification none
    have htaken : takeNotifications s.maxNotificationsPerPublish false s._pending_notifications =
        ([status], []) := by
      rw [show s._pending_notifications = [status] from congrArg (· ++ [status]) hpend]
      exact takeNotifications_status s.maxNotificationsPerPublish_pos [] rfl
    have hresp : unpackNotifications s.publishResponse.notificationMessage.notificationData =
        [transferNotification] := by
      unfold Subscription.publishResponse
      rw [htaken]
      rfl
    rw [step_transfer_pos hopen hsess hn]
    refine ⟨?_, ?_, ?_, by rw [if_neg hn]; exact hcount⟩
    · have hleft := s.messagePublished_pending
      rw [htaken] at hleft
      exact hleft.trans hpend.symm
    · simp [delivered, received, SubscriptionOutput.response?, Ne.symm hsess]
    · have hold : delivered l.session [.response l.session s.publishResponse] =
          [transferNotification] := by
        simpa [delivered, received, SubscriptionOutput.response?] using hresp
      rw [if_neg hn]
      exact hold

end

/-- **A transfer that does what it should**. -/
lemma isolated (hopen : l.subscription.state ≠ .CLOSED)
    (howner : l.session ∉ l.transferred) (hsess : session ≠ l.session)
    (hnone : n = 0 ∨ l.subscription._pending_notifications = [])
    (hstatus : transferNotification ∉
      l.subscription._pending_notifications.map InternalNotification.notification) :
    l.Isolated session n := by
  obtain ⟨hopen', hnew, hmem⟩ := step_transfer_state hopen hsess n
  obtain ⟨hpend, hdeliv, hold, hcount⟩ := step_transfer_of hopen hsess howner hnone
  have hne : l.session ≠ (l.step (.transfer session n)).1.session := by
    rw [hnew]
    exact Ne.symm hsess
  -- what the new session gets after the transfer
  have hcsv : ∀ events,
      Mealy.Along step Undisturbed (l.step (.transfer session n)).1 events →
      let r := Mealy.run step l (.transfer session n :: events)
      ∃ added taken, Conserves l.subscription._pending_notifications added taken
          r.1.subscription._pending_notifications ∧
        (delivered session r.2).Perm (taken.map InternalNotification.notification) ∧
        ∀ n ∈ added, n.notification.status? = none := by
    intro events halong
    have hrun := run_conserves hopen' (by rw [hnew]; exact hmem) halong
    rw [hpend, hnew] at hrun
    intro r
    obtain ⟨added, taken, hcsv, hperm, hadded⟩ := hrun
    refine ⟨added, taken, hcsv, ?_, hadded⟩
    rw [run_cons_snd, delivered_append, hdeliv, nil_append]
    exact hperm
  refine ⟨fun events halong => ?_, fun events halong => ?_, fun events halong => ?_, fun k hk => ?_⟩
  · obtain ⟨hfed, hunfed⟩ := run_other hopen' halong hne (by rw [hcount]; split_ifs <;> omega)
    dsimp only
    rw [run_cons_snd, delivered_append, hold]
    by_cases hn : n = 0
    · rw [if_pos hn] at hcount ⊢
      have hmem : l.session ∈ (l.step (.transfer session n)).1.transferred :=
        List.count_pos_iff.mp (by omega)
      exact ⟨fun h => hfed hmem (h.resolve_left (not_not.mpr hn)), fun _ h => hunfed (.inr h)⟩
    · rw [if_neg hn] at hcount ⊢
      refine ⟨fun _ => ?_, fun h => absurd h hn⟩
      rw [hunfed (.inl (List.count_eq_zero.mp hcount)), append_nil]
  · obtain ⟨added, taken, hcsv, hperm, hadded⟩ := hcsv events halong
    intro hmem'
    obtain ⟨notif, htaken, heq⟩ := List.mem_map.mp (hperm.subset hmem')
    have hin : notif ∈ l.subscription._pending_notifications ++ added := by
      rw [show l.subscription._pending_notifications ++ added = _ from hcsv]
      exact List.mem_append_left _ htaken
    rcases List.mem_append.mp hin with hold | hlater
    · exact hstatus (List.mem_map.mpr ⟨notif, hold, heq⟩)
    · have := hadded notif hlater
      rw [heq] at this
      cases this
  · obtain ⟨added, taken, hcsv, hperm, -⟩ := hcsv events halong
    exact ⟨added, taken, hcsv, hperm⟩
  · rw [← hpend] at hk
    obtain ⟨halong, rest, hperm⟩ := drain_delivers hopen' hk
    refine ⟨halong, rest, ?_⟩
    rw [run_cons_snd, delivered_append, hdeliv, nil_append, ← hpend]
    rw [hnew] at hperm
    exact hperm

/-- **Transfers**. A transfer does what it should if and only if no notification is pending or no
Publish request of the old session waits, and no status change of an earlier transfer is pending. -/
theorem isolated_iff {id priority : ℕ} {parameters : RevisedParameters} {publishingEnabled : Bool}
    {first : ℕ} {before : List (SubscriptionEvent V I)} {l : SubscriptionLife V I}
    (hl : (Mealy.run step (new id priority parameters publishingEnabled first) before).1 = l)
    (hopen : l.subscription.state ≠ .CLOSED) {session : ℕ} (hsession : session ≠ l.session)
    (n : ℕ) :
    l.Isolated session n ↔
      (n = 0 ∨ l.subscription._pending_notifications = []) ∧
        transferNotification ∉
          l.subscription._pending_notifications.map InternalNotification.notification := by
  have howner : l.session ∉ l.transferred := by
    rw [← hl]
    exact Mealy.run_invariant step (I := fun l : SubscriptionLife V I => l.session ∉ l.transferred)
      (A := fun _ _ => True) (fun l event h _ => step_session h event) not_mem_nil
      (Mealy.along_of_forall step fun _ _ _ => trivial)
  constructor
  · intro h
    by_contra hcond
    exact not_isolated hopen hsession hcond h
  · rintro ⟨hnone, hstatus⟩
    exact isolated hopen howner hsession hnone hstatus

/-- A subscription of session 1 that has published one value and has another one pending. -/
def onePending : SubscriptionLife ScalarVariant (MonitoredItem ScalarVariant) :=
  (Mealy.run step (ofSession 1 10 1)
    [.createMonitoredItem 1 (itemWithValues .Reporting [5, 6]), .timerTick 1]).1

/-- The transfer of a subscription with a pending notification, without a Publish request. -/
theorem isolated_iff_onePending :
    onePending.Isolated 2 0 ↔
      (0 = 0 ∨ onePending.subscription._pending_notifications = []) ∧
        transferNotification ∉ onePending.subscription._pending_notifications.map
          InternalNotification.notification :=
  isolated_iff (show (Mealy.run step (new 1 0 (.adjust none 10 0 1) true 1) _).1 = onePending from rfl)
    (by decide +kernel) (by decide +kernel) 0

/-- **A transfer with a Publish request** of the old session sends it the pending notification, and
leaves the status change for the new session. -/
theorem not_isolated_onePending :
    ¬ ∀ (id priority : ℕ) (parameters : RevisedParameters) (publishingEnabled : Bool) (first : ℕ)
      (before : List (SubscriptionEvent ScalarVariant (MonitoredItem ScalarVariant)))
      (l : SubscriptionLife ScalarVariant (MonitoredItem ScalarVariant)),
      (Mealy.run step (new id priority parameters publishingEnabled first) before).1 = l →
      l.subscription.state ≠ .CLOSED → ∀ session ≠ l.session, ∀ n, l.Isolated session n := by
  intro h
  have hisolated := h 1 0 (.adjust none 10 0 1) true 1 _ onePending rfl (by decide +kernel) 2
    (by decide +kernel) 1
  have hold := (hisolated.old [] trivial).1 (.inl Nat.one_ne_zero)
  revert hold
  decide +kernel

end SubscriptionLife

end NodeOpcua
