import Mathlib.Data.List.Perm.Basic
import NodeOpcua.Client.SessionRequests
import NodeOpcua.Library.Mealy

set_option autoImplicit false

/-!
# No request of a session is lost

Every request is somewhere: its callback was called, it is in the secure channel, it waits for the
session to be restored, or a repair will redo it. The invariant counts, for each number, the places
where a request is.

## Main definitions

* `SessionRequests.places`, `RequestsServed`.
* `SessionRequests.Heard`.

## Main results

* `SessionRequests.sound_step`, `SessionRequests.run_requestsServed`.

## Design

The functions of the source pass requests on. The invariant is stated for a list of requests that are
passed on, and are in no place.
-/

namespace NodeOpcua

open List (countP_append countP_singleton mem_append_left mem_append_right append_assoc mem_append
  flatMap_nil append_nil)

/-! ### Counts -/

/-- The requests that the callback of a repair will redo. -/
def RepairCallback.requests : RepairCallback → List SessionRequest
  | .redo request => [request]
  | .external => []

/-- A record says that the callback of the request was called. -/
def RequestRecord.isCall (n : ℕ) : RequestRecord → Bool
  | .called number _ => number = n
  | _ => false

/-- A record says that the request was sent. -/
def RequestRecord.isAttempt (n : ℕ) : RequestRecord → Bool
  | .sent number => number = n
  | _ => false

/-- A record says that an attempt was answered `BadSessionIdInvalid`. -/
def RequestRecord.isRefusal (n : ℕ) : RequestRecord → Bool
  | .answered number .sessionIdInvalid => number = n
  | _ => false

/-- A record says that an attempt was answered. -/
def RequestRecord.isAnswer (n : ℕ) : RequestRecord → Bool
  | .answered number _ => number = n
  | _ => false

open RequestRecord (isAnswer isAttempt isRefusal isCall)

/-- How many of the requests have the number. -/
def withNumber (n : ℕ) (requests : List SessionRequest) : ℕ :=
  requests.countP fun request => request.number = n

@[simp] lemma withNumber_nil (n : ℕ) : withNumber n [] = 0 := rfl

@[simp] lemma withNumber_cons (n : ℕ) (request : SessionRequest) (requests : List SessionRequest) :
    withNumber n (request :: requests) = (if request.number = n then 1 else 0) + withNumber n requests := by
  simp only [withNumber, List.countP_cons, decide_eq_true_eq]
  omega

@[simp] lemma withNumber_append (n : ℕ) (requests requests' : List SessionRequest) :
    withNumber n (requests ++ requests') = withNumber n requests + withNumber n requests' :=
  countP_append

lemma withNumber_perm {requests requests' : List SessionRequest} (h : requests.Perm requests') (n : ℕ) :
    withNumber n requests = withNumber n requests' := h.countP_eq _

lemma withNumber_pos_iff (n : ℕ) (requests : List SessionRequest) :
    0 < withNumber n requests ↔ ∃ request ∈ requests, request.number = n := by
  simp [withNumber, List.countP_pos_iff]

namespace SessionRequests

variable (s : SessionRequests)

/-- The requests in the secure channel. -/
def sentRequests : List SessionRequest := s.inFlight.map RequestAttempt.request

/-- The requests that the callbacks of repairs will redo. -/
def redoRequests : List SessionRequest :=
  s.pendingCallbacks.flatMap RepairCallback.requests ++
    s.repair.toList.flatMap fun run => run.callback.requests

/-- The requests that wait for a repair. -/
def waiting : List SessionRequest := s.session_restored ++ s.redoRequests

/-- **Where the requests are** whose callbacks were not called. -/
def places : List SessionRequest := s.sentRequests ++ s.waiting

/-- The callbacks of a request that were called. -/
def calls (n : ℕ) : ℕ := s.log.countP (isCall n)

end SessionRequests

/-- A request is sent again only when all its attempts were answered `BadSessionIdInvalid`. -/
def ResentProperly (log : List RequestRecord) : Prop :=
  ∀ before n, before ++ [.sent n] <+: log →
    before.countP (isAttempt n) = before.countP (isRefusal n)

/-- Attempts that are answered `BadSessionIdInvalid` are answered. -/
lemma refusals_le_answers (log : List RequestRecord) (n : ℕ) :
    log.countP (isRefusal n) ≤ log.countP (isAnswer n) := by
  refine List.countP_mono_left fun record _ hrecord => ?_
  cases record with
  | sent number => exact hrecord
  | called number outcome => exact hrecord
  | answered number outcome =>
    cases outcome with
    | sessionIdInvalid => exact hrecord
    | error | response => exact absurd hrecord (by nofun)

lemma ResentProperly.concat {log : List RequestRecord} {record : RequestRecord}
    (h : ResentProperly log)
    (hrecord : ∀ n, record = .sent n →
      log.countP (isAttempt n) = log.countP (isRefusal n)) :
    ResentProperly (log ++ [record]) := by
  intro before n hbefore
  rcases List.prefix_concat_iff.mp hbefore with heq | hearlier
  · obtain ⟨rfl, hlast⟩ := List.append_inj' heq rfl
    exact hrecord n (List.singleton_inj.mp hlast).symm
  · exact h before n hearlier

/-- **The requests of a session are served**: no callback is called twice; when a request was not
called back, it is in the secure channel, or waits for a repair that is running or a client that is
reconnecting, and that repair does not wait for it; and none is sent again too early. -/
structure RequestsServed (s : SessionRequests) : Prop where
  once : ∀ n, s.calls n ≤ 1
  served : ∀ n < s.count, s.calls n = 1 ∨ (∃ a ∈ s.inFlight, a.request.number = n) ∨
    (∃ request ∈ s.waiting, request.number = n) ∧ (s.repair.isSome ∨ s.clientReconnecting)
  noCircle : ∀ request ∈ s.waiting, request.byRepair = false
  resent : ResentProperly s.log

namespace SessionRequests

/-! ### The invariant -/

/-- **Every request is in one place**: it was called back, it is in the channel, it waits, or it is
passed on. -/
structure Counted (s : SessionRequests) (passed : List SessionRequest) : Prop where
  once : ∀ n, s.calls n + withNumber n s.places + withNumber n passed = if n < s.count then 1 else 0
  attempts : ∀ n, s.log.countP (isAttempt n) =
    s.log.countP (isAnswer n) + withNumber n s.sentRequests
  answers : ∀ n, s.log.countP (isAnswer n) ≤
    s.log.countP (isRefusal n) + s.calls n
  resent : ResentProperly s.log

/-- **What the requests wait for will happen.** -/
structure Controlled (s : SessionRequests) (passed : List SessionRequest) : Prop where
  calm : s.pendingTransactions = []
  queue : ∀ run, s.repair = some run → run.transactionQueue = []
  repairs : s.reconnecting = true → s.repair.isSome
  running : s.repair.isSome → s.reconnecting = true ∨ s.hasBeenClosed = true
  callbacks : s.pendingCallbacks ≠ [] → s.repair.isSome
  parked : s.session_restored ≠ [] →
    s.hasBeenClosed = false ∧ (s.repair.isSome ∨ s.clientReconnecting = true)
  ordinary : ∀ request ∈ s.waiting, request.byRepair = false
  issued : ∀ request ∈ s.sentRequests ++ passed, request.byRepair = true →
    ∃ run, s.repair = some run ∧ run.stage = .repairing

/-- **The invariant**, with the requests that are passed on. -/
structure Sound (s : SessionRequests) (passed : List SessionRequest) : Prop
    extends Counted s passed, Controlled s passed

/-! ### Requests -/

section

variable {s t : SessionRequests} {passed passed' : List SessionRequest}

lemma Counted.moved (h : Counted s passed) (hlog : t.log = s.log) (hcount : t.count = s.count)
    (hsent : t.inFlight = s.inFlight)
    (hplc : ∀ n, withNumber n t.waiting + withNumber n passed' =
      withNumber n s.waiting + withNumber n passed) : Counted t passed' := by
  have hcalls : ∀ n, t.calls n = s.calls n := fun n => by rw [calls, calls, hlog]
  have hrequests : t.sentRequests = s.sentRequests := by rw [sentRequests, sentRequests, hsent]
  constructor
  · intro n
    have honce := h.once n
    have hn := hplc n
    rw [places, withNumber_append] at honce
    rw [hcalls, hcount, places, hrequests, withNumber_append]
    omega
  · intro n
    rw [hlog, hrequests]
    exact h.attempts n
  · intro n
    rw [hlog, hcalls]
    exact h.answers n
  · rw [hlog]
    exact h.resent

lemma Counted.call {request : SessionRequest} (h : Counted s (request :: passed))
    (outcome : RequestOutcome) : Counted (s.call request outcome) passed := by
  have hcalls : ∀ n, (s.call request outcome).calls n =
      s.calls n + if request.number = n then 1 else 0 := by
    intro n
    simp [calls, SessionRequests.call, countP_append, countP_singleton,
      isCall]
  constructor
  · intro n
    have honce := h.once n
    rw [withNumber_cons] at honce
    rw [hcalls, show (s.call request outcome).places = s.places from rfl,
      show (s.call request outcome).count = s.count from rfl]
    omega
  · intro n
    rw [show (s.call request outcome).sentRequests = s.sentRequests from rfl]
    simpa [SessionRequests.call, countP_append, countP_singleton, isAttempt,
      isAnswer] using h.attempts n
  · intro n
    have hans := h.answers n
    rw [hcalls]
    simp only [SessionRequests.call, countP_append, countP_singleton,
      isAnswer, isRefusal, Bool.false_eq_true, if_false]
    omega
  · exact h.resent.concat (by nofun)

variable {request : SessionRequest}

/-- **A request that is passed on is sent**: all its attempts were answered `BadSessionIdInvalid`. -/
lemma Counted.send (h : Counted s (request :: passed)) (direct : Bool) :
    Counted (s.send request direct) passed := by
  have hsent : ∀ n, withNumber n (s.send request direct).sentRequests =
      withNumber n s.sentRequests + if request.number = n then 1 else 0 := by
    intro n
    simp [sentRequests, SessionRequests.send]
  have hcalls : ∀ n, (s.send request direct).calls n = s.calls n := by
    intro n
    simp [calls, SessionRequests.send, countP_append, isCall]
  constructor
  · intro n
    have honce := h.once n
    rw [places, withNumber_append, withNumber_cons] at honce
    rw [hcalls, places, withNumber_append, hsent,
      show (s.send request direct).waiting = s.waiting from rfl,
      show (s.send request direct).count = s.count from rfl]
    omega
  · intro n
    have hattempts := h.attempts n
    rw [hsent]
    simp only [SessionRequests.send, countP_append, countP_singleton,
      isAttempt, isAnswer, Bool.false_eq_true, if_false,
      decide_eq_true_eq]
    omega
  · intro n
    have hans := h.answers n
    rw [hcalls]
    simpa [SessionRequests.send, countP_append, countP_singleton, isAnswer,
      isRefusal] using hans
  · refine h.resent.concat fun n hn => ?_
    obtain rfl : request.number = n := RequestRecord.sent.inj hn
    have honce := h.once request.number
    have hattempts := h.attempts request.number
    have hans := h.answers request.number
    have hrefusals := refusals_le_answers s.log request.number
    rw [places, withNumber_append, withNumber_cons, if_pos rfl] at honce
    -- the request is in hand, so it was not called back and is not in the channel
    split at honce <;> omega

lemma Sound.call {request : SessionRequest} (h : Sound s (request :: passed))
    (outcome : RequestOutcome) : Sound (s.call request outcome) passed := by
  refine { h with toCounted := h.toCounted.call outcome, issued := fun other hother => h.issued other ?_ }
  rcases List.mem_append.mp hother with hother | hother
  · exact mem_append_left _ hother
  · exact mem_append_right _ (List.mem_cons_of_mem _ hother)

lemma Sound.send (h : Sound s (request :: passed)) (direct : Bool) :
    Sound (s.send request direct) passed := by
  refine { h with toCounted := h.toCounted.send direct, issued := fun other hother => h.issued other ?_ }
  rw [show (s.send request direct).sentRequests = s.sentRequests ++ [request] by
    simp [sentRequests, SessionRequests.send]] at hother
  simpa using hother

/-- `_performMessageTransaction` sends a request or calls it back. -/
lemma Sound._performMessageTransaction (h : Sound s (request :: passed)) :
    Sound (s._performMessageTransaction request) passed := by
  unfold SessionRequests._performMessageTransaction
  split
  · exact h.send true
  · exact h.call .error

/-- When no request waits in `pendingTransactions`, `complete` only calls back. -/
lemma complete_eq_call (hcalm : s.pendingTransactions = []) (request : SessionRequest)
    (outcome : RequestOutcome) : s.complete request outcome = s.call request outcome := by
  have hcalled : (s.call request outcome).pendingTransactions = [] := hcalm
  have hsame : s.complete request outcome =
      { s.call request outcome with pendingTransactions := [] } := by
    simp only [SessionRequests.complete, hcalled, processNext]
  rw [hsame, ← hcalled]

/-- `#reprocessRequest` sends a request or calls it back. -/
lemma Sound.reprocessRequest (h : Sound s (request :: passed)) :
    Sound (s.reprocessRequest request) passed := by
  unfold SessionRequests.reprocessRequest
  split
  · exact h.send false
  · rw [complete_eq_call h.calm]
    exact h.call .error

/-- `performMessageTransaction` sends a request or calls it back. -/
lemma Sound.performMessageTransaction (h : Sound s (request :: passed)) :
    Sound (s.performMessageTransaction request) passed := by
  unfold SessionRequests.performMessageTransaction
  split
  · exact h.call .error
  split
  · exact h._performMessageTransaction
  rw [if_neg (not_not_intro h.calm)]
  exact h.reprocessRequest

variable {requests : List SessionRequest}

lemma Sound.reprocessAll (h : Sound s (requests ++ passed)) :
    Sound (requests.foldl SessionRequests.reprocessRequest s) passed := by
  induction requests generalizing s with
  | nil => exact h
  | cons request requests ih => exact ih h.reprocessRequest

/-! ### Repairs -/

lemma issued_of_ordinary {P : Prop} (h : ∀ request ∈ requests, request.byRepair = false) :
    ∀ request ∈ requests, request.byRepair = true → P :=
  fun request hreq hby => absurd (hby.symm.trans (h request hreq)) (by decide)

lemma Sound.detector (h : Sound s passed) (n : ℕ) :
    Sound { s with recursive_repair_detector := n } passed :=
  { h with toCounted := h.toCounted.moved rfl rfl rfl fun _ => rfl }

variable {callback : RepairCallback}

lemma Sound.callRepairCallback (h : Sound s (callback.requests ++ passed))
    (failed : Bool) : Sound (callRepairCallback failed s callback) passed := by
  cases callback with
  | external => exact h
  | redo request =>
    simp only [SessionRequests.callRepairCallback]
    split
    · exact (h.detector _).call .error
    · exact (h.detector _)._performMessageTransaction

lemma Sound.callRepairCallbacks {callbacks : List RepairCallback}
    (h : Sound s (callbacks.flatMap RepairCallback.requests ++ passed)) (failed : Bool) :
    Sound (callbacks.foldl (SessionRequests.callRepairCallback failed) s) passed := by
  induction callbacks generalizing s with
  | nil => exact h
  | cons callback callbacks ih =>
    rw [List.flatMap_cons, append_assoc] at h
    exact ih (h.callRepairCallback failed)

variable {run : RepairRun}

/-- **A repair that runs comes to its end**: nothing waits for it, or the client is still reconnecting,
and no request of its own is in the channel. -/
lemma Sound.finishRepair (h : Sound s passed) (hrun : s.repair = some run)
    (hparked : s.session_restored ≠ [] → s.clientReconnecting = true)
    (hissued : ∀ request ∈ s.sentRequests ++ passed, request.byRepair = false) (failed : Bool) :
    Sound (s.finishRepair run failed) passed := by
  have hredo : s.redoRequests =
      s.pendingCallbacks.flatMap RepairCallback.requests ++ run.callback.requests := by
    simp [redoRequests, hrun]
  have hordinary : ∀ request ∈ s.sentRequests ++ (s.redoRequests ++ passed),
      request.byRepair = false := by
    intro request hreq
    rw [mem_append, mem_append] at hreq
    rcases hreq with hsent | hwaits | hpassed
    · exact hissued request (mem_append_left _ hsent)
    · exact h.ordinary request (mem_append_right _ hwaits)
    · exact hissued request (mem_append_right _ hpassed)
  rw [hredo, append_assoc] at hordinary
  refine Sound.callRepairCallback (Sound.callRepairCallbacks ⟨?_, ?_⟩ failed) failed
  · refine h.toCounted.moved rfl rfl rfl fun n => ?_
    rw [show s.waiting = s.session_restored ++ s.redoRequests from rfl, hredo]
    simp only [waiting, redoRequests, withNumber_append, flatMap_nil, Option.toList_none,
      withNumber_nil]
    omega
  · refine ⟨?_, nofun, nofun, nofun, nofun, fun hne => ⟨(h.parked hne).1, .inr (hparked hne)⟩,
      fun request hreq => h.ordinary request ?_, issued_of_ordinary hordinary⟩
    · exact List.append_eq_nil_iff.mpr ⟨h.calm, h.queue run hrun⟩
    · simp only [waiting, redoRequests, flatMap_nil, Option.toList_none, append_nil] at hreq
      exact mem_append_left _ hreq

lemma Sound.startRepair (h : Sound s (callback.requests ++ passed))
    (hclo : s.hasBeenClosed = false) (hrecon : s.reconnecting = false) :
    Sound (repeatedAction { s with reconnecting := true, pendingTransactions := [] }
      ⟨callback, s.pendingTransactions, .activating⟩) passed := by
  have hrepair : s.repair = none := by
    rcases hrepair : s.repair with _ | run
    · rfl
    · rcases h.running (by rw [hrepair]; rfl) with hrun | hrun
      · exact absurd hrun (by rw [hrecon]; exact Bool.false_ne_true)
      · exact absurd hrun (by rw [hclo]; exact Bool.false_ne_true)
  have hordinary : ∀ request ∈ s.sentRequests ++ (callback.requests ++ passed),
      request.byRepair = false := by
    intro request hreq
    by_contra hby
    obtain ⟨run, hrun, -⟩ := h.issued request hreq (Bool.not_eq_false _ ▸ hby)
    rw [hrepair] at hrun
    cases hrun
  have hpassed : ∀ request ∈ s.sentRequests ++ passed, request.byRepair = false := by
    intro request hreq
    refine hordinary request ?_
    simp only [mem_append] at hreq ⊢
    exact hreq.imp_right Or.inr
  have hstarted : Sound
      { s with
        reconnecting := true
        pendingTransactions := []
        repair := some ⟨callback, s.pendingTransactions, .activating⟩ } passed := by
    refine ⟨h.toCounted.moved rfl rfl rfl fun n => ?_, rfl, ?_, fun _ => rfl, fun _ => .inl rfl,
      fun _ => rfl, fun hne => ⟨hclo, .inl rfl⟩, fun request hreq => ?_,
      issued_of_ordinary hpassed⟩
    · simp only [waiting, redoRequests, withNumber_append, hrepair, Option.toList_none,
        Option.toList_some, flatMap_nil, List.flatMap_cons, withNumber_nil]
      omega
    · intro run hrun
      obtain rfl := Option.some.inj hrun
      exact h.calm
    · rw [waiting, redoRequests, ← append_assoc, mem_append] at hreq
      rcases hreq with hwaits | hstart
      · refine h.ordinary request ?_
        rwa [waiting, redoRequests, hrepair, Option.toList_none, flatMap_nil, append_nil]
      · refine hordinary request (mem_append_right _ (mem_append_left _ ?_))
        simpa using hstart
  unfold repeatedAction
  split
  · -- the repair is given up at once
    refine Sound.finishRepair hstarted rfl (fun hne => ?_) hpassed true
    rcases (h.parked hne).2 with hrun | hcli
    · rw [hrepair] at hrun
      cases hrun
    · exact hcli
  · exact hstarted

/-- `repair_client_session` calls back, waits for the repair that runs or starts one. -/
lemma Sound.repair_client_session (h : Sound s (callback.requests ++ passed))
    (hwait : s._client = true → s.reconnecting = true → callback.requests = []) :
    Sound (s.repair_client_session callback) passed := by
  unfold SessionRequests.repair_client_session
  by_cases hcli : s._client = false
  · rw [if_pos (by rw [hcli]; rfl)]
    exact h.callRepairCallback false
  rw [Bool.not_eq_false] at hcli
  rw [if_neg (by rw [hcli]; exact Bool.false_ne_true)]
  by_cases hclo : s.hasBeenClosed = true
  · rw [if_pos hclo]
    have hstop : Sound { s with reconnecting := false } (callback.requests ++ passed) :=
      { h with
        toCounted := h.toCounted.moved rfl rfl rfl fun _ => rfl
        repairs := by nofun
        running := fun _ => .inr hclo }
    exact hstop.callRepairCallback false
  rw [if_neg hclo]
  by_cases hrecon : s.reconnecting = true
  · rw [if_pos hrecon]
    have hnone := hwait hcli hrecon
    rw [hnone, List.nil_append] at h
    have hsame : redoRequests { s with pendingCallbacks := s.pendingCallbacks ++ [callback] } =
        s.redoRequests := by
      simp [redoRequests, hnone]
    refine { h with
      toCounted := h.toCounted.moved rfl rfl rfl fun n => ?_
      callbacks := fun _ => h.repairs hrecon
      ordinary := fun request hreq => h.ordinary request ?_ }
    · rw [waiting, hsame]
      rfl
    · rwa [waiting, hsame] at hreq
  rw [if_neg hrecon]
  exact h.startRepair (Bool.not_eq_true _ ▸ hclo) (Bool.not_eq_true _ ▸ hrecon)

/-- `#_recreate_session_and_reperform_transaction` calls back or leaves the request to a repair. -/
lemma Sound.recreateSession (h : Sound s (request :: passed)) (hnot : s.isReconnecting = false) :
    Sound (s.recreateSessionAndReperformTransaction request) passed := by
  unfold recreateSessionAndReperformTransaction
  split
  · exact h.call .error
  · refine Sound.repair_client_session (h.detector _) fun hcli hrecon => ?_
    simp [isReconnecting, show s._client = true from hcli,
      show s.reconnecting = true from hrecon] at hnot

/-- What a request that waits does when the session is restored. -/
structure Redone (s : SessionRequests) (requests : List SessionRequest) (t : SessionRequests) : Prop where
  calm : t.pendingTransactions = []
  repair : t.repair = s.repair
  restored : t.session_restored = s.session_restored
  sent : ∀ request ∈ t.sentRequests, request ∈ s.sentRequests ++ requests

lemma redone_reprocessRequest (hcalm : s.pendingTransactions = []) (request : SessionRequest) :
    Redone s [request] (s.reprocessRequest request) := by
  unfold SessionRequests.reprocessRequest
  split
  · exact ⟨hcalm, rfl, rfl, fun other hother => by
      simpa [sentRequests, SessionRequests.send] using hother⟩
  · rw [complete_eq_call hcalm]
    exact ⟨hcalm, rfl, rfl, fun other hother => mem_append_left _ hother⟩

lemma redone_reprocessAll (hcalm : s.pendingTransactions = []) (requests : List SessionRequest) :
    Redone s requests (requests.foldl SessionRequests.reprocessRequest s) := by
  induction requests generalizing s with
  | nil => exact ⟨hcalm, rfl, rfl, fun other hother => mem_append_left _ hother⟩
  | cons request requests ih =>
    have hfirst := redone_reprocessRequest hcalm request
    have hrest := ih hfirst.calm
    refine ⟨hrest.calm, hrest.repair.trans hfirst.repair, hrest.restored.trans hfirst.restored,
      fun other hother => ?_⟩
    rcases List.mem_append.mp (hrest.sent other hother) with hsent | hrequests
    · have := hfirst.sent other hsent
      simp only [mem_append, List.mem_cons, List.not_mem_nil, or_false] at this ⊢
      tauto
    · exact mem_append_right _ (List.mem_cons_of_mem _ hrequests)

/-- **A repair is over**: it ends, or is tried again later. -/
lemma Sound.repairDone (h : Sound s []) (hrun : s.repair = some run)
    (hparked : s._shouldNotContinue = true → s.session_restored = [] ∨ s.clientReconnecting = true)
    (hissued : ∀ request ∈ s.sentRequests, request.byRepair = false) (failed : Bool) :
    Sound (s.repairDone run failed) [] := by
  have hissued' : ∀ request ∈ s.sentRequests ++ [], request.byRepair = false := by
    rwa [append_nil]
  unfold SessionRequests.repairDone
  by_cases hstop : s._shouldNotContinue = true
  · rw [if_pos hstop]
    exact h.finishRepair hrun (fun hne => (hparked hstop).resolve_left hne) hissued' true
  rw [if_neg hstop]
  have hclo : s.hasBeenClosed = false := by
    rw [_shouldNotContinue, Bool.or_eq_true, not_or, Bool.not_eq_true] at hstop
    exact hstop.1
  cases failed with
  | true =>
    rw [if_pos rfl, if_pos (by rw [hclo]; rfl)]
    refine ⟨h.toCounted.moved rfl rfl rfl fun n => ?_, h.calm, ?_, fun _ => rfl, fun _ => ?_,
      fun _ => rfl, fun _ => ⟨hclo, .inl rfl⟩, fun request hreq => h.ordinary request ?_,
      issued_of_ordinary hissued'⟩
    · simp [waiting, redoRequests, hrun]
    · intro other hother
      obtain rfl := Option.some.inj hother
      exact h.queue run hrun
    · exact h.running (by rw [hrun]; rfl)
    · simpa [waiting, redoRequests, hrun] using hreq
  | false =>
    have hemitted : Sound { s with session_restored := [] } (s.session_restored ++ []) := by
      refine ⟨h.toCounted.moved rfl rfl rfl fun n => ?_, h.calm, h.queue, h.repairs, h.running,
        h.callbacks, by nofun, fun request hreq => h.ordinary request ?_,
        issued_of_ordinary fun request hreq => ?_⟩
      · simp only [waiting, redoRequests, withNumber_append, withNumber_nil]
        omega
      · exact mem_append_right _ hreq
      · rw [append_nil] at hreq
        rcases List.mem_append.mp hreq with hsent | hwaits
        · exact hissued request hsent
        · exact h.ordinary request (mem_append_left _ hwaits)
    have hredone := redone_reprocessAll (s := { s with session_restored := [] }) h.calm
      s.session_restored
    refine Sound.finishRepair hemitted.reprocessAll (hredone.repair.trans hrun)
      (fun hne => absurd hredone.restored hne) (fun request hreq => ?_) false
    rw [append_nil] at hreq
    rcases List.mem_append.mp (hredone.sent request hreq) with hsent | hwaits
    · exact hissued request hsent
    · exact h.ordinary request (mem_append_left _ hwaits)

/-! ### Answers -/

variable {a : RequestAttempt} {k : ℕ}

lemma sentRequests_erase (hk : s.inFlight[k]? = some a) :
    s.sentRequests.Perm (a.request :: (s.inFlight.eraseIdx k).map RequestAttempt.request) := by
  obtain ⟨hlt, rfl⟩ := List.getElem?_eq_some_iff.mp hk
  exact (List.getElem_cons_eraseIdx_perm hlt).symm.map RequestAttempt.request

/-- The state in which an attempt was just answered. -/
abbrev afterAnswer (s : SessionRequests) (k : ℕ) (a : RequestAttempt) (outcome : RequestOutcome) :
    SessionRequests :=
  { s with
    inFlight := s.inFlight.eraseIdx k
    log := s.log ++ [.answered a.request.number outcome] }

section

variable (h : Counted s []) (hk : s.inFlight[k]? = some a)
include h hk

lemma Counted.afterAnswer (outcome : RequestOutcome) (n : ℕ) :
    (s.afterAnswer k a outcome).calls n = s.calls n ∧
    (s.calls n + withNumber n (s.afterAnswer k a outcome).places +
      (if a.request.number = n then 1 else 0) = if n < s.count then 1 else 0) ∧
    (s.afterAnswer k a outcome).log.countP (isAttempt n) =
      (s.afterAnswer k a outcome).log.countP (isAnswer n) +
        withNumber n (s.afterAnswer k a outcome).sentRequests := by
  have hsent : withNumber n s.sentRequests = (if a.request.number = n then 1 else 0) +
      withNumber n (s.afterAnswer k a outcome).sentRequests :=
    (withNumber_perm (sentRequests_erase hk) n).trans (withNumber_cons _ _ _)
  have honce := h.once n
  have hattempts := h.attempts n
  rw [places, withNumber_append, withNumber_nil] at honce
  refine ⟨?_, ?_, ?_⟩
  · simp [calls, countP_append, isCall]
  · rw [places, withNumber_append,
      show (s.afterAnswer k a outcome).waiting = s.waiting from rfl]
    omega
  · simp only [countP_append, countP_singleton, isAttempt,
      isAnswer, Bool.false_eq_true, if_false, decide_eq_true_eq]
    omega

/-- A request whose attempt was answered `BadSessionIdInvalid` is passed on. -/
lemma Counted.refused :
    Counted (s.afterAnswer k a .sessionIdInvalid) [a.request] := by
  constructor
  · intro n
    obtain ⟨hcalls, honce, -⟩ := h.afterAnswer hk .sessionIdInvalid n
    rw [hcalls, withNumber_cons, withNumber_nil]
    exact honce
  · exact fun n => (h.afterAnswer hk .sessionIdInvalid n).2.2
  · intro n
    have hans := h.answers n
    rw [(h.afterAnswer hk .sessionIdInvalid n).1]
    simp only [countP_append, countP_singleton, isAnswer,
      isRefusal, decide_eq_true_eq]
    omega
  · exact h.resent.concat (by nofun)

lemma Counted.settled (outcome : RequestOutcome) :
    Counted ((s.afterAnswer k a outcome).call a.request outcome) [] := by
  have hcalls : ∀ n, ((s.afterAnswer k a outcome).call a.request outcome).calls n =
      s.calls n + if a.request.number = n then 1 else 0 := by
    intro n
    simp [calls, SessionRequests.call, countP_append, countP_singleton,
      isCall]
  constructor
  · intro n
    have honce := (h.afterAnswer hk outcome n).2.1
    rw [hcalls, withNumber_nil,
      show ((s.afterAnswer k a outcome).call a.request outcome).places =
        (s.afterAnswer k a outcome).places from rfl,
      show ((s.afterAnswer k a outcome).call a.request outcome).count = s.count from rfl]
    omega
  · intro n
    have hattempts := (h.afterAnswer hk outcome n).2.2
    rw [show ((s.afterAnswer k a outcome).call a.request outcome).sentRequests =
      (s.afterAnswer k a outcome).sentRequests from rfl]
    simp only [SessionRequests.call, countP_append, countP_singleton,
      isAttempt, isAnswer, Bool.false_eq_true, if_false,
      decide_eq_true_eq] at hattempts ⊢
    omega
  · intro n
    have hans := h.answers n
    rw [hcalls]
    simp only [SessionRequests.call, countP_append, countP_singleton,
      isAnswer, Bool.false_eq_true, if_false, decide_eq_true_eq]
    omega
  · refine ResentProperly.concat (h.resent.concat (by nofun)) (by nofun)

end

lemma mem_sentRequests_of_afterAnswer
    (h : request ∈ (s.inFlight.eraseIdx k).map RequestAttempt.request) :
    request ∈ s.sentRequests := by
  obtain ⟨attempt, hattempt, rfl⟩ := List.mem_map.mp h
  exact List.mem_map_of_mem (List.mem_of_mem_eraseIdx hattempt)

lemma Sound.settled (h : Sound s []) (hk : s.inFlight[k]? = some a)
    (outcome : RequestOutcome) : Sound ((s.afterAnswer k a outcome).call a.request outcome) [] := by
  refine { h with
    toCounted := h.toCounted.settled hk outcome
    issued := fun request hreq => h.issued request ?_ }
  rw [append_nil] at hreq ⊢
  exact mem_sentRequests_of_afterAnswer hreq

/-- A request whose attempt was answered `BadSessionIdInvalid` is passed on. -/
lemma Sound.refused (h : Sound s []) (hk : s.inFlight[k]? = some a) :
    Sound (s.afterAnswer k a .sessionIdInvalid) [a.request] := by
  refine { h with
    toCounted := h.toCounted.refused hk
    issued := fun request hreq => h.issued request ?_ }
  rw [append_nil]
  rcases List.mem_append.mp hreq with hsent | href
  · exact mem_sentRequests_of_afterAnswer hsent
  · obtain rfl := List.mem_singleton.mp href
    exact List.mem_map_of_mem (List.mem_of_getElem? hk)

/-- An answer may make a request wait for the session to be restored. -/
def Parks (s : SessionRequests) (a : RequestAttempt) (outcome : RequestOutcome) : Prop :=
  a.direct = false ∧ outcome = .sessionIdInvalid ∧ a.request.type ≠ .ActivateSessionRequest ∧
    s.isReconnecting = true

/-- **An answer** calls the request back, starts a repair, or makes the request wait for one that will
tell it. -/
lemma Sound.answered (h : Sound s []) (hk : s.inFlight[k]? = some a) (outcome : RequestOutcome)
    (hparks : s.Parks a outcome → s.hasBeenClosed = false ∧ a.request.byRepair = false) :
    Sound ((s.afterAnswer k a outcome).answered a outcome) [] := by
  unfold SessionRequests.answered
  by_cases hdirect : a.direct = true
  · rw [if_pos hdirect]
    exact h.settled hk outcome
  rw [if_neg hdirect]
  by_cases href : (outcome = .sessionIdInvalid && a.request.type ≠ .ActivateSessionRequest) = true
  · rw [if_pos href]
    simp only [Bool.and_eq_true, decide_eq_true_eq] at href
    obtain ⟨rfl, htype⟩ := href
    by_cases hrecon : s.isReconnecting = true
    · rw [if_pos (show (s.afterAnswer k a .sessionIdInvalid).isReconnecting = true from hrecon)]
      obtain ⟨hclo, hby⟩ :=
        hparks ⟨Bool.not_eq_true _ ▸ hdirect, rfl, htype, hrecon⟩
      have hpassed := h.refused hk
      refine ⟨hpassed.toCounted.moved rfl rfl rfl fun n => ?_, h.calm, h.queue, h.repairs, h.running,
        h.callbacks, fun _ => ⟨hclo, ?_⟩, fun request hreq => ?_, fun request hreq => ?_⟩
      · simp only [waiting, redoRequests, withNumber_append, withNumber_cons, withNumber_nil]
        omega
      · simp only [isReconnecting, Bool.and_eq_true, Bool.or_eq_true] at hrecon
        exact hrecon.2.symm.imp_left h.repairs
      · rw [waiting, append_assoc, mem_append, mem_append, List.mem_singleton]
          at hreq
        rcases hreq with hwaits | rfl | hredo
        · exact h.ordinary request (mem_append_left _ hwaits)
        · exact hby
        · exact h.ordinary request (mem_append_right _ hredo)
      · rw [append_nil] at hreq
        exact hpassed.issued request (mem_append_left _ hreq)
    · rw [if_neg (show ¬ (s.afterAnswer k a .sessionIdInvalid).isReconnecting = true from hrecon)]
      exact (h.refused hk).recreateSession (Bool.not_eq_true _ ▸ hrecon)
  · rw [if_neg href, complete_eq_call (show (s.afterAnswer k a outcome).pendingTransactions = [] from
      h.calm)]
    exact h.settled hk outcome

/-! ### Steps -/

lemma Sound.newRequest (h : Sound s []) (type : SessionRequestType) {byRepair : Bool}
    (hby : byRepair = true → ∃ run, s.repair = some run ∧ run.stage = .repairing) :
    Sound (s.newRequest type byRepair) [] := by
  refine Sound.performMessageTransaction
    ⟨⟨fun n => ?_, h.attempts, h.answers, h.resent⟩, h.calm, h.queue, h.repairs, h.running, h.callbacks,
      h.parked, h.ordinary, fun request hreq hissued => ?_⟩
  · have honce := h.once n
    rw [withNumber_nil] at honce
    rw [withNumber_cons, withNumber_nil]
    show s.calls n + withNumber n s.places + ((if s.count = n then 1 else 0) + 0) =
      if n < s.count + 1 then 1 else 0
    split at honce <;> split <;> split <;> omega
  · rcases List.mem_append.mp hreq with hsent | hnew
    · exact h.issued request (mem_append_left _ hsent) hissued
    · obtain rfl := List.mem_singleton.mp hnew
      exact hby hissued

/-- When the repair is given up in a stage, no request waits for it alone. -/
def GivesUp (s : SessionRequests) (stage : RepairStage) : Prop :=
  ∀ run, s.repair = some run → run.stage = stage → s._shouldNotContinue = true →
    s.session_restored = [] ∨ s.clientReconnecting = true

/-- **The requests that wait will hear of the end of what they wait for**: no request of a repair, and
none of a session that is closed, is made to wait; and while requests wait, the session is not closed,
the repair is not given up and the client does not end its reconnection before the repair. -/
def Heard (s : SessionRequests) : SessionRequestEvent → Prop
  | .answer attempt outcome => ∀ a, s.inFlight[attempt]? = some a → s.Parks a outcome →
      s.hasBeenClosed = false ∧ a.request.byRepair = false
  | .activated _ => s.GivesUp .activating
  | .repaired _ => s.GivesUp .repairing
  | .retry => s.GivesUp .retrying
  | .closing => s.session_restored = []
  | .disposed => s.session_restored = []
  | .clientReconnecting clientReconnecting =>
      clientReconnecting = true ∨ s.session_restored = [] ∨ s.repair.isSome
  | _ => True

lemma Sound.not_byRepair (h : Sound s []) (hrun : s.repair = some run)
    (hstage : run.stage ≠ .repairing) : ∀ request ∈ s.sentRequests, request.byRepair = false := by
  intro request hreq
  by_contra hby
  obtain ⟨other, hother, hrepairing⟩ :=
    h.issued request (by rwa [append_nil]) (Bool.not_eq_false _ ▸ hby)
  rw [hrun] at hother
  obtain rfl := Option.some.inj hother
  exact hstage hrepairing

lemma Sound.stage (h : Sound s []) (hrun : s.repair = some run)
    (hsent : ∀ request ∈ s.sentRequests, request.byRepair = false) (stage : RepairStage) :
    Sound { s with repair := some { run with stage } } [] := by
  refine ⟨h.toCounted.moved rfl rfl rfl fun n => ?_, h.calm, ?_, fun _ => rfl, fun _ => ?_,
    fun _ => rfl, fun hne => ⟨(h.parked hne).1, .inl rfl⟩, fun request hreq => h.ordinary request ?_,
    issued_of_ordinary (by rwa [append_nil])⟩
  · simp [waiting, redoRequests, hrun]
  · intro other hother
    obtain rfl := Option.some.inj hother
    exact h.queue run hrun
  · exact h.running (by rw [hrun]; rfl)
  · simpa [waiting, redoRequests, hrun] using hreq

/-- **What may happen keeps the invariant**, when the requests that wait hear of it. -/
theorem sound_step (h : Sound s []) (event : SessionRequestEvent) (hheard : s.Heard event) :
    Sound (s.step event) [] := by
  cases event with
  | request type => exact h.newRequest type (by nofun)
  | repairRequest type =>
    simp only [step]
    split
    · next callback transactionQueue hrun =>
      exact h.newRequest type fun _ => ⟨_, hrun, rfl⟩
    · exact h
  | answer attempt outcome =>
    simp only [step]
    split
    · exact h
    · next a ha => exact h.answered ha outcome (hheard a ha)
  | repairSession => exact Sound.repair_client_session h fun _ _ => rfl
  | activated failed =>
    simp only [step]
    split
    · next callback transactionQueue hrun =>
      have hsent := h.not_byRepair hrun (by nofun)
      split
      · exact h.repairDone hrun (hheard _ hrun rfl) hsent failed
      · exact h.stage hrun hsent .repairing
    · exact h
  | repaired failed =>
    simp only [step]
    split
    · next callback transactionQueue hrun =>
      split
      · next hnothing =>
        refine h.repairDone hrun (hheard _ hrun rfl) (fun request hreq => ?_) failed
        obtain ⟨attempt, hattempt, rfl⟩ := List.mem_map.mp hreq
        rw [awaitsNothing, Bool.and_eq_true, List.all_eq_true] at hnothing
        exact Bool.not_eq_true' _ ▸ hnothing.1 attempt hattempt
      · exact h
    · exact h
  | retry =>
    simp only [step]
    split
    · next callback transactionQueue hrun =>
      have hsent := h.not_byRepair hrun (by nofun)
      by_cases hstop : s._shouldNotContinue = true
      · rw [if_pos hstop]
        exact h.finishRepair hrun (fun hne => (hheard _ hrun rfl hstop).resolve_left hne)
          (by rwa [append_nil]) true
      · rw [if_neg hstop, repeatedAction, if_neg hstop]
        exact h.stage hrun hsent .activating
    · exact h
  | closing =>
    exact { h with
      toCounted := h.toCounted.moved rfl rfl rfl fun _ => rfl
      running := fun _ => .inr (by simp [step, hasBeenClosed])
      parked := fun hne => absurd hheard hne }
  | disposed =>
    have hwait : s.waiting = [] ++ s.redoRequests := by
      rw [waiting, show s.session_restored = [] from hheard]
    refine { h with
      toCounted := h.toCounted.moved rfl rfl rfl fun n => ?_
      running := fun _ => .inr (by simp [step, hasBeenClosed])
      parked := by nofun
      ordinary := fun request hreq => h.ordinary request ?_ }
    · rw [hwait]
      rfl
    · rw [hwait]
      exact hreq
  | channelChange channelValid usable =>
    exact { h with toCounted := h.toCounted.moved rfl rfl rfl fun _ => rfl }
  | clientReconnecting clientReconnecting =>
    refine { h with
      toCounted := h.toCounted.moved rfl rfl rfl fun _ => rfl
      parked := fun hne => ⟨(h.parked hne).1, ?_⟩ }
    rcases hheard with htrue | hnone | hrun
    · exact .inr htrue
    · exact absurd hnone hne
    · exact .inl hrun

end

/-! ### Runs -/

/-- The steps as a machine that emits nothing. -/
abbrev machine (s : SessionRequests) (event : SessionRequestEvent) : SessionRequests × List Empty :=
  (s.step event, [])

/-- The state after some events. -/
abbrev after (events : List SessionRequestEvent) : SessionRequests :=
  (Mealy.run machine initial events).1

lemma sound_initial : Sound initial [] := by
  refine ⟨⟨fun n => ?_, fun n => rfl, fun n => Nat.zero_le _, fun before n hbefore => ?_⟩, rfl, nofun,
    nofun, nofun, nofun, nofun, nofun, nofun⟩
  · exact (if_neg (Nat.not_lt_zero n)).symm
  · exact absurd (List.prefix_nil.mp hbefore) (List.append_ne_nil_of_right_ne_nil _ (by nofun))

lemma Sound.requestsServed {s : SessionRequests} (h : Sound s []) : RequestsServed s := by
  refine ⟨fun n => ?_, fun n hn => ?_, h.ordinary, h.resent⟩
  · have honce := h.once n
    split at honce <;> omega
  · have honce := h.once n
    rw [if_pos hn, places, withNumber_append, withNumber_nil] at honce
    rcases Nat.eq_zero_or_pos (s.calls n) with hcalls | hcalls
    · rcases Nat.eq_zero_or_pos (withNumber n s.sentRequests) with hsent | hsent
      · obtain ⟨request, hwaits, hnum⟩ := (withNumber_pos_iff n s.waiting).mp (by omega)
        refine .inr (.inr ⟨⟨request, hwaits, hnum⟩, ?_⟩)
        rcases List.mem_append.mp hwaits with hparked | hredo
        · exact (h.parked (List.ne_nil_of_mem hparked)).2
        · refine .inl ?_
          by_contra hnone
          have hcallbacks : s.pendingCallbacks = [] :=
            Decidable.byContradiction fun hne => hnone (h.callbacks hne)
          rw [Bool.not_eq_true, Option.isSome_eq_false_iff, Option.isNone_iff_eq_none] at hnone
          rw [redoRequests, hcallbacks, hnone] at hredo
          exact absurd hredo List.not_mem_nil
      · obtain ⟨request, hreq, hnum⟩ := (withNumber_pos_iff n s.sentRequests).mp hsent
        obtain ⟨attempt, hattempt, rfl⟩ := List.mem_map.mp hreq
        exact .inr (.inl ⟨attempt, hattempt, hnum⟩)
    · exact .inl (by omega)

/-- **Every request of a session is served** in the runs in which the requests that wait hear of the
end of what they wait for: it is called back at most once, and until then it is in the secure channel
or waits for a repair that does not wait for it; it is sent again only when its attempts were answered
`BadSessionIdInvalid`.

**Proof sketch.** The invariant is kept by each step. -/
theorem run_requestsServed (events : List SessionRequestEvent)
    (hheard : Mealy.Along machine Heard initial events) : RequestsServed (after events) :=
  Sound.requestsServed (Mealy.run_invariant machine (I := fun s => Sound s [])
    (fun _ event h hevent => sound_step h event hevent) sound_initial hheard)

/-- A request finds the session invalid, and another one waits for the repair that it starts. Both are
redone when the repair, which asked for something itself, is over. -/
theorem requestsServed_repair :
    RequestsServed (after [.request .other, .request .other, .answer 0 .sessionIdInvalid,
      .answer 0 .sessionIdInvalid, .activated false, .repairRequest .other, .answer 0 .response,
      .repaired false, .answer 0 .response, .answer 0 .response]) := by
  refine run_requestsServed _ ⟨trivial, trivial, ?_, ?_, ?_, trivial, ?_, ?_, ?_, ?_, trivial⟩
  · intro a ha hparks
    exact absurd hparks.2.2.2 (by decide)
  · intro a ha hparks
    obtain rfl := Option.some.inj ha
    decide
  · intro run hrun hstage hstop
    exact absurd hstop (by decide)
  · intro a ha hparks
    exact absurd hparks.2.1 (by decide)
  · intro run hrun hstage hstop
    exact absurd hstop (by decide)
  · intro a ha hparks
    exact absurd hparks.2.1 (by decide)
  · intro a ha hparks
    exact absurd hparks.2.1 (by decide)

/-- **Requests that are not served**: a request of the repair is answered `BadSessionIdInvalid` and waits
for that repair, which therefore does not end; and a request that waits for a repair is forgotten when
the session is closed and the repair is given up. -/
theorem request_waits_for_itself :
    let circle := after [.request .other, .answer 0 .sessionIdInvalid, .activated false,
      .repairRequest .other, .answer 0 .sessionIdInvalid]
    let forgotten := after [.request .other, .request .other, .answer 0 .sessionIdInvalid,
      .answer 0 .sessionIdInvalid, .closing, .activated false]
    (¬ RequestsServed circle ∧ ∀ failed, circle.step (.repaired failed) = circle) ∧
      ¬ RequestsServed forgotten := by
  refine ⟨⟨fun h => ?_, by decide⟩, fun h => ?_⟩
  · exact absurd (h.noCircle ⟨1, .other, true⟩ (by decide)) (by decide)
  · have hlost := h.served 1 (by decide)
    exact absurd hlost (by decide)

end SessionRequests

end NodeOpcua
