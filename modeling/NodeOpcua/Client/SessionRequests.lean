import Mathlib.Data.Nat.Notation
import Mathlib.Tactic.Lemma

set_option autoImplicit false

/-!
# The requests of a session

A request that the server answers with `BadSessionIdInvalid` makes the client repair the session, and
is sent again. When a repair is in progress, the request waits until the session is restored.

## Main definitions

* `SessionRequests`.
* `SessionRequests.performMessageTransaction`, `repair_client_session`.
* `SessionRequests.step`.

## Design

* A request that is handed to the secure channel is answered in a later step, once.
* Between the activation of the session and its end a repair may ask for anything through the session.
  It ends when all that it asked for was answered; `ActivateSession` is not sent through the session's
  queue, so the repair only tells that it is over.
* What an application does in a callback comes as a later event, and callbacks do not throw.
* The log tells what happened so far. No function reads it.
-/

namespace NodeOpcua

/-! ### The session -/

/-- The types of requests that are told apart. -/
inductive SessionRequestType
  | PublishRequest
  | ActivateSessionRequest
  | CloseSessionRequest
  | other
  deriving DecidableEq, Repr

/-- **A request with its callback**, which a repair or an application gives. -/
structure SessionRequest where
  number : ℕ
  type : SessionRequestType
  byRepair : Bool
  deriving DecidableEq, Repr

/-- How an attempt ends. -/
inductive RequestOutcome
  | sessionIdInvalid
  | error
  | response
  deriving DecidableEq, Repr

/-- What happened to a request. -/
inductive RequestRecord
  | sent (number : ℕ)
  | answered (number : ℕ) (outcome : RequestOutcome)
  | called (number : ℕ) (outcome : RequestOutcome)
  deriving DecidableEq, Repr

/-- The callback of `repair_client_session`. -/
inductive RepairCallback
  /-- Of `#_recreate_session_and_reperform_transaction`. -/
  | redo (request : SessionRequest)
  /-- Of `repair_client_sessions`. -/
  | external
  deriving DecidableEq, Repr

/-- Where a repair is. -/
inductive RepairStage
  | activating
  | repairing
  /-- The timer is running. -/
  | retrying
  deriving DecidableEq, Repr

/-- **A repair**. -/
structure RepairRun where
  callback : RepairCallback
  transactionQueue : List SessionRequest
  stage : RepairStage
  deriving DecidableEq, Repr

/-- A request in the secure channel. -/
structure RequestAttempt where
  request : SessionRequest
  /-- The answer goes to the callback of the request, and not to `#reprocessRequest`. -/
  direct : Bool
  deriving DecidableEq, Repr

/-- **A session with its requests.** -/
structure SessionRequests where
  /-- There is a client. -/
  _client : Bool
  _closed : Bool
  channelValid : Bool
  /-- The client is usable and has a secure channel. -/
  usable : Bool
  /-- The client is reconnecting. -/
  clientReconnecting : Bool
  reconnecting : Bool
  pendingCallbacks : List RepairCallback
  pendingTransactions : List SessionRequest
  recursive_repair_detector : ℕ
  /-- The requests that wait for the event `session_restored`. -/
  session_restored : List SessionRequest
  repair : Option RepairRun
  inFlight : List RequestAttempt
  count : ℕ
  log : List RequestRecord
  deriving DecidableEq, Repr

/-- What may happen. -/
inductive SessionRequestEvent
  | request (type : SessionRequestType)
  | repairRequest (type : SessionRequestType)
  | answer (attempt : ℕ) (outcome : RequestOutcome)
  /-- `repair_client_sessions` comes to the session. -/
  | repairSession
  | activated (failed : Bool)
  | repaired (failed : Bool)
  /-- The timer of a repair. -/
  | retry
  | closing
  /-- The session is closed: its listeners are removed. -/
  | disposed
  | channelChange (channelValid usable : Bool)
  | clientReconnecting (clientReconnecting : Bool)
  deriving DecidableEq, Repr

namespace SessionRequests

/-- A session that is not repaired and has no requests. -/
def initial : SessionRequests where
  _client := true
  _closed := false
  channelValid := true
  usable := true
  clientReconnecting := false
  reconnecting := false
  pendingCallbacks := []
  pendingTransactions := []
  recursive_repair_detector := 0
  session_restored := []
  repair := none
  inFlight := []
  count := 0
  log := []

/-- `hasBeenClosed`. -/
def hasBeenClosed (s : SessionRequests) : Bool := !s._client || s._closed

/-- `isReconnecting`. -/
def isReconnecting (s : SessionRequests) : Bool :=
  s._client && (s.clientReconnecting || s.reconnecting)

/-- `_shouldNotContinue`. -/
def _shouldNotContinue (s : SessionRequests) : Bool := s.hasBeenClosed || !s.usable

/-! ### Requests -/

/-- The callback of a request is called. -/
def call (s : SessionRequests) (request : SessionRequest) (outcome : RequestOutcome) :
    SessionRequests :=
  { s with log := s.log ++ [.called request.number outcome] }

/-- A request is handed to the secure channel. -/
def send (s : SessionRequests) (request : SessionRequest) (direct : Bool) : SessionRequests :=
  { s with
      inFlight := s.inFlight ++ [⟨request, direct⟩]
      log := s.log ++ [.sent request.number] }

/-- There are a client and a valid channel. -/
def canSend (s : SessionRequests) : Bool := s._client && s.channelValid

/-- `_performMessageTransaction`, with the callback of the request. -/
def _performMessageTransaction (s : SessionRequests) (request : SessionRequest) : SessionRequests :=
  if s.canSend then s.send request true else s.call request .error

/-- The next request in `pendingTransactions` is processed; when it fails at once, so is the one after
it. -/
def processNext (s : SessionRequests) : List SessionRequest → SessionRequests
  | [] => { s with pendingTransactions := [] }
  | request :: rest =>
    if s.canSend then send { s with pendingTransactions := rest } request false
    else processNext (s.call request .error) rest

section

variable (s : SessionRequests) (request : SessionRequest)

/-- `#reprocessRequest` calls the callback of a request. -/
def complete (outcome : RequestOutcome) :
    SessionRequests :=
  let s := s.call request outcome
  s.processNext s.pendingTransactions

/-- `#reprocessRequest`. -/
def reprocessRequest : SessionRequests :=
  if s.canSend then s.send request false else s.complete request .error

/-- `performMessageTransaction`. -/
def performMessageTransaction : SessionRequests :=
  if !s._client then s.call request .error
  else if request.type = .PublishRequest || request.type = .ActivateSessionRequest ||
      request.type = .CloseSessionRequest then
    s._performMessageTransaction request
  else if s.pendingTransactions ≠ [] then
    { s with pendingTransactions := s.pendingTransactions ++ [request] }
  else s.reprocessRequest request

end

/-- A new request is performed. -/
def newRequest (s : SessionRequests) (type : SessionRequestType) (byRepair : Bool) :
    SessionRequests :=
  performMessageTransaction { s with count := s.count + 1 } ⟨s.count, type, byRepair⟩

/-! ### Repairs -/

/-- A callback of `repair_client_session` is called. -/
def callRepairCallback (failed : Bool) (s : SessionRequests) : RepairCallback → SessionRequests
  | .external => s
  | .redo request =>
    let s := { s with recursive_repair_detector := s.recursive_repair_detector - 1 }
    if failed then s.call request .error else s._performMessageTransaction request

section

variable (s : SessionRequests)

/-- The callback of `repeatedAction`: the repair is over. -/
def finishRepair (run : RepairRun) (failed : Bool) : SessionRequests :=
  let otherCallbacks := s.pendingCallbacks
  let s := { s with
    reconnecting := false
    pendingCallbacks := []
    pendingTransactions := s.pendingTransactions ++ run.transactionQueue
    repair := none }
  callRepairCallback failed (otherCallbacks.foldl (callRepairCallback failed) s) run.callback

/-- `repeatedAction`, to the activation of the session. -/
def repeatedAction (run : RepairRun) : SessionRequests :=
  if s._shouldNotContinue then s.finishRepair run true
  else { s with repair := some { run with stage := .activating } }

/-- `repair_client_session`. -/
def repair_client_session (callback : RepairCallback) : SessionRequests :=
  if !s._client then callRepairCallback false s callback
  else if s.hasBeenClosed then callRepairCallback false { s with reconnecting := false } callback
  else if s.reconnecting then { s with pendingCallbacks := s.pendingCallbacks ++ [callback] }
  else
    repeatedAction { s with reconnecting := true, pendingTransactions := [] }
      ⟨callback, s.pendingTransactions, .activating⟩

/-- `#_recreate_session_and_reperform_transaction`. -/
def recreateSessionAndReperformTransaction (request : SessionRequest) :
    SessionRequests :=
  if 1 ≤ s.recursive_repair_detector then s.call request .error
  else
    repair_client_session { s with recursive_repair_detector := s.recursive_repair_detector + 1 }
      (.redo request)

/-- The answer to an attempt. -/
def answered (attempt : RequestAttempt) (outcome : RequestOutcome) :
    SessionRequests :=
  if attempt.direct then s.call attempt.request outcome
  else if outcome = .sessionIdInvalid && attempt.request.type ≠ .ActivateSessionRequest then
    if s.isReconnecting then
      { s with session_restored := s.session_restored ++ [attempt.request] }
    else s.recreateSessionAndReperformTransaction attempt.request
  else s.complete attempt.request outcome

/-- The event `session_restored`: the requests that wait for it are redone. -/
def emitSessionRestored : SessionRequests :=
  s.session_restored.foldl reprocessRequest { s with session_restored := [] }

/-- `_repair_client_session` is over. -/
def repairDone (run : RepairRun) (failed : Bool) : SessionRequests :=
  if s._shouldNotContinue then s.finishRepair run true
  else if failed then
    if !s.hasBeenClosed then { s with repair := some { run with stage := .retrying } }
    else s.finishRepair run false
  else finishRepair s.emitSessionRestored run false

/-- The repair waits for no request of its own. -/
def awaitsNothing : Bool :=
  (s.inFlight.all fun attempt => !attempt.request.byRepair) &&
    s.session_restored.all fun request => !request.byRepair

end

/-! ### Steps -/

/-- **What may happen next.** -/
def step (s : SessionRequests) : SessionRequestEvent → SessionRequests
  | .request type => s.newRequest type false
  | .repairRequest type =>
    match s.repair with
    | some ⟨_, _, .repairing⟩ => s.newRequest type true
    | _ => s
  | .answer attempt outcome =>
    match s.inFlight[attempt]? with
    | none => s
    | some a =>
      answered { s with
        inFlight := s.inFlight.eraseIdx attempt
        log := s.log ++ [.answered a.request.number outcome] } a outcome
  | .repairSession => s.repair_client_session .external
  | .activated failed =>
    match s.repair with
    | some ⟨callback, transactionQueue, .activating⟩ =>
      if s._shouldNotContinue then
        s.repairDone ⟨callback, transactionQueue, .activating⟩ failed
      else { s with repair := some ⟨callback, transactionQueue, .repairing⟩ }
    | _ => s
  | .repaired failed =>
    match s.repair with
    | some ⟨callback, transactionQueue, .repairing⟩ =>
      if s.awaitsNothing then s.repairDone ⟨callback, transactionQueue, .repairing⟩ failed else s
    | _ => s
  | .retry =>
    match s.repair with
    | some ⟨callback, transactionQueue, .retrying⟩ =>
      if s._shouldNotContinue then s.finishRepair ⟨callback, transactionQueue, .retrying⟩ true
      else s.repeatedAction ⟨callback, transactionQueue, .retrying⟩
    | _ => s
  | .closing => { s with _closed := true }
  | .disposed => { s with _closed := true, _client := false, session_restored := [] }
  | .channelChange channelValid usable => { s with channelValid, usable }
  | .clientReconnecting clientReconnecting => { s with clientReconnecting }

end SessionRequests

end NodeOpcua
