import Mathlib.Logic.Function.Basic
import NodeOpcua.Server.UserIdentity

set_option autoImplicit false

/-!
# Sessions, channels and the activation of sessions

A session is created on a channel, and activated by requests that may come through other channels. The
server checks a request to activate, waits for the checks of the user, and then changes the session.

## Main definitions

* `SessionActivation.ActivationServer`.
* `SessionActivation._on_ActivateSessionRequest`, `activateSession`.
* `SessionActivation.step`.

## Design

* A session is known by a number, which is its authentication token as long as the engine has the
  session. A pending activation keeps the session itself.
* The nonces are numbered: the random bytes of two numbers are taken to be distinct nonces.
* The counters, the audit events, the publish engine and the watch dog of a session are left out, as is
  the table of the sessions of a channel.
* The response to a request reaches the channel of the request.
* `GoodPasswordChangeRequired` is answered as `Good`: the session is activated in the same way.
-/

namespace NodeOpcua.SessionActivation

/-! ### The server -/

/-- `SessionStatus`. -/
inductive SessionStatus
  | new
  | active
  | screwed
  | disposed
  | closed
  deriving DecidableEq, Repr

/-- `ServerSession`. -/
structure ActivatedSession where
  /-- The engine has the session. -/
  registered : Bool
  status : SessionStatus
  channel : Option ℕ
  nonce : ℕ
  endpoint : Option EndpointDescription
  userIdentityToken : Option UserIdentityToken
  deriving DecidableEq, Repr

/-- `ActivateSessionRequest`, with the channel that it comes through. -/
structure ActivateSessionRequest where
  channel : ℕ
  authenticationToken : ℕ
  userIdentityToken : Option UserIdentityToken
  clientSignature : Option Buffer
  userTokenSignature : Option Buffer
  deriving DecidableEq, Repr

/-- What a pending activation waits for. -/
inductive ActivationStage
  | checkingCertificate
  | immediate (authorized : Bool)
  | checkingUser
  deriving DecidableEq, Repr

/-- **A pending activation**: the number of its request, its session and its channel, the nonce that
was used, and the token. -/
structure PendingActivation where
  number : ℕ
  session : ℕ
  channel : ℕ
  nonce : ℕ
  userIdentityToken : UserIdentityToken
  stage : ActivationStage
  deriving DecidableEq, Repr

/-- **The server.** -/
structure ActivationServer where
  /-- The sessions with smaller numbers than `sessionCount` were created. -/
  sessions : ℕ → ActivatedSession
  sessionCount : ℕ
  pending : List PendingActivation
  /-- The `CloseSession` requests that wait for the callbacks of the monitored items. -/
  pendingCloses : List ℕ
  nonceCount : ℕ
  requestCount : ℕ

/-- An activation that was answered with success, with the session as it is then. -/
structure SessionActivated where
  number : ℕ
  channel : ℕ
  nonce : ℕ
  userIdentityToken : UserIdentityToken
  session : ActivatedSession
  deriving DecidableEq, Repr

/-- A session that was moved to another channel. -/
structure SessionMoved where
  oldChannel : Option ℕ
  newChannel : ℕ
  oldToken : Option UserIdentityToken
  newToken : UserIdentityToken
  deriving DecidableEq, Repr

/-- What the server does. -/
inductive ActivationEffect
  | answered (number : ℕ) (statusCode : StatusCode)
  | activated (activation : SessionActivated)
  | moved (move : SessionMoved)
  /-- The handler of the request threw an exception. -/
  | threw (number : ℕ)
  /-- A request took effect on a session, which was attached to the other channel. -/
  | tookEffect (channel : ℕ) (attached : Option ℕ)
  deriving DecidableEq, Repr

/-- What may happen. -/
inductive ActivationInput
  | createSession (channel : ℕ) (endpoint : Option EndpointDescription)
  | activate (request : ActivateSessionRequest)
  /-- The check of a certificate is over, with an error when there is no status. -/
  | certificateChecked (position : ℕ) (statusCode : Option StatusCode)
  | immediate (position : ℕ)
  /-- The check of a password is over, with an error when there is no answer. -/
  | userChecked (position : ℕ) (authorized : Option Bool)
  /-- The monitored items may have to be deleted first. -/
  | closeSession (channel authenticationToken : ℕ) (waits : Bool)
  | monitoredItemsDeleted (position : ℕ)
  /-- A timeout, or the server closes a session that was not activated. -/
  | timeout (authenticationToken : ℕ)
  /-- Any other service. -/
  | request (channel authenticationToken : ℕ)
  deriving DecidableEq, Repr

/-- A server without sessions. -/
def ActivationServer.initial : ActivationServer where
  sessions _ := ⟨false, .closed, none, 0, none, none⟩
  sessionCount := 0
  pending := []
  pendingCloses := []
  nonceCount := 0
  requestCount := 0

/-- `getSession`. -/
def getSession (s : ActivationServer) (authenticationToken : ℕ) : Option ActivatedSession :=
  if authenticationToken < s.sessionCount && (s.sessions authenticationToken).registered then
    some (s.sessions authenticationToken)
  else none

/-! ### Before the checks of the user -/

/-- How the handler ends when it does not wait. -/
inductive ActivationFailure
  | rejected (statusCode : StatusCode)
  | threw
  deriving DecidableEq, Repr

section

variable (host : ActivationHost) (channels : ℕ → ActivationChannel)

/-- `_on_ActivateSessionRequest`, the checks of the status and of the channel. -/
def checkChannel (session : ActivatedSession) (request : ActivateSessionRequest) :
    Except ActivationFailure Unit :=
  match session.status with
  | .new =>
    if session.channel ≠ some request.channel then .error (.rejected .BadSessionNotActivated)
    else .ok ()
  | .active =>
    if session.channel ≠ some request.channel then
      if thumbprint (session.channel.bind fun channel => (channels channel).clientCertificate) ≠
          thumbprint (channels request.channel).clientCertificate then
        .error (.rejected .BadNoValidCertificates)
      else
        match sameIdentityToken session.userIdentityToken request.userIdentityToken with
        | none => .error .threw
        | some false => .error (.rejected .BadIdentityChangeNotSupported)
        | some true => .ok ()
    else .ok ()
  | .screwed => .error (.rejected .BadSessionClosed)
  | .closed => .error (.rejected .BadSessionClosed)
  | .disposed => .ok ()

/-- `isUserAuthorized`, and what its callback does at once. -/
def authorize (session : ActivatedSession) (channel : ℕ) (userIdentityToken : UserIdentityToken) :
    Except ActivationFailure ActivationStage :=
  match isUserAuthorized host (channels channel) (host.randomBytes session.nonce)
      (session.endpoint.getD ⟨none⟩) userIdentityToken with
  | .answered none => .error (.rejected .BadInternalError)
  | .answered (some _) => .error (.rejected .BadUserAccessDenied)
  | .immediate authorized => .ok (.immediate authorized)
  | .checkingUser => .ok .checkingUser
  | .throws => .error .threw

section

variable (s : ActivationServer)

/-- **`_on_ActivateSessionRequest`**, to the point where it waits, with the token. -/
def _on_ActivateSessionRequest (request : ActivateSessionRequest) :
    Except ActivationFailure (UserIdentityToken × ActivationStage) :=
  match getSession s request.authenticationToken with
  | none => .error (.rejected .BadSessionIdInvalid)
  | some session => do
    checkChannel channels session request
    if !verifySignature host (host.randomBytes session.nonce) request.clientSignature
        (channels request.channel).clientCertificate (channels request.channel).securityPolicy then
      .error (.rejected .BadApplicationSignatureInvalid)
    else
      match session.endpoint with
      | none => .error (.rejected .BadSessionIdInvalid)
      | some endpoint =>
        match request.userIdentityToken.orElse fun _ => createAnonymousIdentityToken endpoint with
        | none => .error .threw
        | some userIdentityToken =>
          match isValidUserIdentityToken host (channels request.channel)
              (host.randomBytes session.nonce) endpoint userIdentityToken
              request.userTokenSignature with
          | .checkingCertificate => .ok (userIdentityToken, .checkingCertificate)
          | .answered statusCode =>
            if statusCode.isNotGood then .error (.rejected statusCode)
            else do
              let stage ← authorize host channels session request.channel userIdentityToken
              .ok (userIdentityToken, stage)

/-! ### After the checks of the user -/

section

variable (activation : PendingActivation)

/-- **The session is activated**, and moved to the channel of the request when it was active. -/
def activateSession :
    ActivationServer × List ActivationEffect :=
  let session := s.sessions activation.session
  let moved := { session with
    channel :=
      if session.status = SessionStatus.active then some activation.channel else session.channel }
  let activated := { moved with
    userIdentityToken := some activation.userIdentityToken
    nonce := s.nonceCount
    status := .active }
  ({ s with
      sessions := Function.update s.sessions activation.session activated
      nonceCount := s.nonceCount + 1 },
    (if session.status = .active ∧ session.channel ≠ some activation.channel then
      [.moved ⟨session.channel, activation.channel, session.userIdentityToken,
        activation.userIdentityToken⟩]
    else []) ++
    [.answered activation.number .Good, .activated ⟨activation.number, activation.channel,
      activation.nonce, activation.userIdentityToken, activated⟩])

/-- The callback of `isUserAuthorized`. -/
def userAuthorized :
    Option Bool → ActivationServer × List ActivationEffect
  | none => (s, [.answered activation.number .BadInternalError])
  | some false => (s, [.answered activation.number .BadUserAccessDenied])
  | some true => activateSession s activation

/-- The callback of `isValidUserIdentityToken`, for a certificate. -/
def certificateChecked :
    Option StatusCode → ActivationServer × List ActivationEffect
  | none => (s, [.answered activation.number .BadCertificateInvalid])
  | some statusCode =>
    if statusCode ≠ .Good then (s, [.answered activation.number .BadIdentityTokenRejected])
    else
      match authorize host channels (s.sessions activation.session) activation.channel
          activation.userIdentityToken with
      | .ok stage => ({ s with pending := s.pending ++ [{ activation with stage }] }, [])
      | .error (.rejected statusCode) => (s, [.answered activation.number statusCode])
      | .error .threw => (s, [.threw activation.number])

end

/-! ### Steps -/

/-- `ServerEngine.closeSession`. -/
def closeSession (authenticationToken : ℕ) : ActivationServer :=
  if (getSession s authenticationToken).isSome then
    { s with
      sessions := Function.update s.sessions authenticationToken
        { s.sessions authenticationToken with
          registered := false
          status := .disposed
          channel := none } }
  else s

/-- A pending activation goes on. -/
def resume (position : ℕ) (stage : ActivationStage)
    (handler : ActivationServer → PendingActivation → ActivationServer × List ActivationEffect) :
    ActivationServer × List ActivationEffect :=
  match s.pending[position]? with
  | some activation =>
    if activation.stage = stage then
      handler { s with pending := s.pending.eraseIdx position } activation
    else (s, [])
  | none => (s, [])

/-- A request to activate a session. When the handler throws, `on_request` answers. -/
def activate (request : ActivateSessionRequest) :
    ActivationServer × List ActivationEffect :=
  let counted := { s with requestCount := s.requestCount + 1 }
  match _on_ActivateSessionRequest host channels s request with
  | .error (.rejected statusCode) => (counted, [.answered s.requestCount statusCode])
  | .error .threw =>
    (counted, [.threw s.requestCount, .answered s.requestCount .BadInternalError])
  | .ok (userIdentityToken, stage) =>
    ({ counted with
        pending := s.pending ++ [{
          number := s.requestCount
          session := request.authenticationToken
          channel := request.channel
          nonce := (s.sessions request.authenticationToken).nonce
          userIdentityToken
          stage }] }, [])

end

/-- **What may happen next.** -/
def step (s : ActivationServer) : ActivationInput → ActivationServer × List ActivationEffect
  | .createSession channel endpoint =>
    ({ s with
        sessions := Function.update s.sessions s.sessionCount
          ⟨true, .new, some channel, s.nonceCount, endpoint, none⟩
        sessionCount := s.sessionCount + 1
        nonceCount := s.nonceCount + 1 }, [])
  | .activate request => activate host channels s request
  | .certificateChecked position statusCode =>
    resume s position .checkingCertificate fun s activation =>
      certificateChecked host channels s activation statusCode
  | .immediate position =>
    match s.pending[position]? with
    | some ⟨_, _, _, _, _, .immediate authorized⟩ =>
      resume s position (.immediate authorized) fun s activation =>
        userAuthorized s activation (some authorized)
    | _ => (s, [])
  | .userChecked position authorized =>
    resume s position .checkingUser fun s activation => userAuthorized s activation authorized
  | .closeSession channel authenticationToken waits =>
    -- `_on_CloseSessionRequest` takes the session that `prepare` has found, on whatever channel
    match getSession s authenticationToken with
    | none => (s, [])
    | some session =>
      (if waits then { s with pendingCloses := s.pendingCloses ++ [authenticationToken] }
        else closeSession s authenticationToken, [.tookEffect channel session.channel])
  | .monitoredItemsDeleted position =>
    match s.pendingCloses[position]? with
    | none => (s, [])
    | some authenticationToken =>
      (closeSession { s with pendingCloses := s.pendingCloses.eraseIdx position }
        authenticationToken, [])
  | .timeout authenticationToken => (closeSession s authenticationToken, [])
  | .request channel authenticationToken =>
    match getSession s authenticationToken with
    | none => (s, [])
    | some session =>
      if session.channel ≠ some channel then (s, [])
      else if session.status ≠ .active then
        ({ s with
            sessions := Function.update s.sessions authenticationToken
              { session with status := .screwed } }, [.tookEffect channel session.channel])
      else (s, [.tookEffect channel session.channel])

end

end NodeOpcua.SessionActivation
