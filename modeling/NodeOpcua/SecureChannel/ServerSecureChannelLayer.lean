import NodeOpcua.SecureChannel.MessageChunker
import NodeOpcua.SecureChannel.TokenStack

set_option autoImplicit false

/-!
# The server side of a secure channel

`ServerSecureChannelLayer` of `node-opcua-secure-channel`: it opens the channel, renews its security
tokens, hands the requests of the client to the application and sends the responses.

## Main definitions

* `ServerSecureChannelLayer`, `ServerSecureChannelLayer.send_response`,
  `ServerSecureChannelLayer._handle_OpenSecureChannelRequest`, `ServerSecureChannelLayer.step`.

## Design

What the class gets from its parent, its transport and the cryptographic library is a parameter,
`Host`. The asynchronous parts of a method are inputs of their own: a message whose certificates
are being checked, a request that waits for `beforeHandleOpenSecureChannelRequest` and an error that
waits for the throttling timer are kept in the state until then. Every input comes with the time at
which it is handled. The message builder in front of the class is a machine of its own; its policy
is an input here. Statistics, traces and the checks of the debug mode are left out.
-/

namespace NodeOpcua

open ChunkManager (BufferFunc)

/-- `SecurityTokenRequestType`. -/
inductive SecurityTokenRequestType
  | Issue
  | Renew
  deriving DecidableEq, Repr

/-- The fields of an `OpenSecureChannelRequest` that the server reads. -/
structure OpenSecureChannelRequest where
  requestType : SecurityTokenRequestType
  securityMode : MessageSecurityMode
  clientNonce : Buffer
  requestedLifetime : ℕ
  deriving DecidableEq, Repr

/-- The requests that the channel tells apart. -/
inductive RequestBody
  | openSecureChannelRequest (request : OpenSecureChannelRequest)
  | closeSecureChannelRequest
  | other
  deriving DecidableEq, Repr

/-- `Request`. -/
structure Request where
  requestHandle : ℕ
  returnDiagnostics : ℕ
  body : RequestBody
  deriving DecidableEq, Repr

/-- `Message`; the token id of a header comes from a word of 32 bits. -/
structure Message where
  request : Request
  requestId : ℕ
  securityHeader : SecurityHeader
  tokenId_lt : securityHeader.tokenId < 2 ^ 32

/-- The response objects `ο`: those the channel makes itself, and what it does with any. -/
structure ResponseFactory (ο : Type) where
  openSecureChannelResponse : ISecurityToken → Option Buffer → ο
  /-- A fault with a status code; a description goes into its string table, before the text of the
  status code. -/
  serviceFault : StatusCode → Option String → ο
  isServiceFault : ο → Bool
  /-- The response header gets the handle of the request, and no diagnostics when none are
  requested. -/
  setResponseHeader : Request → ο → ο
  /-- The node id of the encoding, and the encoded response. -/
  encode : ο → Buffer
  encode_ne_nil : ∀ response, encode response ≠ []

/-- What the class relies on: keys `κ`, public keys `π`, randomness `ω` and responses `ο`. -/
structure Host (κ π ω ο : Type) where
  symmetric : SymmetricCrypto κ
  /-- `computeDerivedKeys`: the keys of one direction, from a secret and a seed. -/
  computeDerivedKeys_ext : SecurityPolicy → Buffer → Buffer → κ
  symmetricKeyLength : SecurityPolicy → ℕ
  /-- Signing with the private key of the channel and encrypting for the key of the client. -/
  asymmetric : SecurityPolicy → π → SecureMessageData ω
  responses : ResponseFactory ο
  hasEndpoint : MessageSecurityMode → SecurityPolicy → Bool
  /-- Whether a thumbprint is that of the certificate of the channel. -/
  isMyCertificate : Buffer → Bool
  /-- `getPartialCertificateChain` of the chain of the channel, combined. -/
  senderCertificate : Buffer
  /-- The thumbprint of the first certificate of a chain. -/
  getThumbprint : Buffer → Buffer

/-- `#status`. -/
inductive ChannelStatus
  | new
  | connecting
  | open
  | closing
  | closed
  deriving DecidableEq, Repr

/-- Who listens to the messages of the message builder. -/
inductive MessageListener
  | initial
  | common
  | none
  deriving DecidableEq, Repr

/-- The parameters of an error that waits to be sent. -/
structure PendingFault where
  serviceResult : StatusCode
  description : String
  message : Message

/-- The fields of a `ServerSecureChannelLayer`. -/
structure ServerSecureChannelLayer (κ π ω : Type) where
  status : ChannelStatus := .new
  _abort_has_been_called : Bool := false
  channelId : ℕ
  securityMode : MessageSecurityMode := .Invalid
  securityPolicy : SecurityPolicy := .Invalid
  _lastTokenId : ℕ := 0
  _defaultSecureTokenLifetime : ℕ := 600000
  _clientCertificate : Option Buffer := none
  _clientPublicKey : Option π := none
  _messageChunker : MessageChunker ω
  _tokenStack : TokenStack κ := {}
  _transactionsCount : ℕ := 0
  /-- `#transport.receiveBufferSize`. -/
  receiveBufferSize : ℕ
  /-- `#messageBuilder.securityPolicy`. -/
  builderSecurityPolicy : SecurityPolicy := .Invalid
  listener : MessageListener := .initial
  certificatesOf : Option Message := none
  opening : List (Message × OpenSecureChannelRequest) := []
  faults : List PendingFault := []

namespace ServerSecureChannelLayer

variable {κ π ω ο : Type}

/-- The constructor, with what the transport has negotiated. -/
def construct (channelId defaultSecureTokenLifetime receiveBufferSize : ℕ)
    (messageChunker : MessageChunker ω) : ServerSecureChannelLayer κ π ω where
  channelId
  _defaultSecureTokenLifetime :=
    if defaultSecureTokenLifetime = 0 then 600000 else defaultSecureTokenLifetime
  receiveBufferSize
  _messageChunker := messageChunker

/-- `ServerSecureChannelLayer.g_MinimumSecureTokenLifetime`. -/
def g_MinimumSecureTokenLifetime : ℕ := 2500

/-- How the callback of `send_response` is called; `thrown` when an exception leaves the method. -/
inductive SendResult
  | sent
  | aborted
  | failed (statusCode : StatusCode)
  | thrown
  deriving DecidableEq, Repr

/-- What the class does to its surroundings. -/
inductive Output (κ : Type)
  | write (msgType : String) (chunk : Buffer)
  | securityToken (entry : SecurityTokenAndDerivedKeys κ)
  | message (message : Message)
  | builderSecurityMode (securityMode : MessageSecurityMode)
  | errorMessage (statusCode : StatusCode) (description : String)
  | callback (result : SendResult)
  | thrown (message : String)

/-- The events that the class reacts to. -/
inductive Input (π ο : Type)
  | message (message : Message) (msgType : String) (channelId : ℕ)
  | builderSecurityPolicy (securityPolicy : SecurityPolicy)
  | builderError (statusCode : StatusCode) (message : String)
  /-- The outcome of `#_process_certificates`: an error, or the status of the certificate. -/
  | certificates (clientCertificate : Option Buffer) (clientPublicKey : Option π)
      (result : Except String StatusCode)
  /-- `beforeHandleOpenSecureChannelRequest` is over for a request that waits for it. -/
  | beforeHandled (index : ℕ) (random : Buffer) (nonceAlreadyBeenUsed : Bool)
  | throttled (index : ℕ)
  | sendResponse (msgType : String) (response : ο) (message : Message)
  | close
  | disconnected

variable (host : Host κ π ω ο) (now : ℤ) (s : ServerSecureChannelLayer κ π ω)

/-! ### Sending a response -/

/-- `#_get_security_options_for_OPN`. -/
def _get_security_options_for_OPN : Except ChunkManagerError (Option (SecureMessageData ω)) :=
  if s.securityMode = .None then .ok none
  else if s.builderSecurityPolicy.hasCryptoFactory then
    match s._clientPublicKey with
    | none => .ok none  -- this could happen if certificate was wrong
    | some clientPublicKey => .ok (some (host.asymmetric s.builderSecurityPolicy clientPublicKey))
  else .error (.assertion "Internal Error: ServerSecureChannelLayer must have a crypto strategy")

/-- The keys that `#_get_security_options_for_MSG` chooses: those of the token, or those of the
latest valid one. -/
def serverKeysFor (tokenId : ℕ) : Option κ :=
  match s._tokenStack.serverKeyProvider now tokenId with
  | some keys => some keys
  | none => (s._tokenStack.getLatestTokenDerivedKeys now).bind (·.2.derivedServerKeys)

/-- `#_get_security_options_for_MSG`. -/
def _get_security_options_for_MSG (tokenId : ℕ) :
    Except ChunkManagerError (Option (SecureMessageData ω)) :=
  if s.securityMode = .None then .ok none
  else
    match s.serverKeysFor now tokenId with
    | none => .ok none  -- no valid token available at all
    | some keys => (getOptionsForSymmetricSignAndEncrypt host.symmetric s.securityMode keys).map some

section

variable (msgType : String) (response : ο) (message : Message)

/-- One attempt of `send_response`: the chunks of the response, or the status code that says why
there are none. -/
def sendOnce :
    Except ChunkManagerError (Except StatusCode (List Buffer) × ServerSecureChannelLayer κ π ω) := do
  let securityOptions ←
    (if msgType = "OPN" then _get_security_options_for_OPN host s
    else _get_security_options_for_MSG host now s message.securityHeader.tokenId)
  let options : ChunkMessageParameters ω := {
    channelId := s.channelId
    securityOptions := .ofSecurityOptions s.receiveBufferSize message.requestId securityOptions
    securityHeader := message.securityHeader }
  let response := host.responses.setResponseHeader message.request response
  let chunker := { s._messageChunker with securityMode := s.securityMode }
  let (result, chunker) ← chunker.chunkSecureMessage msgType options (host.responses.encode response)
  return (result, { s with
    _transactionsCount := s._transactionsCount + 1
    _messageChunker := chunker })

/-- `send_response`: a response that cannot be cut into chunks is replaced by a ServiceFault, once.
An exception leaves the state as it was. -/
def send_response :
    ServerSecureChannelLayer κ π ω × List (Output κ) × SendResult :=
  if s._abort_has_been_called then (s, [], .aborted)
  else
    match s.sendOnce host now msgType response message with
    | .error _ => (s, [], .thrown)
    | .ok (.ok chunks, s) => (s, chunks.map (.write msgType), .sent)
    | .ok (.error statusCode, s) =>
      if host.responses.isServiceFault response then (s, [], .failed statusCode)
      else
        match s.sendOnce host now msgType (host.responses.serviceFault statusCode none) message with
        | .error _ => (s, [], .thrown)
        | .ok (.ok chunks, s) => (s, chunks.map (.write msgType), .sent)
        | .ok (.error statusCode, s) => (s, [], .failed statusCode)

end

/-! ### Opening and renewing -/

/-- `#_on_OpenSecureChannelRequestError`: the ServiceFault is sent later. -/
def _on_OpenSecureChannelRequestError (serviceResult : StatusCode) (description : String)
    (message : Message) : ServerSecureChannelLayer κ π ω :=
  { s with
    securityMode := .None
    status := .closing
    faults := s.faults ++ [{ serviceResult, description, message }] }

/-- The callback of the throttling timer in `#_on_OpenSecureChannelRequestError`. -/
def sendFault (fault : PendingFault) : ServerSecureChannelLayer κ π ω × List (Output κ) :=
  let response := host.responses.serviceFault fault.serviceResult (some fault.description)
  let (s, outputs, _) := s.send_response host now "ERR" response fault.message
  (s, outputs)

/-- `#_prepare_response_security_header`: the header, and the policy of the channel. -/
def _prepare_response_security_header (request : OpenSecureChannelRequest) (message : Message) :
    AsymmetricAlgorithmSecurityHeader × SecurityPolicy :=
  match request.securityMode with
  | .Invalid => ({ securityPolicyUri := some SecurityPolicy.Invalid.value }, .Invalid)
  | .None => ({ securityPolicyUri := some SecurityPolicy.None.value }, .None)
  | .Sign | .SignAndEncrypt =>
    let securityPolicyUri := message.securityHeader.securityPolicyUri
    let receiverCertificateThumbprint :=
      if s.securityMode = .None then none else s._clientCertificate.map host.getThumbprint
    let policy := match securityPolicyUri with
      | none | some "" => some SecurityPolicy.Invalid.value
      | some uri => some uri
    ({ securityPolicyUri, receiverCertificateThumbprint,
       senderCertificate := some host.senderCertificate }, coerceSecurityPolicy policy)

/-- `#_check_client_nonce`. -/
def _check_client_nonce (clientNonce : Buffer) (nonceAlreadyBeenUsed : Bool) : StatusCode :=
  if s.securityMode = .None then .Good
  else if s.builderSecurityPolicy.hasCryptoFactory = false then .BadSecurityModeRejected
  else if clientNonce.length ≠ host.symmetricKeyLength s.builderSecurityPolicy then
    .BadSecurityModeRejected
  else if nonceAlreadyBeenUsed then .BadNonceInvalid
  else .Good

/-- `#_check_receiverCertificateThumbprint`. -/
def _check_receiverCertificateThumbprint : SecurityHeader → Bool
  | .symmetric _ => true  -- nothing we can do here
  | .asymmetric header =>
    match header.receiverCertificateThumbprint with
    | none => true
    | some thumbprint => host.isMyCertificate thumbprint

/-- `#_make_serverNonce`, given the random bytes. -/
def _make_serverNonce (random : Buffer) : Option Buffer :=
  if s.securityMode = .None then none else some random

/-- `#_make_derivedKeys`; the cryptographic strategy is there, as `#_check_client_nonce` has
passed. -/
def _make_derivedKeys (serverNonce : Option Buffer) (clientNonce : Buffer) :
    Option (DerivedKeys1 κ) :=
  serverNonce.map fun serverNonce =>
    computeDerivedKeys host.computeDerivedKeys_ext s.builderSecurityPolicy serverNonce clientNonce

/-- `adjustLifetime`. -/
def adjustLifetime (requestedLifetime : ℕ) : ℕ :=
  if requestedLifetime = 0 then s._defaultSecureTokenLifetime
  else max g_MinimumSecureTokenLifetime (min s._defaultSecureTokenLifetime requestedLifetime)

/-- `#_prepare_security_token`. -/
def _prepare_security_token (request : OpenSecureChannelRequest)
    (derivedKeys : Option (DerivedKeys1 κ)) :
    Except String (ISecurityToken × ServerSecureChannelLayer κ π ω) := do
  let securityToken : ISecurityToken := {
    channelId := s.channelId
    createdAt := some now
    revisedLifetime := s.adjustLifetime request.requestedLifetime
    tokenId := s._lastTokenId + 1 }
  let tokenStack ← s._tokenStack.pushNewToken now securityToken derivedKeys
  return (securityToken, { s with
    _lastTokenId := s._lastTokenId + 1
    _tokenStack := tokenStack })

/-- The response to an accepted request. The callback opens the channel; it is not called when the
sending throws. -/
def sendOpenResponse (securityToken : ISecurityToken) (serverNonce : Option Buffer)
    (message : Message) (securityHeader : AsymmetricAlgorithmSecurityHeader) :
    ServerSecureChannelLayer κ π ω × List (Output κ) :=
  let response := host.responses.openSecureChannelResponse securityToken serverNonce
  let message := { message with
    securityHeader := .asymmetric securityHeader
    tokenId_lt := Nat.two_pow_pos 32 }
  let (s, outputs, result) := s.send_response host now "OPN" response message
  ({ s with status := if result = .thrown then s.status else .open }, outputs)

/-- The second half of `#_handle_OpenSecureChannelRequest`, once the request is accepted: a new
token, and the response. -/
def issueToken (random : Buffer) (message : Message) (request : OpenSecureChannelRequest)
    (securityHeader : AsymmetricAlgorithmSecurityHeader) :
    ServerSecureChannelLayer κ π ω × List (Output κ) :=
  let serverNonce := s._make_serverNonce random
  let derivedKeys := s._make_derivedKeys host serverNonce request.clientNonce
  match s._prepare_security_token now request derivedKeys with
  | .error e => (s, [.thrown e])
  | .ok (securityToken, s) =>
    let (s, outputs) := s.sendOpenResponse host now securityToken serverNonce message securityHeader
    (s, .securityToken { securityToken, derivedKeys } :: outputs)

/-- `#_handle_OpenSecureChannelRequest`, after `beforeHandleOpenSecureChannelRequest`. -/
def _handle_OpenSecureChannelRequest (random : Buffer) (nonceAlreadyBeenUsed : Bool)
    (message : Message) (request : OpenSecureChannelRequest) :
    ServerSecureChannelLayer κ π ω × List (Output κ) :=
  if request.securityMode = .Invalid then
    (s._on_OpenSecureChannelRequestError .BadSecurityModeRejected "invalid security mode" message, [])
  else
    let prepared := s._prepare_response_security_header host request message
    let s := { s with securityPolicy := prepared.2 }
    let statusCodeClientNonce := s._check_client_nonce host request.clientNonce nonceAlreadyBeenUsed
    if message.requestId = 0 then
      (s._on_OpenSecureChannelRequestError .BadTcpInternalError "invalid request" message, [])
    else if statusCodeClientNonce ≠ .Good then
      (s._on_OpenSecureChannelRequestError statusCodeClientNonce "invalid nonce" message, [])
    else if _check_receiverCertificateThumbprint host message.securityHeader = false then
      (s._on_OpenSecureChannelRequestError .BadCertificateInvalid
        "Server#OpenSecureChannelRequest : Invalid receiver certificate thumbprint : the thumbprint doesn't match server certificate !"
        message, [])
    else s.issueToken host now random message request prepared.1

/-- `isValidSecurityPolicy`. -/
def isValidSecurityPolicy : SecurityPolicy → StatusCode
  | .None | .Basic128Rsa15 | .Basic256 | .Basic256Sha256 | .Aes128_Sha256_RsaOaep
  | .Aes256_Sha256_RsaPss => .Good
  | _ => .BadSecurityPolicyRejected

/-- `#_on_initial_open_secure_channel_request`, up to the check of the certificates. -/
def _on_initial_open_secure_channel_request (message : Message) :
    ServerSecureChannelLayer κ π ω × List (Output κ) :=
  let s := { s with status := .connecting }
  match message.request.body with
  | .openSecureChannelRequest request =>
    let s := { s with securityMode := request.securityMode }
    let output : List (Output κ) := [.builderSecurityMode request.securityMode]
    let uri := message.securityHeader.securityPolicyUri
    let securityPolicy := fromURI uri
    let securityPolicyStatus := isValidSecurityPolicy securityPolicy
    if securityPolicyStatus ≠ .Good then
      (s._on_OpenSecureChannelRequestError securityPolicyStatus
        s!" Unsupported securityPolicyUri {uri}" message, output)
    else if host.hasEndpoint request.securityMode securityPolicy = false then
      (s._on_OpenSecureChannelRequestError .BadSecurityPolicyRejected
        s!" This server doesn't not support  {securityPolicy.value}" message, output)
    else ({ s with listener := .common, certificatesOf := some message }, output)
  | _ =>
    (s._on_OpenSecureChannelRequestError .BadCommunicationError "Expecting OpenSecureChannelRequest"
      message, [])

/-- The callback of `#_process_certificates`. Some statuses of a certificate are passed on to the
client, the others are not told apart. -/
def onCertificates (message : Message) :
    Except String StatusCode → ServerSecureChannelLayer κ π ω
  | .error e =>
    s._on_OpenSecureChannelRequestError .BadInternalError s!"Internal Error {e}" message
  | .ok statusCode =>
    if statusCode = .Good then
      match message.request.body with
      | .openSecureChannelRequest request => { s with opening := s.opening ++ [(message, request)] }
      | _ => s
    else
      let statusCode :=
        if statusCode ∈ [StatusCode.BadCertificateIssuerRevocationUnknown,
            .BadCertificateRevocationUnknown, .BadCertificateTimeInvalid,
            .BadCertificateUseNotAllowed] then statusCode
        else .BadSecurityChecksFailed
      s._on_OpenSecureChannelRequestError statusCode "certificate invalid" message

/-! ### Receiving -/

/-- `#_sendFatalErrorAndAbort`. -/
def _sendFatalErrorAndAbort (statusCode : StatusCode) (description : String) :
    ServerSecureChannelLayer κ π ω × List (Output κ) :=
  ({ s with status := .closing }, [.errorMessage statusCode description])

/-- The request to renew the security token, when the message is one. -/
def renewalOf (msgType : String) : RequestBody → Option OpenSecureChannelRequest
  | .openSecureChannelRequest request => if msgType = "OPN" then some request else none
  | _ => none

/-- `#_on_common_message`. -/
def _on_common_message (message : Message) (msgType : String) (channelId : ℕ) :
    ServerSecureChannelLayer κ π ω × List (Output κ) :=
  if msgType = "CLO" then ({ s with status := .closing }, [])
  else
    match renewalOf msgType message.request.body with
    | some request => ({ s with opening := s.opening ++ [(message, request)] }, [])
    | none =>
      if message.request.body = .closeSecureChannelRequest then ({ s with status := .closing }, [])
      else
        let tokenId := message.securityHeader.tokenId
        match s._tokenStack.getToken tokenId with
        | none =>
          s._sendFatalErrorAndAbort .BadCommunicationError
            s!"cannot find security token {tokenId}  {msgType}"
        | some securityToken =>
          if channelId ≠ securityToken.channelId then
            s._sendFatalErrorAndAbort .BadCommunicationError
              s!"Invalid channelId specified = {channelId}  <> {securityToken.channelId}"
          else (s, [.message message])

/-- The listeners to the errors of the message builder; a second one is there once the common
messages are listened to, and the first message is no longer waited for. -/
def onBuilderError (statusCode : StatusCode) (message : String) :
    ServerSecureChannelLayer κ π ω × List (Output κ) :=
  let error : Output κ := .errorMessage statusCode message
  match s.listener with
  | .initial => ({ s with status := .closing, listener := .none }, [error])
  | .common => ({ s with status := .closing }, [error, error])
  | .none => ({ s with status := .closing }, [error])

/-- The reaction to one event. -/
def step : ServerSecureChannelLayer κ π ω → ℤ × Input π ο →
    ServerSecureChannelLayer κ π ω × List (Output κ)
  | s, (_, .message message msgType channelId) =>
    match s.listener with
    | .initial => { s with listener := .none }._on_initial_open_secure_channel_request host message
    | .common => s._on_common_message message msgType channelId
    | .none => (s, [])
  | s, (_, .builderSecurityPolicy securityPolicy) =>
    ({ s with builderSecurityPolicy := securityPolicy }, [])
  | s, (_, .builderError statusCode message) => s.onBuilderError statusCode message
  | s, (_, .certificates clientCertificate clientPublicKey result) =>
    match s.certificatesOf with
    | none => (s, [])
    | some message =>
      let s := { s with
        certificatesOf := none
        _clientCertificate := clientCertificate
        _clientPublicKey := clientPublicKey }
      (s.onCertificates message result, [])
  | s, (now, .beforeHandled index random nonceAlreadyBeenUsed) =>
    match s.opening[index]? with
    | none => (s, [])
    | some (message, request) =>
      let s := { s with opening := s.opening.eraseIdx index }
      s._handle_OpenSecureChannelRequest host now random nonceAlreadyBeenUsed message request
  | s, (now, .throttled index) =>
    match s.faults[index]? with
    | none => (s, [])
    | some fault => { s with faults := s.faults.eraseIdx index }.sendFault host now fault
  | s, (now, .sendResponse msgType response message) =>
    let (s, outputs, result) := s.send_response host now msgType response message
    (s, outputs ++ [.callback result])
  | s, (_, .close) => ({ s with status := .closing }, [])
  | s, (_, .disconnected) => ({ s with status := .closed, _abort_has_been_called := true }, [])

end ServerSecureChannelLayer

end NodeOpcua
