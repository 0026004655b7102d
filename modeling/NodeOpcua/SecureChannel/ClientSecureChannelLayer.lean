import NodeOpcua.SecureChannel.MessageChunker
import NodeOpcua.SecureChannel.TokenStack

set_option autoImplicit false

/-!
# The client side of a secure channel

`ClientSecureChannelLayer` of `node-opcua-secure-channel`, as far as the security of what it sends
is concerned: it opens the channel, takes over the security tokens that the server gives it, and
sends requests under the active token.

## Main definitions

* `ClientSecureChannelLayer`, `ClientSecureChannelLayer._sendSecureOpcUARequest`.
* `ClientSecureChannelLayer.onOpenSecureChannelResponse`.
* `ClientSecureChannelLayer.step`.

## Design

The class relies on cryptographic primitives and on a pair of certificates, which are the parameter
`ClientHost`. The transactions, that is the table of the requests that wait for a response, are a
machine of their own; what it needs to know of a request that is sent is the `SendOutcome`.
Statistics, traces and the connection strategy are left out.
-/

namespace NodeOpcua

/-- A request with the handle it has got, which is also its request id. -/
structure ClientRequest where
  requestHandle : ℕ
  encoded : Buffer
  encoded_ne_nil : encoded ≠ []

/-- The fields of an `OpenSecureChannelResponse` that the client reads. -/
structure OpenSecureChannelResponse where
  securityToken : ISecurityToken
  serverNonce : Option Buffer
  deriving DecidableEq, Repr

/-- What the class relies on: keys `κ` and randomness `ω`. -/
structure ClientHost (κ ω : Type) where
  symmetric : SymmetricCrypto κ
  /-- `computeDerivedKeys`: the keys of one direction, from a secret and a seed. -/
  computeDerivedKeys_ext : SecurityPolicy → Buffer → Buffer → κ
  /-- Signing with the private key of the client and encrypting for the key of the server; an
  exception when one of them is missing. -/
  asymmetric : SecurityPolicy → Except ChunkManagerError (SecureMessageData ω)
  /-- `getPartialCertificateChain` of the chain of the client, combined. -/
  senderCertificate : Buffer
  /-- The thumbprint of the certificate of the server. -/
  receiverCertificateThumbprint : Buffer

/-- The fields of a `ClientSecureChannelLayer`. -/
structure ClientSecureChannelLayer (κ ω : Type) where
  securityMode : MessageSecurityMode
  securityPolicy : SecurityPolicy
  channelId : ℕ := 0
  activeSecurityToken : Option ISecurityToken := none
  _messageChunker : MessageChunker ω
  _isOpened : Bool := false
  _tokenStack : TokenStack κ := {}
  /-- Whether `#_securityTokenTimeoutId` is set. -/
  _securityTokenTimeoutId : Bool := false
  /-- `#_transport.parameters.sendBufferSize`. -/
  sendBufferSize : ℕ := 0
  /-- `#messageBuilder.securityPolicy`. -/
  builderSecurityPolicy : SecurityPolicy := .Invalid

/-- What becomes of a request that is sent: its chunks are written, the message chunker refuses it,
or an exception leaves the method. -/
inductive SendOutcome
  | sent
  | refused (statusCode : StatusCode)
  | thrown
  deriving DecidableEq, Repr

namespace ClientSecureChannelLayer

variable {κ ω : Type}

/-- The constructor; the chunker has no limits before there is a transport. -/
def construct (securityMode : MessageSecurityMode) (securityPolicy : SecurityPolicy)
    (context : SecureMessageChunkManager.Context ω) : ClientSecureChannelLayer κ ω where
  securityMode
  securityPolicy
  _messageChunker := { maxMessageSize := 0, maxChunkCount := 0, securityMode, context }

/-- What the class does to its surroundings. -/
inductive Output (κ : Type)
  | write (msgType : String) (chunk : Buffer)
  | securityToken (entry : SecurityTokenAndDerivedKeys κ)
  | outcome (msgType : String) (outcome : SendOutcome)
  /-- The callback of `#_send_open_secure_channel_request`, with the message of its error. -/
  | callback (error : Option String)
  | thrown
  deriving DecidableEq, Repr

/-- The events that the class reacts to. -/
inductive Input
  /-- The transport is connected, with these parameters. -/
  | connected (maxMessageSize maxChunkCount sendBufferSize : ℕ)
  | builderSecurityPolicy (securityPolicy : SecurityPolicy)
  /-- `#_performMessageTransaction`, once the request has its handle. -/
  | sendRequest (msgType : String) (request : ClientRequest)
  | sendOpenSecureChannelRequest (isInitial : Bool) (request : ClientRequest)
  /-- `#_on_message_received`, as far as it reads the response itself. -/
  | openSecureChannelResponseReceived (response : OpenSecureChannelResponse)
  /-- The callback of the transaction, with the nonce of the request and the middle of the time
  between the request and the response. -/
  | openSecureChannelResponse (clientNonce : Option Buffer) (midDate : ℤ)
      (result : Except String OpenSecureChannelResponse)
  | securityTokenTimeout
  | cancelSecurityTokenWatchdog

variable (host : ClientHost κ ω) (now : ℤ) (s : ClientSecureChannelLayer κ ω)

/-! ### Sending a request -/

/-- `#_construct_asymmetric_security_header`. -/
def _construct_asymmetric_security_header :
    Except ChunkManagerError AsymmetricAlgorithmSecurityHeader :=
  match s.securityMode with
  | .None => .ok { securityPolicyUri := toURI s.securityPolicy }
  | .Sign | .SignAndEncrypt => .ok {
      securityPolicyUri := toURI s.securityPolicy
      receiverCertificateThumbprint := some host.receiverCertificateThumbprint
      senderCertificate := some host.senderCertificate }
  | .Invalid => .error (.assertion "invalid security mode")

/-- `#_get_security_options_for_OPN`. -/
def _get_security_options_for_OPN : Except ChunkManagerError (Option (SecureMessageData ω)) :=
  if s.securityMode = .None then .ok none
  else (host.asymmetric s.securityPolicy).map some

/-- `#_get_security_options_for_MSG`. -/
def _get_security_options_for_MSG (tokenId : ℕ) :
    Except ChunkManagerError (Option (SecureMessageData ω)) :=
  if s.securityMode = .None then .ok none
  else
    match s._tokenStack.clientKeyProvider now tokenId with
    | none => .ok none  -- derivedKeys not set
    | some keys => (getOptionsForSymmetricSignAndEncrypt host.symmetric s.securityMode keys).map some

/-- The id of the active security token, or zero. -/
def tokenId : ℕ := (s.activeSecurityToken.map (·.tokenId)).getD 0

/-- `#_get_security_options`. -/
def _get_security_options (msgType : String) :
    Except ChunkManagerError (SecurityHeader × Option (SecureMessageData ω)) :=
  if msgType = "OPN" then do
    let securityHeader ← s._construct_asymmetric_security_header host
    let securityOptions ← s._get_security_options_for_OPN host
    return (.asymmetric securityHeader, securityOptions)
  else do
    let securityOptions ← s._get_security_options_for_MSG host now s.tokenId
    return (.symmetric { tokenId := s.tokenId }, securityOptions)

/-- `#_sendSecureOpcUARequest`, up to the callbacks of the chunker: the chunks of the request, or the
status code that says why there are none. -/
def chunkRequest (msgType : String) (request : ClientRequest) :
    Except ChunkManagerError (Except StatusCode (List Buffer) × ClientSecureChannelLayer κ ω) := do
  let (securityHeader, securityOptions) ← s._get_security_options host now msgType
  let options : ChunkMessageParameters ω := {
    channelId := s.channelId
    securityOptions := .ofSecurityOptions s.sendBufferSize request.requestHandle securityOptions
    securityHeader }
  let (result, chunker) ← s._messageChunker.chunkSecureMessage msgType options request.encoded
  return (result, { s with _messageChunker := chunker })

/-- `#_sendSecureOpcUARequest`. -/
def _sendSecureOpcUARequest (msgType : String) (request : ClientRequest) :
    ClientSecureChannelLayer κ ω × List (Output κ) :=
  match s.chunkRequest host now msgType request with
  | .error _ => (s, [.outcome msgType .thrown])
  | .ok (.ok chunks, s) => (s, chunks.map (.write msgType) ++ [.outcome msgType .sent])
  | .ok (.error statusCode, s) => (s, [.outcome msgType (.refused statusCode)])

/-! ### Opening and renewing -/

/-- `#_send_open_secure_channel_request`, up to the response. -/
def _send_open_secure_channel_request (isInitial : Bool) (request : ClientRequest) :
    ClientSecureChannelLayer κ ω × List (Output κ) :=
  if s.securityPolicy ≠ .None ∧ s.securityPolicy.hasCryptoFactory = false then
    (s, [.callback (some s!"_open_secure_channel_request :  invalid securityPolicy : {s.securityPolicy.value} ")])
  else if s.securityMode = .Invalid then (s, [.thrown])
  else { s with _isOpened := !isInitial }._sendSecureOpcUARequest host now "OPN" request

/-- The keys of a new token, in a mode other than none. -/
def derivedKeysOf (serverNonce clientNonce : Option Buffer) : Except String (DerivedKeys1 κ) :=
  match serverNonce with
  | none => .error " Invalid server nonce"
  | some serverNonce =>
    match clientNonce with
    | none => .error " Invalid server nonce length"
    | some clientNonce =>
      if serverNonce.length ≠ clientNonce.length then .error " Invalid server nonce length"
      else if s.builderSecurityPolicy.hasCryptoFactory = false then .error " Invalid security policy"
      else .ok (computeDerivedKeys host.computeDerivedKeys_ext s.builderSecurityPolicy serverNonce
        clientNonce)

/-- The new token is put on the stack and becomes the active one. What is thrown on the way leaves
the callback uncalled, and `modified_callback` swallows it. -/
def takeToken (securityToken : ISecurityToken) (derivedKeys : Option (DerivedKeys1 κ)) :
    ClientSecureChannelLayer κ ω × List (Output κ) :=
  match s._tokenStack.pushNewToken now securityToken derivedKeys with
  | .error _ => (s, [])
  | .ok tokenStack =>
    let s := { s with _tokenStack := tokenStack }
    let output : Output κ := .securityToken { securityToken, derivedKeys }
    if s._securityTokenTimeoutId then (s, [output])
    else
      ({ s with
        _securityTokenTimeoutId := true
        activeSecurityToken := some securityToken
        _isOpened := true }, [output, .callback none])

/-- The callback of the transaction in `#_send_open_secure_channel_request`. -/
def onOpenSecureChannelResponse (clientNonce : Option Buffer) (midDate : ℤ) :
    Except String OpenSecureChannelResponse → ClientSecureChannelLayer κ ω × List (Output κ)
  | .error e => (s, [.callback (some e)])
  | .ok response =>
    let s := { s with channelId := response.securityToken.channelId }
    let securityToken := { response.securityToken with createdAt := some midDate }
    if s.securityMode = .None then s.takeToken now securityToken none
    else
      match s.derivedKeysOf host response.serverNonce clientNonce with
      | .error e => (s, [.callback (some e)])
      | .ok derivedKeys => s.takeToken now securityToken (some derivedKeys)

/-- The reaction to one event. -/
def step : ClientSecureChannelLayer κ ω → ℤ × Input →
    ClientSecureChannelLayer κ ω × List (Output κ)
  | s, (_, .connected maxMessageSize maxChunkCount sendBufferSize) =>
    ({ s with
      _messageChunker := { s._messageChunker with maxMessageSize, maxChunkCount }
      sendBufferSize }, [])
  | s, (_, .builderSecurityPolicy securityPolicy) =>
    ({ s with builderSecurityPolicy := securityPolicy }, [])
  | s, (now, .sendRequest msgType request) => s._sendSecureOpcUARequest host now msgType request
  | s, (now, .sendOpenSecureChannelRequest isInitial request) =>
    s._send_open_secure_channel_request host now isInitial request
  | s, (_, .openSecureChannelResponseReceived response) =>
    ({ s with channelId := if s.channelId = 0 then response.securityToken.channelId
        else s.channelId }, [])
  | s, (now, .openSecureChannelResponse clientNonce midDate result) =>
    s.onOpenSecureChannelResponse host now clientNonce midDate result
  | s, (_, .securityTokenTimeout) => ({ s with _securityTokenTimeoutId := false }, [])
  | s, (_, .cancelSecurityTokenWatchdog) => ({ s with _securityTokenTimeoutId := false }, [])

end ClientSecureChannelLayer

end NodeOpcua
