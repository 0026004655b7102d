import NodeOpcua.BinaryStream
import NodeOpcua.SecurityMode

set_option autoImplicit false

/-!
# The identity that a transfer of a subscription depends on

A subscription may be transferred to a session of the same user. What is known of the user of a
session is kept for the time after the session.

## Main definitions

* `TransferSession`.
* `getTransferSessionIdentity`, `sessionsCompatibleForTransfer`.

## Design

The thumbprint of a certificate is computed by another package: it is a parameter.
-/

namespace NodeOpcua

/-- `UserIdentityToken`. -/
inductive UserIdentityToken
  | anonymous
  | userName (userName : Option String)
  | x509 (certificateData : Buffer)
  /-- A token of another type. -/
  | other
  deriving DecidableEq, Repr

/-- `ServerSession`, with what its identity depends on. -/
structure TransferSession where
  userIdentityToken : Option UserIdentityToken
  /-- The `applicationUri` of the description of the client. -/
  clientDescription : Option (Option String)
  /-- The mode of the channel. -/
  channel : Option MessageSecurityMode
  deriving DecidableEq, Repr

/-- `TransferUserIdentityKind`. -/
inductive TransferUserIdentityKind
  | none
  | anonymous
  | username
  | x509
  | unsupported
  deriving DecidableEq, Repr

/-- `ITransferSessionIdentity`. -/
structure TransferSessionIdentity where
  kind : TransferUserIdentityKind
  userName : Option String
  certificateThumbprint : Option String
  applicationUri : Option String
  securityMode : Option MessageSecurityMode
  deriving DecidableEq, Repr

section

variable (makeSHA1Thumbprint : Buffer → String)

/-- `classifyUserIdentity`: the kind, the name of the user, and the thumbprint. -/
def classifyUserIdentity :
    Option UserIdentityToken → TransferUserIdentityKind × Option String × Option String
  | none => (.none, none, none)
  | some .anonymous => (.anonymous, none, none)
  | some (.userName userName) => (.username, some (userName.getD ""), none)
  | some (.x509 certificateData) => (.x509, none, some (makeSHA1Thumbprint certificateData))
  | some .other => (.unsupported, none, none)

/-- `getTransferSessionIdentity`. -/
def getTransferSessionIdentity (session : TransferSession) : TransferSessionIdentity :=
  let (kind, userName, certificateThumbprint) :=
    classifyUserIdentity makeSHA1Thumbprint session.userIdentityToken
  { kind, userName, certificateThumbprint
    applicationUri := session.clientDescription.join
    securityMode := session.channel }

/-- `isSecuredChannel`. -/
def isSecuredChannel (securityMode : Option MessageSecurityMode) : Bool :=
  securityMode = some .Sign || securityMode = some .SignAndEncrypt

/-- A text that is neither missing nor empty. -/
def isPresent (text : Option String) : Bool := !(text.getD "").isEmpty

/-- `sessionsCompatibleForTransfer`. -/
def sessionsCompatibleForTransfer (sourceIdentity : Option TransferSessionIdentity)
    (sessionDest : TransferSession) (allowAnonymousTransferOnUnsecuredChannel : Bool) : Bool :=
  match sourceIdentity with
  | none => false
  | some source =>
    let dest := getTransferSessionIdentity makeSHA1Thumbprint sessionDest
    if source.kind = .unsupported || dest.kind = .unsupported then false
    else if source.kind ≠ dest.kind then false
    else
      match source.kind with
      | .none => true
      | .anonymous =>
        if allowAnonymousTransferOnUnsecuredChannel then true
        else if !isSecuredChannel source.securityMode || !isSecuredChannel dest.securityMode then false
        else if !isPresent source.applicationUri || !isPresent dest.applicationUri then false
        else source.applicationUri = dest.applicationUri
      | .username => isPresent source.userName && source.userName = dest.userName
      | .x509 =>
        isPresent source.certificateThumbprint &&
          source.certificateThumbprint = dest.certificateThumbprint
      | .unsupported => false

end

end NodeOpcua
