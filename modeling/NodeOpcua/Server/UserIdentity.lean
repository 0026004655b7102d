import NodeOpcua.Library.Base64
import NodeOpcua.SecureChannel.SecurityHeader
import NodeOpcua.StatusCode

set_option autoImplicit false

/-!
# The identity of the user of a session

A client activates a session with the identity token of a user. The server checks that the token is
one of those that the endpoint accepts and is well formed, and then that the user is authorized.

## Main definitions

* `SessionActivation.UserIdentityToken`.
* `SessionActivation.sameIdentityToken`.
* `SessionActivation.isValidUserIdentityToken`, `isUserAuthorized`.

## Main results

* `SessionActivation.sameIdentityToken_user`, `SessionActivation.isUserAuthorized_ne_throws`.

## Design

* What the cryptography packages do is a parameter, and so are the random nonces.
* The checks of certificates and of passwords take some time: their results come later.
-/

namespace NodeOpcua.SessionActivation

/-! ### Tokens -/

/-- `UserIdentityToken`. -/
inductive UserIdentityToken
  | anonymous (policyId : Option String)
  | userName (policyId userName : Option String) (password : Option Buffer)
      (encryptionAlgorithm : Option String)
  | x509 (policyId : Option String) (certificateData : Option Buffer)
  | issued (policyId : Option String) (tokenData : Option Buffer)
  /-- Something that is not an identity token. -/
  | other
  deriving DecidableEq, Repr

/-- `UserTokenType`. -/
inductive UserTokenType
  | Anonymous
  | UserName
  | Certificate
  | IssuedToken
  | Invalid
  deriving DecidableEq, Repr

/-- `policyId`. -/
def UserIdentityToken.policyId : UserIdentityToken → Option String
  | .anonymous policyId => policyId
  | .userName policyId _ _ _ => policyId
  | .x509 policyId _ => policyId
  | .issued policyId _ => policyId
  | .other => none

/-- `getTokenType`. -/
def getTokenType : UserIdentityToken → UserTokenType
  | .anonymous _ => .Anonymous
  | .userName _ _ _ _ => .UserName
  | .x509 _ _ => .Certificate
  | .issued _ _ => .IssuedToken
  | .other => .Invalid

/-- **`sameIdentityToken`**, or nothing when its assertion fails. -/
def sameIdentityToken : Option UserIdentityToken → Option UserIdentityToken → Option Bool
  | none, none => some true
  | none, some _ => some false
  | some _, none => some false
  | some (.userName _ userName1 _ _), some token2 =>
    match token2 with
    | .userName _ userName2 _ _ => some (userName1 = userName2)
    | _ => some false
  | some (.anonymous policyId1), some token2 =>
    match token2 with
    | .anonymous policyId2 => some (policyId1 = policyId2)
    | _ => some false
  | some _, some _ => none

/-- The user that a token denotes. -/
inductive DenotedUser
  | anonymous
  | named (userName : Option String)
  | certificate (certificateData : Option Buffer)
  | issued (tokenData : Option Buffer)
  | unknown
  deriving DecidableEq, Repr

/-- The user that a token denotes. -/
def UserIdentityToken.user : UserIdentityToken → DenotedUser
  | .anonymous _ => .anonymous
  | .userName _ name _ _ => .named name
  | .x509 _ certificateData => .certificate certificateData
  | .issued _ tokenData => .issued tokenData
  | .other => .unknown

/-- **Tokens that are found to be the same denote the same user.** -/
theorem sameIdentityToken_user {token1 token2 : Option UserIdentityToken}
    (h : sameIdentityToken token1 token2 = some true) :
    token1.map UserIdentityToken.user = token2.map UserIdentityToken.user := by
  rcases token1 with _ | token1
  · rcases token2 with _ | token2
    · rfl
    · exact absurd h (by simp [sameIdentityToken])
  rcases token2 with _ | token2
  · exact absurd h (by simp [sameIdentityToken])
  cases token1 with
  | anonymous policyId1 =>
    cases token2 with
    | anonymous policyId2 => rfl
    | _ => exact absurd h (by simp [sameIdentityToken])
  | userName policyId1 userName1 pwd1 algorithm1 =>
    cases token2 with
    | userName policyId2 userName2 pwd2 algorithm2 =>
      have hname : userName1 = userName2 := by simpa [sameIdentityToken] using h
      rw [hname]
      rfl
    | _ => exact absurd h (by simp [sameIdentityToken])
  | x509 policyId certificateData | issued policyId tokenData | other =>
    exact absurd h (by simp [sameIdentityToken])

/-! ### Policies -/

/-- `UserTokenPolicy`. -/
structure UserTokenPolicy where
  policyId : Option String
  tokenType : UserTokenType
  securityPolicyUri : Option String
  deriving DecidableEq, Repr

/-- `EndpointDescription`. -/
structure EndpointDescription where
  userIdentityTokens : Option (List UserTokenPolicy)
  deriving DecidableEq, Repr

section

variable (endpoint : EndpointDescription)

/-- `findUserTokenByPolicy`. An empty policy is as good as none. -/
def findUserTokenByPolicy (userTokenType : UserTokenType)
    (policyId : Option String) : Option UserTokenPolicy :=
  endpoint.userIdentityTokens.bind fun tokens => tokens.find? fun userIdentity =>
    userIdentity.tokenType = userTokenType &&
      (policyId.getD "" = "" || userIdentity.policyId = policyId)

/-- `findUserTokenPolicy`. -/
def findUserTokenPolicy (userTokenType : UserTokenType) :
    Option UserTokenPolicy :=
  endpoint.userIdentityTokens.bind fun tokens => tokens.find? fun userIdentity =>
    userIdentity.tokenType = userTokenType

/-- `createAnonymousIdentityToken`, or nothing when it throws. -/
def createAnonymousIdentityToken : Option UserIdentityToken :=
  (findUserTokenPolicy endpoint .Anonymous).map fun userTokenPolicy =>
    .anonymous userTokenPolicy.policyId

end

/-- `fromURI`: the name of the policy stands between the first two `#`. -/
def fromURI (uri : Option String) : SecurityPolicy :=
  match uri.map fun uri => uri.splitOn "#" with
  | some (_ :: name :: _) => (SecurityPolicy.ofName name).getD .Invalid
  | _ => .Invalid

/-! ### Channels -/

/-- A secure channel. -/
structure ActivationChannel where
  clientCertificate : Option Buffer
  securityPolicy : SecurityPolicy
  deriving DecidableEq, Repr

/-- `thumbprint`. -/
def thumbprint (certificate : Option Buffer) : List Char :=
  (certificate.map Base64.encode).getD []

lemma thumbprint_injective {cert cert' : Option Buffer}
    (h : thumbprint cert = thumbprint cert') :
    cert.getD [] = cert'.getD [] := by
  have hdec : ∀ cert : Option Buffer,
      Base64.decode (thumbprint cert) = cert.getD [] := by
    intro cert
    cases cert with
    | none => rfl
    | some bytes => exact Base64.decode_encode bytes
  rw [← hdec, ← hdec, h]

/-- `adjustSecurityPolicy`. -/
def adjustSecurityPolicy (channel : ActivationChannel) (securityPolicyUri : Option String) :
    SecurityPolicy :=
  if fromURI securityPolicyUri = .Invalid then fromURI (some channel.securityPolicy.value)
  else fromURI securityPolicyUri

/-! ### Checks -/

/-- **What the server has from other packages**: the algorithms of a policy, with the keys and the
certificate of the server, and the random nonces. -/
structure ActivationHost where
  asymmetricEncryptionAlgorithm : SecurityPolicy → String
  /-- For a nonce, a signature and the certificate of the sender. -/
  asymmetricVerify : SecurityPolicy → Buffer → Buffer → Buffer → Bool
  /-- Nothing, when it throws. -/
  asymmetricDecrypt : SecurityPolicy → Buffer → Option Buffer
  randomBytes : ℕ → Buffer

/-- `verifySignature`, for a session, which has a nonce. -/
def verifySignature (host : ActivationHost) (receiverNonce : Buffer) (signature : Option Buffer)
    (senderCertificate : Option Buffer) (securityPolicy : SecurityPolicy) : Bool :=
  if securityPolicy = .None then true
  else if !securityPolicy.hasCryptoFactory then false
  else
    match signature, senderCertificate with
    | some signature, some senderCertificate =>
      host.asymmetricVerify securityPolicy receiverNonce signature senderCertificate
    | _, _ => false

/-- `extractPasswordFromDecryptedBlob`, up to the decoding of the text. -/
def extractPasswordFromDecryptedBlob (decryptedBuffer serverNonce : Buffer) : Option Buffer :=
  match decryptedBuffer with
  | b0 :: b1 :: b2 :: b3 :: content =>
    let totalLength := b0.toNat + 256 * b1.toNat + 65536 * b2.toNat + 16777216 * b3.toNat
    if totalLength < serverNonce.length then none
    else if content.length < totalLength then none
    else
      let passwordLength := totalLength - serverNonce.length
      if (content.drop passwordLength).take serverNonce.length = serverNonce then
        some (content.take passwordLength)
      else none
  | _ => none

/-- The result of the first check. -/
inductive TokenValidity
  | answered (statusCode : StatusCode)
  /-- The certificate of the user is being checked. -/
  | checkingCertificate
  deriving DecidableEq, Repr

/-- The result of the second check. -/
inductive UserAuthorization
  /-- The callback is called at once, with an error when there is no answer. -/
  | answered (authorized : Option Bool)
  /-- The callback is called by `setImmediate`. -/
  | immediate (authorized : Bool)
  /-- The user manager checks the password. -/
  | checkingUser
  | throws
  deriving DecidableEq, Repr

section

variable (host : ActivationHost) (channel : ActivationChannel) (nonce : Buffer)
  (endpoint : EndpointDescription)

/-- `isValidUserNameIdentityToken`. -/
def isValidUserNameIdentityToken (userTokenPolicy : UserTokenPolicy) (userName : Option String)
    (password : Option Buffer) (encryptionAlgorithm : Option String) : StatusCode :=
  let securityPolicy := adjustSecurityPolicy channel userTokenPolicy.securityPolicyUri
  if securityPolicy = .None then .Good
  else if !securityPolicy.hasCryptoFactory then .BadSecurityPolicyRejected
  else if encryptionAlgorithm ≠ some (host.asymmetricEncryptionAlgorithm securityPolicy) then
    .BadIdentityTokenInvalid
  else if userName.getD "" = "" || password.isNone then .BadIdentityTokenInvalid
  else .Good

/-- `isValidX509IdentityToken`, to the check of the certificate. -/
def isValidX509IdentityToken (userTokenPolicy : UserTokenPolicy) (policyId : Option String)
    (certificateData userTokenSignature : Option Buffer) : TokenValidity :=
  let securityPolicy := adjustSecurityPolicy channel userTokenPolicy.securityPolicyUri
  if !securityPolicy.hasCryptoFactory then .answered .BadSecurityPolicyRejected
  else if userTokenSignature.isNone then .answered .BadUserSignatureInvalid
  else if policyId ≠ userTokenPolicy.policyId then .answered .BadSecurityPolicyRejected
  else if nonce = [] then .answered .BadNonceInvalid
  else if !verifySignature host nonce userTokenSignature certificateData securityPolicy then
    .answered .BadUserSignatureInvalid
  else .checkingCertificate

/-- **`isValidUserIdentityToken`**. -/
def isValidUserIdentityToken (userIdentityToken : UserIdentityToken)
    (userTokenSignature : Option Buffer) : TokenValidity :=
  match findUserTokenByPolicy endpoint (getTokenType userIdentityToken) userIdentityToken.policyId with
  | none => .answered .BadIdentityTokenInvalid
  | some userTokenPolicy =>
    match userIdentityToken with
    | .userName _ userName password encryptionAlgorithm =>
      .answered (isValidUserNameIdentityToken host channel userTokenPolicy userName password
        encryptionAlgorithm)
    | .x509 policyId certificateData =>
      isValidX509IdentityToken host channel nonce userTokenPolicy policyId certificateData
        userTokenSignature
    | _ => .answered .Good

/-- `userNameIdentityTokenAuthenticateUser`. A password that is null cannot be made a string. -/
def userNameIdentityTokenAuthenticateUser (userTokenPolicy : UserTokenPolicy)
    (userName : Option String) (password : Option Buffer) : UserAuthorization :=
  let securityPolicy := adjustSecurityPolicy channel userTokenPolicy.securityPolicyUri
  if userName.getD "" = "" then .answered none
  else if securityPolicy = .None then
    if password.isNone then .throws else .checkingUser
  else if !securityPolicy.hasCryptoFactory then .answered none
  else
    match password.bind (host.asymmetricDecrypt securityPolicy) with
    | none => .throws
    | some buff =>
      if (extractPasswordFromDecryptedBlob buff nonce).isNone then .immediate false else .checkingUser

/-- **`isUserAuthorized`**. -/
def isUserAuthorized (userIdentityToken : UserIdentityToken) : UserAuthorization :=
  match findUserTokenByPolicy endpoint (getTokenType userIdentityToken) userIdentityToken.policyId with
  | none => .answered (some false)
  | some userTokenPolicy =>
    match userIdentityToken with
    | .userName _ userName password _ =>
      userNameIdentityTokenAuthenticateUser host channel nonce userTokenPolicy userName password
    | _ => .immediate true

/-- **The password of a token can be read**: there is one, and it is decrypted where the policy asks for
that. -/
def PasswordReadable : UserIdentityToken → Prop
  | .userName policyId userName password _ =>
    ∀ userTokenPolicy, findUserTokenByPolicy endpoint .UserName policyId = some userTokenPolicy →
      userName.getD "" ≠ "" → password.isSome = true ∧
        ∀ bytes, password = some bytes →
          (adjustSecurityPolicy channel userTokenPolicy.securityPolicyUri).hasCryptoFactory = true →
          (host.asymmetricDecrypt (adjustSecurityPolicy channel userTokenPolicy.securityPolicyUri)
            bytes).isSome = true
  | _ => True

/-- **The second check throws only when a password cannot be read.** -/
theorem isUserAuthorized_ne_throws {userIdentityToken : UserIdentityToken}
    (h : PasswordReadable host channel endpoint userIdentityToken) :
    isUserAuthorized host channel nonce endpoint userIdentityToken ≠ .throws := by
  unfold isUserAuthorized
  split
  · nofun
  · next userTokenPolicy hpol =>
    cases userIdentityToken with
    | userName policyId userName pwd encryptionAlgorithm =>
      have hreadable := h userTokenPolicy hpol
      dsimp only
      unfold userNameIdentityTokenAuthenticateUser
      by_cases hname : userName.getD "" = ""
      · rw [if_pos hname]
        nofun
      rw [if_neg hname]
      obtain ⟨hpwd, hdecrypts⟩ := hreadable hname
      obtain ⟨bytes, rfl⟩ := Option.isSome_iff_exists.mp hpwd
      by_cases hnone : adjustSecurityPolicy channel userTokenPolicy.securityPolicyUri = .None
      · rw [if_pos hnone, if_neg (by simp)]
        nofun
      rw [if_neg hnone]
      by_cases hfactory :
          (adjustSecurityPolicy channel userTokenPolicy.securityPolicyUri).hasCryptoFactory = true
      · rw [if_neg (by rw [hfactory]; exact Bool.false_ne_true)]
        obtain ⟨buff, hbuff⟩ := Option.isSome_iff_exists.mp (hdecrypts bytes rfl hfactory)
        rw [Option.bind_some, hbuff]
        dsimp only
        split
        · nofun
        · nofun
      · rw [if_pos (by rw [Bool.not_eq_true] at hfactory; rw [hfactory]; rfl)]
        nofun
    | anonymous policyId | x509 policyId certificateData | issued policyId tokenData | other =>
      nofun

end

end NodeOpcua.SessionActivation
