import NodeOpcua.MessageHeader

set_option autoImplicit false

/-!
# Security policies and security headers

The security policies by their URIs, and the two security headers of a chunk: the asymmetric one
of OPN chunks names a policy and certificates, the symmetric one names a security token.

## Main definitions

* `SecurityPolicy`, `coerceSecurityPolicy`, `SecurityHeader.decode`.
-/

namespace NodeOpcua

open BinaryStream

/-- `SecurityPolicy`. The enumeration of the source is one of strings, to which any string is
cast: `other` is a string that is none of its values. -/
inductive SecurityPolicy
  | Invalid
  | None
  | Basic128
  | Basic192
  | Basic192Rsa15
  | Basic256Rsa15
  | Basic256Sha256
  | Aes128_Sha256_RsaOaep
  | Aes256_Sha256_RsaPss
  | PubSub_Aes128_CTR
  | PubSub_Aes256_CTR
  | Basic128Rsa15
  | Basic256
  | other (uri : String)
  deriving DecidableEq, Repr

namespace SecurityPolicy

/-- The part of the URIs before the name of the policy. -/
def base : String := "http://opcfoundation.org/UA/SecurityPolicy#"

/-- The value of a policy, as a string. -/
def value : SecurityPolicy → String
  | Invalid => "invalid"
  | None => base ++ "None"
  | Basic128 => base ++ "Basic128"
  | Basic192 => base ++ "Basic192"
  | Basic192Rsa15 => base ++ "Basic192Rsa15"
  | Basic256Rsa15 => base ++ "Basic256Rsa15"
  | Basic256Sha256 => base ++ "Basic256Sha256"
  | Aes128_Sha256_RsaOaep => base ++ "Aes128_Sha256_RsaOaep"
  | Aes256_Sha256_RsaPss => base ++ "Aes256_Sha256_RsaPss"
  | PubSub_Aes128_CTR => base ++ "PubSub_Aes128_CTR"
  | PubSub_Aes256_CTR => base ++ "PubSub_Aes256_CTR"
  | Basic128Rsa15 => base ++ "Basic128Rsa15"
  | Basic256 => base ++ "Basic256"
  | other uri => uri

/-- The values of the enumeration. -/
def values : List SecurityPolicy :=
  [Invalid, None, Basic128, Basic192, Basic192Rsa15, Basic256Rsa15, Basic256Sha256,
    Aes128_Sha256_RsaOaep, Aes256_Sha256_RsaPss, PubSub_Aes128_CTR, PubSub_Aes256_CTR,
    Basic128Rsa15, Basic256]

/-- The policy whose value is the given string. -/
def ofValue (value : String) : SecurityPolicy :=
  (values.find? fun policy => policy.value = value).getD (other value)

/-- The policies for which `getCryptoFactory` knows the algorithms. -/
def hasCryptoFactory : SecurityPolicy → Bool
  | Basic128Rsa15 | Basic256 | Basic256Sha256 | Aes128_Sha256_RsaOaep | Aes256_Sha256_RsaPss =>
    true
  | _ => false

end SecurityPolicy

/-- `coerceSecurityPolicy`: null means None, and the short names of some policies are accepted. -/
def coerceSecurityPolicy : Option String → SecurityPolicy
  | none => .None
  | some value =>
    if value = "Basic128Rsa15" then .Basic128Rsa15
    else if value = "Basic256" then .Basic256
    else if value = "Basic192Rsa15" then .Basic192Rsa15
    else if value = "None" then .None
    else if value = "Basic256Sha256" then .Basic256Sha256
    else if value = "Aes128_Sha256_RsaOaep" then .Aes128_Sha256_RsaOaep
    else if value = "Aes256_Sha256_RsaPss" then .Aes256_Sha256_RsaPss
    else if value = "Basic256Rsa15" then .Basic256Rsa15
    else .ofValue value

/-- The policy whose name in the enumeration is the given string. -/
def SecurityPolicy.ofName (name : String) : Option SecurityPolicy :=
  if name = "Invalid" then some .Invalid
  else values.find? fun policy => policy.value = base ++ name

/-- `toURI`: a string without `#` is the name of a policy. -/
def toURI (policy : SecurityPolicy) : Option String :=
  if '#' ∈ policy.value.toList then some policy.value
  else (SecurityPolicy.ofName policy.value).map (·.value)

/-- `fromURI`: the policy named between the first two `#`. -/
def fromURI : Option String → SecurityPolicy
  | none => .Invalid
  | some uri =>
    if '#' ∈ uri.toList then
      let rest := (uri.toList.dropWhile (· ≠ '#')).drop 1
      (SecurityPolicy.ofName (String.ofList (rest.takeWhile (· ≠ '#')))).getD .Invalid
    else .Invalid

/-- `AsymmetricAlgorithmSecurityHeader`. -/
structure AsymmetricAlgorithmSecurityHeader where
  securityPolicyUri : Option String := none
  senderCertificate : Option Buffer := none
  receiverCertificateThumbprint : Option Buffer := none
  deriving DecidableEq, Repr

/-- `SymmetricAlgorithmSecurityHeader`. -/
structure SymmetricAlgorithmSecurityHeader where
  tokenId : ℕ := 0xdeadbeef
  deriving DecidableEq, Repr

/-- `AsymmetricAlgorithmSecurityHeader.decode`. -/
def AsymmetricAlgorithmSecurityHeader.decode : Reader AsymmetricAlgorithmSecurityHeader := do
  let securityPolicyUri ← readString
  let senderCertificate ← readByteStream
  let receiverCertificateThumbprint ← readByteStream
  return { securityPolicyUri, senderCertificate, receiverCertificateThumbprint }

/-- `SymmetricAlgorithmSecurityHeader.decode`. -/
def SymmetricAlgorithmSecurityHeader.decode : Reader SymmetricAlgorithmSecurityHeader := do
  return { tokenId := ← readUInt32 }

/-- `AsymmetricAlgorithmSecurityHeader.encode`. -/
def AsymmetricAlgorithmSecurityHeader.encode (header : AsymmetricAlgorithmSecurityHeader) : Buffer :=
  writeString header.securityPolicyUri ++ writeByteStream header.senderCertificate ++
    writeByteStream header.receiverCertificateThumbprint

/-- `SymmetricAlgorithmSecurityHeader.encode`. -/
def SymmetricAlgorithmSecurityHeader.encode (header : SymmetricAlgorithmSecurityHeader) : Buffer :=
  uint32Bytes header.tokenId

/-- `SecurityHeader`. -/
inductive SecurityHeader
  | asymmetric (header : AsymmetricAlgorithmSecurityHeader)
  | symmetric (header : SymmetricAlgorithmSecurityHeader)
  deriving DecidableEq, Repr

/-- `instanceof SymmetricAlgorithmSecurityHeader`. -/
def SecurityHeader.isSymmetric : SecurityHeader → Bool
  | .asymmetric _ => false
  | .symmetric _ => true

/-- The token id of a header; an asymmetric one has none, and counts as token 0. -/
def SecurityHeader.tokenId : SecurityHeader → ℕ
  | .asymmetric _ => 0
  | .symmetric header => header.tokenId

/-- The `securityPolicyUri` of a header; a symmetric one has none. -/
def SecurityHeader.securityPolicyUri : SecurityHeader → Option String
  | .asymmetric header => header.securityPolicyUri
  | .symmetric _ => none

/-- `chooseSecurityHeader`: a new header. -/
def chooseSecurityHeader (msgType : String) : SecurityHeader :=
  if msgType = "OPN" then .asymmetric {} else .symmetric {}

/-- The `decode` of a security header. -/
def SecurityHeader.decode : SecurityHeader → Reader SecurityHeader
  | .asymmetric _ => return .asymmetric (← AsymmetricAlgorithmSecurityHeader.decode)
  | .symmetric _ => return .symmetric (← SymmetricAlgorithmSecurityHeader.decode)

/-- The `encode` of a security header. -/
def SecurityHeader.encode : SecurityHeader → Buffer
  | .asymmetric header => header.encode
  | .symmetric header => header.encode

/-- `binaryStoreSize`. -/
def SecurityHeader.binaryStoreSize (header : SecurityHeader) : ℕ := header.encode.length

lemma SymmetricAlgorithmSecurityHeader.decode_encode {header : SymmetricAlgorithmSecurityHeader}
    (h : header.tokenId < 2 ^ 32) (pre post : Buffer) :
    SymmetricAlgorithmSecurityHeader.decode
        { buffer := pre ++ (header.encode ++ post), length := pre.length } =
      .ok (header, { buffer := pre ++ (header.encode ++ post), length := pre.length + 4 }) := by
  have hread : readUInt32 { buffer := pre ++ (header.encode ++ post), length := pre.length } =
      .ok (header.tokenId,
        { buffer := pre ++ (header.encode ++ post), length := pre.length + 4 }) := by
    rw [readUInt32_eq_ok_iff]
    simp only [SymmetricAlgorithmSecurityHeader.encode, List.length_append, length_uint32Bytes,
      List.drop_left, leUInt32_uint32Bytes h, and_true]
    omega
  unfold SymmetricAlgorithmSecurityHeader.decode
  simp only [bind, StateT.bind, hread, Except.bind]
  rfl

end NodeOpcua
