import Mathlib.Data.Nat.Notation

set_option autoImplicit false

/-!
# Status codes

The status codes this development uses, with their values.

## Main definitions

* `StatusCode`.
-/

namespace NodeOpcua

/-- A status code. -/
structure StatusCode where
  value : ℕ
  deriving DecidableEq, Repr

namespace StatusCode

def Good : StatusCode := ⟨0x0⟩
def GoodSubscriptionTransferred : StatusCode := ⟨0x2d0000⟩
def GoodNoData : StatusCode := ⟨0xa50000⟩
def GoodPasswordChangeRequired : StatusCode := ⟨0xef0000⟩
def UncertainInitialValue : StatusCode := ⟨0x40920000⟩
def UncertainDataSubNormal : StatusCode := ⟨0x40a40000⟩
def Bad : StatusCode := ⟨0x80000000⟩
def BadUnexpectedError : StatusCode := ⟨0x80010000⟩
def BadInternalError : StatusCode := ⟨0x80020000⟩
def BadCommunicationError : StatusCode := ⟨0x80050000⟩
def BadTimeout : StatusCode := ⟨0x800a0000⟩
def BadNothingToDo : StatusCode := ⟨0x800f0000⟩
def BadTooManyOperations : StatusCode := ⟨0x80100000⟩
def BadCertificateInvalid : StatusCode := ⟨0x80120000⟩
def BadSecurityChecksFailed : StatusCode := ⟨0x80130000⟩
def BadCertificateTimeInvalid : StatusCode := ⟨0x80140000⟩
def BadCertificateUseNotAllowed : StatusCode := ⟨0x80180000⟩
def BadCertificateRevocationUnknown : StatusCode := ⟨0x801b0000⟩
def BadCertificateIssuerRevocationUnknown : StatusCode := ⟨0x801c0000⟩
def BadUserAccessDenied : StatusCode := ⟨0x801f0000⟩
def BadIdentityTokenInvalid : StatusCode := ⟨0x80200000⟩
def BadIdentityTokenRejected : StatusCode := ⟨0x80210000⟩
def BadNonceInvalid : StatusCode := ⟨0x80240000⟩
def BadSessionIdInvalid : StatusCode := ⟨0x80250000⟩
def BadSessionClosed : StatusCode := ⟨0x80260000⟩
def BadSessionNotActivated : StatusCode := ⟨0x80270000⟩
def BadSubscriptionIdInvalid : StatusCode := ⟨0x80280000⟩
def BadWaitingForInitialData : StatusCode := ⟨0x80320000⟩
def BadNodeIdInvalid : StatusCode := ⟨0x80330000⟩
def BadNodeIdUnknown : StatusCode := ⟨0x80340000⟩
def BadAttributeIdInvalid : StatusCode := ⟨0x80350000⟩
def BadIndexRangeInvalid : StatusCode := ⟨0x80360000⟩
def BadIndexRangeNoData : StatusCode := ⟨0x80370000⟩
def BadDataEncodingInvalid : StatusCode := ⟨0x80380000⟩
def BadDataEncodingUnsupported : StatusCode := ⟨0x80390000⟩
def BadNotReadable : StatusCode := ⟨0x803a0000⟩
def BadOutOfRange : StatusCode := ⟨0x803c0000⟩
def BadNotSupported : StatusCode := ⟨0x803d0000⟩
def BadNotFound : StatusCode := ⟨0x803e0000⟩
def BadMonitoredItemIdInvalid : StatusCode := ⟨0x80420000⟩
def BadMonitoredItemFilterUnsupported : StatusCode := ⟨0x80440000⟩
def BadFilterNotAllowed : StatusCode := ⟨0x80450000⟩
def BadEventFilterInvalid : StatusCode := ⟨0x80470000⟩
def BadContinuationPointInvalid : StatusCode := ⟨0x804a0000⟩
def BadSecurityModeRejected : StatusCode := ⟨0x80540000⟩
def BadSecurityPolicyRejected : StatusCode := ⟨0x80550000⟩
def BadUserSignatureInvalid : StatusCode := ⟨0x80570000⟩
def BadApplicationSignatureInvalid : StatusCode := ⟨0x80580000⟩
def BadNoValidCertificates : StatusCode := ⟨0x80590000⟩
def BadNodeClassInvalid : StatusCode := ⟨0x805f0000⟩
def BadInvalidSelfReference : StatusCode := ⟨0x80670000⟩
def BadHistoryOperationUnsupported : StatusCode := ⟨0x80720000⟩
def BadTooManyPublishRequests : StatusCode := ⟨0x80780000⟩
def BadNoSubscription : StatusCode := ⟨0x80790000⟩
def BadSequenceNumberUnknown : StatusCode := ⟨0x807a0000⟩
def BadMessageNotAvailable : StatusCode := ⟨0x807b0000⟩
def BadTcpMessageTypeInvalid : StatusCode := ⟨0x807e0000⟩
def BadTcpMessageTooLarge : StatusCode := ⟨0x80800000⟩
def BadTcpInternalError : StatusCode := ⟨0x80820000⟩
def BadSecureChannelClosed : StatusCode := ⟨0x80860000⟩
def BadSecureChannelTokenUnknown : StatusCode := ⟨0x80870000⟩
def BadConfigurationError : StatusCode := ⟨0x80890000⟩
def BadDeadbandFilterInvalid : StatusCode := ⟨0x808e0000⟩
def BadConditionAlreadyDisabled : StatusCode := ⟨0x80980000⟩
def BadConditionDisabled : StatusCode := ⟨0x80990000⟩
def BadEventIdUnknown : StatusCode := ⟨0x809a0000⟩
def BadNoData : StatusCode := ⟨0x809b0000⟩
def BadDataUnavailable : StatusCode := ⟨0x809e0000⟩
def BadInvalidArgument : StatusCode := ⟨0x80ab0000⟩
def BadConnectionRejected : StatusCode := ⟨0x80ac0000⟩
def BadInvalidState : StatusCode := ⟨0x80af0000⟩
def BadNoDataAvailable : StatusCode := ⟨0x80b10000⟩
def BadProtocolVersionUnsupported : StatusCode := ⟨0x80be0000⟩
def BadStateNotActive : StatusCode := ⟨0x80bf0000⟩
def BadFilterOperandCountMismatch : StatusCode := ⟨0x80c30000⟩
def BadFilterElementInvalid : StatusCode := ⟨0x80c40000⟩
def BadIdentityChangeNotSupported : StatusCode := ⟨0x80c60000⟩
def BadConditionAlreadyEnabled : StatusCode := ⟨0x80cc0000⟩
def BadConditionBranchAlreadyAcked : StatusCode := ⟨0x80cf0000⟩
def BadConditionBranchAlreadyConfirmed : StatusCode := ⟨0x80d00000⟩
def BadConditionAlreadyShelved : StatusCode := ⟨0x80d10000⟩
def BadConditionNotShelved : StatusCode := ⟨0x80d20000⟩
def BadShelvingTimeOutOfRange : StatusCode := ⟨0x80d30000⟩
def BadAggregateNotSupported : StatusCode := ⟨0x80d50000⟩
def BadTooManyMonitoredItems : StatusCode := ⟨0x80db0000⟩
def BadSecurityModeInsufficient : StatusCode := ⟨0x80e60000⟩
def BadAlreadyExists : StatusCode := ⟨0x81150000⟩

/-! ### Info bits -/

def Overflow : ℕ := 0x80
def HistorianCalculated : ℕ := 0x1
def HistorianPartial : ℕ := 0x4
def InfoTypeDataValue : ℕ := 0x400
def SemanticChanged : ℕ := 0x4000

variable (statusCode : StatusCode)

/-- `makeStatusCode`, for the number of the optional bits. -/
def makeStatusCode (optionalBits : ℕ) : StatusCode :=
  ⟨statusCode.value ||| optionalBits⟩

/-- `unset`, for the number of the bits. -/
def unset (bit : ℕ) : StatusCode :=
  ⟨statusCode.value - (statusCode.value &&& bit)⟩

/-- `isGood`. -/
def isGood : Bool := statusCode.value = 0

/-- `isNotGood`. -/
def isNotGood : Bool := statusCode.value ≠ 0

/-- `isGoodish`. -/
def isGoodish : Bool := statusCode.value < 0x10000000

/-- `isBad`. -/
def isBad : Bool := 0x80000000 ≤ statusCode.value

/-- `hasOverflowBit`. -/
def hasOverflowBit : Bool := statusCode.value &&& Overflow = Overflow

end StatusCode

end NodeOpcua
