import NodeOpcua.SecureChannel.ClientSecureChannelLayer
import NodeOpcua.SecureChannel.TokenAgreement

set_option autoImplicit false

/-!
# The protection of what is sent

Both sides of a channel look up the keys for an MSG message, and send it without any when there are
none. In mode SignAndEncrypt the message chunker refuses such a message; in mode Sign it does not.

## Main definitions

* `ServerSecureChannelLayer.HasKeys`, `ClientSecureChannelLayer.HasKeys`.
* `ServerSecureChannelLayer.Protects`, `ClientSecureChannelLayer.Protects` —
  what a step writes is protected, and nothing is sent without keys.
-/

namespace NodeOpcua

open ServerSecureChannelLayer (written mem_written)
open List (not_mem_nil)
open Mealy (trace)

variable {κ π ω ο : Type}

/-! ### The server -/

namespace ServerSecureChannelLayer

variable {host : Host κ π ω ο} {now : ℤ} {s s' : ServerSecureChannelLayer κ π ω}
  {mode : MessageSecurityMode}

lemma serverKeysFor_eq_some {tokenId : ℕ} {keys : κ} (h : s.serverKeysFor now tokenId = some keys) :
    ∃ e ∈ s._tokenStack._tokenStack, hasTokenReallyExpired now e.securityToken = false ∧
      e.serverKeys = some keys := by
  unfold serverKeysFor TokenStack.serverKeyProvider at h
  split at h
  · rename_i keys' hkeys
    cases h
    obtain ⟨derived, hder, hserver⟩ := Option.bind_eq_some_iff.mp hkeys
    obtain ⟨e, he, -, hexp, hsome⟩ := TokenStack.getTokenDerivedKeys_eq_some hder
    exact ⟨e, he, hexp, Option.bind_eq_some_iff.mpr ⟨derived, hsome, hserver⟩⟩
  · obtain ⟨⟨id, derived⟩, hder, hserver⟩ := Option.bind_eq_some_iff.mp h
    obtain ⟨e, he, -, hexp, hsome⟩ := TokenStack.getLatestTokenDerivedKeys_eq_some hder
    exact ⟨e, he, hexp, Option.bind_eq_some_iff.mpr ⟨derived, hsome, hserver⟩⟩

lemma serverKeysFor_isSome (hkeyed : ∀ e ∈ s._tokenStack._tokenStack, e.serverKeys.isSome)
    {e : SecurityTokenAndDerivedKeys κ} (he : e ∈ s._tokenStack._tokenStack)
    (hexp : hasTokenReallyExpired now e.securityToken = false) (tokenId : ℕ) :
    (s.serverKeysFor now tokenId).isSome := by
  have hkeys : ∀ e' ∈ s._tokenStack._tokenStack, ∀ derived, e'.derivedKeys = some derived →
      derived.derivedServerKeys.isSome := by
    intro e' he' derived hder
    have h := hkeyed e' he'
    rwa [SecurityTokenAndDerivedKeys.serverKeys, hder, Option.bind_some] at h
  unfold serverKeysFor
  split
  · rfl
  · cases hlatest : s._tokenStack.getLatestTokenDerivedKeys now with
    | none =>
      obtain ⟨derived, hder⟩ : ∃ derived, e.derivedKeys = some derived := by
        obtain ⟨keys, hsome⟩ := Option.isSome_iff_exists.mp (hkeyed e he)
        obtain ⟨derived, hder, -⟩ := Option.bind_eq_some_iff.mp hsome
        exact ⟨derived, hder⟩
      have h := List.findSome?_eq_none_iff.mp hlatest e (List.mem_reverse.mpr he)
      simp [hexp, hder] at h
    | some latest =>
      obtain ⟨e', he', -, -, hder⟩ := TokenStack.getLatestTokenDerivedKeys_eq_some hlatest
      exact hkeys e' he' _ hder

/-- The channel has been aborted, is in mode SignAndEncrypt, or is in mode Sign and has a token that
has not really expired. -/
def Available (now : ℤ) (s : ServerSecureChannelLayer κ π ω) : Prop :=
  s._abort_has_been_called = true ∨ s.securityMode = .SignAndEncrypt ∨
    s.securityMode = .Sign ∧ ∃ e ∈ s._tokenStack._tokenStack,
      hasTokenReallyExpired now e.securityToken = false

/-- **The condition** on a server: when it sends an MSG response there are keys, or mode
SignAndEncrypt makes up for them. -/
def HasKeys (s : ServerSecureChannelLayer κ π ω) (input : ℤ × Input π ο) : Prop :=
  ∀ response message, input.2 = .sendResponse "MSG" response message → Available input.1 s

/-- **Protected output** of a server: its MSG chunks are protected in the mode of the channel by
keys of a token that has not really expired, and without such keys no response is sent. -/
def Protects (host : Host κ π ω ο) (mode : MessageSecurityMode)
    (s : ServerSecureChannelLayer κ π ω) (input : ℤ × Input π ο) : Prop :=
  (∀ chunk, .write "MSG" chunk ∈ (s.step host input).2 →
    ∃ e ∈ s._tokenStack._tokenStack, hasTokenReallyExpired input.1 e.securityToken = false ∧
      ∃ keys, e.serverKeys = some keys ∧ Protected host.symmetric keys mode chunk) ∧
  ∀ response message, input.2 = .sendResponse "MSG" response message →
    (∀ e ∈ s._tokenStack._tokenStack, hasTokenReallyExpired input.1 e.securityToken = true) →
    .callback .sent ∉ (s.step host input).2

section

variable (hcrypto : host.symmetric.Lawful)
  (hkeyed : s.securityMode ≠ .None → ∀ e ∈ s._tokenStack._tokenStack, e.serverKeys.isSome)
include hcrypto hkeyed

lemma send_response_protects {msg : Message} (hkeys : Available now s)
    {s₁ s₂ : ServerSecureChannelLayer κ π ω} {resp' : ο} {chunks : List Buffer}
    (hkeeps : Keeps s s₁) (habort : s._abort_has_been_called = false)
    (hsend : s₁.sendOnce host now "MSG" resp' msg = .ok (.ok chunks, s₂)) :
    s.securityMode ≠ .None ∧ ∃ e ∈ s._tokenStack._tokenStack,
      hasTokenReallyExpired now e.securityToken = false ∧
      ∃ keys, e.serverKeys = some keys ∧
        ∀ chunk ∈ chunks, Protected host.symmetric keys s.securityMode chunk := by
  have hchosen : s₁.serverKeysFor now msg.securityHeader.tokenId =
      s.serverKeysFor now msg.securityHeader.tokenId := by
    unfold serverKeysFor
    rw [hkeeps.tokenStack]
  have hmode : s.securityMode ≠ .None := by
    rcases hkeys with h | h | ⟨h, -⟩
    · rw [habort] at h
      cases h
    · simp [h]
    · simp [h]
  have hsome : ∃ keys, s.serverKeysFor now msg.securityHeader.tokenId = some keys := by
    rcases hkeys with h | henc | ⟨-, e, he, hexp⟩
    · rw [habort] at h
      cases h
    · by_contra hnone
      rw [← Option.ne_none_iff_exists', not_not, ← hchosen] at hnone
      exact sendOnce_refused (hkeeps.securityMode.trans henc) hnone hsend
    · exact Option.isSome_iff_exists.mp (serverKeysFor_isSome (hkeyed hmode) he hexp _)
  obtain ⟨keys, hsome⟩ := hsome
  obtain ⟨e, he, hexp, hserver⟩ := serverKeysFor_eq_some hsome
  refine ⟨hmode, e, he, hexp, keys, hserver, fun chunk hchunk => ?_⟩
  have h := sendOnce_keyed hcrypto (hkeeps.securityMode ▸ hmode) (hchosen.trans hsome) hsend chunk
    hchunk
  rw [hkeeps.securityMode] at h
  exact h.2

/-- **One step of a server** that has keys. -/
lemma protects_of_hasKeys
    (hmode : s.securityMode = mode ∨ s.securityMode = .None) (input : ℤ × Input π ο)
    (hkeys : HasKeys s input) : Protects host mode s input := by
  obtain ⟨now, input⟩ := input
  -- an aborted channel writes nothing, and says so
  have haborted : ∀ resp msg, s._abort_has_been_called = true →
      s.send_response host now "MSG" resp msg = (s, [], .aborted) := fun _ _ h => if_pos h
  constructor
  · intro chunk hwrite
    obtain ⟨resp, msg, rfl, hchunk⟩ := step_write hwrite
    cases habort : s._abort_has_been_called with
    | true =>
      rw [haborted resp msg habort] at hchunk
      exact absurd hchunk not_mem_nil
    | false =>
      rcases (send_response_spec host now s "MSG" resp msg).2 with
        ⟨hnil, -⟩ | ⟨s₁, response', chunks, s₂, hkeeps, hsend, hchunks⟩
      · rw [hnil] at hchunk
        exact absurd hchunk not_mem_nil
      · rw [hchunks] at hchunk
        obtain ⟨_, hmem, heq⟩ := List.mem_map.mp hchunk
        cases heq
        obtain ⟨hne, e, he, hexp, keys, hserver, hprot⟩ :=
          send_response_protects hcrypto hkeyed (hkeys resp msg rfl) hkeeps habort hsend
        rw [hmode.resolve_right hne] at hprot
        exact ⟨e, he, hexp, keys, hserver, hprot _ hmem⟩
  · rintro resp msg rfl hexp hsent
    simp only [step, List.mem_append, List.mem_singleton] at hsent
    rcases (send_response_spec host now s "MSG" resp msg).2 with
      ⟨hnil, hne⟩ | ⟨s₁, response', chunks, s₂, hkeeps, hsend, hchunks⟩
    · rw [hnil] at hsent
      rcases hsent with h | h
      · exact absurd h not_mem_nil
      · injection h with h
        exact hne h.symm
    · cases habort : s._abort_has_been_called with
      | true => simp [haborted resp msg habort] at hsent
      | false =>
        obtain ⟨-, e, he, hvalid, -⟩ :=
          send_response_protects hcrypto hkeyed (hkeys resp msg rfl) hkeeps habort hsend
        rw [hexp e he] at hvalid
        cases hvalid

end

end ServerSecureChannelLayer

/-! ### The client -/

namespace ClientSecureChannelLayer

variable {host : ClientHost κ ω} {now : ℤ} {s s' : ClientSecureChannelLayer κ ω}
  {mode : MessageSecurityMode}

/-- **The invariant** of the runs of a client: the security mode is the one it was made with, and
the tokens of a secured channel have client keys. -/
structure Invariant (mode : MessageSecurityMode) (s : ClientSecureChannelLayer κ ω) : Prop where
  securityMode : s.securityMode = mode
  chunkerMode : s._messageChunker.securityMode = mode
  keyed : mode ≠ .None → ∀ e ∈ s._tokenStack._tokenStack, e.clientKeys.isSome

lemma Invariant.construct (securityPolicy : SecurityPolicy)
    (context : SecureMessageChunkManager.Context ω) :
    Invariant mode (ClientSecureChannelLayer.construct mode securityPolicy context :
      ClientSecureChannelLayer κ ω) :=
  ⟨rfl, rfl, fun _ _ he => absurd he not_mem_nil⟩

lemma Invariant.of_eq (h : Invariant mode s) (hmode : s'.securityMode = s.securityMode)
    (hchunker : s'._messageChunker.securityMode = s._messageChunker.securityMode)
    (hstack : s'._tokenStack = s._tokenStack) : Invariant mode s' :=
  ⟨hmode.trans h.securityMode, hchunker.trans h.chunkerMode, hstack ▸ h.keyed⟩

variable {request : ClientRequest}

lemma chunkRequest_ok {msgType : String} {res : Except StatusCode (List Buffer)}
    (h : s.chunkRequest host now msgType request = .ok (res, s')) :
    ∃ securityHeader securityOptions chunker,
      s._get_security_options host now msgType = .ok (securityHeader, securityOptions) ∧
      s._messageChunker.chunkSecureMessage msgType
        { channelId := s.channelId
          securityOptions :=
            .ofSecurityOptions s.sendBufferSize request.requestHandle securityOptions
          securityHeader } request.encoded = .ok (res, chunker) ∧
      s' = { s with _messageChunker := chunker } := by
  unfold chunkRequest at h
  simp only [Except.bind_eq_ok_iff] at h
  obtain ⟨⟨securityHeader, securityOptions⟩, hopts, ⟨result', chunker⟩, hchunk, heq⟩ := h
  cases heq
  exact ⟨securityHeader, securityOptions, chunker, hopts, hchunk, rfl⟩

lemma Invariant._sendSecureOpcUARequest (h : Invariant mode s) (msgType : String)
    (req : ClientRequest) :
    Invariant mode (s._sendSecureOpcUARequest host now msgType req).1 := by
  have hkeeps : ∀ {res s'}, s.chunkRequest host now msgType req = .ok (res, s') →
      Invariant mode s' := by
    intro res s' hsend
    obtain ⟨_, _, chunker, -, hchunk, rfl⟩ := chunkRequest_ok hsend
    exact h.of_eq rfl (MessageChunker.chunkSecureMessage_securityMode hchunk) rfl
  unfold ClientSecureChannelLayer._sendSecureOpcUARequest
  split
  · exact h
  · rename_i hsend
    exact hkeeps hsend
  · rename_i hsend
    exact hkeeps hsend

variable {derivedKeys : Option (DerivedKeys1 κ)}

lemma Invariant.takeToken (h : Invariant mode s) (token : ISecurityToken)
    (hkeys : mode ≠ .None →
      (SecurityTokenAndDerivedKeys.mk token derivedKeys).clientKeys.isSome) :
    Invariant mode (s.takeToken now token derivedKeys).1 := by
  unfold ClientSecureChannelLayer.takeToken
  split
  · exact h
  · rename_i tokenStack hpush
    have hkeyed : mode ≠ .None → ∀ e ∈ tokenStack._tokenStack, e.clientKeys.isSome := by
      intro hne e he
      rcases TokenStack.mem_of_pushNewToken hpush he with hold | rfl
      · exact h.keyed hne e hold
      · exact hkeys hne
    dsimp only
    split_ifs
    · exact ⟨h.securityMode, h.chunkerMode, hkeyed⟩
    · exact ⟨h.securityMode, h.chunkerMode, hkeyed⟩

lemma derivedKeysOf_eq_ok {serverNonce clientNonce : Option Buffer} {derivedKeys : DerivedKeys1 κ}
    (h : s.derivedKeysOf host serverNonce clientNonce = .ok derivedKeys) :
    derivedKeys.derivedClientKeys.isSome := by
  unfold derivedKeysOf at h
  split at h
  · cases h
  · split at h
    · cases h
    · split_ifs at h
      cases h
      rfl

lemma Invariant.onOpenSecureChannelResponse (h : Invariant mode s) (clientNonce : Option Buffer)
    (midDate : ℤ) (res : Except String OpenSecureChannelResponse) :
    Invariant mode (s.onOpenSecureChannelResponse host now clientNonce midDate res).1 := by
  unfold ClientSecureChannelLayer.onOpenSecureChannelResponse
  split
  · exact h
  · rename_i response
    dsimp only
    have h' : Invariant mode { s with channelId := response.securityToken.channelId } :=
      h.of_eq rfl rfl rfl
    split_ifs with hnone
    · exact h'.takeToken _ fun hne => absurd (h.securityMode.symm.trans hnone) hne
    · split
      · exact h'
      · rename_i derivedKeys hkeys
        exact h'.takeToken _ fun _ => derivedKeysOf_eq_ok hkeys

lemma Invariant.step (h : Invariant mode s) (input : ℤ × Input) :
    Invariant mode (s.step host input).1 := by
  obtain ⟨now, input⟩ := input
  cases input with
  | sendRequest msgType req => exact h._sendSecureOpcUARequest msgType req
  | sendOpenSecureChannelRequest isInitial req =>
    simp only [ClientSecureChannelLayer.step, _send_open_secure_channel_request]
    split_ifs
    · exact h
    · exact h
    · have h' : Invariant mode { s with _isOpened := !isInitial } := h.of_eq rfl rfl rfl
      exact h'._sendSecureOpcUARequest "OPN" req
  | openSecureChannelResponse clientNonce midDate res =>
    exact h.onOpenSecureChannelResponse clientNonce midDate res
  | connected maxMessageSize maxChunkCount sendBufferSize | builderSecurityPolicy securityPolicy
  | openSecureChannelResponseReceived resp | securityTokenTimeout
  | cancelSecurityTokenWatchdog => exact h.of_eq rfl rfl rfl

/-- A chunk of an MSG request, or the report that one is sent. -/
def Output.SendsMsg : Output κ → Prop
  | .write msgType _ => msgType = "MSG"
  | .outcome msgType result => msgType = "MSG" ∧ result = .sent
  | _ => False

variable {output : Output κ}

lemma _sendSecureOpcUARequest_msg {msgType : String}
    (h : output ∈ (s._sendSecureOpcUARequest host now msgType request).2) (hmsg : output.SendsMsg) :
    msgType = "MSG" ∧ ∃ chunks s',
      s.chunkRequest host now msgType request = .ok (.ok chunks, s') ∧
      ∀ chunk, output = .write "MSG" chunk → chunk ∈ chunks := by
  unfold _sendSecureOpcUARequest at h
  split at h
  · obtain rfl := List.mem_singleton.mp h
    cases hmsg.2
  · rename_i chunks s' hsend
    rcases List.mem_append.mp h with hwrite | houtcome
    · obtain ⟨chunk, hmem, rfl⟩ := List.mem_map.mp hwrite
      refine ⟨hmsg, chunks, s', hsend, fun chunk' heq => ?_⟩
      cases heq
      exact hmem
    · obtain rfl := List.mem_singleton.mp houtcome
      exact ⟨hmsg.1, chunks, s', hsend, nofun⟩
  · obtain rfl := List.mem_singleton.mp h
    cases hmsg.2

lemma takeToken_msg {token : ISecurityToken} (hmsg : output.SendsMsg) :
    output ∉ (s.takeToken now token derivedKeys).2 := by
  intro h
  unfold takeToken at h
  split at h
  · exact absurd h not_mem_nil
  · dsimp only at h
    split_ifs at h
    · obtain rfl := List.mem_singleton.mp h
      exact hmsg
    · rcases List.mem_cons.mp h with rfl | h
      · exact hmsg
      · obtain rfl := List.mem_singleton.mp h
        exact hmsg

lemma onOpenSecureChannelResponse_msg {clientNonce : Option Buffer} {midDate : ℤ}
    {res : Except String OpenSecureChannelResponse} (hmsg : output.SendsMsg) :
    output ∉ (s.onOpenSecureChannelResponse host now clientNonce midDate res).2 := by
  have hcallback : ∀ error, output ∉ [Output.callback error] := by
    intro error h
    obtain rfl := List.mem_singleton.mp h
    exact hmsg
  unfold onOpenSecureChannelResponse
  split
  · exact hcallback _
  · dsimp only
    split_ifs
    · exact takeToken_msg hmsg
    · split
      · exact hcallback _
      · exact takeToken_msg hmsg

/-- **Who sends MSG chunks**: only a request of the application. -/
lemma step_msg {input : Input} (h : output ∈ (s.step host (now, input)).2)
    (hmsg : output.SendsMsg) :
    ∃ req chunks s', input = .sendRequest "MSG" req ∧
      s.chunkRequest host now "MSG" req = .ok (.ok chunks, s') ∧
      ∀ chunk, output = .write "MSG" chunk → chunk ∈ chunks := by
  cases input with
  | sendRequest msgType req =>
    obtain ⟨rfl, chunks, s', hsend, hmem⟩ := _sendSecureOpcUARequest_msg h hmsg
    exact ⟨req, chunks, s', rfl, hsend, hmem⟩
  | sendOpenSecureChannelRequest isInitial req =>
    simp only [step, _send_open_secure_channel_request] at h
    split_ifs at h
    · obtain rfl := List.mem_singleton.mp h
      exact absurd hmsg id
    · obtain rfl := List.mem_singleton.mp h
      exact absurd hmsg id
    · exact absurd (_sendSecureOpcUARequest_msg h hmsg).1 (by decide)
  | openSecureChannelResponse clientNonce midDate res =>
    exact absurd h (onOpenSecureChannelResponse_msg hmsg)
  | connected maxMessageSize maxChunkCount sendBufferSize | builderSecurityPolicy securityPolicy
  | openSecureChannelResponseReceived resp | securityTokenTimeout
  | cancelSecurityTokenWatchdog => exact absurd h not_mem_nil

/-- **The condition** on a client: when it sends an MSG request, the token found under the id of the
active token has not really expired, or the mode is SignAndEncrypt. -/
def HasKeys (s : ClientSecureChannelLayer κ ω) (input : ℤ × Input) : Prop :=
  ∀ request, input.2 = .sendRequest "MSG" request → s.securityMode = .SignAndEncrypt ∨
    ∃ e, s._tokenStack.find s.tokenId = some e ∧
      hasTokenReallyExpired input.1 e.securityToken = false

/-- **Protected output** of a client: its MSG chunks are protected in the mode of the channel by
keys of a token that has not really expired, and without such a token no request is sent. -/
def Protects (host : ClientHost κ ω) (s : ClientSecureChannelLayer κ ω) (input : ℤ × Input) : Prop :=
  (∀ chunk, .write "MSG" chunk ∈ (s.step host input).2 →
    ∃ e ∈ s._tokenStack._tokenStack, e.securityToken.tokenId = s.tokenId ∧
      hasTokenReallyExpired input.1 e.securityToken = false ∧
      ∃ keys, e.clientKeys = some keys ∧ Protected host.symmetric keys s.securityMode chunk) ∧
  ((∀ e ∈ s._tokenStack._tokenStack, e.securityToken.tokenId = s.tokenId →
      hasTokenReallyExpired input.1 e.securityToken = true) →
    .outcome "MSG" .sent ∉ (s.step host input).2)

section

variable (hcrypto : host.symmetric.Lawful) (h : Invariant mode s)
  (hsec : mode = .Sign ∨ mode = .SignAndEncrypt)
include hcrypto h hsec

lemma chunkRequest_protects
    (hkeys : s.securityMode = .SignAndEncrypt ∨ ∃ e, s._tokenStack.find s.tokenId = some e ∧
      hasTokenReallyExpired now e.securityToken = false) {chunks : List Buffer}
    (hsend : s.chunkRequest host now "MSG" request = .ok (.ok chunks, s')) :
    ∃ e ∈ s._tokenStack._tokenStack, e.securityToken.tokenId = s.tokenId ∧
      hasTokenReallyExpired now e.securityToken = false ∧
      ∃ keys, e.clientKeys = some keys ∧
        ∀ chunk ∈ chunks, Protected host.symmetric keys s.securityMode chunk := by
  obtain ⟨securityHeader, securityOptions, chunker, hopts, hchunk, rfl⟩ := chunkRequest_ok hsend
  have hnone : mode ≠ .None := by rcases hsec with rfl | rfl <;> simp
  have hmode : s._messageChunker.securityMode = s.securityMode :=
    h.chunkerMode.trans h.securityMode.symm
  unfold _get_security_options _get_security_options_for_MSG at hopts
  rw [if_neg (by decide), if_neg (by rw [h.securityMode]; exact hnone)] at hopts
  cases hprovided : s._tokenStack.clientKeyProvider now s.tokenId with
  | none =>
    -- nothing is signed: the chunker refuses in mode SignAndEncrypt, and otherwise there are keys
    rw [hprovided] at hopts
    cases hopts
    rcases hkeys with henc | ⟨e, hfind, hexp⟩
    · rw [MessageChunker.refused_of_signAndEncrypt (hmode.trans henc) rfl] at hchunk
      cases hchunk
    · have hcli := h.keyed hnone e (TokenStack.find_eq_some hfind).1
      have hder : s._tokenStack.getTokenDerivedKeys now s.tokenId = e.derivedKeys := by
        unfold TokenStack.getTokenDerivedKeys
        simp [hfind, hexp]
      unfold TokenStack.clientKeyProvider at hprovided
      rw [hder] at hprovided
      simp [SecurityTokenAndDerivedKeys.clientKeys, hprovided] at hcli
  | some keys =>
    rw [hprovided] at hopts
    simp only [Except.bind_eq_ok_iff] at hopts
    obtain ⟨_, hdata, heq⟩ := hopts
    cases heq
    obtain ⟨data, hdata', rfl⟩ := Except.map_eq_ok_iff.mp hdata
    obtain ⟨derived, hder, hcli⟩ := Option.bind_eq_some_iff.mp hprovided
    obtain ⟨e, he, hid, hexp, hsome⟩ := TokenStack.getTokenDerivedKeys_eq_some hder
    refine ⟨e, he, hid, hexp, keys, Option.bind_eq_some_iff.mpr ⟨derived, hsome, hcli⟩, ?_⟩
    rw [← hmode] at hdata' ⊢
    exact fun chunk hmem =>
      (MessageChunker.protected_of_chunkSecureMessage hcrypto hdata' rfl rfl hchunk chunk hmem).2

/-- **One step of a client** that has keys. -/
lemma protects_of_hasKeys
    (input : ℤ × Input) (hkeys : HasKeys s input) : Protects host s input := by
  obtain ⟨now, input⟩ := input
  constructor
  · intro chunk hwrite
    obtain ⟨req, chunks, s', rfl, hsend, hmem⟩ := step_msg hwrite rfl
    obtain ⟨e, he, hid, hexp, keys, hcli, hprot⟩ :=
      chunkRequest_protects hcrypto h hsec (hkeys req rfl) hsend
    exact ⟨e, he, hid, hexp, keys, hcli, hprot chunk (hmem chunk rfl)⟩
  · intro hexp hsent
    obtain ⟨req, chunks, s', rfl, hsend, -⟩ := step_msg hsent ⟨rfl, rfl⟩
    obtain ⟨e, he, hid, hvalid, -⟩ :=
      chunkRequest_protects hcrypto h hsec (hkeys req rfl) hsend
    rw [hexp e he hid] at hvalid
    cases hvalid

end

end ClientSecureChannelLayer

/-! ### Both sides -/

/-- **Protected output**: in every run of a secured channel in which there are keys whenever an MSG
message is sent, the MSG chunks of the server and those of the client are protected in the mode of
the channel by the keys of a token that has not really expired; without keys nothing is sent.

**Proof sketch.** The tokens of a secured channel have keys, so that a lookup fails only when the
tokens have expired. The condition then leaves mode SignAndEncrypt, in which the chunker refuses
options without security. -/
theorem protectedOutput (host : Host κ π ω ο) (clientHost : ClientHost κ ω)
    (hserver : host.symmetric.Lawful) (hclient : clientHost.symmetric.Lawful)
    (mode : MessageSecurityMode) (hsecured : mode = .Sign ∨ mode = .SignAndEncrypt) :
    (∀ (channelId lifetime receiveBufferSize : ℕ) (chunker : MessageChunker ω)
        (before after : List (ℤ × ServerSecureChannelLayer.Input π ο)),
      (Mealy.run (ServerSecureChannelLayer.step host) (ServerSecureChannelLayer.construct channelId
        lifetime receiveBufferSize chunker) before).1.securityMode = mode →
      Mealy.Along (ServerSecureChannelLayer.step host) ServerSecureChannelLayer.HasKeys
        (Mealy.run (ServerSecureChannelLayer.step host) (ServerSecureChannelLayer.construct channelId
          lifetime receiveBufferSize chunker) before).1 after →
      ∀ q ∈ trace (ServerSecureChannelLayer.step host)
          (Mealy.run (ServerSecureChannelLayer.step host) (ServerSecureChannelLayer.construct
            channelId lifetime receiveBufferSize chunker) before).1 after,
        ServerSecureChannelLayer.Protects host mode q.1 q.2) ∧
    ∀ (securityPolicy : SecurityPolicy) (context : SecureMessageChunkManager.Context ω)
        (inputs : List (ℤ × ClientSecureChannelLayer.Input)),
      Mealy.Along (ClientSecureChannelLayer.step clientHost) ClientSecureChannelLayer.HasKeys
        (ClientSecureChannelLayer.construct mode securityPolicy context) inputs →
      ∀ q ∈ trace (ClientSecureChannelLayer.step clientHost)
          (ClientSecureChannelLayer.construct mode securityPolicy context) inputs,
        q.1.securityMode = mode ∧ ClientSecureChannelLayer.Protects clientHost q.1 q.2 := by
  constructor
  · intro channelId lifetime receiveBufferSize chunker before after hmode hkeys
    have hinv := Mealy.run_log (I := ServerSecureChannelLayer.Invariant) (A := fun _ _ => True)
      (fun L t input ht _ => ht.step host input)
      (ServerSecureChannelLayer.Invariant.construct (κ := κ) (π := π) channelId lifetime
        receiveBufferSize chunker)
      (Mealy.along_of_forall (ServerSecureChannelLayer.step host) fun _ _ _ => trivial :
        Mealy.Along _ _ _ before)
    have hopen := hinv.listener_ne_initial (hmode ▸ hsecured)
    refine Mealy.trace_forall
      (I := fun t => (∃ L, ServerSecureChannelLayer.Invariant L t) ∧
        (t.securityMode = mode ∨ t.securityMode = .None) ∧ t.listener ≠ .initial)
      _ ?_ ?_ ⟨⟨_, hinv⟩, .inl hmode, hopen⟩ hkeys
    · rintro t input ⟨⟨L, ht⟩, hm, hl⟩ -
      exact ⟨⟨_, ht.step host input⟩, ServerSecureChannelLayer.mode_step hm hl input⟩
    · rintro t input ⟨⟨L, ht⟩, hm, -⟩ hinput
      exact ServerSecureChannelLayer.protects_of_hasKeys hserver ht.keyed hm input hinput
  · intro securityPolicy context inputs hkeys
    refine Mealy.trace_forall (I := ClientSecureChannelLayer.Invariant mode)
      (P := fun t input => t.securityMode = mode ∧
        ClientSecureChannelLayer.Protects clientHost t input) _ ?_ ?_
      (ClientSecureChannelLayer.Invariant.construct securityPolicy context) hkeys
    · intro t input ht _
      exact ht.step input
    · intro t input ht hinput
      exact ⟨ht.securityMode,
        ClientSecureChannelLayer.protects_of_hasKeys hclient ht hsecured input hinput⟩

/-! ### Channels whose tokens expire -/

/-- The client of `exampleHost`. -/
def exampleClientHost : ClientHost ℕ Unit where
  symmetric := exampleSymmetric
  computeDerivedKeys_ext _ _ seed := (seed.headD 0).toNat
  asymmetric _ := .ok (exampleHost.asymmetric .Basic256Sha256 ())
  senderCertificate := []
  receiverCertificateThumbprint := []

/-- A request of one byte. -/
def exampleRequest : ClientRequest := ⟨2, [1], by simp⟩

/-- The client takes over a token at time 0 that lives 2500 ms. -/
def exampleOpening : List (ℤ × ClientSecureChannelLayer.Input) :=
  [(0, .connected 0 0 256), (0, .builderSecurityPolicy .Basic256Sha256),
    (0, .openSecureChannelResponse (some [5]) 0 (.ok ⟨⟨1, none, 2500, 1⟩, some [6]⟩))]

/-- Messages sent under a token that lives. -/
theorem protectedOutput_sign :
    (∀ q ∈ trace (ServerSecureChannelLayer.step exampleHost)
        (Mealy.run (ServerSecureChannelLayer.step exampleHost)
          (ServerSecureChannelLayer.construct 1 0 256 exampleChunker) opened).1
        [(200, .sendResponse "MSG" [7] (requestUnder 1))],
      ServerSecureChannelLayer.Protects exampleHost .Sign q.1 q.2) ∧
    ∀ q ∈ trace (ClientSecureChannelLayer.step exampleClientHost)
        (ClientSecureChannelLayer.construct .Sign .Basic256Sha256 ({}, ()))
        (exampleOpening ++ [(200, .sendRequest "MSG" exampleRequest)]),
      q.1.securityMode = .Sign ∧ ClientSecureChannelLayer.Protects exampleClientHost q.1 q.2 := by
  obtain ⟨hserver, hcli⟩ := protectedOutput exampleHost exampleClientHost exampleSymmetric_lawful
    exampleSymmetric_lawful .Sign (.inl rfl)
  refine ⟨hserver 1 0 256 exampleChunker opened _ (by decide +kernel) ⟨?_, trivial⟩,
    hcli .Basic256Sha256 ({}, ()) _ ⟨nofun, nofun, nofun, ?_, trivial⟩⟩
  · intro response message h
    exact .inr (.inr ⟨by decide +kernel, by decide +kernel⟩)
  · intro request h
    exact .inr ⟨⟨⟨1, some 0, 2500, 1⟩, some ⟨some 5, some 6⟩⟩, by decide +kernel, by decide +kernel⟩

/-- The response without a signature. -/
def clearResponse : Buffer :=
  [77, 83, 71, 70, 26, 0, 0, 0, 1, 0, 0, 0, 1, 0, 0, 0, 2, 0, 0, 0, 2, 0, 0, 0, 1, 7]

/-- The request without a signature. -/
def clearRequest : Buffer :=
  [77, 83, 71, 70, 25, 0, 0, 0, 1, 0, 0, 0, 1, 0, 0, 0, 1, 0, 0, 0, 2, 0, 0, 0, 1]

/-- **A chunk in clear**: when the token has expired, a response and a request in mode Sign are sent
without a signature. -/
theorem protectedOutput_expired :
    ((Mealy.run (ServerSecureChannelLayer.step exampleHost)
        (ServerSecureChannelLayer.construct 1 0 256 exampleChunker) opened).1.securityMode = .Sign ∧
      ¬ ServerSecureChannelLayer.Protects exampleHost .Sign
        (Mealy.run (ServerSecureChannelLayer.step exampleHost)
          (ServerSecureChannelLayer.construct 1 0 256 exampleChunker) opened).1
        (4000, .sendResponse "MSG" [7] (requestUnder 1))) ∧
    (Mealy.run (ClientSecureChannelLayer.step exampleClientHost)
        (ClientSecureChannelLayer.construct .Sign .Basic256Sha256 ({}, ()))
        exampleOpening).1.securityMode = .Sign ∧
      ¬ ClientSecureChannelLayer.Protects exampleClientHost
        (Mealy.run (ClientSecureChannelLayer.step exampleClientHost)
          (ClientSecureChannelLayer.construct .Sign .Basic256Sha256 ({}, ())) exampleOpening).1
        (4000, .sendRequest "MSG" exampleRequest) := by
  refine ⟨⟨by decide +kernel, fun ⟨h, _⟩ => ?_⟩, by decide +kernel, fun ⟨h, _⟩ => ?_⟩
  · have hwrite : clearResponse ∈ written ((Mealy.run (ServerSecureChannelLayer.step exampleHost)
        (ServerSecureChannelLayer.construct 1 0 256 exampleChunker) opened).1.step exampleHost
        (4000, .sendResponse "MSG" [7] (requestUnder 1))).2 := by decide +kernel
    have hexp : ∀ e ∈ (Mealy.run (ServerSecureChannelLayer.step exampleHost)
        (ServerSecureChannelLayer.construct 1 0 256 exampleChunker) opened).1._tokenStack._tokenStack,
        hasTokenReallyExpired 4000 e.securityToken = true := by decide +kernel
    obtain ⟨e, he, hvalid, -⟩ := h _ (mem_written.mp hwrite)
    rw [hexp e he] at hvalid
    cases hvalid
  · have hwrite : .write "MSG" clearRequest ∈
        ((Mealy.run (ClientSecureChannelLayer.step exampleClientHost)
          (ClientSecureChannelLayer.construct .Sign .Basic256Sha256 ({}, ()))
          exampleOpening).1.step exampleClientHost
        (4000, .sendRequest "MSG" exampleRequest)).2 := by decide +kernel
    have hexp : ∀ e ∈ (Mealy.run (ClientSecureChannelLayer.step exampleClientHost)
        (ClientSecureChannelLayer.construct .Sign .Basic256Sha256 ({}, ()))
        exampleOpening).1._tokenStack._tokenStack,
        hasTokenReallyExpired 4000 e.securityToken = true := by decide +kernel
    obtain ⟨e, he, -, hvalid, -⟩ := h _ hwrite
    rw [hexp e he] at hvalid
    cases hvalid

end NodeOpcua
