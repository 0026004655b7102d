import NodeOpcua.SecureChannel.ChunkProtection
import NodeOpcua.SecureChannel.ServerSecureChannelLayer

set_option autoImplicit false

/-!
# The token and the keys of a response

The server takes the token id of a response from the header of the request, and the keys from its
token stack. As long as the token of the request is still valid the two agree, so that a client
that selects its keys by the token id verifies the response.

## Main definitions

* `ServerSecureChannelLayer.Effect`, `ServerSecureChannelLayer.Invariant`.
* `ServerSecureChannelLayer.AnswersUnderLiveToken`.
* `ServerSecureChannelLayer.Agrees`, `ServerSecureChannelLayer.Verifiable` —
  the keys of a chunk are those of the token it names, and the client verifies it.

## Main results

* `ServerSecureChannelLayer.step_effect`, `serverToken_agreement`.
-/

namespace NodeOpcua

namespace ServerSecureChannelLayer

variable {κ π ω ο ρ : Type} {host : Host κ π ω ο} {now : ℤ} {s s' : ServerSecureChannelLayer κ π ω}

/-- The tokens issued so far, as the log of outputs tells. -/
def issued (outputs : List (Output κ)) : List (SecurityTokenAndDerivedKeys κ) :=
  outputs.filterMap fun
    | .securityToken entry => some entry
    | _ => none

@[simp] lemma issued_append (L L' : List (Output κ)) : issued (L ++ L') = issued L ++ issued L' :=
  List.filterMap_append

/-- The MSG chunks written so far. -/
def written (outputs : List (Output κ)) : List Buffer :=
  outputs.filterMap fun
    | .write msgType chunk => if msgType = "MSG" then some chunk else none
    | _ => none

variable {chunk : Buffer} {L : List (Output κ)}

lemma mem_written :
    chunk ∈ written L ↔ .write "MSG" chunk ∈ L := by
  unfold written
  rw [List.mem_filterMap]
  constructor
  · rintro ⟨output, hmem, h⟩
    split at h
    · split_ifs at h with hmsg
      cases h
      rwa [← hmsg]
    · cases h
  · exact fun h => ⟨_, h, rfl⟩

@[simp] lemma issued_write (msgType : String) (chunks : List Buffer) :
    issued (chunks.map (Output.write (κ := κ) msgType)) = [] := by
  simp [issued]

/-! ### Sending -/

/-- What sending a response leaves alone. -/
structure Keeps (s s' : ServerSecureChannelLayer κ π ω) : Prop where
  tokenStack : s'._tokenStack = s._tokenStack
  lastTokenId : s'._lastTokenId = s._lastTokenId
  securityMode : s'.securityMode = s.securityMode
  listener : s'.listener = s.listener
  opening : s'.opening = s.opening
  certificatesOf : s'.certificatesOf = s.certificatesOf

lemma Keeps.refl : Keeps s s := ⟨rfl, rfl, rfl, rfl, rfl, rfl⟩

lemma Keeps.trans {s'' : ServerSecureChannelLayer κ π ω} (h : Keeps s s') (h' : Keeps s' s'') :
    Keeps s s'' :=
  ⟨h'.tokenStack.trans h.tokenStack, h'.lastTokenId.trans h.lastTokenId,
    h'.securityMode.trans h.securityMode, h'.listener.trans h.listener,
    h'.opening.trans h.opening, h'.certificatesOf.trans h.certificatesOf⟩

variable {message : Message} {response : ο}

lemma sendOnce_keeps {msgType : String} {res : Except StatusCode (List Buffer)}
    (h : s.sendOnce host now msgType response message = .ok (res, s')) : Keeps s s' := by
  unfold sendOnce at h
  simp only [Except.bind_eq_ok_iff] at h
  obtain ⟨securityOptions, -, ⟨result', chunker⟩, -, h⟩ := h
  cases h
  exact ⟨rfl, rfl, rfl, rfl, rfl, rfl⟩

variable (host) (now) (s) in
/-- **Sending a response** writes chunks that come from one attempt, and leaves the security of the
channel alone. -/
lemma send_response_spec (msgType : String) (response : ο) (message : Message) :
    Keeps s (s.send_response host now msgType response message).1 ∧
      ((s.send_response host now msgType response message).2.1 = [] ∧
          (s.send_response host now msgType response message).2.2 ≠ .sent ∨
        ∃ s₁ response' chunks s₂, Keeps s s₁ ∧
          s₁.sendOnce host now msgType response' message = .ok (.ok chunks, s₂) ∧
          (s.send_response host now msgType response message).2.1 = chunks.map (.write msgType)) := by
  unfold send_response
  split_ifs with haborted hfault
  · exact ⟨.refl, .inl ⟨rfl, nofun⟩⟩
  · split
    · exact ⟨.refl, .inl ⟨rfl, nofun⟩⟩
    · rename_i chunks s₁ hsend
      exact ⟨sendOnce_keeps hsend, .inr ⟨s, response, chunks, s₁, .refl, hsend, rfl⟩⟩
    · rename_i statusCode s₁ hsend
      exact ⟨sendOnce_keeps hsend, .inl ⟨rfl, nofun⟩⟩
  · split
    · exact ⟨.refl, .inl ⟨rfl, nofun⟩⟩
    · rename_i chunks s₁ hsend
      exact ⟨sendOnce_keeps hsend, .inr ⟨s, response, chunks, s₁, .refl, hsend, rfl⟩⟩
    · rename_i statusCode s₁ hsend
      have hkeeps := sendOnce_keeps hsend
      split
      · exact ⟨hkeeps, .inl ⟨rfl, nofun⟩⟩
      · rename_i chunks s₂ hsend'
        exact ⟨hkeeps.trans (sendOnce_keeps hsend'),
          .inr ⟨s₁, _, chunks, s₂, hkeeps, hsend', rfl⟩⟩
      · rename_i statusCode' s₂ hsend'
        exact ⟨hkeeps.trans (sendOnce_keeps hsend'), .inl ⟨rfl, nofun⟩⟩

/-! ### One step -/

/-- A step that issues no token. The security mode stays, is reset to none by a refused request, or
is taken from the first request. -/
structure Quiet (s s' : ServerSecureChannelLayer κ π ω) (outputs : List (Output κ)) : Prop where
  issued : issued outputs = []
  tokenStack : s'._tokenStack = s._tokenStack
  lastTokenId : s'._lastTokenId = s._lastTokenId
  securityMode : s'.securityMode = s.securityMode ∨ s'.securityMode = .None ∨ s.listener = .initial
  listener : s'.listener = .initial → s.listener = .initial ∧
    (s.opening = [] → s.certificatesOf = none →
      s'.securityMode = s.securityMode ∧ s'.opening = [] ∧ s'.certificatesOf = none)

/-- A step that issues a token: the next one, with server keys unless the security mode is none. -/
structure Issues (now : ℤ) (s s' : ServerSecureChannelLayer κ π ω) (outputs : List (Output κ))
    (entry : SecurityTokenAndDerivedKeys κ) : Prop where
  issued : issued outputs = [entry]
  tokenId : entry.securityToken.tokenId = s._lastTokenId + 1
  lastTokenId : s'._lastTokenId = s._lastTokenId + 1
  pushed : s._tokenStack.pushNewToken now entry.securityToken entry.derivedKeys =
    .ok s'._tokenStack
  securityMode : s'.securityMode = s.securityMode
  serverKeys : s.securityMode ≠ .None → entry.serverKeys.isSome
  listener : s'.listener = s.listener

/-- What one step can do to the security of the channel. -/
def Effect (now : ℤ) (s s' : ServerSecureChannelLayer κ π ω) (outputs : List (Output κ)) : Prop :=
  Quiet s s' outputs ∨ s.opening ≠ [] ∧ ∃ entry, Issues now s s' outputs entry

variable {outputs : List (Output κ)}

lemma Keeps.quiet (h : Keeps s s') (houtputs : issued outputs = []) :
    Quiet s s' outputs where
  issued := houtputs
  tokenStack := h.tokenStack
  lastTokenId := h.lastTokenId
  securityMode := .inl h.securityMode
  listener := fun hl => ⟨h.listener ▸ hl, fun ho hc =>
    ⟨h.securityMode, h.opening.trans ho, h.certificatesOf.trans hc⟩⟩

lemma quiet_of_refused (houtputs : issued outputs = [])
    (htokens : s'._tokenStack = s._tokenStack) (hlast : s'._lastTokenId = s._lastTokenId)
    (hmode : s'.securityMode = .None)
    (hlsn : s'.listener ≠ .initial ∨ s.opening ≠ [] ∧ s'.listener = s.listener) :
    Quiet s s' outputs where
  issued := houtputs
  tokenStack := htokens
  lastTokenId := hlast
  securityMode := .inr (.inl hmode)
  listener := fun hl => by
    rcases hlsn with hne | ⟨hopening, heq⟩
    · exact absurd hl hne
    · exact ⟨heq ▸ hl, fun ho => absurd ho hopening⟩

lemma issued_send_response (msgType : String) (response : ο) (message : Message) :
    issued (s.send_response host now msgType response message).2.1 = [] := by
  rcases (send_response_spec host now s msgType response message).2 with
    ⟨h, -⟩ | ⟨_, _, chunks, _, _, _, h⟩
  · rw [h]
    rfl
  · rw [h, issued_write]

variable (host) (now) (s) in
lemma sendOpenResponse_spec (token : ISecurityToken) (serverNonce : Option Buffer)
    (message : Message) (securityHeader : AsymmetricAlgorithmSecurityHeader) :
    Keeps s (s.sendOpenResponse host now token serverNonce message securityHeader).1 ∧
      issued (s.sendOpenResponse host now token serverNonce message securityHeader).2 =
        [] := by
  refine ⟨?_, issued_send_response _ _ _⟩
  obtain ⟨h, -⟩ := send_response_spec host now s "OPN"
    (host.responses.openSecureChannelResponse token serverNonce)
    { message with securityHeader := .asymmetric securityHeader, tokenId_lt := Nat.two_pow_pos 32 }
  exact { h with }

variable {request : OpenSecureChannelRequest}

lemma _prepare_security_token_ok
    {derivedKeys : Option (DerivedKeys1 κ)} {token : ISecurityToken}
    (h : s._prepare_security_token now request derivedKeys = .ok (token, s')) :
    token.tokenId = s._lastTokenId + 1 ∧ s'._lastTokenId = s._lastTokenId + 1 ∧
      s._tokenStack.pushNewToken now token derivedKeys = .ok s'._tokenStack ∧
      s'.securityMode = s.securityMode ∧ s'.listener = s.listener := by
  unfold _prepare_security_token at h
  simp only [Except.bind_eq_ok_iff] at h
  obtain ⟨tokenStack, hpush, heq⟩ := h
  cases heq
  exact ⟨rfl, rfl, hpush, rfl, rfl⟩

variable (host) (now) (s) in
lemma issueToken_effect (random : Buffer) (message : Message)
    (req : OpenSecureChannelRequest) (securityHeader : AsymmetricAlgorithmSecurityHeader) :
    (∃ e, s.issueToken host now random message req securityHeader = (s, [.thrown e])) ∨
      ∃ entry, Issues now s (s.issueToken host now random message req securityHeader).1
        (s.issueToken host now random message req securityHeader).2 entry := by
  unfold issueToken
  dsimp only
  split
  · rename_i e _
    exact .inl ⟨e, rfl⟩
  · rename_i securityToken t hprepare
    obtain ⟨hid, hlast, hpush, hmode, hlsn⟩ := _prepare_security_token_ok hprepare
    obtain ⟨hkeeps, hissued⟩ := sendOpenResponse_spec host now t
      securityToken (s._make_serverNonce random) message securityHeader
    refine .inr ⟨⟨securityToken, s._make_derivedKeys host (s._make_serverNonce random)
      req.clientNonce⟩, ?_, hid, hkeeps.lastTokenId.trans hlast, ?_,
      hkeeps.securityMode.trans hmode, fun hne => ?_, hkeeps.listener.trans hlsn⟩
    · rw [← List.singleton_append, issued_append, hissued]
      rfl
    · rw [hkeeps.tokenStack]
      exact hpush
    · simp [hne, SecurityTokenAndDerivedKeys.serverKeys, _make_derivedKeys, _make_serverNonce,
        computeDerivedKeys]

variable (host) (now) (s) in
lemma _handle_OpenSecureChannelRequest_cases (random : Buffer) (used : Bool)
    (message : Message) (req : OpenSecureChannelRequest) :
    ∃ securityPolicy : SecurityPolicy,
      (∃ serviceResult description, s._handle_OpenSecureChannelRequest host now random
          used message req =
        ({ s with securityPolicy }._on_OpenSecureChannelRequestError serviceResult description
          message, [])) ∨
      ∃ securityHeader, s._handle_OpenSecureChannelRequest host now random
          used message req =
        { s with securityPolicy }.issueToken host now random message req securityHeader := by
  unfold _handle_OpenSecureChannelRequest
  by_cases hinval : req.securityMode = .Invalid
  · rw [if_pos hinval]
    exact ⟨s.securityPolicy, .inl ⟨_, _, rfl⟩⟩
  · rw [if_neg hinval]
    refine ⟨(s._prepare_response_security_header host req message).2, ?_⟩
    dsimp only
    split_ifs
    · exact .inl ⟨_, _, rfl⟩
    · exact .inl ⟨_, _, rfl⟩
    · exact .inl ⟨_, _, rfl⟩
    · exact .inr ⟨_, rfl⟩

variable {t : ServerSecureChannelLayer κ π ω}

/-- The reaction to a request that waited for `beforeHandleOpenSecureChannelRequest`. -/
lemma beforeHandled_effect (hopening : s.opening ≠ [])
    (ht : t._tokenStack = s._tokenStack ∧ t._lastTokenId = s._lastTokenId ∧
      t.securityMode = s.securityMode ∧ t.listener = s.listener)
    (random : Buffer) (used : Bool) (message : Message)
    (req : OpenSecureChannelRequest) :
    Effect now s
      (t._handle_OpenSecureChannelRequest host now random used message
        req).1
      (t._handle_OpenSecureChannelRequest host now random used message
        req).2 := by
  obtain ⟨hstack, hlast, hmode, hlsn⟩ := ht
  obtain ⟨securityPolicy, ⟨serviceResult, description, h⟩ | ⟨securityHeader, h⟩⟩ :=
    _handle_OpenSecureChannelRequest_cases host now t random
      used message req
  · rw [h]
    exact .inl (quiet_of_refused rfl hstack hlast rfl (.inr ⟨hopening, hlsn⟩))
  · rw [h]
    rcases issueToken_effect host now { t with securityPolicy }
      random message req securityHeader with ⟨e, he⟩ | ⟨entry, hissues⟩
    · rw [he]
      exact .inl ⟨rfl, hstack, hlast, .inl hmode,
        fun hl => ⟨hlsn ▸ hl, fun ho => absurd ho hopening⟩⟩
    · refine .inr ⟨hopening, entry, hissues.issued, hlast ▸ hissues.tokenId,
        hlast ▸ hissues.lastTokenId, hstack ▸ hissues.pushed, hissues.securityMode.trans hmode,
        fun hne => hissues.serverKeys (hmode ▸ hne), hissues.listener.trans hlsn⟩

lemma _on_initial_effect (hlsn : s.listener = .initial)
    (ht : t._tokenStack = s._tokenStack ∧ t._lastTokenId = s._lastTokenId ∧
      t.listener = .none) (message : Message) :
    Quiet s (t._on_initial_open_secure_channel_request host message).1
      (t._on_initial_open_secure_channel_request host message).2 := by
  obtain ⟨hstack, hlast, hnone⟩ := ht
  have hquiet : ∀ {u : ServerSecureChannelLayer κ π ω} {outputs : List (Output κ)},
      issued outputs = [] ∧ u._tokenStack = t._tokenStack ∧ u._lastTokenId = t._lastTokenId ∧
        u.listener ≠ .initial → Quiet s u outputs := fun h =>
    ⟨h.1, h.2.1.trans hstack, h.2.2.1.trans hlast, .inr (.inr hlsn),
      fun hi => absurd hi h.2.2.2⟩
  unfold _on_initial_open_secure_channel_request
  dsimp only
  apply hquiet
  split
  · split_ifs <;> simp [_on_OpenSecureChannelRequestError, hnone, issued]
  · simp [_on_OpenSecureChannelRequestError, hnone, issued]

lemma onCertificates_effect (hcerts : s.certificatesOf ≠ none)
    (ht : t._tokenStack = s._tokenStack ∧ t._lastTokenId = s._lastTokenId ∧
      t.securityMode = s.securityMode ∧ t.listener = s.listener) (message : Message)
    (res : Except String StatusCode) : Quiet s (t.onCertificates message res) [] := by
  obtain ⟨hstack, hlast, hmode, hlsn⟩ := ht
  have heff : ∀ {u : ServerSecureChannelLayer κ π ω}, u._tokenStack = t._tokenStack →
      u._lastTokenId = t._lastTokenId →
      (u.securityMode = t.securityMode ∨ u.securityMode = .None) → u.listener = t.listener →
      Quiet s u [] := fun hs hl hm hi =>
    ⟨rfl, hs.trans hstack, hl.trans hlast, hm.imp (fun h => h.trans hmode) .inl,
      fun h => ⟨hlsn ▸ hi ▸ h, fun _ hc => absurd hc hcerts⟩⟩
  unfold onCertificates
  split
  · exact heff rfl rfl (.inr rfl) rfl
  · dsimp only
    split_ifs
    · split
      · exact heff rfl rfl (.inl rfl) rfl
      · exact heff rfl rfl (.inl rfl) rfl
    · exact heff rfl rfl (.inr rfl) rfl
    · exact heff rfl rfl (.inr rfl) rfl

variable (s) in
lemma _on_common_message_keeps (message : Message) (msgType : String) (channelId : ℕ) :
    (∀ msgType' chunk, .write msgType' chunk ∉ (s._on_common_message message msgType channelId).2) ∧
      issued (s._on_common_message message msgType channelId).2 = [] ∧
      (s._on_common_message message msgType channelId).1._tokenStack = s._tokenStack ∧
      (s._on_common_message message msgType channelId).1._lastTokenId = s._lastTokenId ∧
      (s._on_common_message message msgType channelId).1.securityMode = s.securityMode ∧
      (s._on_common_message message msgType channelId).1.listener = s.listener := by
  unfold _on_common_message
  by_cases hclose : msgType = "CLO"
  · simp [hclose, issued]
  · simp only [if_neg hclose]
    cases renewalOf msgType message.request.body with
    | some req => simp [issued]
    | none =>
      by_cases hbody : message.request.body = .closeSecureChannelRequest
      · simp [hbody, issued]
      · simp only [if_neg hbody]
        cases s._tokenStack.getToken message.securityHeader.tokenId with
        | none => simp [_sendFatalErrorAndAbort, issued]
        | some token =>
          by_cases hchan : channelId = token.channelId
          · simp [hchan, issued]
          · simp [hchan, _sendFatalErrorAndAbort, issued]

variable (host) in
/-- **The effect of a step** on the security of the channel. -/
theorem step_effect (s : ServerSecureChannelLayer κ π ω) (input : ℤ × Input π ο) :
    Effect input.1 s (s.step host input).1 (s.step host input).2 := by
  obtain ⟨now, input⟩ := input
  have hkeeps : ∀ {u : ServerSecureChannelLayer κ π ω} {outputs : List (Output κ)}, Keeps s u →
      issued outputs = [] → Effect now s u outputs := fun h ho => .inl (h.quiet ho)
  cases input with
  | message message msgType channelId =>
    cases hlsn : s.listener with
    | initial =>
      simp only [step, hlsn]
      refine .inl (_on_initial_effect hlsn ?_ message)
      exact ⟨rfl, rfl, rfl⟩
    | common =>
      simp only [step, hlsn]
      obtain ⟨-, hissued, hstack, hlast, hmode, hsame⟩ :=
        _on_common_message_keeps s message msgType channelId
      refine .inl ⟨hissued, hstack, hlast, .inl hmode, fun h => ?_⟩
      rw [hsame, hlsn] at h
      cases h
    | none =>
      simp only [step, hlsn]
      exact hkeeps .refl rfl
  | builderError statusCode message =>
    cases hlsn : s.listener with
    | initial =>
      simp only [step, onBuilderError, hlsn]
      exact .inl ⟨rfl, rfl, rfl, .inl rfl, nofun⟩
    | common | none =>
      simp only [step, onBuilderError, hlsn]
      exact hkeeps ⟨rfl, rfl, rfl, hlsn.symm, rfl, rfl⟩ rfl
  | certificates clientCertificate clientPublicKey res =>
    simp only [step]
    cases hcerts : s.certificatesOf with
    | none => exact hkeeps .refl rfl
    | some message =>
      refine .inl (onCertificates_effect (by simp [hcerts]) ?_ message res)
      exact ⟨rfl, rfl, rfl, rfl⟩
  | beforeHandled index random used =>
    simp only [step]
    cases hopening : s.opening[index]? with
    | none => exact hkeeps .refl rfl
    | some waiting =>
      have hne : s.opening ≠ [] := by
        intro hnil
        simp [hnil] at hopening
      refine beforeHandled_effect hne ?_ random used waiting.1 waiting.2
      exact ⟨rfl, rfl, rfl, rfl⟩
  | throttled index =>
    simp only [step]
    cases hfaults : s.faults[index]? with
    | none => exact hkeeps .refl rfl
    | some fault =>
      obtain ⟨h, -⟩ := send_response_spec host now { s with faults := s.faults.eraseIdx index } "ERR"
        (host.responses.serviceFault fault.serviceResult (some fault.description)) fault.message
      exact hkeeps { h with } (issued_send_response _ _ _)
  | sendResponse msgType response message =>
    obtain ⟨h, -⟩ := send_response_spec host now s msgType response message
    refine hkeeps h ?_
    simp only [step, issued_append, issued_send_response]
    rfl
  | builderSecurityPolicy securityPolicy | close | disconnected =>
    exact hkeeps ⟨rfl, rfl, rfl, rfl, rfl, rfl⟩ rfl

/-! ### MSG chunks -/

lemma send_response_write {msgType msgType' : String}
    (h : .write msgType' chunk ∈ (s.send_response host now msgType response message).2.1) :
    msgType' = msgType := by
  rcases (send_response_spec host now s msgType response message).2 with
    ⟨hnil, -⟩ | ⟨_, _, chunks, _, _, _, hchunks⟩
  · rw [hnil] at h
    exact absurd h List.not_mem_nil
  · rw [hchunks] at h
    obtain ⟨_, -, heq⟩ := List.mem_map.mp h
    cases heq
    rfl

variable (host) (now) (s) in
lemma _handle_OpenSecureChannelRequest_write {random : Buffer} {used : Bool} :
    .write "MSG" chunk ∉ (s._handle_OpenSecureChannelRequest host now random used
      message request).2 := by
  intro h
  obtain ⟨securityPolicy, ⟨_, _, hcase⟩ | ⟨securityHeader, hcase⟩⟩ :=
    _handle_OpenSecureChannelRequest_cases host now s random
      used message request
  · rw [hcase] at h
    exact absurd h List.not_mem_nil
  · rw [hcase] at h
    unfold issueToken at h
    dsimp only at h
    split at h
    · simp at h
    · simp only [List.mem_cons, reduceCtorEq, false_or] at h
      exact absurd (send_response_write h) (by decide)

/-- **Who writes MSG chunks**: only a response that the application sends. -/
lemma step_write {input : Input π ο} (h : .write "MSG" chunk ∈ (s.step host (now, input)).2) :
    ∃ response message, input = .sendResponse "MSG" response message ∧
      .write "MSG" chunk ∈ (s.send_response host now "MSG" response message).2.1 := by
  cases input with
  | message message msgType channelId =>
    cases hlsn : s.listener with
    | initial =>
      simp only [step, hlsn] at h
      unfold _on_initial_open_secure_channel_request at h
      dsimp only at h
      split at h
      · split_ifs at h <;> simp at h
      · simp at h
    | common =>
      simp only [step, hlsn] at h
      exact absurd h ((_on_common_message_keeps s message msgType channelId).1 _ _)
    | none => simp [step, hlsn] at h
  | builderError statusCode message =>
    cases hlsn : s.listener <;> simp [step, onBuilderError, hlsn] at h
  | certificates clientCertificate clientPublicKey res =>
    cases hcerts : s.certificatesOf <;> simp [step, hcerts] at h
  | beforeHandled index random used =>
    cases hopening : s.opening[index]? with
    | none => simp [step, hopening] at h
    | some waiting =>
      simp only [step, hopening] at h
      exact absurd h (_handle_OpenSecureChannelRequest_write host now _)
  | throttled index =>
    cases hfaults : s.faults[index]? with
    | none => simp [step, hfaults] at h
    | some fault =>
      simp only [step, hfaults, sendFault] at h
      exact absurd (send_response_write h) (by decide)
  | sendResponse msgType response message =>
    simp only [step, List.mem_append, List.mem_singleton, reduceCtorEq, or_false] at h
    obtain rfl := send_response_write h
    exact ⟨response, message, rfl, h⟩
  | builderSecurityPolicy securityPolicy | close | disconnected => simp [step] at h

/-! ### Runs -/

/-- **The invariant** of the runs of a server: the stack tracks the tokens issued, nothing is
pending before the first message, and tokens issued in a secured channel have server keys. -/
structure Invariant (L : List (Output κ)) (s : ServerSecureChannelLayer κ π ω) : Prop where
  tracks : s._tokenStack.Tracks (issued L) s._lastTokenId
  fresh : s.listener = .initial → s.securityMode = .Invalid ∧ s.opening = [] ∧
    s.certificatesOf = none ∧ s._tokenStack._tokenStack = []
  keyed : s.securityMode ≠ .None → ∀ e ∈ s._tokenStack._tokenStack, e.serverKeys.isSome

lemma Invariant.construct (channelId lifetime receiveBufferSize : ℕ) (chunker : MessageChunker ω) :
    Invariant [] (ServerSecureChannelLayer.construct channelId lifetime receiveBufferSize chunker :
      ServerSecureChannelLayer κ π ω) where
  tracks := .nil
  fresh := fun _ => ⟨rfl, rfl, rfl, rfl⟩
  keyed := fun _ _ he => absurd he List.not_mem_nil

lemma Invariant.listener_ne_initial (h : Invariant L s)
    (hsec : s.securityMode = .Sign ∨ s.securityMode = .SignAndEncrypt) :
    s.listener ≠ .initial := by
  intro hinit
  rw [(h.fresh hinit).1] at hsec
  rcases hsec with h | h <;> cases h

variable (host) in
lemma Invariant.step {L : List (Output κ)} (h : Invariant L s) (input : ℤ × Input π ο) :
    Invariant (L ++ (s.step host input).2) (s.step host input).1 := by
  rcases step_effect host s input with hq | ⟨hopening, entry, hi⟩
  · refine ⟨?_, fun hl => ?_, fun hne => ?_⟩
    · rw [issued_append, hq.issued, List.append_nil, hq.tokenStack, hq.lastTokenId]
      exact h.tracks
    · obtain ⟨hinit, hsame⟩ := hq.listener hl
      obtain ⟨hmode, hnil, hnone, hstack⟩ := h.fresh hinit
      obtain ⟨hmode', hnil', hnone'⟩ := hsame hnil hnone
      exact ⟨hmode'.trans hmode, hnil', hnone', hq.tokenStack ▸ hstack⟩
    · rw [hq.tokenStack]
      rcases hq.securityMode with hsame | hnone | hinit
      · exact h.keyed (hsame ▸ hne)
      · exact absurd hnone hne
      · rw [(h.fresh hinit).2.2.2]
        exact fun _ he => absurd he List.not_mem_nil
  · refine ⟨?_, fun hl => ?_, fun hne e he => ?_⟩
    · obtain ⟨s', hpush, htracks⟩ := h.tracks.pushNewToken input.1 hi.tokenId entry.derivedKeys
      rw [hi.pushed] at hpush
      cases hpush
      rw [issued_append, hi.issued, hi.lastTokenId]
      exact htracks
    · rw [hi.listener] at hl
      exact absurd (h.fresh hl).2.1 hopening
    · rw [hi.securityMode] at hne
      rcases TokenStack.mem_of_pushNewToken hi.pushed he with hold | rfl
      · exact h.keyed hne e hold
      · exact hi.serverKeys hne

variable {mode : MessageSecurityMode}

lemma mode_step
    (hmode : s.securityMode = mode ∨ s.securityMode = .None) (hopen : s.listener ≠ .initial)
    (input : ℤ × Input π ο) :
    ((s.step host input).1.securityMode = mode ∨ (s.step host input).1.securityMode = .None) ∧
      (s.step host input).1.listener ≠ .initial := by
  rcases step_effect host s input with hq | ⟨hopening, entry, hi⟩
  · refine ⟨?_, fun hl => hopen (hq.listener hl).1⟩
    rcases hq.securityMode with hsame | hnone | hinit
    · rw [hsame]
      exact hmode
    · exact .inr hnone
    · exact absurd hinit hopen
  · rw [hi.securityMode, hi.listener]
    exact ⟨hmode, hopen⟩

/-- The channel is still in its security mode, and the token of the request is on the stack and has
not really expired. Or there is no valid token at all, in mode SignAndEncrypt. -/
def LiveToken (now : ℤ) (s : ServerSecureChannelLayer κ π ω) (tokenId : ℕ) : Prop :=
  s.securityMode ≠ .None ∧
    ((∃ e ∈ s._tokenStack._tokenStack, e.securityToken.tokenId = tokenId ∧
        hasTokenReallyExpired now e.securityToken = false) ∨
      s.securityMode = .SignAndEncrypt ∧
        ∀ e ∈ s._tokenStack._tokenStack, hasTokenReallyExpired now e.securityToken = true)

/-- **The condition**: the MSG responses that are sent answer requests whose tokens are live. -/
def AnswersUnderLiveToken (s : ServerSecureChannelLayer κ π ω) (input : ℤ × Input π ο) : Prop :=
  ∀ response message, input.2 = .sendResponse "MSG" response message →
    s._abort_has_been_called = true ∨ LiveToken input.1 s message.securityHeader.tokenId

/-- **Agreement**: the chunk names an issued token and is protected by the server keys of this
token. -/
def Agrees (crypto : SymmetricCrypto κ) (mode : MessageSecurityMode)
    (tokens : List (SecurityTokenAndDerivedKeys κ)) (chunk : Buffer) : Prop :=
  ∃ e ∈ tokens, ∃ keys, e.serverKeys = some keys ∧ e.securityToken.tokenId < 2 ^ 32 ∧
    CarriesToken e.securityToken.tokenId chunk ∧ Protected crypto keys mode chunk

variable {chunks : List Buffer}

lemma sendOnce_keyed (hcrypto : host.symmetric.Lawful) {keys : κ} (hmode : s.securityMode ≠ .None)
    (hkeys : s.serverKeysFor now message.securityHeader.tokenId = some keys)
    (hsend : s.sendOnce host now "MSG" response message = .ok (.ok chunks, s')) :
    ∀ chunk ∈ chunks, CarriesToken message.securityHeader.tokenId chunk ∧
      Protected host.symmetric keys s.securityMode chunk := by
  unfold sendOnce _get_security_options_for_MSG at hsend
  rw [if_neg (by decide), if_neg hmode] at hsend
  simp only [Except.bind_eq_ok_iff, hkeys] at hsend
  obtain ⟨securityOptions, hopts, ⟨result, chunker⟩, hchunk, heq⟩ := hsend
  cases heq
  obtain ⟨m, _, _, hsymm, -⟩ := MessageChunker.chunkSecureMessage_ok hchunk
  obtain ⟨header, hheader⟩ : ∃ header, message.securityHeader = .symmetric header := by
    cases hh : message.securityHeader with
    | symmetric header => exact ⟨header, rfl⟩
    | asymmetric header => simp [hh, SecurityHeader.isSymmetric] at hsymm
  obtain ⟨data, hdata, rfl⟩ := Except.map_eq_ok_iff.mp hopts
  rw [hheader]
  exact MessageChunker.protected_of_chunkSecureMessage hcrypto hdata rfl hheader hchunk

lemma sendOnce_refused (hmode : s.securityMode = .SignAndEncrypt)
    (hkeys : s.serverKeysFor now message.securityHeader.tokenId = none) :
    s.sendOnce host now "MSG" response message ≠ .ok (.ok chunks, s') := by
  intro hsend
  unfold sendOnce _get_security_options_for_MSG at hsend
  rw [if_neg (by decide), if_neg (by rw [hmode]; decide)] at hsend
  simp only [Except.bind_eq_ok_iff, hkeys, Except.ok.injEq] at hsend
  obtain ⟨securityOptions, rfl, ⟨result, chunker⟩, hchunk, heq⟩ := hsend
  cases heq
  rw [MessageChunker.refused_of_signAndEncrypt hmode rfl] at hchunk
  cases hchunk

lemma sendOnce_agrees (hcrypto : host.symmetric.Lawful) (h : Invariant L s)
    (hlive : LiveToken now s message.securityHeader.tokenId)
    (hsend : s.sendOnce host now "MSG" response message = .ok (.ok chunks, s')) :
    ∀ chunk ∈ chunks, Agrees host.symmetric s.securityMode (issued L) chunk := by
  obtain ⟨hmode, ⟨e, he, hid, hexp⟩ | ⟨henc, hexp⟩⟩ := hlive
  · obtain ⟨keys, hkeys⟩ := Option.isSome_iff_exists.mp (h.keyed hmode e he)
    obtain ⟨derived, hder, hserver⟩ := Option.bind_eq_some_iff.mp hkeys
    have hlook := (h.tracks.getTokenDerivedKeys_iff now (h.tracks.mem he)).mpr
      ⟨he, hexp, hder⟩
    have hchosen : s.serverKeysFor now message.securityHeader.tokenId = some keys := by
      unfold serverKeysFor TokenStack.serverKeyProvider
      rw [← hid, hlook, Option.bind_some, hserver]
    intro chunk hmem
    obtain ⟨hcarries, hprot⟩ := sendOnce_keyed hcrypto hmode hchosen hsend chunk hmem
    rw [← hid] at hcarries
    exact ⟨e, h.tracks.mem he, keys, hkeys, hid ▸ message.tokenId_lt, hcarries, hprot⟩
  · obtain ⟨hnone, hlatest⟩ := TokenStack.no_keys_of_expired hexp message.securityHeader.tokenId
    refine absurd hsend (sendOnce_refused henc ?_)
    unfold serverKeysFor TokenStack.serverKeyProvider
    rw [hnone, hlatest]
    rfl

lemma send_response_agrees (hcrypto : host.symmetric.Lawful) (h : Invariant L s)
    (hlive : s._abort_has_been_called = true ∨ LiveToken now s message.securityHeader.tokenId)
    (hwrite : .write "MSG" chunk ∈ (s.send_response host now "MSG" response message).2.1) :
    s.securityMode ≠ .None ∧ Agrees host.symmetric s.securityMode (issued L) chunk := by
  rcases (send_response_spec host now s "MSG" response message).2 with
    ⟨hnil, -⟩ | ⟨s₁, response', chunks, s₂, hkeeps, hsend, hchunks⟩
  · rw [hnil] at hwrite
    exact absurd hwrite List.not_mem_nil
  · rw [hchunks] at hwrite
    obtain ⟨_, hmem, heq⟩ := List.mem_map.mp hwrite
    cases heq
    rcases hlive with haborted | hlive
    · -- an aborted channel writes nothing
      unfold send_response at hchunks
      rw [if_pos haborted] at hchunks
      rw [List.map_eq_nil_iff.mp hchunks.symm] at hmem
      exact absurd hmem List.not_mem_nil
    · have hinv : Invariant L s₁ := ⟨by rw [hkeeps.tokenStack, hkeeps.lastTokenId]; exact h.tracks,
        by rw [hkeeps.listener, hkeeps.securityMode, hkeeps.opening, hkeeps.certificatesOf,
          hkeeps.tokenStack]; exact h.fresh,
        by rw [hkeeps.securityMode, hkeeps.tokenStack]; exact h.keyed⟩
      have hlive₁ : LiveToken now s₁ message.securityHeader.tokenId := by
        unfold LiveToken
        rw [hkeeps.securityMode, hkeeps.tokenStack]
        exact hlive
      have hagree := sendOnce_agrees hcrypto hinv hlive₁ hsend _ hmem
      rw [hkeeps.securityMode] at hagree
      exact ⟨hlive.1, hagree⟩

/-- **A client verifies the chunk**: it reads the token id of the header, and when the keys it has
for this id are those of the token that was issued with it, the signature is right. -/
def Verifiable (receiver : Crypto κ ρ) (mode : MessageSecurityMode)
    (tokens : List (SecurityTokenAndDerivedKeys κ)) (chunk : Buffer) : Prop :=
  ∃ header : SymmetricAlgorithmSecurityHeader,
    SymmetricAlgorithmSecurityHeader.decode { buffer := chunk, length := 12 } =
        .ok (header, { buffer := chunk, length := 16 }) ∧
      ∀ mb : MessageBuilder κ ρ, mb.securityHeader = some (.symmetric header) →
        mb.securityMode = mode → mb.securityPolicy ≠ .None → mb.securityPolicy ≠ .Invalid →
        (∀ e ∈ tokens, e.securityToken.tokenId = header.tokenId →
          mb._derivedKeyProvider header.tokenId = e.serverKeys) →
        ∃ stream, mb._decrypt_MSG receiver { buffer := chunk, length := 16 } = .ok stream

lemma Agrees.verifiable {crypto : SymmetricCrypto κ} {receiver : Crypto κ ρ}
    (hcrypto : crypto.Lawful) (hmatch : crypto.Matches receiver)
    {tokens : List (SecurityTokenAndDerivedKeys κ)}
    (h : Agrees crypto mode tokens chunk) : Verifiable receiver mode tokens chunk := by
  obtain ⟨e, he, keys, hkeys, hlt, hcarries, hprot⟩ := h
  refine ⟨_, hcarries.decode hlt, fun mb hheader hmode hnone hinval hprovider => ?_⟩
  have hprovided := hprovider e he rfl
  rw [hkeys] at hprovided
  exact hprot._decrypt_MSG hcrypto hmatch hheader hmode hnone hinval hprovided

end ServerSecureChannelLayer

open ServerSecureChannelLayer

variable {κ π ω ο ρ : Type}

/-- **Server token agreement**: in every run of a server whose channel is secured, as long as the
channel keeps its security mode and requests are answered under live tokens, each MSG chunk is
protected by the server keys of the token that its header names, and a client that selects its keys
by this token id verifies it.

**Proof sketch.** The stack holds only issued tokens, and an id names one of them. Under a live
token the lookup by the id of the request finds its keys, so that the fallback is not used. -/
theorem serverToken_agreement (host : Host κ π ω ο) (receiver : Crypto κ ρ)
    (hcrypto : host.symmetric.Lawful) (hmatches : host.symmetric.Matches receiver)
    (channelId lifetime receiveBufferSize : ℕ) (chunker : MessageChunker ω)
    (before after : List (ℤ × Input π ο)) (mode : MessageSecurityMode)
    (hmode : (Mealy.run (step host) (construct channelId lifetime receiveBufferSize chunker)
      before).1.securityMode = mode)
    (hsecured : mode = .Sign ∨ mode = .SignAndEncrypt)
    (hlive : Mealy.Along (step host) AnswersUnderLiveToken
      (Mealy.run (step host) (construct channelId lifetime receiveBufferSize chunker) before).1
      after) :
    ∀ chunk ∈ written (Mealy.run (step host) (Mealy.run (step host)
        (construct channelId lifetime receiveBufferSize chunker) before).1 after).2,
      Agrees host.symmetric mode (issued (Mealy.run (step host)
        (construct channelId lifetime receiveBufferSize chunker) (before ++ after)).2) chunk ∧
      Verifiable receiver mode (issued (Mealy.run (step host)
        (construct channelId lifetime receiveBufferSize chunker) (before ++ after)).2) chunk := by
  have hinv := Mealy.run_log (I := Invariant) (A := fun _ _ => True)
    (fun L t input ht _ => ht.step host input)
    (Invariant.construct (κ := κ) (π := π) channelId lifetime receiveBufferSize chunker)
    (Mealy.along_of_forall (step host) fun _ _ _ => trivial : Mealy.Along _ _ _ before)
  rw [Mealy.run_append_snd]
  have hopen := hinv.listener_ne_initial (hmode ▸ hsecured)
  have hagree := Mealy.run_log_output
    (I := fun L t => Invariant L t ∧ (t.securityMode = mode ∨ t.securityMode = .None) ∧
      t.listener ≠ .initial)
    (P := fun L output => ∀ chunk, output = .write "MSG" chunk →
      Agrees host.symmetric mode (issued L) chunk) ?_ ?_ ?_ ⟨hinv, .inl hmode, hopen⟩ hlive
  · intro chunk hchunk
    have h := hagree _ (mem_written.mp hchunk) chunk rfl
    exact ⟨h, h.verifiable hcrypto hmatches⟩
  · rintro L L' _ hP chunk rfl
    obtain ⟨e, he, hkeys⟩ := hP chunk rfl
    exact ⟨e, by rw [issued_append]; exact List.mem_append_left _ he, hkeys⟩
  · intro L t input ⟨ht, hm, hl⟩ _
    exact ⟨ht.step host input, mode_step hm hl input⟩
  · rintro L t ⟨now, input⟩ ⟨ht, hm, hl⟩ hcond _ hwrite chunk rfl
    obtain ⟨response, message, rfl, hchunk⟩ := step_write hwrite
    obtain ⟨hne, e, he, hkeys⟩ :=
      send_response_agrees hcrypto ht (hcond response message rfl) hchunk
    rw [hm.resolve_right hne] at hkeys
    exact ⟨e, by rw [issued_append]; exact List.mem_append_left _ he, hkeys⟩

/-! ### A channel whose keys are numbers -/

/-- Keys are numbers, and a signature is the key itself. -/
def exampleSymmetric : SymmetricCrypto ℕ where
  signatureLength _ := 1
  encryptingBlockSize _ := 1
  makeMessageChunkSignatureWithDerivedKeys _ keys := [UInt8.ofNat keys]
  encryptBufferWithDerivedKeys chunk _ := chunk

/-- The receiving primitives: a signature is compared with the key. -/
def exampleReceiver : Crypto ℕ Unit where
  signatureLength _ := 1
  decryptBufferWithDerivedKeys buffer _ := .ok buffer
  verifyChunkSignatureWithDerivedKeys chunk keys := .ok (chunk.getLast? == some (UInt8.ofNat keys))
  asymmetricDecrypt _ buffer _ := .ok buffer
  publicKeyLength _ := .ok 128
  asymmetricVerify _ _ _ _ := .ok true

lemma exampleSymmetric_lawful : exampleSymmetric.Lawful where
  signatureLength_pos _ := Nat.one_pos
  encryptingBlockSize_pos _ := Nat.one_pos
  encryptingBlockSize_le _ := show 1 ≤ 256 by decide
  length_signature _ _ := rfl
  length_encrypt _ _ _ := rfl

lemma exampleSymmetric_matches : exampleSymmetric.Matches exampleReceiver where
  signatureLength _ := rfl
  verify data keys := by simp [exampleReceiver, exampleSymmetric]
  decrypt _ _ _ := rfl

/-- Responses are bytes; a ServiceFault is the byte 254. -/
def exampleResponses : ResponseFactory Buffer where
  openSecureChannelResponse token _ := [UInt8.ofNat token.tokenId]
  serviceFault _ _ := [254]
  isServiceFault response := response == [254]
  setResponseHeader _ response := response
  encode response := 1 :: response
  encode_ne_nil _ := by simp

/-- The server key of a token is the first byte of the server nonce. -/
def exampleHost : Host ℕ Unit Unit Buffer where
  symmetric := exampleSymmetric
  computeDerivedKeys_ext _ _ seed := (seed.headD 0).toNat
  symmetricKeyLength _ := 1
  asymmetric _ _ := ⟨0, fun random chunk => (chunk, random), 0, fun random _ => ([0], random), 1⟩
  responses := exampleResponses
  hasEndpoint _ _ := true
  isMyCertificate _ := true
  senderCertificate := []
  getThumbprint _ := []

/-- A chunker without limits. -/
def exampleChunker : MessageChunker Unit := ⟨0, 0, .None, {}, ()⟩

/-- A message that nothing protects is cut. -/
theorem chunkSecureMessage_total_none :
    ∃ result, exampleChunker.chunkSecureMessage "MSG"
      ⟨1, .ofSecurityOptions 256 1 none, .symmetric { tokenId := 1 }⟩ [7] = .ok result :=
  @MessageChunker.chunkSecureMessage_total _ _ _ _ _ 0 256 1 _ exampleSymmetric_lawful (.inl rfl)
    (List.cons_ne_nil 7 [])

/-- A request to open the channel in mode Sign, or to renew its token. -/
def openMessage (requestType : SecurityTokenRequestType) (nonce : UInt8) : Message where
  request := ⟨1, 0, .openSecureChannelRequest ⟨requestType, .Sign, [nonce], 2500⟩⟩
  requestId := 1
  securityHeader := .asymmetric { securityPolicyUri := some SecurityPolicy.Basic256Sha256.value }
  tokenId_lt := by decide

/-- A request under a token. -/
def requestUnder (tokenId : Fin 16) : Message where
  request := ⟨2, 0, .other⟩
  requestId := 2
  securityHeader := .symmetric { tokenId := tokenId }
  tokenId_lt := by
    have := tokenId.isLt
    simp only [SecurityHeader.tokenId]
    omega

/-- The channel is opened at time 0, and a request comes under token 1. -/
def opened : List (ℤ × Input Unit Buffer) :=
  [(0, .builderSecurityPolicy .Basic256Sha256), (0, .message (openMessage .Issue 1) "OPN" 0),
    (0, .certificates (some []) (some ()) (.ok .Good)), (0, .beforeHandled 0 [1] false),
    (100, .message (requestUnder 1) "MSG" 1)]

/-- The token is renewed at time 2000; the request under token 1 is answered at time `t`. -/
def answeredAt (t : ℤ) : List (ℤ × Input Unit Buffer) :=
  [(2000, .message (openMessage .Renew 2) "OPN" 1), (2000, .beforeHandled 0 [2] false),
    (t, .sendResponse "MSG" [7] (requestUnder 1))]

/-- A request answered before its token is renewed. -/
theorem serverToken_agreement_sign :
    (Mealy.run (step exampleHost) (construct 1 0 256 exampleChunker) opened).1.securityMode = .Sign ∧
    ∀ chunk ∈ written (Mealy.run (step exampleHost) (Mealy.run (step exampleHost)
        (construct 1 0 256 exampleChunker) opened).1
        [(200, .sendResponse "MSG" [7] (requestUnder 1))]).2,
      Agrees exampleSymmetric .Sign (issued (Mealy.run (step exampleHost)
        (construct 1 0 256 exampleChunker)
        (opened ++ [(200, .sendResponse "MSG" [7] (requestUnder 1))])).2) chunk ∧
      Verifiable exampleReceiver .Sign (issued (Mealy.run (step exampleHost)
        (construct 1 0 256 exampleChunker)
        (opened ++ [(200, .sendResponse "MSG" [7] (requestUnder 1))])).2) chunk := by
  have hmode : (Mealy.run (step exampleHost) (construct 1 0 256 exampleChunker)
      opened).1.securityMode = .Sign := by decide +kernel
  refine ⟨hmode, serverToken_agreement exampleHost exampleReceiver exampleSymmetric_lawful
    exampleSymmetric_matches 1 0 256 exampleChunker opened _ .Sign hmode (.inl rfl) ⟨?_, trivial⟩⟩
  intro response message h
  cases h
  exact .inr ⟨by decide +kernel, .inl (by decide +kernel)⟩

/-- The chunk that answers at time 4000: its header names token 1, and its signature is the key of
token 2. -/
def mixedChunk : Buffer :=
  [77, 83, 71, 70, 27, 0, 0, 0, 1, 0, 0, 0, 1, 0, 0, 0, 3, 0, 0, 0, 2, 0, 0, 0, 1, 7, 2]

/-- A client that has the keys of both tokens. -/
def renewedClient : MessageBuilder ℕ Unit where
  securityPolicy := .Basic256Sha256
  securityMode := .Sign
  securityHeader := some (.symmetric { tokenId := 1 })
  _derivedKeyProvider tokenId := if tokenId = 1 then some 1 else some 2

/-- **The fallback mixes a token and the keys of another one**: token 1 lives 2500 ms and is renewed
at time 2000. A request that came under it is answered at time 4000 with the keys of token 2, and
the client, which has the keys of both, refuses the response. -/
theorem serverToken_disagreement :
    (Mealy.run (step exampleHost) (construct 1 0 256 exampleChunker)
        (opened ++ answeredAt 4000)).1.securityMode = .Sign ∧
      mixedChunk ∈ written (Mealy.run (step exampleHost) (construct 1 0 256 exampleChunker)
        (opened ++ answeredAt 4000)).2 ∧
      ¬ Agrees exampleSymmetric .Sign (issued (Mealy.run (step exampleHost)
        (construct 1 0 256 exampleChunker) (opened ++ answeredAt 4000)).2) mixedChunk ∧
      ¬ Verifiable exampleReceiver .Sign (issued (Mealy.run (step exampleHost)
        (construct 1 0 256 exampleChunker) (opened ++ answeredAt 4000)).2) mixedChunk := by
  have hverify : ¬ Verifiable exampleReceiver .Sign (issued (Mealy.run (step exampleHost)
      (construct 1 0 256 exampleChunker) (opened ++ answeredAt 4000)).2) mixedChunk := by
    rintro ⟨header, hdec, h⟩
    cases hdec
    have hkeys : ∀ e ∈ issued (Mealy.run (step exampleHost) (construct 1 0 256 exampleChunker)
        (opened ++ answeredAt 4000)).2, e.securityToken.tokenId = 1 →
          renewedClient._derivedKeyProvider 1 = e.serverKeys := by decide +kernel
    obtain ⟨stream, hstream⟩ := h renewedClient rfl rfl nofun nofun hkeys
    cases hstream
  exact ⟨by decide +kernel, by decide +kernel,
    fun h => hverify (h.verifiable exampleSymmetric_lawful exampleSymmetric_matches), hverify⟩

end NodeOpcua
