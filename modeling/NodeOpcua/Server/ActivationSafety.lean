import Mathlib.Data.List.Nodup
import Mathlib.Data.List.Perm.Basic
import NodeOpcua.Library.Mealy
import NodeOpcua.Server.SessionActivation

set_option autoImplicit false

/-!
# Activations that are not disturbed

The checks of a request to activate are made before the server waits, and the session is changed
after it. The invariant says what the checks have found out, as long as the nonce of the session is
the one that the request was made with.

## Main definitions

* `SessionActivation.EffectSafe`, `SessionActivation.ActivationsSafe`, `SessionActivation.Guarded`.

## Main results

* `SessionActivation.sound_step`, `SessionActivation.run_activationsSafe`.
-/

namespace NodeOpcua.SessionActivation

open ActivationServer (initial)
open Function (update update_self update_of_ne)
open List (countP_cons countP_append countP_nil not_mem_nil append_nil)

variable (host : ActivationHost) (channels : ℕ → ActivationChannel)

/-! ### What should hold -/

/-- The certificates of two channels are equal, where no certificate is an empty one. -/
def SameCertificate (oldChannel : Option ℕ) (newChannel : ℕ) : Prop :=
  (oldChannel.bind fun channel => (channels channel).clientCertificate).getD [] =
    (channels newChannel).clientCertificate.getD []

/-- **An effect is safe**: the activated session is live, active, attached to the channel of the request
and has its token; a session moves to a channel with the same certificate, for the same user; a request
comes through the channel that the session is attached to; and no handler throws. -/
def EffectSafe : ActivationEffect → Prop
  | .answered _ _ => True
  | .activated a => a.session.registered = true ∧ a.session.status = .active ∧
      a.session.channel = some a.channel ∧ a.session.userIdentityToken = some a.userIdentityToken
  | .moved m => SameCertificate channels m.oldChannel m.newChannel ∧
      m.oldToken.map UserIdentityToken.user = some m.newToken.user
  | .threw _ => False
  | .tookEffect channel attached => attached = some channel

instance : DecidablePred (EffectSafe channels)
  | .answered _ _ => inferInstanceAs (Decidable True)
  | .activated _ => inferInstanceAs (Decidable (_ ∧ _ ∧ _ ∧ _))
  | .moved _ => inferInstanceAs (Decidable ((_ : List UInt8) = _ ∧ _ = _))
  | .threw _ => inferInstanceAs (Decidable False)
  | .tookEffect _ _ => inferInstanceAs (Decidable (_ = _))

/-- The nonce that was used by an activation. -/
def usedNonce : ActivationEffect → Option ℕ
  | .activated a => some a.nonce
  | _ => none

/-- An effect answers the request. -/
def isAnswerTo (n : ℕ) : ActivationEffect → Bool
  | .answered number _ => number = n
  | _ => false

/-- **The activations of a run are safe**: so is every effect, no nonce is used twice, and every request
is answered once, or its activation is pending. -/
structure ActivationsSafe (effects : List ActivationEffect) (s : ActivationServer) : Prop where
  safe : ∀ effect ∈ effects, EffectSafe channels effect
  nonces : (effects.filterMap usedNonce).Nodup
  once : ∀ n, effects.countP (isAnswerTo n) ≤ 1
  served : ∀ n < s.requestCount, effects.countP (isAnswerTo n) = 1 ∨
    ∃ activation ∈ s.pending, activation.number = n

/-! ### The invariant -/

/-- **What the checks have found out**: the session is attached to the channel of the request, or to
another one with the same certificate and for the same user. -/
structure Ready (activation : PendingActivation) (session : ActivatedSession) : Prop where
  active : session.status = .active → session.channel = some activation.channel ∨
    (SameCertificate channels session.channel activation.channel ∧
      session.userIdentityToken.map UserIdentityToken.user =
        some activation.userIdentityToken.user)
  inactive : session.status ≠ .active → session.channel = some activation.channel

/-- **The invariant**, with the numbers of the requests that are being answered. -/
structure Sound (effects : List ActivationEffect) (s : ActivationServer) (inHand : List ℕ) : Prop where
  counts : ∀ n, effects.countP (isAnswerTo n) + s.pending.countP (·.number = n) +
    inHand.countP (· = n) = if n < s.requestCount then 1 else 0
  distinct : ∀ i < s.sessionCount, ∀ j < s.sessionCount,
    (s.sessions i).nonce = (s.sessions j).nonce → i = j
  issued : ∀ i < s.sessionCount, (s.sessions i).nonce < s.nonceCount
  used : ∀ nonce ∈ effects.filterMap usedNonce,
    nonce < s.nonceCount ∧ ∀ i < s.sessionCount, (s.sessions i).nonce ≠ nonce
  nonces : (effects.filterMap usedNonce).Nodup
  identified : ∀ i < s.sessionCount, (s.sessions i).status = .active →
    (s.sessions i).userIdentityToken.isSome = true
  alive : ∀ i < s.sessionCount, (s.sessions i).registered = true →
    (s.sessions i).status ≠ .disposed
  exists_session : ∀ activation ∈ s.pending,
    activation.session < s.sessionCount ∧ activation.nonce < s.nonceCount
  ready : ∀ activation ∈ s.pending, (s.sessions activation.session).registered = true →
    (s.sessions activation.session).nonce = activation.nonce →
    Ready channels activation (s.sessions activation.session)
  certificates : ∀ activation ∈ s.pending, activation.stage = .checkingCertificate →
    getTokenType activation.userIdentityToken = .Certificate
  safe : ∀ effect ∈ effects, EffectSafe channels effect

variable {host channels} {effects : List ActivationEffect} {s : ActivationServer} {inHand : List ℕ}

lemma Sound.answered {n : ℕ} (h : Sound channels effects s (n :: inHand)) (status : StatusCode) :
    Sound channels (effects ++ [.answered n status]) s inHand := by
  have hnonces : (effects ++ [ActivationEffect.answered n status]).filterMap usedNonce =
      effects.filterMap usedNonce := by
    simp [usedNonce]
  refine { h with
    counts := fun m => ?_
    used := hnonces ▸ h.used
    nonces := hnonces ▸ h.nonces
    safe := fun effect heff => ?_ }
  · have hcounts := h.counts m
    simp only [countP_cons, countP_append, countP_nil, isAnswerTo,
      decide_eq_true_eq] at hcounts ⊢
    omega
  · rcases List.mem_append.mp heff with heff | heff
    · exact h.safe effect heff
    · obtain rfl := List.mem_singleton.mp heff
      trivial

lemma Sound.erase (h : Sound channels effects s []) {pos : ℕ} {activation : PendingActivation}
    (hpos : s.pending[pos]? = some activation) :
    Sound channels effects { s with pending := s.pending.eraseIdx pos } [activation.number] := by
  obtain ⟨hlt, rfl⟩ := List.getElem?_eq_some_iff.mp hpos
  have hperm := List.getElem_cons_eraseIdx_perm hlt
  have hmem : ∀ other ∈ s.pending.eraseIdx pos, other ∈ s.pending :=
    fun other hother => List.mem_of_mem_eraseIdx hother
  refine ⟨fun n => ?_, h.distinct, h.issued, h.used, h.nonces, h.identified, h.alive,
    fun other hother => h.exists_session other (hmem other hother),
    fun other hother => h.ready other (hmem other hother),
    fun other hother => h.certificates other (hmem other hother), h.safe⟩
  have hcounts := h.counts n
  rw [← hperm.countP_eq, countP_cons] at hcounts
  simp only [countP_cons, countP_nil, decide_eq_true_eq] at hcounts ⊢
  omega

lemma Sound.waits (activation : PendingActivation)
    (h : Sound channels effects s (activation.number :: inHand))
    (hsess : activation.session < s.sessionCount ∧ activation.nonce < s.nonceCount)
    (hready : (s.sessions activation.session).registered = true →
      (s.sessions activation.session).nonce = activation.nonce →
      Ready channels activation (s.sessions activation.session))
    (hcert : activation.stage = .checkingCertificate →
      getTokenType activation.userIdentityToken = .Certificate) :
    Sound channels effects { s with pending := s.pending ++ [activation] } inHand := by
  have hmem : ∀ other ∈ s.pending ++ [activation], other ∈ s.pending ∨ other = activation := by
    intro other hother
    rwa [List.mem_append, List.mem_singleton] at hother
  refine ⟨fun n => ?_, h.distinct, h.issued, h.used, h.nonces, h.identified, h.alive,
    fun other hother => ?_, fun other hother => ?_, fun other hother => ?_, h.safe⟩
  · have hcounts := h.counts n
    simp only [countP_cons, countP_append, countP_nil, decide_eq_true_eq]
      at hcounts ⊢
    omega
  · rcases hmem other hother with hother | rfl
    · exact h.exists_session other hother
    · exact hsess
  · rcases hmem other hother with hother | rfl
    · exact h.ready other hother
    · exact hready
  · rcases hmem other hother with hother | rfl
    · exact h.certificates other hother
    · exact hcert

lemma Sound.effect {effect : ActivationEffect} (h : Sound channels effects s inHand)
    (hsafe : EffectSafe channels effect) (hnonce : usedNonce effect = none)
    (hans : ∀ n, isAnswerTo n effect = false) :
    Sound channels (effects ++ [effect]) s inHand := by
  have hnonces : (effects ++ [effect]).filterMap usedNonce = effects.filterMap usedNonce := by
    simp [hnonce]
  refine { h with
    counts := fun n => ?_
    used := hnonces ▸ h.used
    nonces := hnonces ▸ h.nonces
    safe := fun other hother => ?_ }
  · rw [countP_append, List.countP_singleton, hans n]
    exact h.counts n
  · rcases List.mem_append.mp hother with hother | hother
    · exact h.safe other hother
    · obtain rfl := List.mem_singleton.mp hother
      exact hsafe

variable {session : ActivatedSession}

/-- **A session changes**, and keeps its nonce. -/
lemma Sound.replace (h : Sound channels effects s inHand) {i : ℕ}
    (hnonce : session.nonce = (s.sessions i).nonce)
    (hidentified : session.status = .active → session.userIdentityToken.isSome = true)
    (halive : session.registered = true → session.status ≠ .disposed)
    (hready : ∀ activation ∈ s.pending, activation.session = i → session.registered = true →
      session.nonce = activation.nonce → Ready channels activation session) :
    Sound channels effects { s with sessions := update s.sessions i session } inHand := by
  have hnonces : ∀ j, (update s.sessions i session j).nonce = (s.sessions j).nonce := by
    intro j
    by_cases hj : j = i
    · rw [hj, update_self, hnonce]
    · rw [update_of_ne hj]
  refine ⟨h.counts, fun j hj k hk heq => h.distinct j hj k hk ?_, fun j hj => ?_,
    fun nonce hused => ⟨(h.used nonce hused).1, fun j hj => ?_⟩, h.nonces, fun j hj hactive => ?_,
    fun j hj hlive => ?_, h.exists_session, fun activation hact hreg hsame => ?_, h.certificates, h.safe⟩
  · rw [← hnonces j, ← hnonces k]
    exact heq
  · show (update s.sessions i session j).nonce < s.nonceCount
    rw [hnonces j]
    exact h.issued j hj
  · show (update s.sessions i session j).nonce ≠ nonce
    rw [hnonces j]
    exact (h.used nonce hused).2 j hj
  · by_cases hji : j = i
    · subst hji
      simp only [update_self] at hactive ⊢
      exact hidentified hactive
    · simp only [update_of_ne hji] at hactive ⊢
      exact h.identified j hj hactive
  · by_cases hji : j = i
    · subst hji
      simp only [update_self] at hlive ⊢
      exact halive hlive
    · simp only [update_of_ne hji] at hlive ⊢
      exact h.alive j hj hlive
  · by_cases hji : activation.session = i
    · simp only [hji, update_self] at hreg hsame ⊢
      exact hready activation hact hji hreg hsame
    · simp only [update_of_ne hji] at hreg hsame ⊢
      exact h.ready activation hact hreg hsame

/-- The session is live, and its nonce is the one that the request was made with. -/
def Undisturbed (s : ActivationServer) (activation : PendingActivation) : Prop :=
  (s.sessions activation.session).registered = true ∧
    (s.sessions activation.session).nonce = activation.nonce

/-- **A session is activated** with a nonce that is replaced by a new one. -/
lemma Sound.activateSession {activation : PendingActivation}
    (h : Sound channels effects s (activation.number :: inHand))
    (hsess : activation.session < s.sessionCount) (hundist : Undisturbed s activation)
    (hready : Ready channels activation (s.sessions activation.session)) :
    Sound channels (effects ++ (SessionActivation.activateSession s activation).2)
      (SessionActivation.activateSession s activation).1 inHand := by
  obtain ⟨hreg, hnonce⟩ := hundist
  set session := s.sessions activation.session with hs
  set activated : ActivatedSession :=
    { session with
      channel := if session.status = .active then some activation.channel else session.channel
      userIdentityToken := some activation.userIdentityToken
      nonce := s.nonceCount
      status := .active } with hactivated
  set moves : List ActivationEffect :=
    if session.status = .active ∧ session.channel ≠ some activation.channel then
      [.moved ⟨session.channel, activation.channel, session.userIdentityToken,
        activation.userIdentityToken⟩]
    else [] with hmoves
  have heffects : (SessionActivation.activateSession s activation).2 =
      moves ++ [.answered activation.number .Good, .activated ⟨activation.number, activation.channel,
        activation.nonce, activation.userIdentityToken, activated⟩] := rfl
  have hstate : (SessionActivation.activateSession s activation).1 =
      { s with
        sessions := update s.sessions activation.session activated
        nonceCount := s.nonceCount + 1 } := rfl
  -- a move is neither an answer nor the use of a nonce
  have hmove : ∀ effect ∈ moves, EffectSafe channels effect ∧ usedNonce effect = none ∧
      ∀ n, isAnswerTo n effect = false := by
    intro effect heff
    rw [hmoves] at heff
    split at heff
    · next hmoved =>
      obtain rfl := List.mem_singleton.mp heff
      exact ⟨(hready.active hmoved.1).resolve_left hmoved.2, rfl, fun _ => rfl⟩
    · exact absurd heff not_mem_nil
  have hnone : moves.filterMap usedNonce = [] :=
    List.filterMap_eq_nil_iff.mpr fun effect heff => (hmove effect heff).2.1
  have hused : (effects ++ (SessionActivation.activateSession s activation).2).filterMap usedNonce =
      effects.filterMap usedNonce ++ [activation.nonce] := by
    rw [heffects, List.filterMap_append, List.filterMap_append, hnone]
    rfl
  have hchan : activated.channel = some activation.channel := by
    by_cases hact : session.status = .active
    · simp [hactivated, hact]
    · simp only [hactivated, if_neg hact]
      exact hready.inactive hact
  have hother : ∀ j, j ≠ activation.session →
      update s.sessions activation.session activated j = s.sessions j :=
    fun j hj => update_of_ne hj _ _
  have hself : update s.sessions activation.session activated activation.session =
      activated := update_self _ _ _
  have hfresh : ∀ j < s.sessionCount, (s.sessions j).nonce ≠ s.nonceCount :=
    fun j hj => Nat.ne_of_lt (h.issued j hj)
  rw [hstate]
  refine ⟨fun n => ?_, fun j hj k hk heq => ?_, fun j hj => ?_, fun nonce hmem => ?_, ?_,
    fun j hj hact => ?_, fun j hj hlive => ?_, fun other hother' => ?_, fun other hpend hlive hsame => ?_,
    h.certificates, fun effect heff => ?_⟩
  · have hcounts := h.counts n
    have hzero : moves.countP (isAnswerTo n) = 0 :=
      List.countP_eq_zero.mpr fun effect heff => by simp [(hmove effect heff).2.2 n]
    rw [heffects]
    simp only [countP_cons, countP_append, countP_nil, isAnswerTo, hzero,
      decide_eq_true_eq, Bool.false_eq_true, if_false] at hcounts ⊢
    omega
  · by_cases hji : j = activation.session
    · by_cases hki : k = activation.session
      · rw [hji, hki]
      · simp only [hji, hself, hother k hki] at heq
        exact absurd heq.symm (hfresh k hk)
    · by_cases hki : k = activation.session
      · simp only [hki, hself, hother j hji] at heq
        exact absurd heq (hfresh j hj)
      · simp only [hother j hji, hother k hki] at heq
        exact h.distinct j hj k hk heq
  · by_cases hji : j = activation.session
    · simp only [hji, hself]
      exact Nat.lt_succ_self _
    · simp only [hother j hji]
      exact Nat.lt_succ_of_lt (h.issued j hj)
  · rw [hused, List.mem_append, List.mem_singleton] at hmem
    rcases hmem with hmem | rfl
    · obtain ⟨hlt, hne⟩ := h.used nonce hmem
      refine ⟨Nat.lt_succ_of_lt hlt, fun j hj => ?_⟩
      by_cases hji : j = activation.session
      · simp only [hji, hself]
        exact (Nat.ne_of_lt hlt).symm
      · simp only [hother j hji]
        exact hne j hj
    · have hlt : activation.nonce < s.nonceCount := hnonce ▸ h.issued _ hsess
      refine ⟨Nat.lt_succ_of_lt hlt, fun j hj => ?_⟩
      by_cases hji : j = activation.session
      · simp only [hji, hself]
        exact (Nat.ne_of_lt hlt).symm
      · simp only [hother j hji]
        exact fun heq => hji (h.distinct j hj _ hsess (heq.trans hnonce.symm))
  · rw [hused, List.nodup_append]
    refine ⟨h.nonces, List.nodup_singleton _, fun nonce hmem nonce' hmem' heq => ?_⟩
    obtain rfl := List.mem_singleton.mp hmem'
    exact (h.used nonce hmem).2 _ hsess (hnonce.trans heq.symm)
  · by_cases hji : j = activation.session
    · simp only [hji, hself]
      rfl
    · simp only [hother j hji] at hact ⊢
      exact h.identified j hj hact
  · by_cases hji : j = activation.session
    · simp only [hji, hself]
      nofun
    · simp only [hother j hji] at hlive ⊢
      exact h.alive j hj hlive
  · obtain ⟨hlt, hissued⟩ := h.exists_session other hother'
    exact ⟨hlt, Nat.lt_succ_of_lt hissued⟩
  · by_cases hji : other.session = activation.session
    · -- the other activation was made with an older nonce
      simp only [hji, hself] at hsame
      exact absurd hsame.symm (Nat.ne_of_lt (h.exists_session other hpend).2)
    · simp only [hother _ hji] at hlive hsame ⊢
      exact h.ready other hpend hlive hsame
  · rw [heffects] at heff
    rcases List.mem_append.mp heff with heff | heff
    · exact h.safe effect heff
    rcases List.mem_append.mp heff with heff | heff
    · exact (hmove effect heff).1
    rcases List.mem_cons.mp heff with rfl | heff
    · trivial
    · obtain rfl := List.mem_singleton.mp heff
      exact ⟨hreg, rfl, hchan, rfl⟩

/-! ### The handler -/

/-- What `getSession` finds. -/
lemma getSession_eq_some {token : ℕ}
    (h : getSession s token = some session) :
    token < s.sessionCount ∧ session.registered = true ∧
      s.sessions token = session := by
  unfold getSession at h
  split at h
  · next hfound =>
    rw [Bool.and_eq_true, decide_eq_true_eq] at hfound
    obtain rfl := Option.some.inj h
    exact ⟨hfound.1, hfound.2, rfl⟩
  · cases h

variable {request : ActivateSessionRequest}

/-- **The check of the channel**: it is that of the session, or has the same certificate and comes with
the same token. -/
lemma checkChannel_ok
    (h : checkChannel channels session request = .ok ()) (hdisp : session.status ≠ .disposed) :
    (session.status = .active → session.channel = some request.channel ∨
      (SameCertificate channels session.channel request.channel ∧
        sameIdentityToken session.userIdentityToken request.userIdentityToken = some true)) ∧
      (session.status ≠ .active → session.channel = some request.channel) := by
  unfold checkChannel at h
  cases hstatus : session.status with
  | new =>
    simp only [hstatus] at h
    split at h
    · cases h
    · next hsame => exact ⟨nofun, fun _ => not_not.mp hsame⟩
  | active =>
    simp only [hstatus] at h
    refine ⟨fun _ => ?_, fun hne => absurd rfl hne⟩
    split at h
    · refine .inr ?_
      split at h
      · cases h
      · next hthumb =>
        refine ⟨thumbprint_injective (not_not.mp hthumb), ?_⟩
        split at h
        · cases h
        · cases h
        · assumption
    · next hsame => exact .inl (not_not.mp hsame)
  | disposed => exact absurd hstatus hdisp
  | screwed | closed => simp [hstatus] at h

variable {userIdentityToken : UserIdentityToken} {stage : ActivationStage}

/-- `isUserAuthorized` waits for a timer or for the user manager. -/
lemma authorize_ok {channel : ℕ}
    (h : authorize host channels session channel userIdentityToken = .ok stage) :
    stage ≠ .checkingCertificate := by
  unfold authorize at h
  split at h
  · cases h
  · cases h
  · cases h
    nofun
  · cases h
    nofun
  · cases h

/-- **A request that waits**: the session was found, its channel was checked, and the token is that of
the request, or there was none. -/
lemma handler_ok
    (h : _on_ActivateSessionRequest host channels s request = .ok (userIdentityToken, stage)) :
    ∃ sess, getSession s request.authenticationToken = some sess ∧
      checkChannel channels sess request = .ok () ∧
      (∀ token, request.userIdentityToken = some token → token = userIdentityToken) ∧
      (stage = .checkingCertificate → getTokenType userIdentityToken = .Certificate) := by
  unfold _on_ActivateSessionRequest at h
  split at h
  · cases h
  next sess hsess =>
  obtain ⟨⟨⟩, hchan, h⟩ := Except.bind_eq_ok_iff.mp h
  split at h
  · cases h
  split at h
  · cases h
  next endpoint hendpoint =>
  split at h
  · cases h
  next token htoken =>
  have hreq : ∀ token', request.userIdentityToken = some token' → token' = token := by
    intro token' htoken'
    rw [htoken'] at htoken
    exact Option.some.inj htoken
  split at h
  · next hvalid =>
    obtain ⟨rfl, rfl⟩ := Prod.mk.inj (Except.ok.inj h)
    refine ⟨sess, hsess, hchan, hreq, fun _ => ?_⟩
    unfold isValidUserIdentityToken at hvalid
    split at hvalid
    · cases hvalid
    · cases token with
      | x509 policyId certificateData => rfl
      | _ => cases hvalid
  · split at h
    · cases h
    · obtain ⟨stage', hstage, h⟩ := Except.bind_eq_ok_iff.mp h
      obtain ⟨rfl, rfl⟩ := Prod.mk.inj (Except.ok.inj h)
      exact ⟨sess, hsess, hchan, hreq, fun hfalse => absurd hfalse (authorize_ok hstage)⟩

/-- The channel of the request was checked, and the signature of the client. -/
def Admitted (host : ActivationHost) (channels : ℕ → ActivationChannel) (session : ActivatedSession)
    (request : ActivateSessionRequest) : Prop :=
  checkChannel channels session request = .ok () ∧
    verifySignature host (host.randomBytes session.nonce) request.clientSignature
      (channels request.channel).clientCertificate (channels request.channel).securityPolicy = true

/-- **The handler does not throw** for a request: the token of the session can be compared with that of
the request when the session is to be moved, the endpoint accepts anonymous users when there is no
token, and a password can be read. -/
structure HandlerReady (host : ActivationHost) (channels : ℕ → ActivationChannel) (s : ActivationServer)
    (request : ActivateSessionRequest) : Prop where
  comparable : ∀ session token, getSession s request.authenticationToken = some session →
    session.status = .active → session.channel ≠ some request.channel →
    thumbprint (session.channel.bind fun channel => (channels channel).clientCertificate) =
      thumbprint (channels request.channel).clientCertificate →
    session.userIdentityToken = some token → request.userIdentityToken.isSome = true →
    getTokenType token = .Anonymous ∨ getTokenType token = .UserName
  anonymous : ∀ session endpoint, getSession s request.authenticationToken = some session →
    Admitted host channels session request → session.endpoint = some endpoint →
    request.userIdentityToken = none → (findUserTokenPolicy endpoint .Anonymous).isSome = true
  password : ∀ session endpoint token, getSession s request.authenticationToken = some session →
    Admitted host channels session request → session.endpoint = some endpoint →
    request.userIdentityToken = some token →
    isValidUserIdentityToken host (channels request.channel) (host.randomBytes session.nonce) endpoint
      token request.userTokenSignature = .answered .Good →
    PasswordReadable host (channels request.channel) endpoint token

lemma sameIdentityToken_eq_none {token1 token2 : Option UserIdentityToken}
    (h : sameIdentityToken token1 token2 = none) :
    token2.isSome = true ∧ ∃ token, token1 = some token ∧ getTokenType token ≠ .Anonymous ∧
      getTokenType token ≠ .UserName := by
  rcases token1 with _ | token1
  · rcases token2 with _ | token2
    · cases h
    · cases h
  rcases token2 with _ | token2
  · exact absurd h (by simp [sameIdentityToken])
  refine ⟨rfl, token1, rfl, ?_⟩
  cases token1 with
  | anonymous policyId | userName policyId userName password algorithm =>
    simp only [sameIdentityToken] at h
    split at h <;> cases h
  | x509 policyId certificateData | issued policyId tokenData | other => simp [getTokenType]

lemma checkChannel_ne_threw
    (hcmp : ∀ token, session.status = .active → session.channel ≠ some request.channel →
      thumbprint (session.channel.bind fun channel => (channels channel).clientCertificate) =
        thumbprint (channels request.channel).clientCertificate →
      session.userIdentityToken = some token → request.userIdentityToken.isSome = true →
      getTokenType token = .Anonymous ∨ getTokenType token = .UserName) :
    checkChannel channels session request ≠ .error .threw := by
  intro h
  unfold checkChannel at h
  split at h
  · split at h <;> cases h
  · next hact =>
    split at h
    · next hmoved =>
      split at h
      · cases h
      · next hthumb =>
        split at h
        · next hnone =>
          obtain ⟨hsome, token, htoken, hanonymous, hnamed⟩ := sameIdentityToken_eq_none hnone
          rcases hcmp token hact hmoved (not_not.mp hthumb) htoken hsome with
            htype | htype
          · exact hanonymous htype
          · exact hnamed htype
        · cases h
        · cases h
    · cases h
  · cases h
  · cases h
  · cases h

/-- Only the status `Good` is good. -/
lemma isNotGood_eq_false {status : StatusCode} (h : status.isNotGood = false) :
    status = .Good := by
  obtain ⟨value⟩ := status
  have hvalue : value = 0 := by
    exact not_not.mp (of_decide_eq_false h)
  rw [hvalue]
  rfl

/-- `isUserAuthorized` does not throw when a password can be read. -/
lemma authorize_ne_threw {channel : ℕ}
    (h : PasswordReadable host (channels channel) (session.endpoint.getD ⟨none⟩) userIdentityToken) :
    authorize host channels session channel userIdentityToken ≠ .error .threw := by
  have hne := isUserAuthorized_ne_throws host (channels channel) (host.randomBytes session.nonce)
    (session.endpoint.getD ⟨none⟩) h
  intro hthrew
  unfold authorize at hthrew
  split at hthrew
  · cases hthrew
  · cases hthrew
  · cases hthrew
  · cases hthrew
  · next hthrows => exact hne hthrows

lemma passwordReadable_certificate {channel : ActivationChannel} {endpoint : EndpointDescription}
    (h : getTokenType userIdentityToken = .Certificate) :
    PasswordReadable host channel endpoint userIdentityToken := by
  cases userIdentityToken with
  | userName policyId userName password algorithm => cases h
  | _ => trivial

lemma handler_ne_threw (hready : HandlerReady host channels s request) :
    _on_ActivateSessionRequest host channels s request ≠ .error .threw := by
  intro h
  unfold _on_ActivateSessionRequest at h
  split at h
  · cases h
  next sess hsess =>
  cases hchan : checkChannel channels sess request with
  | error failure =>
    rw [hchan] at h
    obtain rfl : failure = .threw := Except.error.inj h
    exact checkChannel_ne_threw (fun token hact hmoved hthumb =>
      hready.comparable sess token hsess hact hmoved hthumb) hchan
  | ok u =>
    rw [hchan] at h
    replace h : (if _ then _ else _) = _ := h
    split at h
    · cases h
    next hsig =>
    have hadmitted : Admitted host channels sess request := by
      rw [Bool.not_eq_true, Bool.not_eq_false'] at hsig
      exact ⟨hchan, hsig⟩
    split at h
    · cases h
    next endpoint hendpoint =>
    split at h
    · next hnone =>
      rcases htoken : request.userIdentityToken with _ | token
      · have hsome := hready.anonymous sess endpoint hsess hadmitted hendpoint htoken
        rw [htoken] at hnone
        have hpol : findUserTokenPolicy endpoint .Anonymous = none := Option.map_eq_none_iff.mp hnone
        rw [hpol] at hsome
        cases hsome
      · rw [htoken] at hnone
        cases hnone
    next token htoken =>
    split at h
    · cases h
    next status hvalid =>
    split at h
    · cases h
    next hnotGood =>
    obtain rfl := isNotGood_eq_false (Bool.not_eq_true _ ▸ hnotGood)
    have hreadable : PasswordReadable host (channels request.channel) endpoint token := by
      rcases hreq : request.userIdentityToken with _ | token'
      · -- the token was made for an anonymous user
        rw [hreq] at htoken
        obtain ⟨policy, -, rfl⟩ := Option.map_eq_some_iff.mp htoken
        trivial
      · rw [hreq] at htoken
        obtain rfl := Option.some.inj htoken
        exact hready.password sess endpoint _ hsess hadmitted hendpoint hreq hvalid
    cases hauthorize : authorize host channels sess request.channel token with
    | error failure =>
      rw [hauthorize] at h
      obtain rfl : failure = .threw := Except.error.inj h
      refine authorize_ne_threw ?_ hauthorize
      rw [hendpoint]
      exact hreadable
    | ok stage =>
      rw [hauthorize] at h
      cases h

/-! ### Guarded steps -/

/-- **The steps that keep to this**: the handler of an activation does not throw; an activation is
completed for a live session that still has the nonce that the request was made with; and a session is
closed through its own channel. -/
def Guarded (host : ActivationHost) (channels : ℕ → ActivationChannel) (s : ActivationServer) :
    ActivationInput → Prop
  | .activate request => HandlerReady host channels s request
  | .immediate position => ∀ activation, s.pending[position]? = some activation →
      activation.stage = .immediate true → Undisturbed s activation
  | .userChecked position authorized => ∀ activation, s.pending[position]? = some activation →
      activation.stage = .checkingUser → authorized = some true → Undisturbed s activation
  | .closeSession channel authenticationToken _ => ∀ session,
      getSession s authenticationToken = some session → session.channel = some channel
  | _ => True

lemma Sound.resume (h : Sound channels effects s []) {pos : ℕ}
    {handler : ActivationServer → PendingActivation → ActivationServer × List ActivationEffect}
    (hhandler : ∀ activation, s.pending[pos]? = some activation → activation.stage = stage →
      Sound channels effects { s with pending := s.pending.eraseIdx pos } [activation.number] →
      Sound channels
        (effects ++ (handler { s with pending := s.pending.eraseIdx pos } activation).2)
        (handler { s with pending := s.pending.eraseIdx pos } activation).1 []) :
    Sound channels (effects ++ (SessionActivation.resume s pos stage handler).2)
      (SessionActivation.resume s pos stage handler).1 [] := by
  unfold SessionActivation.resume
  split
  · next activation hact =>
    split
    · next hstage => exact hhandler activation hact hstage (h.erase hact)
    · rw [append_nil]
      exact h
  · rw [append_nil]
    exact h

section

variable {activation : PendingActivation} (h : Sound channels effects s [activation.number])
include h

lemma Sound.userAuthorized {authorized : Option Bool} (hsess : activation.session < s.sessionCount)
    (hready : authorized = some true → Undisturbed s activation ∧
      Ready channels activation (s.sessions activation.session)) :
    Sound channels (effects ++ (SessionActivation.userAuthorized s activation authorized).2)
      (SessionActivation.userAuthorized s activation authorized).1 [] := by
  rcases authorized with _ | _ | _
  · exact h.answered _
  · exact h.answered _
  · obtain ⟨hundist, hready⟩ := hready rfl
    exact h.activateSession hsess hundist hready

lemma Sound.certificateChecked
    (hsess : activation.session < s.sessionCount ∧ activation.nonce < s.nonceCount)
    (hready : (s.sessions activation.session).registered = true →
      (s.sessions activation.session).nonce = activation.nonce →
      Ready channels activation (s.sessions activation.session))
    (hcert : getTokenType activation.userIdentityToken = .Certificate)
    (status : Option StatusCode) :
    Sound channels
      (effects ++ (SessionActivation.certificateChecked host channels s activation status).2)
      (SessionActivation.certificateChecked host channels s activation status).1 [] := by
  rcases status with _ | status
  · exact h.answered _
  simp only [SessionActivation.certificateChecked]
  split
  · exact h.answered _
  split
  · next stage hstage =>
    rw [append_nil]
    exact Sound.waits { activation with stage } h hsess
      (fun hlive hsame => ⟨(hready hlive hsame).active, (hready hlive hsame).inactive⟩)
      fun _ => hcert
  · exact h.answered _
  · next hthrew => exact absurd hthrew (authorize_ne_threw (passwordReadable_certificate hcert))

end

lemma Sound.closeSession (h : Sound channels effects s inHand) (token : ℕ) :
    Sound channels effects (SessionActivation.closeSession s token) inHand := by
  unfold SessionActivation.closeSession
  split
  · exact h.replace rfl nofun nofun fun activation _ _ hlive => by cases hlive
  · exact h

lemma Sound.activate (h : Sound channels effects s [])
    (hguard : HandlerReady host channels s request) :
    Sound channels (effects ++ (SessionActivation.activate host channels s request).2)
      (SessionActivation.activate host channels s request).1 [] := by
  have hcnt : Sound channels effects { s with requestCount := s.requestCount + 1 }
      [s.requestCount] := by
    refine { h with counts := fun n => ?_ }
    have hcounts := h.counts n
    simp only [countP_cons, countP_nil, decide_eq_true_eq] at hcounts ⊢
    split_ifs at hcounts ⊢ <;> omega
  unfold SessionActivation.activate
  split
  · exact hcnt.answered _
  · next hthrew => exact absurd hthrew (handler_ne_threw hguard)
  · next token stage hok =>
    obtain ⟨sess, hsess, hchan, htoken, hcert⟩ := handler_ok hok
    obtain ⟨hlt, hlive, hfound⟩ := getSession_eq_some hsess
    rw [append_nil]
    refine Sound.waits ⟨s.requestCount, request.authenticationToken, request.channel,
      (s.sessions request.authenticationToken).nonce, token, stage⟩ hcnt
      ⟨hlt, h.issued _ hlt⟩ (fun _ _ => ?_) hcert
    rw [hfound]
    have hdisp := h.alive _ hlt (hfound ▸ hlive)
    rw [hfound] at hdisp
    obtain ⟨hact, hinact⟩ := checkChannel_ok hchan hdisp
    refine ⟨fun hstatus => ?_, hinact⟩
    rcases hact hstatus with hsame | ⟨hsame, htokens⟩
    · exact .inl hsame
    · -- the token of an active session was found to be that of the request
      have hidentified := h.identified _ hlt (hfound ▸ hstatus)
      rw [hfound] at hidentified
      have husers := sameIdentityToken_user htokens
      obtain ⟨old, hold⟩ := Option.isSome_iff_exists.mp hidentified
      rcases hreq : request.userIdentityToken with _ | token'
      · rw [hreq, hold] at husers
        cases husers
      · obtain rfl := htoken token' hreq
        refine .inr ⟨hsame, ?_⟩
        rw [husers, hreq]
        rfl

lemma Sound.closes (h : Sound channels effects s inHand) (pendingCloses : List ℕ) :
    Sound channels effects { s with pendingCloses } inHand :=
  { h with }

lemma Sound.createSession (h : Sound channels effects s inHand) (channel : ℕ)
    (endpoint : Option EndpointDescription) :
    Sound channels effects { s with
      sessions := update s.sessions s.sessionCount
        ⟨true, .new, some channel, s.nonceCount, endpoint, none⟩
      sessionCount := s.sessionCount + 1
      nonceCount := s.nonceCount + 1 } inHand := by
  set session : ActivatedSession := ⟨true, .new, some channel, s.nonceCount, endpoint, none⟩
  have hself : update s.sessions s.sessionCount session s.sessionCount = session :=
    update_self _ _ _
  have hother : ∀ i < s.sessionCount,
      update s.sessions s.sessionCount session i = s.sessions i :=
    fun i hi => update_of_ne (Nat.ne_of_lt hi) _ _
  have hcases : ∀ i < s.sessionCount + 1, i < s.sessionCount ∨ i = s.sessionCount :=
    fun i hi => Nat.lt_or_eq_of_le (Nat.le_of_lt_succ hi)
  refine ⟨h.counts, fun i hi j hj heq => ?_, fun i hi => ?_, fun nonce hmem => ?_, h.nonces,
    fun i hi hact => ?_, fun i hi hlive => ?_, fun activation hmem => ?_,
    fun activation hmem hlive hsame => ?_, h.certificates, h.safe⟩
  · dsimp only at heq
    rcases hcases i hi with hi | rfl
    · rcases hcases j hj with hj | rfl
      · rw [hother i hi, hother j hj] at heq
        exact h.distinct i hi j hj heq
      · rw [hother i hi, hself] at heq
        exact absurd heq (Nat.ne_of_lt (h.issued i hi))
    · rcases hcases j hj with hj | rfl
      · rw [hself, hother j hj] at heq
        exact absurd heq.symm (Nat.ne_of_lt (h.issued j hj))
      · rfl
  · dsimp only
    rcases hcases i hi with hi | rfl
    · rw [hother i hi]
      exact Nat.lt_succ_of_lt (h.issued i hi)
    · rw [hself]
      exact Nat.lt_succ_self _
  · obtain ⟨hlt, hne⟩ := h.used nonce hmem
    refine ⟨Nat.lt_succ_of_lt hlt, fun i hi => ?_⟩
    dsimp only
    rcases hcases i hi with hi | rfl
    · rw [hother i hi]
      exact hne i hi
    · rw [hself]
      exact (Nat.ne_of_lt hlt).symm
  · dsimp only at hact ⊢
    rcases hcases i hi with hi | rfl
    · rw [hother i hi] at hact ⊢
      exact h.identified i hi hact
    · rw [hself] at hact
      cases hact
  · dsimp only at hlive ⊢
    rcases hcases i hi with hi | rfl
    · rw [hother i hi] at hlive ⊢
      exact h.alive i hi hlive
    · rw [hself]
      nofun
  · obtain ⟨hlt, hissued⟩ := h.exists_session activation hmem
    exact ⟨Nat.lt_succ_of_lt hlt, Nat.lt_succ_of_lt hissued⟩
  · have hlt := (h.exists_session activation hmem).1
    dsimp only at hlive hsame ⊢
    rw [hother _ hlt] at hlive hsame ⊢
    exact h.ready activation hmem hlive hsame

/-- **A guarded step keeps the invariant.** -/
theorem sound_step (h : Sound channels effects s []) {input : ActivationInput}
    (hguard : Guarded host channels s input) :
    Sound channels (effects ++ (step host channels s input).2) (step host channels s input).1 [] := by
  cases input with
  | createSession channel endpoint =>
    simp only [step, append_nil]
    exact h.createSession channel endpoint
  | activate request => exact h.activate hguard
  | certificateChecked pos status =>
    refine h.resume fun activation hact hstage herased => ?_
    have hmem := List.mem_of_getElem? hact
    exact herased.certificateChecked (h.exists_session _ hmem) (h.ready _ hmem)
      (h.certificates _ hmem hstage) status
  | immediate pos =>
    simp only [step]
    split
    · next number sess channel nonce token authorized hpend =>
      refine h.resume fun activation hact hstage herased => ?_
      have hmem := List.mem_of_getElem? hact
      refine herased.userAuthorized (h.exists_session _ hmem).1 fun hauthorized => ?_
      obtain rfl := Option.some.inj hauthorized
      have hundist := hguard activation hact hstage
      exact ⟨hundist, h.ready _ hmem hundist.1 hundist.2⟩
    · rw [append_nil]
      exact h
  | userChecked pos authorized =>
    refine h.resume fun activation hact hstage herased => ?_
    have hmem := List.mem_of_getElem? hact
    refine herased.userAuthorized (h.exists_session _ hmem).1 fun hauthorized => ?_
    have hundist := hguard activation hact hstage hauthorized
    exact ⟨hundist, h.ready _ hmem hundist.1 hundist.2⟩
  | closeSession channel authenticationToken waits =>
    simp only [step]
    split
    · rw [append_nil]
      exact h
    next sess hsess =>
    refine Sound.effect ?_ (hguard sess hsess) rfl fun _ => rfl
    split
    · exact h.closes _
    · exact h.closeSession authenticationToken
  | monitoredItemsDeleted pos =>
    simp only [step]
    split
    · rw [append_nil]
      exact h
    · rw [append_nil]
      exact (h.closes _).closeSession _
  | timeout authenticationToken =>
    simp only [step, append_nil]
    exact h.closeSession authenticationToken
  | request channel authenticationToken =>
    simp only [step]
    split
    · rw [append_nil]
      exact h
    next sess hsess =>
    obtain ⟨hlt, -, hfound⟩ := getSession_eq_some hsess
    by_cases hchan : sess.channel = some channel
    · rw [if_neg (not_not.mpr hchan)]
      split
      · next hstatus =>
        refine Sound.effect ?_ hchan rfl fun _ => rfl
        refine h.replace (by rw [hfound]) nofun (fun _ => nofun) fun activation hmem hsame hlive hnonce => ?_
        rw [← hfound, ← hsame] at hlive hnonce hstatus ⊢
        exact ⟨nofun, fun _ => (h.ready activation hmem hlive hnonce).inactive hstatus⟩
      · exact h.effect hchan rfl fun _ => rfl
    · rw [if_pos hchan, append_nil]
      exact h

lemma sound_initial : Sound channels [] initial [] where
  counts _ := by simp [initial]
  distinct _ h := absurd h (Nat.not_lt_zero _)
  issued _ h := absurd h (Nat.not_lt_zero _)
  used _ h := absurd h not_mem_nil
  nonces := List.nodup_nil
  identified _ h := absurd h (Nat.not_lt_zero _)
  alive _ h := absurd h (Nat.not_lt_zero _)
  exists_session _ h := absurd h not_mem_nil
  ready _ h := absurd h not_mem_nil
  certificates _ h := absurd h not_mem_nil
  safe _ h := absurd h not_mem_nil

lemma Sound.activationsSafe (h : Sound channels effects s []) : ActivationsSafe channels effects s := by
  refine ⟨h.safe, h.nonces, fun n => ?_, fun n hn => ?_⟩
  · have hcounts := h.counts n
    split at hcounts <;> omega
  · have hcounts := h.counts n
    rw [if_pos hn, countP_nil, Nat.add_zero] at hcounts
    by_cases hpend : s.pending.countP (·.number = n) = 0
    · rw [hpend] at hcounts
      exact .inl hcounts
    · obtain ⟨activation, hmem, hnum⟩ := List.countP_pos_iff.mp (Nat.pos_of_ne_zero hpend)
      exact .inr ⟨activation, hmem, of_decide_eq_true hnum⟩

/-! ### Runs -/

lemma handlerReady_anonymous {policyId : Option String}
    (hreq : request.userIdentityToken = some (.anonymous policyId))
    (h : ∀ sess ∈ getSession s request.authenticationToken, ∀ token ∈ sess.userIdentityToken,
      getTokenType token = .Anonymous) : HandlerReady host channels s request := by
  refine ⟨fun sess token hsess _ _ _ htoken _ => .inl (h sess hsess token htoken),
    fun sess endpoint _ _ _ hnone => ?_, fun sess endpoint token _ _ _ htoken _ => ?_⟩
  · rw [hreq] at hnone
    cases hnone
  · rw [hreq] at htoken
    obtain rfl := Option.some.inj htoken
    trivial

/-- Cryptography that accepts everything. -/
def permissiveHost : ActivationHost where
  asymmetricEncryptionAlgorithm _ := ""
  asymmetricVerify _ _ _ _ := true
  asymmetricDecrypt _ bytes := some bytes
  randomBytes n := List.replicate 32 (UInt8.ofNat n)

/-- Channels without certificates. -/
def plainChannels : ℕ → ActivationChannel := fun _ => ⟨none, .None⟩

/-- Anonymous users and those with an issued token are accepted. -/
def lenientEndpoint : EndpointDescription :=
  ⟨some [⟨some "anonymous", .Anonymous, none⟩, ⟨some "issued", .IssuedToken, none⟩]⟩

/-- A request for the session 0. -/
def activation (channel : ℕ) (userIdentityToken : Option UserIdentityToken) : ActivationInput :=
  .activate ⟨channel, 0, userIdentityToken, none, none⟩

end NodeOpcua.SessionActivation
