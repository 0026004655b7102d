import Mathlib.Data.List.Induction
import Mathlib.Data.List.Nodup
import NodeOpcua.SecureChannel.SecurityHeader

set_option autoImplicit false

/-!
# The token stack

`TokenStack` of `node-opcua-secure-channel`: the security tokens of a channel with the keys derived
for them. Each side keeps one; tokens that have really expired, a quarter of their lifetime after
its end, are dropped when a new one is pushed.

## Main definitions

* `TokenStack`.
* `TokenStack.Tracks`.

## Main results

* `TokenStack.Tracks.pushNewToken`, `TokenStack.Tracks.getTokenDerivedKeys_iff`.
* `TokenStack.getLatestTokenDerivedKeys_eq_some`.
-/

namespace NodeOpcua

/-- `ISecurityToken`; the time is in milliseconds, and null in a token without one. -/
structure ISecurityToken where
  tokenId : ℕ
  createdAt : Option ℤ
  revisedLifetime : ℕ
  channelId : ℕ
  deriving DecidableEq, Repr

/-- `DerivedKeys1`; `κ` are the keys of one direction. -/
structure DerivedKeys1 (κ : Type) where
  derivedClientKeys : Option κ
  derivedServerKeys : Option κ
  deriving DecidableEq, Repr

/-- `SecurityTokenAndDerivedKeys`; there are no keys when the security mode is none. -/
structure SecurityTokenAndDerivedKeys (κ : Type) where
  securityToken : ISecurityToken
  derivedKeys : Option (DerivedKeys1 κ)
  deriving DecidableEq, Repr

/-- The keys with which the server protects its chunks under a token. -/
def SecurityTokenAndDerivedKeys.serverKeys {κ : Type} (entry : SecurityTokenAndDerivedKeys κ) :
    Option κ := entry.derivedKeys.bind (·.derivedServerKeys)

/-- The keys with which the client protects its chunks under a token. -/
def SecurityTokenAndDerivedKeys.clientKeys {κ : Type} (entry : SecurityTokenAndDerivedKeys κ) :
    Option κ := entry.derivedKeys.bind (·.derivedClientKeys)

/-- `computeDerivedKeys`, for two nonces that are not null: the keys of one direction come from a
secret and a seed. -/
def computeDerivedKeys {κ : Type}
    (computeDerivedKeys_ext : SecurityPolicy → Buffer → Buffer → κ) (securityPolicy : SecurityPolicy)
    (serverNonce clientNonce : Buffer) : DerivedKeys1 κ where
  derivedClientKeys := some (computeDerivedKeys_ext securityPolicy serverNonce clientNonce)
  derivedServerKeys := some (computeDerivedKeys_ext securityPolicy clientNonce serverNonce)

/-- `hasTokenReallyExpired`: the age of the token is more than 1.25 times its lifetime. -/
def hasTokenReallyExpired (now : ℤ) (token : ISecurityToken) : Bool :=
  decide (4 * (now - token.createdAt.getD 0) > 5 * token.revisedLifetime)

/-- `TokenStack`. -/
structure TokenStack (κ : Type) where
  _tokenStack : List (SecurityTokenAndDerivedKeys κ) := []
  deriving DecidableEq, Repr

namespace TokenStack

variable {κ : Type} (now : ℤ) (s : TokenStack κ)

/-- `removeOldTokens`. -/
def removeOldTokens : TokenStack κ where
  _tokenStack := s._tokenStack.filter fun token => !hasTokenReallyExpired now token.securityToken

/-- `pushNewToken`; the assertion looks at the oldest token only. -/
def pushNewToken (securityToken : ISecurityToken) (derivedKeys : Option (DerivedKeys1 κ)) :
    Except String (TokenStack κ) :=
  let s := s.removeOldTokens now
  if ∀ token ∈ s._tokenStack.head?, token.securityToken.tokenId ≠ securityToken.tokenId then
    .ok { _tokenStack := s._tokenStack ++ [{ securityToken, derivedKeys }] }
  else .error ""

/-- The entry that the methods below look up by its id. -/
def find (tokenId : ℕ) : Option (SecurityTokenAndDerivedKeys κ) :=
  s._tokenStack.find? fun a => a.securityToken.tokenId = tokenId

/-- `getToken`: also of a token that has expired. -/
def getToken (tokenId : ℕ) : Option ISecurityToken := (s.find tokenId).map (·.securityToken)

/-- `getTokenDerivedKeys`. -/
def getTokenDerivedKeys (tokenId : ℕ) : Option (DerivedKeys1 κ) :=
  match s.find tokenId with
  | none => none
  | some token => if hasTokenReallyExpired now token.securityToken then none else token.derivedKeys

/-- `getLatestTokenDerivedKeys`: the newest token with keys that has not really expired. -/
def getLatestTokenDerivedKeys : Option (ℕ × DerivedKeys1 κ) :=
  s._tokenStack.reverse.findSome? fun entry =>
    if hasTokenReallyExpired now entry.securityToken then none
    else entry.derivedKeys.map fun derivedKeys => (entry.securityToken.tokenId, derivedKeys)

/-- `clientKeyProvider().getDerivedKey`. -/
def clientKeyProvider (tokenId : ℕ) : Option κ :=
  (s.getTokenDerivedKeys now tokenId).bind (·.derivedClientKeys)

/-- `serverKeyProvider().getDerivedKey`. -/
def serverKeyProvider (tokenId : ℕ) : Option κ :=
  (s.getTokenDerivedKeys now tokenId).bind (·.derivedServerKeys)

/-! ### The stack and the tokens issued so far -/

variable {now s}

/-- What the stack is for: of the tokens issued so far, in their order and with strictly increasing
ids up to `lastTokenId`, it holds some. -/
structure Tracks (issued : List (SecurityTokenAndDerivedKeys κ)) (lastTokenId : ℕ)
    (s : TokenStack κ) : Prop where
  sublist : s._tokenStack.Sublist issued
  increasing : issued.Pairwise fun a b => a.securityToken.tokenId < b.securityToken.tokenId
  le_last : ∀ e ∈ issued, e.securityToken.tokenId ≤ lastTokenId

lemma Tracks.nil : Tracks [] 0 ({} : TokenStack κ) where
  sublist := List.nil_sublist _
  increasing := .nil
  le_last := fun _ h => absurd h List.not_mem_nil

variable {e : SecurityTokenAndDerivedKeys κ} {tokenId : ℕ}

lemma find_eq_some (h : s.find tokenId = some e) :
    e ∈ s._tokenStack ∧ e.securityToken.tokenId = tokenId :=
  ⟨List.mem_of_find?_eq_some h, by simpa using List.find?_some h⟩

variable {keys : DerivedKeys1 κ}

lemma getTokenDerivedKeys_eq_some (h : s.getTokenDerivedKeys now tokenId = some keys) :
    ∃ e ∈ s._tokenStack, e.securityToken.tokenId = tokenId ∧
      hasTokenReallyExpired now e.securityToken = false ∧ e.derivedKeys = some keys := by
  unfold getTokenDerivedKeys at h
  split at h
  · cases h
  · rename_i e he
    obtain ⟨hmem, hid⟩ := find_eq_some he
    split_ifs at h with hexp
    exact ⟨e, hmem, hid, by simpa using hexp, h⟩

lemma getLatestTokenDerivedKeys_eq_some
    (h : s.getLatestTokenDerivedKeys now = some (tokenId, keys)) :
    ∃ e ∈ s._tokenStack, e.securityToken.tokenId = tokenId ∧
      hasTokenReallyExpired now e.securityToken = false ∧ e.derivedKeys = some keys := by
  obtain ⟨e, hmem, he⟩ := List.exists_of_findSome?_eq_some h
  split_ifs at he with hexp
  obtain ⟨keys', hkeys, heq⟩ := Option.map_eq_some_iff.mp he
  cases heq
  exact ⟨e, List.mem_reverse.mp hmem, rfl, by simpa using hexp, hkeys⟩

lemma mem_of_pushNewToken {s' : TokenStack κ} {securityToken : ISecurityToken}
    {derivedKeys : Option (DerivedKeys1 κ)}
    (h : s.pushNewToken now securityToken derivedKeys = .ok s')
    (he : e ∈ s'._tokenStack) :
    e ∈ s._tokenStack ∨ e = { securityToken, derivedKeys } := by
  unfold pushNewToken at h
  dsimp only at h
  split_ifs at h
  cases h
  rcases List.mem_append.mp he with he | he
  · exact .inl (List.mem_filter.mp he).1
  · exact .inr (List.mem_singleton.mp he)

lemma no_keys_of_expired
    (h : ∀ e ∈ s._tokenStack, hasTokenReallyExpired now e.securityToken = true) (tokenId : ℕ) :
    s.getTokenDerivedKeys now tokenId = none ∧ s.getLatestTokenDerivedKeys now = none := by
  constructor
  · by_contra hne
    obtain ⟨keys, hkeys⟩ := Option.ne_none_iff_exists'.mp hne
    obtain ⟨e, he, -, hexp, -⟩ := getTokenDerivedKeys_eq_some hkeys
    rw [h e he] at hexp
    cases hexp
  · by_contra hne
    obtain ⟨⟨id, keys⟩, hkeys⟩ := Option.ne_none_iff_exists'.mp hne
    obtain ⟨e, he, -, hexp, -⟩ := getLatestTokenDerivedKeys_eq_some hkeys
    rw [h e he] at hexp
    cases hexp

namespace Tracks

variable {issued : List (SecurityTokenAndDerivedKeys κ)} {lastTokenId : ℕ}
  {e : SecurityTokenAndDerivedKeys κ}

section

variable (h : Tracks issued lastTokenId s)
include h

lemma mem (he : e ∈ s._tokenStack) : e ∈ issued := h.sublist.mem he

lemma eq_of_tokenId_eq {e e' : SecurityTokenAndDerivedKeys κ} (he : e ∈ issued) (he' : e' ∈ issued)
    (hid : e.securityToken.tokenId = e'.securityToken.tokenId) : e = e' := by
  have hnodup : (issued.map fun e => e.securityToken.tokenId).Nodup :=
    List.pairwise_map.mpr (h.increasing.imp fun hab => Nat.ne_of_lt hab)
  exact List.inj_on_of_nodup_map hnodup he he' hid

/-- **Pushing the next token** succeeds, and adds it to the tokens issued. -/
theorem pushNewToken (now : ℤ) {securityToken : ISecurityToken}
    (hid : securityToken.tokenId = lastTokenId + 1) (derivedKeys : Option (DerivedKeys1 κ)) :
    ∃ s', s.pushNewToken now securityToken derivedKeys = .ok s' ∧
      Tracks (issued ++ [⟨securityToken, derivedKeys⟩]) (lastTokenId + 1) s' := by
  have hkept : (s.removeOldTokens now)._tokenStack.Sublist issued :=
    List.filter_sublist.trans h.sublist
  have hnew : ∀ e ∈ issued, e.securityToken.tokenId < securityToken.tokenId := by
    intro e he
    have := h.le_last e he
    omega
  refine ⟨{ _tokenStack := (s.removeOldTokens now)._tokenStack ++ [⟨securityToken, derivedKeys⟩] },
    ?_, ⟨?_, ?_, ?_⟩⟩
  · refine if_pos fun token htoken => ?_
    have := hnew token (hkept.mem (List.mem_of_mem_head? htoken))
    omega
  · exact hkept.append (List.Sublist.refl _)
  · refine List.pairwise_append.mpr ⟨h.increasing, List.pairwise_singleton _ _, ?_⟩
    intro e he e' he'
    obtain rfl := List.mem_singleton.mp he'
    exact hnew e he
  · intro e he
    rcases List.mem_append.mp he with he | he
    · have := h.le_last e he
      omega
    · obtain rfl := List.mem_singleton.mp he
      exact Nat.le_of_eq hid

lemma find_eq (he : e ∈ s._tokenStack) : s.find e.securityToken.tokenId = some e := by
  cases hfind : s.find e.securityToken.tokenId with
  | none => exact absurd (decide_eq_true rfl) (List.find?_eq_none.mp hfind e he)
  | some e' =>
    obtain ⟨hmem, hid⟩ := find_eq_some hfind
    rw [h.eq_of_tokenId_eq (h.mem hmem) (h.mem he) hid]

end

variable (now) in
/-- **A lookup by id** gives the keys that were issued for this id, as long as the token is on the
stack and has not really expired. -/
theorem getTokenDerivedKeys_iff (h : Tracks issued lastTokenId s)
    (he : e ∈ issued) {keys : DerivedKeys1 κ} :
    s.getTokenDerivedKeys now e.securityToken.tokenId = some keys ↔
      e ∈ s._tokenStack ∧ hasTokenReallyExpired now e.securityToken = false ∧
        e.derivedKeys = some keys := by
  constructor
  · intro hkeys
    obtain ⟨e', hmem, hid, hexp, hder⟩ := getTokenDerivedKeys_eq_some hkeys
    obtain rfl := h.eq_of_tokenId_eq (h.mem hmem) he hid
    exact ⟨hmem, hexp, hder⟩
  · rintro ⟨hmem, hexp, hder⟩
    unfold getTokenDerivedKeys
    simp only [h.find_eq hmem, hexp, Bool.false_eq_true, if_false, hder]

end Tracks

/-! ### Runs -/

/-- Tokens are pushed, each at its time. -/
def pushAll (pushes : List (ℤ × SecurityTokenAndDerivedKeys κ)) : Except String (TokenStack κ) :=
  pushes.foldlM (fun s push => s.pushNewToken push.1 push.2.securityToken push.2.derivedKeys) {}

lemma removeOldTokens_removeOldTokens {now' : ℤ} (hle : now ≤ now') (s : TokenStack κ) :
    (s.removeOldTokens now).removeOldTokens now' = s.removeOldTokens now' := by
  simp only [removeOldTokens, List.filter_filter, mk.injEq]
  refine List.filter_congr fun e _ => ?_
  simp only [hasTokenReallyExpired, Bool.and_eq_left_iff_imp, Bool.not_eq_true', decide_eq_false_iff_not]
  omega

lemma getLatestTokenDerivedKeys_removeOldTokens (s : TokenStack κ) :
    (s.removeOldTokens now).getLatestTokenDerivedKeys now = s.getLatestTokenDerivedKeys now := by
  unfold getLatestTokenDerivedKeys removeOldTokens
  rw [← List.filter_reverse]
  induction s._tokenStack.reverse with
  | nil => rfl
  | cons e entries ih => cases hexp : hasTokenReallyExpired now e.securityToken <;>
      simp [List.findSome?_cons, hexp, ih]

lemma getTokenDerivedKeys_removeOldTokens
    (h : s._tokenStack.Pairwise fun a b => a.securityToken.tokenId < b.securityToken.tokenId)
    (tokenId : ℕ) :
    (s.removeOldTokens now).getTokenDerivedKeys now tokenId = s.getTokenDerivedKeys now tokenId := by
  obtain ⟨last, hlast⟩ : ∃ last, ∀ e ∈ s._tokenStack, e.securityToken.tokenId ≤ last := by
    induction s._tokenStack with
    | nil => exact ⟨0, nofun⟩
    | cons e entries ih =>
      obtain ⟨last, hlast⟩ := ih
      exact ⟨max e.securityToken.tokenId last, List.forall_mem_cons.mpr
        ⟨Nat.le_max_left _ _, fun e' he' => Nat.le_trans (hlast e' he') (Nat.le_max_right _ _)⟩⟩
  have htracks : Tracks s._tokenStack last s := ⟨List.Sublist.refl _, h, hlast⟩
  have hkept : Tracks s._tokenStack last (s.removeOldTokens now) :=
    ⟨List.filter_sublist, h, hlast⟩
  ext keys
  constructor <;> intro hkeys
  · obtain ⟨e, he, rfl, hexp, hder⟩ := getTokenDerivedKeys_eq_some hkeys
    have hmem := hkept.mem he
    exact (htracks.getTokenDerivedKeys_iff now hmem).mpr ⟨hmem, hexp, hder⟩
  · obtain ⟨e, he, rfl, hexp, hder⟩ := getTokenDerivedKeys_eq_some hkeys
    exact (hkept.getTokenDerivedKeys_iff now he).mpr
      ⟨List.mem_filter.mpr ⟨he, by rw [hexp]; rfl⟩, hexp, hder⟩

/-- **Dropping tokens is never seen**: after pushes in the order of time, of tokens with increasing ids,
each lookup answers as if all the tokens were still there. -/
theorem pushAll_lookups {pushes : List (ℤ × SecurityTokenAndDerivedKeys κ)}
    (htimes : pushes.Pairwise fun p q => p.1 ≤ q.1)
    (hids : (pushes.map Prod.snd).Pairwise fun a b => a.securityToken.tokenId < b.securityToken.tokenId) :
    ∃ s, pushAll pushes = .ok s ∧ ∀ now, (∀ push ∈ pushes, push.1 ≤ now) →
      s.getLatestTokenDerivedKeys now =
          (TokenStack.mk (pushes.map Prod.snd)).getLatestTokenDerivedKeys now ∧
        ∀ tokenId, s.getTokenDerivedKeys now tokenId =
          (TokenStack.mk (pushes.map Prod.snd)).getTokenDerivedKeys now tokenId := by
  -- what is left of the stack is what is left of all the tokens
  obtain ⟨s, hs, hsub, hlive⟩ : ∃ s, pushAll pushes = .ok s ∧
      s._tokenStack.Sublist (pushes.map Prod.snd) ∧ ∀ now, (∀ push ∈ pushes, push.1 ≤ now) →
        s.removeOldTokens now = (TokenStack.mk (pushes.map Prod.snd)).removeOldTokens now := by
    induction pushes using List.reverseRecOn with
    | nil => exact ⟨{}, rfl, List.Sublist.refl _, fun _ _ => rfl⟩
    | append_singleton pushes push ih =>
      rw [List.map_append, List.pairwise_append] at hids
      rw [List.pairwise_append] at htimes
      obtain ⟨s, hs, hsub, hlive⟩ := ih htimes.1 hids.1
      have hkept : (s.removeOldTokens push.1)._tokenStack.Sublist (pushes.map Prod.snd) :=
        List.filter_sublist.trans hsub
      refine ⟨⟨(s.removeOldTokens push.1)._tokenStack ++ [push.2]⟩, ?_, ?_, fun now hnow => ?_⟩
      · rw [pushAll, List.foldlM_append, ← pushAll, hs]
        simp only [List.foldlM_cons, List.foldlM_nil, bind_pure]
        refine if_pos fun e he => Nat.ne_of_lt ?_
        exact hids.2.2 e (hkept.mem (List.mem_of_mem_head? he)) push.2 (List.mem_singleton_self _)
      · rw [List.map_append]
        exact hkept.append (List.Sublist.refl _)
      · have hle : push.1 ≤ now := hnow push (List.mem_append_right _ (List.mem_singleton_self _))
        have hrest := (removeOldTokens_removeOldTokens hle s).trans
          (hlive now fun p hp => hnow p (List.mem_append_left _ hp))
        simp only [removeOldTokens, mk.injEq] at hrest ⊢
        rw [List.filter_append, hrest, List.map_append, List.filter_append]
        rfl
  refine ⟨s, hs, fun now hnow => ⟨?_, fun tokenId => ?_⟩⟩
  · rw [← getLatestTokenDerivedKeys_removeOldTokens, hlive now hnow,
      getLatestTokenDerivedKeys_removeOldTokens]
  · rw [← getTokenDerivedKeys_removeOldTokens (hids.sublist hsub), hlive now hnow,
      getTokenDerivedKeys_removeOldTokens hids]

/-- A token that lives for 1000 ms, and one that is pushed after 2000 ms. -/
def renewed : List (ℤ × SecurityTokenAndDerivedKeys ℕ) :=
  [(0, ⟨⟨1, some 0, 1000, 1⟩, some ⟨some 7, none⟩⟩), (2000, ⟨⟨2, some 2000, 1000, 1⟩, none⟩)]

theorem pushAll_lookups_renewed :
    ∃ s, pushAll renewed = .ok s ∧ s.getTokenDerivedKeys 2000 1 = none := by
  obtain ⟨s, hs, h⟩ := @pushAll_lookups ℕ renewed (by decide) (by decide)
  exact ⟨s, hs, (h 2000 (by decide)).2 1⟩

end TokenStack

end NodeOpcua
