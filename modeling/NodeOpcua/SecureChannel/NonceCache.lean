import Mathlib.Data.Finset.Card
import Mathlib.Data.Int.Notation
import NodeOpcua.Library.Base64
import NodeOpcua.Library.Mealy

set_option autoImplicit false

/-!
# The nonces that have been used

A nonce is refused when it was accepted before. The cache forgets nonces by their age and by the size
of the cache, the oldest first.

## Main definitions

* `nonceAlreadyBeenUsed`.
* `Window`.
-/

namespace NodeOpcua

/-! ### The source -/

abbrev Nonce : Type := List UInt8

/-- The bytes of a nonce are all zero. -/
def isEmptyNonce (nonce : Nonce) : Bool :=
  (nonce.foldl (fun accumulator currentValue => accumulator + if currentValue = 0 then 1 else 0) 0) =
    nonce.length

/-- The map of the nonces, in the order of their insertion. -/
abbrev NonceMap : Type := List (List Char × ℤ)

/-- A call at a time of the clock. -/
structure NonceCall where
  now : ℤ
  nonce : Option Nonce

section

variable (g_ttlMs : ℤ) (g_maxSize : ℕ)

/-- `_evict`. -/
def _evict (now : ℤ) (g_alreadyUsedNonce : NonceMap) : NonceMap :=
  let kept := g_alreadyUsedNonce.filter fun (_, timestamp) => !decide (timestamp ≤ now - g_ttlMs)
  if g_maxSize < kept.length then kept.drop (kept.length - g_maxSize) else kept

/-- `nonceAlreadyBeenUsed`. -/
def nonceAlreadyBeenUsed (g_alreadyUsedNonce : NonceMap) (call : NonceCall) : NonceMap × Bool :=
  match call.nonce with
  | none => (g_alreadyUsedNonce, false)
  | some nonce =>
    if isEmptyNonce nonce then (g_alreadyUsedNonce, false)
    else
      let evicted := _evict g_ttlMs g_maxSize call.now g_alreadyUsedNonce
      let hash := Base64.encode nonce
      if hash ∈ evicted.map Prod.fst then (evicted, true)
      else (_evict g_ttlMs g_maxSize call.now (evicted ++ [(hash, call.now)]), false)

/-- **A call**, with the nonce that it accepts. -/
def presentNonce (s : NonceMap) (call : NonceCall) : NonceMap × List (Nonce × ℤ) :=
  let (s', used) := nonceAlreadyBeenUsed g_ttlMs g_maxSize s call
  (s', (call.nonce.toList.filter fun nonce => !isEmptyNonce nonce && !used).map fun nonce =>
    (nonce, call.now))

/-- An accepted nonce, as it is stored. -/
def stored (e : Nonce × ℤ) : List Char × ℤ := (Base64.encode e.1, e.2)

/-- **The window**: the map is the end of the list of the accepted nonces, and what is not in it is too
old or was followed by too many others. -/
structure Window (now : ℤ) (log : List (Nonce × ℤ)) (s : NonceMap) : Prop where
  sorted : log.Pairwise fun e e' => e.2 ≤ e'.2
  past : ∀ e ∈ log, e.2 ≤ now
  split : ∃ dropped kept, log = dropped ++ kept ∧ s = kept.map stored ∧ (kept.map Prod.fst).Nodup ∧
    ∀ before e after, log = before ++ e :: after → before.length < dropped.length →
      e.2 ≤ now - g_ttlMs ∨ g_maxSize ≤ (after.map Prod.fst).toFinset.card

end

/-! ### The window -/

variable {g_ttlMs : ℤ} {g_maxSize : ℕ} {now now' : ℤ} {log : List (Nonce × ℤ)} {s : NonceMap}

lemma encode_inj {nonce nonce' : Nonce} (h : Base64.encode nonce = Base64.encode nonce') :
    nonce = nonce' := by
  rw [← Base64.decode_encode nonce, h, Base64.decode_encode]

lemma Window.drop (h : Window g_ttlMs g_maxSize now log s) (hnow : now ≤ now') (n : ℕ)
    (hdrop : ∀ before e after, s = before ++ e :: after → before.length < n →
      e.2 ≤ now' - g_ttlMs ∨ g_maxSize ≤ after.length) :
    Window g_ttlMs g_maxSize now' log (s.drop n) := by
  obtain ⟨dropped, kept, hlog, rfl, hnodup, hleft⟩ := h.split
  refine ⟨h.sorted, fun e he => (h.past e he).trans hnow, dropped ++ kept.take n, kept.drop n, ?_,
    List.map_drop.symm, ?_, fun before e after hat hlt => ?_⟩
  · rw [List.append_assoc, List.take_append_drop, hlog]
  · exact hnodup.sublist ((List.drop_sublist n kept).map _)
  by_cases hdropped : before.length < dropped.length
  · exact (hleft before e after hat hdropped).imp_left fun hle => by omega
  -- the nonce was in the window
  obtain ⟨more, rfl⟩ : ∃ more, before = dropped ++ more := by
    refine (List.prefix_of_prefix_length_le (hlog ▸ List.prefix_append dropped kept)
      (hat ▸ List.prefix_append before (e :: after)) (Nat.not_lt.mp hdropped)).imp fun _ h => h.symm
  have hkept : kept = more ++ e :: after := by
    rw [hlog, List.append_assoc] at hat
    exact List.append_cancel_left hat
  rw [List.length_append, List.length_append, List.length_take] at hlt
  refine (hdrop (more.map stored) (stored e) (after.map stored) (by simp [hkept])
    (by rw [List.length_map]; omega)).imp_right fun hle => ?_
  rw [hkept, List.map_append, List.map_cons] at hnodup
  rw [List.toFinset_card_of_nodup (hnodup.of_append_right.of_cons), List.length_map]
  rwa [List.length_map] at hle

lemma exists_drop_filter {s : NonceMap} (h : s.Pairwise fun e e' => e.2 ≤ e'.2) (cutoff : ℤ) :
    ∃ n, s.filter (fun e => !decide (e.2 ≤ cutoff)) = s.drop n ∧
      ∀ before e after, s = before ++ e :: after → before.length < n → e.2 ≤ cutoff := by
  induction s with
  | nil => exact ⟨0, rfl, fun _ _ _ _ hlt => absurd hlt (Nat.not_lt_zero _)⟩
  | cons a s ih =>
    obtain ⟨hle, hsorted⟩ := List.pairwise_cons.mp h
    obtain ⟨n, hfilter, hold⟩ := ih hsorted
    by_cases ha : a.2 ≤ cutoff
    · refine ⟨n + 1, by simpa [ha] using hfilter, fun before e after hat hlt => ?_⟩
      cases before with
      | nil =>
        obtain ⟨rfl, -⟩ := List.cons.inj hat
        exact ha
      | cons b before =>
        exact hold before e after (List.cons.inj hat).2 (Nat.lt_of_succ_lt_succ hlt)
    · refine ⟨0, ?_, fun _ _ _ _ hlt => absurd hlt (Nat.not_lt_zero _)⟩
      rw [List.drop_zero, List.filter_eq_self]
      intro e he
      rcases List.mem_cons.mp he with rfl | he
      · simpa using ha
      · have := hle e he
        simp only [Bool.not_eq_true', decide_eq_false_iff_not]
        omega

/-- **The eviction** keeps the window, and bounds the map. -/
lemma Window.evict (h : Window g_ttlMs g_maxSize now log s) (hnow : now ≤ now') :
    Window g_ttlMs g_maxSize now' log (_evict g_ttlMs g_maxSize now' s) ∧
      (_evict g_ttlMs g_maxSize now' s).length ≤ g_maxSize := by
  have hsorted : s.Pairwise fun e e' => e.2 ≤ e'.2 := by
    obtain ⟨dropped, kept, rfl, rfl, -⟩ := h.split
    exact List.pairwise_map.mpr (List.pairwise_append.mp h.sorted).2.1
  obtain ⟨n, hfilter, hold⟩ := exists_drop_filter hsorted (now' - g_ttlMs)
  have hkept := h.drop hnow n fun before e after hat hlt => Or.inl (hold before e after hat hlt)
  rw [← hfilter] at hkept
  unfold _evict
  dsimp only
  split_ifs with hlarge
  · refine ⟨hkept.drop le_rfl _ fun before e after hat hlt => Or.inr ?_, by rw [List.length_drop]; omega⟩
    rw [hat, List.length_append, List.length_cons] at hlt
    omega
  · exact ⟨hkept, Nat.not_lt.mp hlarge⟩

/-- **A nonce is added** to the window. -/
lemma Window.push (h : Window g_ttlMs g_maxSize now log s) {nonce : Nonce}
    (hnew : Base64.encode nonce ∉ s.map Prod.fst) :
    Window g_ttlMs g_maxSize now (log ++ [(nonce, now)]) (s ++ [(Base64.encode nonce, now)]) := by
  obtain ⟨dropped, kept, rfl, rfl, hnodup, hleft⟩ := h.split
  refine ⟨?_, ?_, dropped, kept ++ [(nonce, now)], List.append_assoc _ _ _, by simp [stored], ?_, ?_⟩
  · refine List.pairwise_append.mpr ⟨h.sorted, List.pairwise_singleton _ _, fun e he e' he' => ?_⟩
    rw [List.mem_singleton.mp he']
    exact h.past e he
  · intro e he
    rcases List.mem_append.mp he with he | he
    · exact h.past e he
    · rw [List.mem_singleton.mp he]
  · rw [List.map_append, List.nodup_append]
    refine ⟨hnodup, List.nodup_singleton _, fun a ha b hb => ?_⟩
    rintro rfl
    rw [List.map_singleton, List.mem_singleton] at hb
    obtain ⟨e, he, rfl⟩ := List.mem_map.mp ha
    refine hnew (List.mem_map.mpr ⟨stored e, List.mem_map_of_mem he, ?_⟩)
    rw [stored, hb]
  · intro before e after hat hlt
    rcases List.eq_nil_or_concat after with rfl | ⟨after, last, rfl⟩
    · have hlength := congrArg List.length hat
      simp only [List.length_append, List.length_singleton] at hlength
      omega
    · rw [List.concat_eq_append] at hat ⊢
      rw [← List.cons_append, ← List.append_assoc] at hat
      obtain ⟨hat, -⟩ := List.append_inj' hat rfl
      refine (hleft before e after hat hlt).imp_right fun hle => hle.trans (Finset.card_le_card ?_)
      intro x hx
      rw [List.mem_toFinset] at hx ⊢
      rw [List.map_append]
      exact List.mem_append_left _ hx

/-! ### Presentations -/

/-- **A call** keeps the window, and bounds the map. -/
lemma Window.present (h : Window g_ttlMs g_maxSize now log s) (hsize : s.length ≤ g_maxSize)
    {call : NonceCall} (hnow : now ≤ call.now) :
    Window g_ttlMs g_maxSize call.now (log ++ (presentNonce g_ttlMs g_maxSize s call).2)
        (presentNonce g_ttlMs g_maxSize s call).1 ∧
      (presentNonce g_ttlMs g_maxSize s call).1.length ≤ g_maxSize := by
  have hsame := h.drop hnow 0 fun _ _ _ _ hlt => absurd hlt (Nat.not_lt_zero _)
  obtain ⟨hevict, hbound⟩ := h.evict hnow
  unfold presentNonce nonceAlreadyBeenUsed
  cases call.nonce with
  | none => simpa using ⟨hsame, hsize⟩
  | some nonce =>
    cases hempty : isEmptyNonce nonce with
    | true => simpa [hempty] using ⟨hsame, hsize⟩
    | false =>
      by_cases hused : Base64.encode nonce ∈ (_evict g_ttlMs g_maxSize call.now s).map Prod.fst
      · simpa only [hempty, hused, Bool.false_eq_true, if_false, if_true, Option.toList_some,
          Bool.not_true, Bool.and_false, List.filter_false, List.map_nil, List.append_nil]
          using And.intro hevict hbound
      · simpa [hempty, hused] using (hevict.push hused).evict le_rfl

variable (g_ttlMs g_maxSize) in
/-- **A run** of calls at times that do not decrease keeps the window. -/
lemma run_window {calls : List NonceCall} (h : calls.Pairwise fun c d => c.now ≤ d.now) {now : ℤ}
    (hnow : ∀ c ∈ calls, c.now ≤ now) :
    Window g_ttlMs g_maxSize now (Mealy.run (presentNonce g_ttlMs g_maxSize) [] calls).2
        (Mealy.run (presentNonce g_ttlMs g_maxSize) [] calls).1 ∧
      (Mealy.run (presentNonce g_ttlMs g_maxSize) [] calls).1.length ≤ g_maxSize ∧
      ∀ e ∈ (Mealy.run (presentNonce g_ttlMs g_maxSize) [] calls).2, ∃ c ∈ calls, c.nonce = some e.1 := by
  induction calls using List.reverseRecOn generalizing now with
  | nil =>
    exact ⟨⟨List.Pairwise.nil, nofun, [], [], rfl, rfl, List.nodup_nil, fun _ _ _ _ h =>
      absurd h (Nat.not_lt_zero _)⟩, Nat.zero_le _, nofun⟩
  | append_singleton calls call ih =>
    obtain ⟨hcalls, -, hlast⟩ := List.pairwise_append.mp h
    obtain ⟨hwindow, hsize, hpresented⟩ := ih hcalls fun c hc => hlast c hc call (List.mem_singleton_self _)
    obtain ⟨hnext, hbound⟩ := hwindow.present hsize le_rfl
    have hle : call.now ≤ now := hnow call (by simp)
    rw [Mealy.run_append, Mealy.run_cons_fst, Mealy.run_cons_snd, Mealy.run_nil, List.append_nil]
    refine ⟨hnext.drop hle 0 fun _ _ _ _ h => absurd h (Nat.not_lt_zero _), hbound, fun e he => ?_⟩
    rcases List.mem_append.mp he with he | he
    · obtain ⟨c, hc, hnonce⟩ := hpresented e he
      exact ⟨c, List.mem_append_left _ hc, hnonce⟩
    · obtain ⟨nonce, hnonce, rfl⟩ := List.mem_map.mp he
      exact ⟨call, by simp, by simpa using List.mem_of_mem_filter hnonce⟩

lemma isEmptyNonce_eq_false {nonce : Nonce} (h : ∃ b ∈ nonce, b ≠ 0) : isEmptyNonce nonce = false := by
  have hcount (l : Nonce) (n : ℕ) : l.foldl (fun accumulator currentValue =>
      accumulator + if currentValue = 0 then 1 else 0) n = n + l.countP (· = 0) := by
    induction l generalizing n with
    | nil => rfl
    | cons b l ih =>
      rw [List.foldl_cons, ih, List.countP_cons]
      by_cases hb : b = 0
      · simp [hb, Nat.add_assoc, Nat.add_comm 1]
      · simp [hb]
  obtain ⟨b, hb, hne⟩ := h
  simp only [isEmptyNonce, hcount, decide_eq_false_iff_not, Nat.zero_add, List.countP_eq_length]
  exact fun hall => hne (by simpa using hall b hb)

/-- **The nonces that have been used**: after every call the map is bounded, a new nonce is accepted, and
one that was accepted is refused while it is young and was not followed by too many others. -/
theorem nonces_detected (g_ttlMs : ℤ) (g_maxSize : ℕ) (calls : List NonceCall) (call : NonceCall)
    (h : (calls ++ [call]).Pairwise fun c d => c.now ≤ d.now) :
    let s := Mealy.run (presentNonce g_ttlMs g_maxSize) [] calls
    (nonceAlreadyBeenUsed g_ttlMs g_maxSize s.1 call).1.length ≤ g_maxSize ∧
    ∀ nonce, call.nonce = some nonce → (∃ b ∈ nonce, b ≠ 0) →
      ((∀ c ∈ calls, c.nonce ≠ some nonce) →
        (nonceAlreadyBeenUsed g_ttlMs g_maxSize s.1 call).2 = false) ∧
      ∀ before t after, s.2 = before ++ (nonce, t) :: after → nonce ∉ after.map Prod.fst →
        call.now - t < g_ttlMs → (after.map Prod.fst).toFinset.card < g_maxSize →
        (nonceAlreadyBeenUsed g_ttlMs g_maxSize s.1 call).2 = true := by
  intro s
  obtain ⟨hcalls, -, hlast⟩ := List.pairwise_append.mp h
  obtain ⟨hwindow, hsize, hpresented⟩ := run_window g_ttlMs g_maxSize hcalls
    fun c hc => hlast c hc call (List.mem_singleton_self _)
  refine ⟨(hwindow.present hsize le_rfl).2, fun nonce hnonce hzero => ?_⟩
  obtain ⟨⟨-, -, dropped, kept, hlog, hs, -, hleft⟩, -⟩ := hwindow.evict le_rfl
  have hused : (nonceAlreadyBeenUsed g_ttlMs g_maxSize s.1 call).2 = true ↔
      ∃ e ∈ kept, e.1 = nonce := by
    have hkey : Base64.encode nonce ∈ (_evict g_ttlMs g_maxSize call.now s.1).map Prod.fst ↔
        ∃ e ∈ kept, e.1 = nonce := by
      rw [hs, List.map_map, List.mem_map]
      exact exists_congr fun e => and_congr_right fun _ => ⟨encode_inj, fun heq => congrArg _ heq⟩
    simp only [nonceAlreadyBeenUsed, hnonce, isEmptyNonce_eq_false hzero, Bool.false_eq_true, if_false]
    rw [← hkey]
    split_ifs with hmem
    · exact iff_of_true rfl hmem
    · exact iff_of_false id hmem
  constructor
  · intro hnew
    rw [← Bool.not_eq_true, hused]
    rintro ⟨e, he, rfl⟩
    obtain ⟨c, hc, heq⟩ := hpresented e (hlog ▸ List.mem_append_right _ he)
    exact hnew c hc heq
  · intro before t after hat _ hyoung hfew
    rw [hused]
    have hin : ¬ before.length < dropped.length := by
      intro hlt
      rcases hleft before _ after hat hlt with hold | hmany
      · dsimp only at hold
        omega
      · omega
    obtain ⟨more, hmore⟩ : dropped <+: before :=
      List.prefix_of_prefix_length_le (hlog ▸ List.prefix_append dropped kept)
        (hat ▸ List.prefix_append before _) (Nat.not_lt.mp hin)
    refine ⟨(nonce, t), ?_, rfl⟩
    have hsplit : dropped ++ kept = dropped ++ (more ++ (nonce, t) :: after) := by
      rw [← List.append_assoc, hmore, ← hat, ← hlog]
    rw [List.append_cancel_left hsplit]
    simp

/-- The first of two nonces is presented again. -/
theorem nonces_detected_again :
    (nonceAlreadyBeenUsed 100 2 (Mealy.run (presentNonce 100 2) [] [⟨0, some [1]⟩, ⟨5, some [2]⟩]).1
      ⟨9, some [1]⟩).2 = true :=
  ((nonces_detected 100 2 [⟨0, some [1]⟩, ⟨5, some [2]⟩] ⟨9, some [1]⟩ (by decide)).2 [1] rfl
    ⟨1, by decide, by decide⟩).2 [] 0 [([2], 5)] (by decide) (by decide) (by decide) (by decide)

end NodeOpcua
