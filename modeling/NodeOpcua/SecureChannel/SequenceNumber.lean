import NodeOpcua.Library.Mealy
import NodeOpcua.Library.Consecutive
import NodeOpcua.MessageHeader

set_option autoImplicit false

/-!
# Sequence numbers

The sender numbers its chunks with a `SequenceNumberGenerator`; the receiver checks in
`MessageBuilder.#_validateSequenceNumber` that each number is one above the previous one. OPN and
MSG chunks of a channel draw from the same generator and are checked by the same builder, so a
channel is the list of its sequence headers.

## Main definitions

* `SequenceNumberGenerator.next`, `_validateSequenceNumber`, `sentSequenceHeaders`, `acceptsAll`.
-/

namespace NodeOpcua

open Consecutive
open SequenceHeader (encode decode)

/-! ### The sender -/

/-- The counter of a sender. -/
structure SequenceNumberGenerator where
  _counter : ℕ := 1
  deriving DecidableEq, Repr

namespace SequenceNumberGenerator

/-- The number after which the counter wraps. -/
def MAXVALUE : ℕ := 4294966271

/-- `next`: the current number, and the generator after it. -/
def next (g : SequenceNumberGenerator) : ℕ × SequenceNumberGenerator :=
  (g._counter, { _counter := if g._counter + 1 > MAXVALUE then 1 else g._counter + 1 })

/-- `future`: the number `next` will give. -/
def future (g : SequenceNumberGenerator) : ℕ := g._counter

lemma next_snd {g : SequenceNumberGenerator} (h : g._counter < MAXVALUE) :
    g.next.2 = { _counter := g._counter + 1 } := by
  simp only [next, if_neg (Nat.not_lt.mpr h)]

end SequenceNumberGenerator

/-- `SecureMessageChunkManager.writeSequenceHeader`: the bytes of the sequence header of the next
chunk, for a message with the given request id. -/
def writeSequenceHeader (g : SequenceNumberGenerator) (requestId : ℕ) :
    SequenceNumberGenerator × List Buffer :=
  (g.next.2, [encode { sequenceNumber := g.next.1, requestId }])

/-- The sequence headers of the chunks sent on a channel, given the request id of each chunk. -/
def sentSequenceHeaders (g : SequenceNumberGenerator) (requestIds : List ℕ) : List Buffer :=
  (Mealy.run writeSequenceHeader g requestIds).2

/-! ### The receiver -/

/-- `#_validateSequenceNumber`: the new value of `#previousSequenceNumber`, or the text of the
error. The value -1 means that no number is known yet. -/
def _validateSequenceNumber (previousSequenceNumber : ℤ) (sequenceNumber : ℕ) :
    Except String ℤ :=
  if previousSequenceNumber ≠ -1 ∧ previousSequenceNumber + 1 ≠ sequenceNumber then
    .error s!"Invalid Sequence Number found ( expected {previousSequenceNumber + 1}, got {sequenceNumber})"
  else .ok sequenceNumber

/-- The receiver reads a sequence header and checks its number. -/
def receiveSequenceHeader (previousSequenceNumber : ℤ) (bytes : Buffer) : Except String ℤ :=
  match decode { buffer := bytes } with
  | .ok (sequenceHeader, _) =>
    _validateSequenceNumber previousSequenceNumber sequenceHeader.sequenceNumber
  | .error e => .error e.message

/-- Every chunk of the stream is accepted. -/
def acceptsAll (previousSequenceNumber : ℤ) : List Buffer → Bool
  | [] => true
  | bytes :: stream =>
    match receiveSequenceHeader previousSequenceNumber bytes with
    | .ok previousSequenceNumber => acceptsAll previousSequenceNumber stream
    | .error _ => false

lemma _validateSequenceNumber_eq_ok_iff {previous : ℤ} {n : ℕ} {p : ℤ} :
    _validateSequenceNumber previous n = .ok p ↔
      (previous = -1 ∨ previous + 1 = n) ∧ p = n := by
  unfold _validateSequenceNumber
  split_ifs with h
  · simp only [false_iff]
    omega
  · rw [Except.ok.injEq, eq_comm, iff_and_self]
    omega

lemma decode_of_length {b : Buffer} (h : b.length = 8) :
    decode { buffer := b } = .ok
      ({ sequenceNumber := leUInt32 b, requestId := leUInt32 (b.drop 4) },
        { buffer := b, length := 8 }) := by
  match b, h with
  | [_, _, _, _, _, _, _, _], _ => rfl

lemma receiveSequenceHeader_of_length (previous : ℤ) {b : Buffer} (h : b.length = 8) :
    receiveSequenceHeader previous b = _validateSequenceNumber previous (leUInt32 b) := by
  simp only [receiveSequenceHeader, decode_of_length h]

/-- A receiver that knows the number before `n` accepts the streams numbered from `n`. -/
lemma acceptsAll_known {n : ℕ} {stream : List Buffer} (hlen : ∀ b ∈ stream, b.length = 8)
    {previous : ℤ} (hprevious : previous + 1 = n) (hknown : previous ≠ -1) :
    acceptsAll previous stream = true ↔ From leUInt32 n stream := by
  induction stream generalizing n previous with
  | nil => simp [acceptsAll]
  | cons b stream ih =>
    rw [acceptsAll, receiveSequenceHeader_of_length previous (hlen b List.mem_cons_self), from_cons]
    split
    next p hp =>
      obtain ⟨hn, rfl⟩ := _validateSequenceNumber_eq_ok_iff.mp hp
      have hbn : leUInt32 b = n := by omega
      rw [ih (n := n + 1) (fun c hc => hlen c (List.mem_cons_of_mem _ hc)) (by omega) (by omega)]
      simp [hbn]
    next e he =>
      have hbn : leUInt32 b ≠ n := by
        intro hbn
        have hok : _validateSequenceNumber previous (leUInt32 b) = .ok (leUInt32 b : ℤ) :=
          _validateSequenceNumber_eq_ok_iff.mpr ⟨.inr (by omega), rfl⟩
        rw [hok] at he
        cases he
      simp [hbn]

/-- **What a receiver accepts**: a new one, any consecutively numbered stream; one that has
accepted the number `n - 1`, the streams numbered from `n`. -/
theorem acceptsAll_iff {stream : List Buffer} (hlen : ∀ b ∈ stream, b.length = 8) :
    (acceptsAll (-1) stream = true ↔ ∃ m, From leUInt32 m stream) ∧
    ∀ n : ℕ, 1 ≤ n → (acceptsAll (n - 1) stream = true ↔ From leUInt32 n stream) := by
  refine ⟨?_, fun n hn => acceptsAll_known hlen (by omega) (by omega)⟩
  cases stream with
  | nil => simp [acceptsAll]
  | cons b stream =>
    have hfirst : receiveSequenceHeader (-1) b = .ok (leUInt32 b : ℤ) := by
      rw [receiveSequenceHeader_of_length _ (hlen b List.mem_cons_self)]
      exact _validateSequenceNumber_eq_ok_iff.mpr ⟨.inl rfl, rfl⟩
    simp only [acceptsAll, hfirst, from_cons]
    rw [acceptsAll_known (n := leUInt32 b + 1) (fun c hc => hlen c (List.mem_cons_of_mem _ hc))
      (by omega) (by omega)]
    exact ⟨fun h => ⟨_, rfl, h⟩, by rintro ⟨m, rfl, h⟩; exact h⟩

/-! ### The two ends -/

variable {g : SequenceNumberGenerator}

lemma length_of_mem_sent {requestIds : List ℕ} :
    ∀ b ∈ sentSequenceHeaders g requestIds, b.length = 8 := by
  refine Mealy.run_output writeSequenceHeader (I := fun _ => True) (A := fun _ _ => True)
    (fun _ _ _ _ => trivial) ?_ trivial (Mealy.along_of_forall _ fun _ _ _ => trivial)
  intro g requestId _ _ b hb
  obtain rfl := List.mem_singleton.mp hb
  rfl

/-- **The sender** numbers consecutively up to the wrap. -/
theorem from_sent {requestIds : List ℕ}
    (hwrap : g._counter + requestIds.length ≤ SequenceNumberGenerator.MAXVALUE + 1) :
    From leUInt32 g._counter (sentSequenceHeaders g requestIds) := by
  induction requestIds generalizing g with
  | nil => trivial
  | cons requestId requestIds ih =>
    rw [List.length_cons] at hwrap
    refine ⟨leUInt32_uint32Bytes ?_ _, ?_⟩
    · simp only [SequenceNumberGenerator.next, SequenceNumberGenerator.MAXVALUE] at hwrap ⊢
      omega
    · cases requestIds with
      | nil => trivial
      | cons requestId' requestIds =>
        have hlt : g._counter < SequenceNumberGenerator.MAXVALUE := by
          rw [List.length_cons] at hwrap
          omega
        have hnext := SequenceNumberGenerator.next_snd hlt
        have hcount : g.next.2._counter = g._counter + 1 := by rw [hnext]
        rw [← hcount]
        exact ih (g := g.next.2) (by omega)

/-- **Sequence-number agreement**: as long as the generator does not wrap, a receiver that is new,
or has accepted the number before the first one, accepts every chunk sent. Of the streams made of
chunks sent, the former accepts the contiguous segments and the latter the prefixes; in
particular none with a chunk repeated, inner chunks missing, or two chunks exchanged. -/
theorem sequenceNumber_agreement (g : SequenceNumberGenerator) (requestIds : List ℕ)
    (hpos : 1 ≤ g._counter)
    (hwrap : g._counter + requestIds.length ≤ SequenceNumberGenerator.MAXVALUE + 1) :
    let sent := sentSequenceHeaders g requestIds
    (∀ p : ℤ, p = -1 ∨ p = g._counter - 1 → acceptsAll p sent = true) ∧
    (∀ stream : List Buffer, (∀ b ∈ stream, b ∈ sent) →
      (acceptsAll (-1) stream = true ↔ stream <:+: sent) ∧
      (acceptsAll (g._counter - 1) stream = true ↔ stream <+: sent)) ∧
    (∀ p : ℤ, p = -1 ∨ p = g._counter - 1 → ∀ xs ys zs : List Buffer,
      (sent = xs ++ ys ++ zs → xs ≠ [] → ys ≠ [] → zs ≠ [] → acceptsAll p (xs ++ zs) = false) ∧
      (∀ a, (∀ b ∈ xs ++ a :: ys ++ a :: zs, b ∈ sent) →
        acceptsAll p (xs ++ a :: ys ++ a :: zs) = false) ∧
      (∀ a b, sent = xs ++ a :: ys ++ b :: zs →
        acceptsAll p (xs ++ b :: ys ++ a :: zs) = false)) := by
  intro sent
  have hlen : ∀ b ∈ sent, b.length = 8 := length_of_mem_sent
  have hfrom : From leUInt32 g._counter sent := from_sent hwrap
  -- a stream accepted by either receiver is numbered consecutively
  have hnum : ∀ p : ℤ, p = -1 ∨ p = g._counter - 1 → ∀ stream : List Buffer,
      (∀ b ∈ stream, b ∈ sent) → acceptsAll p stream = true → ∃ m, From leUInt32 m stream := by
    intro p hp stream hmem h
    obtain ⟨hnew, hknown⟩ := acceptsAll_iff fun b hb => hlen b (hmem b hb)
    rcases hp with rfl | rfl
    · exact hnew.mp h
    · exact ⟨_, (hknown _ hpos).mp h⟩
  refine ⟨?_, ?_, fun p hp xs ys zs => ⟨?_, ?_, ?_⟩⟩
  · obtain ⟨hnew, hknown⟩ := acceptsAll_iff hlen
    rintro p (rfl | rfl)
    · exact hnew.mpr ⟨_, hfrom⟩
    · exact (hknown _ hpos).mpr hfrom
  · intro stream hmem
    obtain ⟨hnew, hknown⟩ := acceptsAll_iff fun b hb => hlen b (hmem b hb)
    refine ⟨hnew.trans ⟨fun ⟨m, hm⟩ => hfrom.infix_of_mem hm hmem, hfrom.of_infix⟩, ?_⟩
    exact (hknown _ hpos).trans ⟨fun h => hfrom.prefix_of_mem h hmem, hfrom.of_prefix⟩
  · intro hsent hxs hys hzs
    rw [Bool.eq_false_iff]
    intro h
    obtain ⟨m, hm⟩ := hnum p hp _ (by rw [hsent]; simp +contextual [or_imp]) h
    exact (hsent ▸ hfrom).not_gap hxs hys hzs hm
  · intro a hmem
    rw [Bool.eq_false_iff]
    intro h
    obtain ⟨m, hm⟩ := hnum p hp _ hmem h
    exact hm.not_replay
  · intro a b hsent
    rw [Bool.eq_false_iff]
    intro h
    obtain ⟨m, hm⟩ := hnum p hp _ (by rw [hsent]; simp +contextual [or_imp]) h
    exact (hsent ▸ hfrom).not_swap hm

/-- Three chunks of a new channel. -/
theorem sequenceNumber_agreement_three :
    let sent := sentSequenceHeaders {} [1, 1, 2]
    (∀ p : ℤ, p = -1 ∨ p = ((1 : ℕ) : ℤ) - 1 → acceptsAll p sent = true) ∧
    (∀ stream : List Buffer, (∀ b ∈ stream, b ∈ sent) →
      (acceptsAll (-1) stream = true ↔ stream <:+: sent) ∧
      (acceptsAll (((1 : ℕ) : ℤ) - 1) stream = true ↔ stream <+: sent)) ∧
    (∀ p : ℤ, p = -1 ∨ p = ((1 : ℕ) : ℤ) - 1 → ∀ xs ys zs : List Buffer,
      (sent = xs ++ ys ++ zs → xs ≠ [] → ys ≠ [] → zs ≠ [] → acceptsAll p (xs ++ zs) = false) ∧
      (∀ a, (∀ b ∈ xs ++ a :: ys ++ a :: zs, b ∈ sent) →
        acceptsAll p (xs ++ a :: ys ++ a :: zs) = false) ∧
      (∀ a b, sent = xs ++ a :: ys ++ b :: zs →
        acceptsAll p (xs ++ b :: ys ++ a :: zs) = false)) :=
  sequenceNumber_agreement {} [1, 1, 2] (by decide) (by decide)

/-- A new receiver accepts the stream of three chunks without its first chunk: it knows no number
yet, and takes whatever comes. -/
theorem acceptsAll_without_first :
    ¬ ∀ (g : SequenceNumberGenerator) (requestIds : List ℕ) (deleted rest : List Buffer),
      deleted ≠ [] → sentSequenceHeaders g requestIds = deleted ++ rest →
      acceptsAll (-1) rest = false := by
  intro h
  have := h {} [1, 1, 2] [encode ⟨1, 1⟩]
    [encode ⟨2, 1⟩, encode ⟨3, 2⟩] (by decide) (by decide)
  revert this
  decide

end NodeOpcua
