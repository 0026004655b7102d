import NodeOpcua.Library.Framing
import NodeOpcua.PacketAssembler.Basic

set_option autoImplicit false

/-!
# The packet assembler does not depend on the fragmentation

Between two calls the assembler holds the beginning of one chunk, whatever the pieces it came in.
Every byte fed is accounted for: it is in an emitted chunk, in what the assembler holds, or behind
a malformed header. As a stream is cut into chunks in one way only, the emitted chunks are those
of the stream.

## Main definitions

* `PacketAssembler.Holds`, `PacketAssembler.Accounted`.

## Main results

* `PacketAssembler.feed_eq`, `PacketAssembler.feed_accounted`, `run_accounted`,
  `PacketAssembler.rawAssembler_fragmentation`.
-/

namespace NodeOpcua

open List (nil_append length_append append_assoc)

namespace PacketAssembler

open Framing

/-- The length of a chunk according to its header: none when the header cannot be read, or gives
a length out of bounds. -/
def chunkLength (options : PacketAssemblerOptions) (b : Buffer) : Option ℕ :=
  match options.readChunkFunc b with
  | .ok info =>
    if options.minimumSizeInBytes ≤ info.length ∧ info.length ≤ options.maxChunkSize then
      some info.length
    else none
  | .error _ => none

/-- The bytes the assembler keeps are `held`. -/
structure Keeps (s : PacketAssembler) (held : Buffer) : Prop where
  stack : s._stack.flatten = held
  current : s.currentLength = held.length

/-- **The invariant between two calls**: the assembler holds the beginning of one chunk, and knows
its length as soon as the header is complete. -/
structure Holds (options : PacketAssemblerOptions) (s : PacketAssembler) (held : Buffer) : Prop
    extends Keeps s held where
  idle : s.expectedLength = 0 → held.length < options.minimumSizeInBytes
  busy : s.expectedLength ≠ 0 → options.minimumSizeInBytes ≤ held.length ∧
    chunkLength options held = some s.expectedLength ∧ held.length < s.expectedLength

/-- The invariant between the two parts of a call: as `Holds`, for the bytes kept together with
the data at hand. -/
structure Reading (options : PacketAssemblerOptions) (s : PacketAssembler) (held data : Buffer) :
    Prop extends Keeps s held where
  idle : s.expectedLength = 0 → held.length + data.length < options.minimumSizeInBytes
  busy : s.expectedLength ≠ 0 →
    options.minimumSizeInBytes ≤ held.length + data.length ∧
    chunkLength options (held ++ data) = some s.expectedLength ∧ held.length < s.expectedLength

/-- The state between two chunks. -/
def ready (s : PacketAssembler) : PacketAssembler :=
  { s with _stack := [], currentLength := 0, expectedLength := 0 }

/-- What calls did with the bytes `input`: they cut chunks off it and hold the rest; or, after
some chunks, they met a malformed header. -/
def Accounted (options : PacketAssemblerOptions) (input : Buffer)
    (r : PacketAssembler × List Event) : Prop :=
  (∃ held, Holds options r.1 held ∧ (∀ e ∈ r.2, e.isFailure = false) ∧
    (∀ c ∈ emittedChunks r.2, IsFrame options.minimumSizeInBytes (chunkLength options) c) ∧
    (emittedChunks r.2).flatten ++ held = input) ∨
  (∃ (done : List Buffer) (bad rest : Buffer),
    (∀ c ∈ done, IsFrame options.minimumSizeInBytes (chunkLength options) c) ∧
    Malformed options.minimumSizeInBytes (chunkLength options) bad ∧
    done.flatten ++ (bad ++ rest) = input)

section

variable {options : PacketAssemblerOptions}

lemma _buildData_eq (s : PacketAssembler) (data : Buffer) :
    s._buildData data = (s._stack.flatten ++ data, { s with _stack := [] }) := by
  obtain ⟨stack, expected, current, info⟩ := s
  unfold _buildData
  split_ifs with h
  · obtain rfl : stack = [] := List.length_eq_zero_iff.mp h
    rfl
  · simp

lemma minimumSizeInBytes_le_of_chunkLength {b : Buffer} {n : ℕ}
    (h : chunkLength options b = some n) : options.minimumSizeInBytes ≤ n := by
  unfold chunkLength at h
  split at h
  · split_ifs at h with hb
    exact Option.some.inj h ▸ hb.1
  · cases h

variable {s : PacketAssembler}

lemma Holds.incomplete {held : Buffer} (hs : Holds options s held) :
    Incomplete options.minimumSizeInBytes (chunkLength options) held := by
  by_cases h : s.expectedLength = 0
  · exact .inl (hs.idle h)
  · obtain ⟨hlen, hsize, hlt⟩ := hs.busy h
    exact .inr ⟨hlen, _, hsize, hlt⟩

section Minimum

variable (hmin : 0 < options.minimumSizeInBytes)

include hmin

lemma holds_ready (s : PacketAssembler) : Holds options s.ready [] :=
  ⟨⟨rfl, rfl⟩, fun _ => hmin, fun h => absurd rfl h⟩

lemma holds_init : Holds options {} [] := holds_ready hmin {}

end Minimum

/-! ### The two parts of a call -/

lemma _readHeader_of_busy (h : s.expectedLength ≠ 0) (data : Buffer) :
    _readHeader options s data = .ok (s, data, []) := by
  simp [_readHeader, h]

lemma _readHeader_of_short {data : Buffer}
    (h : s.currentLength + data.length < options.minimumSizeInBytes) :
    _readHeader options s data = .ok (s, data, []) := by
  simp [_readHeader, Nat.not_le.mpr h]

/-- The state once the kept pieces have been joined with the data at hand. -/
def joined (s : PacketAssembler) : PacketAssembler := { s with _stack := [], currentLength := 0 }

variable {held data : Buffer}

lemma _readHeader_of_idle (hs : Keeps s held)
    (h : s.expectedLength = 0) (hlen : options.minimumSizeInBytes ≤ held.length + data.length) :
    _readHeader options s data =
      match options.readChunkFunc (held ++ data) with
      | .error e => .error (s.joined, [.exception e.message])
      | .ok info =>
        if info.length < options.minimumSizeInBytes then
          .error ({ s.joined with packetInfo := some info },
            [.error "chunk is too small " .ChunkTooSmall])
        else if info.length > options.maxChunkSize then
          .error ({ s.joined with packetInfo := some info }, [.error
            s!"maximum chunk size exceeded (maxChunkSize={options.maxChunkSize} current chunk size = {info.length})"
            .ChunkSizeExceeded])
        else .ok ({ s.joined with packetInfo := some info, expectedLength := info.length },
          held ++ data, [.startChunk info (held ++ data)]) := by
  have hcond : s.expectedLength = 0 ∧
      s.currentLength + data.length ≥ options.minimumSizeInBytes :=
    ⟨h, by rw [hs.current]; exact hlen⟩
  unfold _readHeader
  rw [if_pos hcond]
  obtain ⟨stack, expected, current, info⟩ := s
  obtain ⟨hstack, hcur⟩ := hs
  dsimp only at hstack hcur h ⊢
  subst hstack h
  by_cases hnil : stack = []
  · subst hnil
    subst hcur
    rfl
  · have hpos : stack.length > 0 := List.length_pos_iff.mpr hnil
    simp only [if_pos hpos, _buildData_eq, ne_eq, not_true_eq_false, if_false]
    rfl

section Prefix

variable (hread : ∀ b c, options.minimumSizeInBytes ≤ b.length →
  options.readChunkFunc (b ++ c) = options.readChunkFunc b)

include hread

lemma chunkLength_append (b c : Buffer) (h : options.minimumSizeInBytes ≤ b.length) :
    chunkLength options (b ++ c) = chunkLength options b := by
  unfold chunkLength
  rw [hread b c h]

/-- **The header part**: either the call ends on a malformed header, or the length of the chunk in
progress is known as soon as there are enough bytes.

**Proof sketch.** In the first branch of the source the kept pieces are joined with the data, so
that the state keeps nothing and the header is at the start of the data. In the other branch there
are too few bytes, or the length is known already. -/
lemma _readHeader_spec {s : PacketAssembler} {held : Buffer} (hs : Holds options s held)
    (hmin : 0 < options.minimumSizeInBytes) (data : Buffer) :
    (∃ r, _readHeader options s data = .error r ∧ Holds options r.1 [] ∧
      Malformed options.minimumSizeInBytes (chunkLength options) (held ++ data)) ∨
    (∃ s' held' data' events, _readHeader options s data = .ok (s', data', events) ∧
      Reading options s' held' data' ∧ held' ++ data' = held ++ data ∧
      emittedChunks events = [] ∧ ∀ e ∈ events, e.isFailure = false) := by
  by_cases h : s.expectedLength = 0
  · by_cases hlen : held.length + data.length < options.minimumSizeInBytes
    · exact .inr ⟨s, held, data, [], _readHeader_of_short (by rw [hs.current]; exact hlen),
        ⟨hs.toKeeps, fun _ => hlen, fun hne => absurd h hne⟩, rfl, rfl, by simp⟩
    · rw [Nat.not_lt] at hlen
      rw [_readHeader_of_idle hs.toKeeps h hlen]
      have hjoined : ∀ info, Holds options { s.joined with packetInfo := info } [] :=
        fun info => ⟨⟨rfl, rfl⟩, fun _ => hmin, fun hne => absurd h hne⟩
      have hlen' : options.minimumSizeInBytes ≤ (held ++ data).length := by
        rw [length_append]; exact hlen
      split
      next e heq =>
        refine .inl ⟨_, rfl, hjoined s.packetInfo, hlen', ?_⟩
        simp only [chunkLength, heq]
      next info heq =>
        split_ifs with hsmall hlarge
        · refine .inl ⟨_, rfl, hjoined _, hlen', ?_⟩
          simp only [chunkLength, heq, Nat.not_le.mpr hsmall, false_and, if_false]
        · refine .inl ⟨_, rfl, hjoined _, hlen', ?_⟩
          simp only [chunkLength, heq, Nat.not_le.mpr hlarge, and_false, if_false]
        · rw [Nat.not_lt] at hsmall hlarge
          refine .inr ⟨_, [], _, _, rfl, ⟨⟨rfl, rfl⟩, ?_, fun _ => ⟨?_, ?_, ?_⟩⟩, rfl, rfl, ?_⟩
          · intro hzero
            have hzero : info.length = 0 := hzero
            omega
          · rw [length_append, List.length_nil, Nat.zero_add]; exact hlen
          · simp only [nil_append, chunkLength, heq, hsmall, hlarge, and_self, if_true]
          · exact Nat.lt_of_lt_of_le hmin hsmall
          · simp [Event.isFailure]
  · obtain ⟨hlen, hsize, hlt⟩ := hs.busy h
    refine .inr ⟨s, held, data, [], _readHeader_of_busy h data,
      ⟨hs.toKeeps, fun hzero => absurd hzero h, fun _ => ⟨by omega, ?_, hlt⟩⟩, rfl, rfl, by simp⟩
    rw [chunkLength_append hread held data hlen, hsize]

end Prefix

/-- The state once a piece has been put on the stack. -/
def keep (s : PacketAssembler) (data : Buffer) : PacketAssembler :=
  { s with _stack := s._stack ++ [data], currentLength := s.currentLength + data.length }

lemma _consume_kept (recur : PacketAssembler → Buffer → PacketAssembler × List Event)
    (hs : Keeps s held) (h : s.expectedLength = 0 ∨ held.length + data.length < s.expectedLength) :
    _consume recur s data = (s.keep data, []) := by
  unfold _consume
  rw [hs.current, if_pos h, keep, hs.current]

lemma Reading.keep (hs : Reading options s held data)
    (h : s.expectedLength = 0 ∨ held.length + data.length < s.expectedLength) :
    Holds options (s.keep data) (held ++ data) := by
  refine ⟨⟨?_, ?_⟩, ?_, ?_⟩
  · simp [PacketAssembler.keep, hs.stack]
  · simp [PacketAssembler.keep, hs.current]
  · intro hzero
    rw [length_append]
    exact hs.idle hzero
  · intro hne
    rw [length_append]
    obtain ⟨hlen, hsize, -⟩ := hs.busy hne
    exact ⟨hlen, hsize, h.resolve_left hne⟩

lemma _consume_exact (recur : PacketAssembler → Buffer → PacketAssembler × List Event)
    (hs : Keeps s held)
    (h : s.expectedLength ≠ 0) (hlen : held.length + data.length = s.expectedLength) :
    _consume recur s data = (s.ready, [.chunk (held ++ data)]) := by
  unfold _consume
  rw [hs.current, if_neg (by omega), if_pos hlen, _buildData_eq, hs.stack]
  rfl

lemma _consume_split {recur : PacketAssembler → Buffer → PacketAssembler × List Event}
    (hs : Keeps s held) (hlt : held.length < s.expectedLength)
    (hlen : s.expectedLength < held.length + data.length)
    (hrecur : ∀ d, held.length + d.length = s.expectedLength →
      recur s d = (s.ready, [.chunk (held ++ d)])) :
    _consume recur s data =
      let rest := recur s.ready (data.drop (s.expectedLength - held.length))
      (rest.1, .chunk (held ++ data.take (s.expectedLength - held.length)) :: rest.2) := by
  have htake : held.length + (data.take (s.expectedLength - held.length)).length =
      s.expectedLength := by
    rw [List.length_take]; omega
  have hdrop : (data.drop (s.expectedLength - held.length)).length > 0 := by
    rw [List.length_drop]; omega
  unfold _consume
  rw [hs.current, if_neg (by omega), if_neg (by omega)]
  simp only [if_pos (show s.expectedLength - held.length > 0 by omega), hrecur _ htake,
    if_pos hdrop, List.singleton_append]

/-! ### One call -/

/-- A call given exactly the missing bytes emits the chunk in progress. -/
def CompletesExactly (recur : PacketAssembler → Buffer → PacketAssembler × List Event) : Prop :=
  ∀ (s : PacketAssembler) (held data : Buffer), Keeps s held → s.expectedLength ≠ 0 →
    held.length + data.length = s.expectedLength →
    recur s data = (s.ready, [.chunk (held ++ data)])

/-- At any positive fuel `feed` completes a chunk given exactly the missing bytes. -/
lemma feedAux_completesExactly (fuel : ℕ) : CompletesExactly (feedAux options (fuel + 1)) := by
  intro s held data hs h hlen
  simp only [feedAux, feedWith, _readHeader_of_busy h, _consume_exact _ hs h hlen,
    nil_append]

lemma feed_completesExactly : CompletesExactly (feed options) :=
  fun s held data => feedAux_completesExactly data.length s held data

section Prefix

variable (hread : ∀ b c, options.minimumSizeInBytes ≤ b.length →
  options.readChunkFunc (b ++ c) = options.readChunkFunc b)
variable (hmin : 0 < options.minimumSizeInBytes)

include hread hmin

variable {s : PacketAssembler} {held : Buffer}

/-- **One call of `feed`**: either it makes no recursive call and its bytes are accounted for, or
it emits a chunk and goes on with a rest that is shorter than the data.

**Proof sketch.** Cases on the header part, then on the three branches of the second part. The
recursive call on the missing bytes is known in advance (`CompletesExactly`); the rest is shorter
than the data because what was held did not complete the chunk. -/
lemma feedWith_cases (hs : Holds options s held) (data : Buffer) :
    (∃ r, (∀ recur, feedWith options recur s data = r) ∧
      Accounted options (held ++ data) r ∧ ∃ held', Holds options r.1 held') ∨
    (∃ s' chunk rest events,
      (∀ recur, CompletesExactly recur → feedWith options recur s data =
        ((recur s' rest).1, events ++ .chunk chunk :: (recur s' rest).2)) ∧
      Holds options s' [] ∧ emittedChunks events = [] ∧ (∀ e ∈ events, e.isFailure = false) ∧
      IsFrame options.minimumSizeInBytes (chunkLength options) chunk ∧
      chunk ++ rest = held ++ data ∧ rest.length < data.length) := by
  rcases _readHeader_spec hread hs hmin data with
    ⟨r, hheader, hheld, hbad⟩ | ⟨s', held', data', events, hheader, hreading, hjoin, hnone, hok⟩
  · -- the header is malformed
    refine .inl ⟨r, fun recur => by simp only [feedWith, hheader], ?_, [], hheld⟩
    exact .inr ⟨[], held ++ data, [], by simp, hbad, by simp⟩
  have hfeed : ∀ recur, feedWith options recur s data =
      ((_consume recur s' data').1, events ++ (_consume recur s' data').2) := by
    intro recur
    simp only [feedWith, hheader]
  have hlength : held'.length + data'.length = held.length + data.length := by
    rw [← length_append, hjoin, length_append]
  by_cases hkept : s'.expectedLength = 0 ∨ held'.length + data'.length < s'.expectedLength
  · -- the data is kept
    have hheld := hreading.keep hkept
    refine .inl ⟨(s'.keep data', events), ?_, .inl ⟨held' ++ data', hheld, hok, ?_, ?_⟩, _, hheld⟩
    · intro recur
      rw [hfeed, _consume_kept recur hreading.toKeeps hkept, List.append_nil]
    · simp [hnone]
    · simp [hnone, hjoin]
  · rw [not_or, Nat.not_lt] at hkept
    obtain ⟨hne, hle⟩ := hkept
    obtain ⟨hmin', hsize, hlt⟩ := hreading.busy hne
    have hframe : ∀ chunk : Buffer, chunk.length = s'.expectedLength →
        (∃ rest, chunk ++ rest = held' ++ data') →
        IsFrame options.minimumSizeInBytes (chunkLength options) chunk := by
      intro chunk hchunk hrest
      obtain ⟨rest, hrest⟩ := hrest
      have hlen : options.minimumSizeInBytes ≤ chunk.length := by
        rw [hchunk]; exact minimumSizeInBytes_le_of_chunkLength hsize
      exact ⟨hlen, by rw [← chunkLength_append hread chunk rest hlen, hrest, hsize, hchunk]⟩
    by_cases hexact : held'.length + data'.length = s'.expectedLength
    · -- the data completes the chunk
      refine .inl ⟨(s'.ready, events ++ [.chunk (held' ++ data')]), ?_, .inl ⟨[], ?_⟩, [], ?_⟩
      · intro recur
        rw [hfeed, _consume_exact recur hreading.toKeeps hne hexact]
      · refine ⟨holds_ready hmin _, ?_, ?_, ?_⟩
        · simpa [or_imp, forall_and, Event.isFailure] using hok
        · simpa [hnone] using
            hframe (held' ++ data') (by rw [length_append, hexact]) ⟨[], by simp⟩
        · simp [hnone, hjoin]
      · exact holds_ready hmin _
    · -- the data holds more than the chunk
      have hlong : s'.expectedLength < held'.length + data'.length := by omega
      refine .inr ⟨s'.ready, held' ++ data'.take (s'.expectedLength - held'.length),
        data'.drop (s'.expectedLength - held'.length), events, ?_, holds_ready hmin _, hnone, hok,
        ?_, ?_, ?_⟩
      · intro recur hrecur
        rw [hfeed, _consume_split hreading.toKeeps hlt hlong
          fun d hd => hrecur s' held' d hreading.toKeeps hne hd]
      · refine hframe _ ?_ ⟨data'.drop (s'.expectedLength - held'.length), ?_⟩
        · rw [length_append, List.length_take]; omega
        · rw [append_assoc, List.take_append_drop]
      · rw [append_assoc, List.take_append_drop, hjoin]
      · rw [List.length_drop]
        have hheld : held.length < s'.expectedLength := by
          rcases hs.incomplete with hshort | ⟨hlen, n, hn, hheld⟩
          · exact Nat.lt_of_lt_of_le hshort (minimumSizeInBytes_le_of_chunkLength hsize)
          · rw [hjoin, chunkLength_append hread held data hlen, hn, Option.some_inj] at hsize
            exact hsize ▸ hheld
        omega

/-- **Fuel** beyond the length of the data changes nothing. -/
lemma feedAux_fuel {fuel fuel' : ℕ} {held data : Buffer}
    (hs : Holds options s held) (h : data.length < fuel) (h' : data.length < fuel') :
    feedAux options fuel s data = feedAux options fuel' s data := by
  induction fuel generalizing fuel' s held data with
  | zero => exact absurd h (Nat.not_lt_zero _)
  | succ n ih =>
    obtain ⟨m, rfl⟩ := Nat.exists_eq_succ_of_ne_zero (show fuel' ≠ 0 by omega)
    simp only [feedAux]
    rcases feedWith_cases hread hmin hs data with
      ⟨r, hr, -, -⟩ | ⟨s', chunk, rest, events, hfeed, hs', -, -, -, -, hrest⟩
    · rw [hr, hr]
    · obtain ⟨n, rfl⟩ := Nat.exists_eq_succ_of_ne_zero (show n ≠ 0 by omega)
      obtain ⟨m, rfl⟩ := Nat.exists_eq_succ_of_ne_zero (show m ≠ 0 by omega)
      rw [hfeed _ (feedAux_completesExactly n), hfeed _ (feedAux_completesExactly m),
        ih hs' (by omega) (show rest.length < m + 1 by omega)]

/-- **The equation of `feed`**, without fuel: its recursive calls are calls of `feed`. -/
theorem feed_eq (hs : Holds options s held)
    (data : Buffer) : feed options s data = feedWith options (feed options) s data := by
  have hunfold : feed options s data = feedWith options (feedAux options data.length) s data := rfl
  rw [hunfold]
  rcases feedWith_cases hread hmin hs data with
    ⟨r, hr, -, -⟩ | ⟨s', chunk, rest, events, hfeed, hs', -, -, -, -, hrest⟩
  · rw [hr, hr]
  · obtain ⟨n, hn⟩ := Nat.exists_eq_succ_of_ne_zero (show data.length ≠ 0 by omega)
    rw [hn, hfeed _ (feedAux_completesExactly n), hfeed _ feed_completesExactly,
      feedAux_fuel hread hmin hs' (show rest.length < n + 1 by omega)
        (Nat.lt_succ_self rest.length)]
    rfl

omit hread hmin in
lemma Accounted.trans {input more : Buffer} {r r' : PacketAssembler × List Event}
    (h : Accounted options input r)
    (h' : ∀ held, Holds options r.1 held → Accounted options (held ++ more) r') :
    Accounted options (input ++ more) (r'.1, r.2 ++ r'.2) := by
  rcases h with ⟨held, hheld, hok, hframes, rfl⟩ | ⟨done, bad, rest, hframes, hbad, rfl⟩
  · rcases h' held hheld with
      ⟨held', hheld', hok', hframes', heq⟩ | ⟨done, bad, rest, hframes', hbad, heq⟩
    · refine .inl ⟨held', hheld', ?_, ?_, ?_⟩
      · exact fun e he => (List.mem_append.mp he).elim (hok e) (hok' e)
      · rw [emittedChunks_append]
        exact fun c hc => (List.mem_append.mp hc).elim (hframes c) (hframes' c)
      · simp only [emittedChunks_append, List.flatten_append, append_assoc, heq]
    · refine .inr ⟨emittedChunks r.2 ++ done, bad, rest, ?_, hbad, ?_⟩
      · exact fun c hc => (List.mem_append.mp hc).elim (hframes c) (hframes' c)
      · simp only [List.flatten_append, append_assoc, heq]
  · exact .inr ⟨done, bad, rest ++ more, hframes, hbad, by simp⟩

/-- **The bytes of a call are accounted for**, and the invariant holds after it, whatever the
bytes are.

**Proof sketch.** Induction on the length of the data, by `feed_eq` and `feedWith_cases`. -/
theorem feed_accounted (hs : Holds options s held) (data : Buffer) :
    Accounted options (held ++ data) (feed options s data) ∧
      ∃ held', Holds options (feed options s data).1 held' := by
  induction hn : data.length using Nat.strongRecOn generalizing s held data with
  | _ n ih =>
    rw [feed_eq hread hmin hs]
    rcases feedWith_cases hread hmin hs data with
      ⟨r, hr, hacc, hheld⟩ |
        ⟨s', chunk, rest, events, hfeed, hs', hnone, hok, hframe, hjoin, hrest⟩
    · rw [hr]
      exact ⟨hacc, hheld⟩
    · have hchunk : Accounted options chunk (s', events ++ [.chunk chunk]) := by
        refine .inl ⟨[], hs', ?_, ?_, ?_⟩
        · simpa [or_imp, forall_and, Event.isFailure] using hok
        · simpa [hnone] using hframe
        · simp [hnone]
      have hgo : ∀ held', Holds options s' held' →
          Accounted options (held' ++ rest) (feed options s' rest) ∧
            ∃ held'', Holds options (feed options s' rest).1 held'' :=
        fun held' hheld => ih rest.length (hn ▸ hrest) hheld rest rfl
      have hacc := hchunk.trans fun held' hheld => (hgo held' hheld).1
      rw [append_assoc, List.singleton_append] at hacc
      rw [hfeed _ feed_completesExactly, ← hjoin]
      exact ⟨hacc, (hgo [] hs').2⟩

/-- **The bytes of a list of calls are accounted for.** -/
theorem run_accounted (hs : Holds options s held) (pieces : List Buffer) :
    Accounted options (held ++ pieces.flatten) (Mealy.run (feed options) s pieces) := by
  induction pieces generalizing s held with
  | nil => exact .inl ⟨held, hs, by simp, by simp, by simp⟩
  | cons data pieces ih =>
    rw [List.flatten_cons, ← append_assoc]
    exact (feed_accounted hread hmin hs data).1.trans fun held' hheld => ih hheld

/-- **Fragmentation**: pieces that make up a stream of chunks give back those chunks and report no
failure.

**Proof sketch.** By `run_accounted` the emitted chunks and what is held make up the stream, or
the stream has a malformed header behind some chunks. As frames are prefix-free, the former can
only be the given chunks, with nothing held, and the latter is impossible. -/
theorem run_packets {packets pieces : List Buffer}
    (hpack : ∀ p ∈ packets, IsFrame options.minimumSizeInBytes (chunkLength options) p)
    (hcut : pieces.flatten = packets.flatten) :
    emittedChunks (run options pieces).2 = packets ∧
      ∀ e ∈ (run options pieces).2, e.isFailure = false := by
  have hsize := chunkLength_append hread
  have hacc := run_accounted hread hmin (holds_init hmin) pieces
  rw [nil_append, hcut] at hacc
  rcases hacc with ⟨held, hheld, hok, hframes, heq⟩ | ⟨done, bad, rest, hframes, hbad, heq⟩
  · exact ⟨(frames_eq hsize hmin hframes hpack hheld.incomplete heq).1, hok⟩
  · exact absurd heq (frames_not_malformed hsize hmin hframes hpack hbad)

end Prefix

end

/-! ### The assembler of the transport and of the message builder -/

/-- **Fragmentation independence**: a stream of packets, each with the length its header says,
between eight bytes and the maximum chunk size, gives back exactly its packets and no error,
however it is cut into pieces. -/
theorem rawAssembler_fragmentation (maxChunkSize : ℕ) (packets pieces : List Buffer)
    (hpackets : ∀ p ∈ packets, ∃ info, readRawMessageHeader p = .ok info ∧
      info.length = p.length ∧ 8 ≤ info.length ∧ info.length ≤ maxChunkSize)
    (hcut : pieces.flatten = packets.flatten) :
    emittedChunks (run (rawAssembler maxChunkSize) pieces).2 = packets ∧
      ∀ e ∈ (run (rawAssembler maxChunkSize) pieces).2, e.isFailure = false := by
  refine run_packets (fun b c h => readRawMessageHeader_append h c) (Nat.succ_pos 7) ?_ hcut
  intro p hp
  obtain ⟨info, hinfo, hlen, hge, hle⟩ := hpackets p hp
  refine ⟨hlen ▸ hge, ?_⟩
  have hbounds : (rawAssembler maxChunkSize).minimumSizeInBytes ≤ info.length ∧
      info.length ≤ (rawAssembler maxChunkSize).maxChunkSize := ⟨hge, hle⟩
  simp only [chunkLength, rawAssembler, hinfo, hlen] at hbounds ⊢
  rw [if_pos hbounds]

/-- Two packets, cut inside the first header and across the boundary. -/
theorem rawAssembler_fragmentation_two :
    emittedChunks (run (rawAssembler 8192)
      [[0x4d, 0x53], [0x47, 0x46, 9, 0], [0, 0, 1, 0x4d], [0x53, 0x47, 0x46, 8, 0, 0, 0]]).2 =
        [[0x4d, 0x53, 0x47, 0x46, 9, 0, 0, 0, 1], [0x4d, 0x53, 0x47, 0x46, 8, 0, 0, 0]] ∧
    ∀ e ∈ (run (rawAssembler 8192)
      [[0x4d, 0x53], [0x47, 0x46, 9, 0], [0, 0, 1, 0x4d], [0x53, 0x47, 0x46, 8, 0, 0, 0]]).2,
      e.isFailure = false := by
  refine rawAssembler_fragmentation 8192 _ _ ?_ (by decide)
  intro p hp
  simp only [List.mem_cons, List.not_mem_nil, or_false] at hp
  rcases hp with rfl | rfl
  · exact ⟨⟨9, ⟨"MSG", "F", 9⟩, ""⟩, by rfl, by decide, by decide, by decide⟩
  · exact ⟨⟨8, ⟨"MSG", "F", 8⟩, ""⟩, by rfl, by decide, by decide, by decide⟩

end PacketAssembler

end NodeOpcua
