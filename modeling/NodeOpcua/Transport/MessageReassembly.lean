import NodeOpcua.Library.Reassembly
import NodeOpcua.Transport.MessageBuilderBase

set_option autoImplicit false

/-!
# Reassembly by the message builder

What each kind of chunk does to a message builder, and that the bodies it delivers are those of an
ideal reassembler, as long as an abort chunk meets a builder with nothing to forget.

## Main definitions

* `MessageBuilderBase.kindOf`.
* `MessageBuilderBase.pieceOf`, `MessageBuilderBase.AbortsIdle`, `MessageBuilderBase.Reassembles`.

## Main results

* `MessageBuilderBase.append_outcome`.
* `MessageBuilderBase.reassembles`.
-/

namespace NodeOpcua

namespace MessageBuilderBase

variable {σ ε ω : Type}

/-! ### The kinds of chunks -/

/-- What a chunk is, from its header. -/
inductive ChunkKind
  | malformed (message : String)
  | error
  | final
  | abort
  | intermediate
  | unknown
  deriving DecidableEq, Repr

/-- The kind of a chunk. -/
def kindOf (chunk : Buffer) : ChunkKind :=
  match readMessageHeader { buffer := chunk } with
  | .error e => .malformed e.message
  | .ok (messageHeader, _) =>
    if messageHeader.isFinal = "F" then
      if messageHeader.msgType = "ERR" then .error else .final
    else if messageHeader.isFinal = "A" then .abort
    else if messageHeader.isFinal = "C" then .intermediate
    else .unknown

variable (o : Overrides σ ε ω) (s : MessageBuilderBase σ) (chunk : Buffer)

/-- The reaction to a chunk of a given kind, apart from the "chunk" event. -/
def react : ChunkKind → MessageBuilderBase σ × List (Event ε)
  | .error => s.feedErrorMessage o chunk
  | .final => s.feedFinal o chunk
  | .abort => s.feedAbort chunk
  | .intermediate => s._append o chunk
  | _ => (s, [])

/-- **The dispatch** on the kind of a chunk. -/
lemma _feed_messageChunk_eq : s._feed_messageChunk o chunk =
    match kindOf chunk with
    | .malformed msg => (s, [.exception msg])
    | kind => ((s.react o chunk kind).1, .chunk chunk :: (s.react o chunk kind).2) := by
  unfold _feed_messageChunk kindOf
  cases readMessageHeader { buffer := chunk } with
  | error e => rfl
  | ok r =>
    dsimp only
    split_ifs <;> rfl

/-! ### Appending a chunk -/

/-- Nothing is held of a message in progress, when no chunk of it is. -/
def Fresh : Prop :=
  s.messageChunks = [] → s._blocks = [] ∧ s.totalMessageSize = 0 ∧ s.totalBodySize = 0

/-- The body of a chunk, as the headers are read now. -/
def bodyOf : Option Buffer :=
  match (o._read_headers s.toHeaders { buffer := chunk }).2 with
  | .ok stream => some (stream.buffer.drop stream.length)
  | .error _ => none

/-- What it means that a chunk is rejected: an error stands, the body collected so far stays as it
is, and at most the report of an error is emitted. -/
structure Rejected (r : MessageBuilderBase σ × List (Event ε)) : Prop where
  error : r.1._hasReceivedError = true
  blocks : r.1._blocks = s._blocks
  headers : r.1.toHeaders = s.toHeaders ∨
    r.1.toHeaders = (o._read_headers s.toHeaders { buffer := chunk }).1
  fresh : s.Fresh → r.1.Fresh
  events : ∀ e ∈ r.2, (∃ message statusCode requestId, e = .error message statusCode requestId) ∨
    ∃ report d, (o._read_headers s.toHeaders { buffer := chunk }).2 = .error report ∧
      d ∈ report.before ∧ e = .derived d

/-- What it means that a chunk is accepted: there was no error, its headers have been read, and its
body is kept behind those of the earlier chunks. -/
structure Accepted (r : MessageBuilderBase σ × List (Event ε)) : Prop where
  noError : s._hasReceivedError = false
  noError' : r.1._hasReceivedError = false
  read : ∃ body, bodyOf o s chunk = some body ∧ r.1._blocks = s._blocks ++ [body]
  headers : r.1.toHeaders = (o._read_headers s.toHeaders { buffer := chunk }).1
  messageChunks : r.1.messageChunks = s.messageChunks ++ [chunk]
  events : r.2 = []

/-- **A chunk is rejected or accepted.** -/
theorem append_outcome :
    Rejected o s chunk (s._append o chunk) ∨ Accepted o s chunk (s._append o chunk) := by
  unfold _append
  split_ifs with herror hcount
  · exact .inl ⟨herror, rfl, .inl rfl, id, fun e he => absurd he List.not_mem_nil⟩
  · refine .inl ⟨rfl, rfl, .inl rfl, id, fun e he => .inl ?_⟩
    exact ⟨_, _, _, List.mem_singleton.mp he⟩
  · dsimp only
    split_ifs with hsize
    · refine .inl ⟨rfl, rfl, .inl rfl, fun _ h => absurd h (by simp [_report_error]), fun e he => ?_⟩
      exact .inl ⟨_, _, _, List.mem_singleton.mp he⟩
    · cases hread : o._read_headers s.toHeaders { buffer := chunk } with
      | mk headers res =>
        cases res with
        | error report =>
          refine .inl ⟨rfl, rfl, .inr (by rw [hread]; rfl),
            fun _ h => absurd h (by simp [_report_error]), fun e he => ?_⟩
          rcases List.mem_append.mp he with he | he
          · obtain ⟨d, hd, rfl⟩ := List.mem_map.mp he
            exact .inr ⟨report, d, by rw [hread], hd, rfl⟩
          · exact .inl ⟨_, _, _, List.mem_singleton.mp he⟩
        | ok stream =>
          dsimp only
          unfold appendBlock
          split_ifs with hlen
          · refine .inl ⟨rfl, rfl, .inr (by rw [hread]; rfl),
              fun _ h => absurd h (by simp [_report_error]), fun e he => ?_⟩
            exact .inl ⟨_, _, _, List.mem_singleton.mp he⟩
          · have hnone : s._hasReceivedError = false := Bool.eq_false_iff.mpr herror
            refine .inr ⟨hnone, hnone, ⟨stream.buffer.drop stream.length, ?_, ?_⟩, ?_, rfl, rfl⟩
            · simp only [bodyOf, hread]
            · simp only [List.take_length]
            · rw [hread]

lemma append_fresh (h : s.Fresh) : (s._append o chunk).1.Fresh := by
  rcases append_outcome o s chunk with hr | ha
  · exact hr.fresh h
  · intro hnil
    rw [ha.messageChunks] at hnil
    exact absurd hnil (by simp)

/-! ### The ideal reassembler -/

/-- The body of a chunk that `#_append` accepts. -/
def acceptedBody : Option Buffer :=
  if (s._append o chunk).1._hasReceivedError then none else bodyOf o s chunk

/-- The reaction to an abort chunk. -/
abbrev abortOutcome (_ : Overrides σ ε ω) (s : MessageBuilderBase σ) (chunk : Buffer) :
    MessageBuilderBase σ × List (Event ε) :=
  s.feedAbort chunk

/-- The piece of a message that the builder accepts in a step: the body of an intermediate or of a
final chunk, or the end of a message given up. -/
def pieceOf (q : MessageBuilderBase σ × Input ω) : Option (Reassembly.Piece UInt8) :=
  match q.2 with
  | .packet (.chunk chunk) =>
    if q.1.feeding then
      match kindOf chunk with
      | .final => (acceptedBody o q.1 chunk).map .last
      | .intermediate => (acceptedBody o q.1 chunk).map .part
      | .abort => if (abortOutcome o q.1 chunk).1._hasReceivedError then none else some .abandon
      | _ => none
    else none
  | _ => none

/-- The bodies delivered. -/
def deliveredBody : Event ε → Option Buffer
  | .full_message_body body => some body
  | _ => none

/-- A step gives the builder an abort chunk. -/
def IsAbort (s : MessageBuilderBase σ) (input : Input ω) (chunk : Buffer) : Prop :=
  input = .packet (.chunk chunk) ∧ s.feeding = true ∧ kindOf chunk = .abort

/-- **Idle**: no error has been reported, no chunk of a message is held, and the fields of the
extending class are as they are before the first chunk of a channel. -/
structure Idle (fresh : σ → Prop) (s : MessageBuilderBase σ) : Prop where
  noError : s._hasReceivedError = false
  messageChunks : s.messageChunks = []
  derived : fresh s.derived

/-- An abort chunk meets an idle builder. -/
def AbortsIdle (fresh : σ → Prop) (s : MessageBuilderBase σ) (input : Input ω) : Prop :=
  ∀ chunk, IsAbort s input chunk → Idle fresh s

/-- **Ready** for a message whose first chunk has the given number: nothing is left of an earlier
message, no error stands, and the number is the one expected. -/
structure Ready (expects : σ → ℕ → Prop) (s : MessageBuilderBase σ) (sequenceNumber : ℕ) :
    Prop where
  noError : s._hasReceivedError = false
  blocks : s._blocks = []
  messageChunks : s.messageChunks = []
  totalMessageSize : s.totalMessageSize = 0
  expected : expects s.derived sequenceNumber

/-- **Reassembly** in a run: each body delivered is made of the accepted pieces of its message, in
order; an abort chunk leaves the builder ready for a chunk with the next number; and the builder
does not come back from an error it has reported. -/
structure Reassembles (expects : σ → ℕ → Prop) (s : MessageBuilderBase σ)
    (inputs : List (Input ω)) : Prop where
  bodies : (Mealy.run (step o) s inputs).2.filterMap deliveredBody =
    (Mealy.run Reassembly.step [] ((Mealy.trace (step o) s inputs).filterMap (pieceOf o))).2
  aborts : ∀ q ∈ Mealy.trace (step o) s inputs, ∀ chunk, IsAbort q.1 q.2 chunk →
    ∀ channelId tokenId sequenceHeader stream,
      readAbort { buffer := chunk, length := 8 } =
        .ok ((channelId, tokenId, sequenceHeader), stream) →
      Ready expects (step o q.1 q.2).1 (sequenceHeader.sequenceNumber + 1)
  errors : ∀ q ∈ Mealy.trace (step o) s inputs, q.1._hasReceivedError = true →
    (step o q.1 q.2).1._hasReceivedError = true

/-! ### The builder is an ideal reassembler -/

variable {o s chunk}

/-- The builder and the ideal reassembler hold the same parts, unless an error has ended the
former. -/
def Agrees (s : MessageBuilderBase σ) (parts : List Buffer) : Prop :=
  s.Fresh ∧ (s._hasReceivedError = true ∨ s._blocks = parts)

lemma accepted_of_acceptedBody {body : Buffer} (h : acceptedBody o s chunk = some body) :
    Accepted o s chunk (s._append o chunk) ∧
      (s._append o chunk).1._blocks = s._blocks ++ [body] := by
  unfold acceptedBody at h
  split_ifs at h with herror
  rcases append_outcome o s chunk with hr | ha
  · exact absurd hr.error herror
  · obtain ⟨body', hbody, hblocks⟩ := ha.read
    rw [h, Option.some_inj] at hbody
    exact ⟨ha, hbody ▸ hblocks⟩

lemma rejected_of_acceptedBody (h : acceptedBody o s chunk = none) :
    Rejected o s chunk (s._append o chunk) := by
  rcases append_outcome o s chunk with hr | ha
  · exact hr
  · obtain ⟨body, hbody, -⟩ := ha.read
    rw [acceptedBody, ha.noError', if_neg Bool.false_ne_true, hbody] at h
    exact absurd h (Option.some_ne_none body)

variable {r : MessageBuilderBase σ × List (Event ε)}

lemma Rejected.delivers (h : Rejected o s chunk r) :
    r.2.filterMap deliveredBody = [] := by
  refine List.filterMap_eq_nil_iff.mpr fun e he => ?_
  rcases h.events e he with ⟨_, _, _, rfl⟩ | ⟨_, _, _, _, rfl⟩
  · rfl
  · rfl

lemma emitMessage_delivers (body : Buffer) :
    (s.emitMessage o body).filterMap deliveredBody = [] := by
  refine List.filterMap_eq_nil_iff.mpr fun e he => ?_
  unfold emitMessage at he
  cases hdec : o._decodeMessageBody s.toHeaders body with
  | ok msgs =>
    rw [hdec] at he
    obtain ⟨d, -, rfl⟩ := List.mem_map.mp he
    rfl
  | error report =>
    rw [hdec] at he
    rcases List.mem_append.mp he with he | he
    · obtain ⟨d, -, rfl⟩ := List.mem_map.mp he
      rfl
    · rw [List.mem_singleton.mp he]
      rfl

lemma feedFinal_of_rejected (h : Rejected o s chunk (s._append o chunk)) :
    s.feedFinal o chunk = s._append o chunk :=
  if_pos h.error

lemma feedFinal_of_accepted (h : Accepted o s chunk (s._append o chunk)) :
    s.feedFinal o chunk = ((s._append o chunk).1._init_new,
      .full_message_body (s._append o chunk).1._blocks.flatten ::
        (s._append o chunk).1.emitMessage o (s._append o chunk).1._blocks.flatten) := by
  unfold feedFinal
  dsimp only
  rw [if_neg (Bool.eq_false_iff.mp h.noError'), h.events, List.nil_append]

/-- An outcome does what the ideal reassembler does with a piece, or nothing. -/
def Follows (parts : List Buffer) (piece : Option (Reassembly.Piece UInt8))
    (r : MessageBuilderBase σ × List (Event ε)) : Prop :=
  match piece with
  | none => Agrees r.1 parts ∧ r.2.filterMap deliveredBody = []
  | some piece => Agrees r.1 (Reassembly.step parts piece).1 ∧
      r.2.filterMap deliveredBody = (Reassembly.step parts piece).2

variable {parts : List Buffer} (hs : Agrees s parts)

include hs

lemma append_follows :
    Follows parts ((acceptedBody o s chunk).map .part) (s._append o chunk) := by
  have hfresh := append_fresh o s chunk hs.1
  cases hbody : acceptedBody o s chunk with
  | none =>
    have hr := rejected_of_acceptedBody hbody
    exact ⟨⟨hfresh, .inl hr.error⟩, hr.delivers⟩
  | some body =>
    obtain ⟨ha, hblocks⟩ := accepted_of_acceptedBody hbody
    have hparts := hs.2.resolve_left (by simp [ha.noError])
    refine ⟨⟨hfresh, .inr ?_⟩, ?_⟩
    · rw [hblocks, hparts]
      rfl
    · rw [ha.events]
      rfl

lemma feedFinal_follows :
    Follows parts ((acceptedBody o s chunk).map .last) (s.feedFinal o chunk) := by
  have hfresh := append_fresh o s chunk hs.1
  cases hbody : acceptedBody o s chunk with
  | none =>
    have hr := rejected_of_acceptedBody hbody
    rw [feedFinal_of_rejected hr]
    exact ⟨⟨hfresh, .inl hr.error⟩, hr.delivers⟩
  | some body =>
    obtain ⟨ha, hblocks⟩ := accepted_of_acceptedBody hbody
    have hparts := hs.2.resolve_left (by simp [ha.noError])
    rw [feedFinal_of_accepted ha]
    refine ⟨⟨fun _ => ⟨rfl, rfl, rfl⟩, .inr rfl⟩, ?_⟩
    rw [hblocks, hparts]
    exact congrArg (List.cons _) (emitMessage_delivers _)

lemma feedErrorMessage_follows : Follows parts none (s.feedErrorMessage o chunk) := by
  unfold feedErrorMessage
  split
  · exact ⟨hs, rfl⟩
  · split
    · exact ⟨hs, rfl⟩
    · exact ⟨⟨hs.1, .inl rfl⟩, rfl⟩

lemma feedAbort_follows {fresh : σ → Prop} (hidle : Idle fresh s) :
    Follows parts
      (if (abortOutcome o s chunk).1._hasReceivedError then none else some .abandon)
      (abortOutcome o s chunk) := by
  unfold abortOutcome feedAbort
  split
  · exact ⟨⟨hs.1, .inr (hs.1 hidle.messageChunks).1⟩, rfl⟩
  · exact ⟨⟨hs.1, .inl rfl⟩, rfl⟩

variable {piece : Option (Reassembly.Piece UInt8)}

omit hs in
lemma Follows.feeding (h : Follows parts piece r) (feeding : Bool) :
    Follows parts piece ({ r.1 with feeding := feeding }, .chunk chunk :: r.2) := by
  cases piece with
  | none => exact h
  | some piece => exact h

omit hs in
lemma Follows.fresh (h : Follows parts piece r) : r.1.Fresh := by
  cases piece with
  | none => exact h.1.1
  | some piece => exact h.1.1

variable {input : Input ω}

/-- **A step** of the builder does what the ideal reassembler does with its piece, or nothing. -/
theorem step_follows {fresh : σ → Prop} (ha : AbortsIdle fresh s input) :
    Follows parts (pieceOf o (s, input)) (step o s input) := by
  cases input with
  | feed => exact ⟨hs, rfl⟩
  | assign value => exact ⟨hs, rfl⟩
  | packet event =>
    by_cases hfeed : s.feeding
    · have hstep : step o s (.packet event) =
          ({ (s.onPacket o event).1 with
             feeding := !(s.onPacket o event).2.any Event.isException }, (s.onPacket o event).2) :=
        if_pos hfeed
      rw [hstep]
      cases event with
      | error msg errCode => exact ⟨⟨hs.1, .inl rfl⟩, rfl⟩
      | startChunk info data | exception msg => exact ⟨hs, rfl⟩
      | chunk chunk =>
        have hidle := ha chunk
        simp only [pieceOf, if_pos hfeed, onPacket, _feed_messageChunk_eq]
        cases hkind : kindOf chunk with
        | malformed msg | unknown => exact ⟨hs, rfl⟩
        | error => exact (feedErrorMessage_follows hs).feeding _
        | final => exact (feedFinal_follows hs).feeding _
        | abort => exact (feedAbort_follows hs (hidle ⟨rfl, hfeed, hkind⟩)).feeding _
        | intermediate => exact (append_follows hs).feeding _
    · have hstep : step o s (.packet event) = (s, []) := if_neg hfeed
      have hpiece : pieceOf o (s, .packet event) = none := by
        cases event with
        | chunk chunk => exact if_neg hfeed
        | _ => rfl
      rw [hstep, hpiece]
      exact ⟨hs, rfl⟩

omit hs in
lemma step_fresh {fresh : σ → Prop} (hs : s.Fresh)
    (ha : AbortsIdle fresh s input) : (step o s input).1.Fresh := by
  have hagree : Agrees s s._blocks := ⟨hs, .inr rfl⟩
  exact (step_follows hagree ha).fresh

omit hs in
lemma react_error (herror : s._hasReceivedError = true) (hkind : kindOf chunk ≠ .abort) :
    (s.react o chunk (kindOf chunk)).1._hasReceivedError = true := by
  have hrejected : Rejected o s chunk (s._append o chunk) :=
    (append_outcome o s chunk).resolve_right fun ha => by simp [ha.noError] at herror
  cases hkind' : kindOf chunk with
  | malformed msg => exact herror
  | unknown => exact herror
  | abort => exact absurd hkind' hkind
  | intermediate => exact hrejected.error
  | final =>
    rw [react, feedFinal_of_rejected hrejected]
    exact hrejected.error
  | error =>
    unfold react feedErrorMessage
    dsimp only
    split
    · exact herror
    · split
      · exact herror
      · rfl

omit hs in
/-- **An error stands**: a builder that has reported one does not come back by itself, as abort
chunks meet idle builders only. -/
lemma step_error {fresh : σ → Prop} (ha : AbortsIdle fresh s input)
    (herror : s._hasReceivedError = true) : (step o s input).1._hasReceivedError = true := by
  cases input with
  | feed => exact herror
  | assign value => exact herror
  | packet event =>
    by_cases hfeed : s.feeding
    · simp only [step, if_pos hfeed]
      cases event with
      | startChunk info data => exact herror
      | error msg errCode => rfl
      | exception msg => exact herror
      | chunk chunk =>
        have hkind : kindOf chunk ≠ .abort := fun hkind => by
          simp [(ha chunk ⟨rfl, hfeed, hkind⟩).noError] at herror
        have hreact := react_error (o := o) herror hkind
        rw [onPacket, _feed_messageChunk_eq]
        cases hkind' : kindOf chunk with
        | malformed msg => exact herror
        | _ => simpa only [hkind'] using hreact
    · rwa [step, if_neg hfeed]

variable {expects : σ → ℕ → Prop}

omit hs in
lemma step_abort {fresh : σ → Prop} (hexpects : ∀ d n, fresh d → expects d n)
    (hs : s.Fresh) (ha : AbortsIdle fresh s input) (habort : IsAbort s input chunk)
    {channelId tokenId : ℕ} {sequenceHeader : SequenceHeader} {stream : BinaryStream}
    (hread : readAbort { buffer := chunk, length := 8 } =
      .ok ((channelId, tokenId, sequenceHeader), stream)) :
    Ready expects (step o s input).1 (sequenceHeader.sequenceNumber + 1) := by
  have hidle := ha chunk habort
  obtain ⟨rfl, hfeeding, hkind⟩ := habort
  have hfeed : abortOutcome o s chunk = s._report_abandon sequenceHeader := by
    simp only [feedAbort, hread]
  simp only [step, if_pos hfeeding, onPacket, _feed_messageChunk_eq, hkind, react, hfeed]
  obtain ⟨hblocks, htotal, -⟩ := hs hidle.messageChunks
  exact ⟨rfl, hblocks, hidle.messageChunks, htotal, hexpects _ _ hidle.derived⟩

omit hs in
/-- **Reassembly**: a run from a builder without error and without chunks, whose abort chunks all
meet an idle builder.

**Proof sketch.** Each step follows the ideal reassembler (`step_follows`), so the run does
(`Mealy.run_simulates`); what is said of single steps holds under the invariant `Fresh`. -/
theorem reassembles {fresh : σ → Prop}
    (hexpects : ∀ d n, fresh d → expects d n) (hblocks : s._blocks = []) (hs : s.Fresh)
    {inputs : List (Input ω)} (ha : Mealy.Along (step o) (AbortsIdle fresh) s inputs) :
    Reassembles o expects s inputs := by
  have hstep : ∀ (t : MessageBuilderBase σ) (i : Input ω), t.Fresh → AbortsIdle fresh t i →
      (step o t i).1.Fresh := fun t i => step_fresh
  refine ⟨?_, ?_, ?_⟩
  · refine Mealy.run_simulates (step o) Reassembly.step (pieceOf o) deliveredBody
      (R := Agrees) ?_ ?_ ⟨hs, .inr hblocks⟩ ha
    · intro t i parts ht hi hnone
      have h := step_follows (o := o) ht hi
      rwa [hnone] at h
    · intro t i parts piece ht hi hsome
      have h := step_follows (o := o) ht hi
      rwa [hsome] at h
  · exact Mealy.trace_forall (step o) hstep
      (P := fun t i => ∀ chunk, IsAbort t i chunk → ∀ channelId tokenId sequenceHeader stream,
        readAbort { buffer := chunk, length := 8 } =
          .ok ((channelId, tokenId, sequenceHeader), stream) →
        Ready expects (step o t i).1 (sequenceHeader.sequenceNumber + 1))
      (fun t i ht hi chunk habort _ _ _ _ hread => step_abort hexpects ht hi habort hread) hs ha
  · exact Mealy.trace_forall (step o) hstep
      (P := fun t i => t._hasReceivedError = true → (step o t i).1._hasReceivedError = true)
      (fun t i _ hi herror => step_error hi herror) hs ha

end MessageBuilderBase

end NodeOpcua
