import NodeOpcua.PacketAssembler.Basic
import NodeOpcua.StatusCode

set_option autoImplicit false

/-!
# The message builder

`MessageBuilderBase` of `node-opcua-transport`: the chunks of messages come in, the bodies of
complete messages go out. A chunk is intermediate (`C`), the final one of its message (`F`), or
gives the message up (`A`).

## Main definitions

* `MessageBuilderBase`, `Overrides`, `MessageBuilderBase.step`, `Receiver.feed`.

## Design

`_report_error` ends every reading function it occurs in with `false`; here such a function ends
in the `error` case, with what there is to report, and the builder reports it. Boolean results
that no caller reads are left out. The packet assembler is kept beside the other fields, which
never read it. An exception that leaves `feed` ends the call: what is left of the data is lost.
-/

namespace NodeOpcua

namespace MessageBuilderBase

/-- The events of a message builder; `derived` is an event of the class that extends it, and
`exception` stands for an exception thrown to the caller of `feed`. -/
inductive Event (ε : Type)
  | startChunk (info : PacketInfo) (data : Buffer)
  | chunk (chunk : Buffer)
  | error (message : String) (statusCode : StatusCode) (requestId : Option ℕ)
  | full_message_body (fullMessageBody : Buffer)
  | abandon (requestId : ℕ)
  | derived (event : ε)
  | exception (message : String)
  deriving DecidableEq, Repr

/-- A call of `_report_error`, with the events emitted before it. -/
structure Report (ε : Type) where
  statusCode : StatusCode
  errorMessage : String
  before : List ε := []
  deriving DecidableEq, Repr

/-- The fields that the headers of a chunk are read into; `derived` are the fields of the class
that extends the builder. -/
structure Headers (σ : Type) where
  messageHeader : Option MessageHeader := none
  channelId : ℕ := 0
  sequenceHeader : Option SequenceHeader := none
  derived : σ
  deriving DecidableEq, Repr

/-- `this.sequenceHeader?.requestId || null`. -/
def Headers.requestId {σ : Type} (h : Headers σ) : Option ℕ :=
  match h.sequenceHeader with
  | some sequenceHeader =>
    if sequenceHeader.requestId = 0 then none else some sequenceHeader.requestId
  | none => none

end MessageBuilderBase

open MessageBuilderBase

/-- What a class that extends `MessageBuilderBase` brings: its two overriding methods, with the
number of bytes `_append` expects to have been read, and the effect of assignments to its fields
from outside. `getStatusCodeFromCode` is the table of known status codes. -/
structure Overrides (σ ε ω : Type) where
  _read_headers : Headers σ → BinaryStream → Headers σ × Except (Report ε) BinaryStream
  _decodeMessageBody : Headers σ → Buffer → Except (Report ε) (List ε)
  assign : ω → σ → σ
  getStatusCodeFromCode : ℕ → StatusCode
  twelve_le_length : ∀ h b h' stream, _read_headers h { buffer := b } = (h', .ok stream) →
    12 ≤ stream.length

/-- The fields of a `MessageBuilderBase`. `feeding` is true during a call of `feed` that has passed
its guard. -/
structure MessageBuilderBase (σ : Type) extends Headers σ where
  maxMessageSize : ℕ
  maxChunkCount : ℕ
  totalMessageSize : ℕ := 0
  totalBodySize : ℤ := 0
  messageChunks : List Buffer := []
  _securityDefeated : Bool := false
  _hasReceivedError : Bool := false
  _blocks : List Buffer := []
  _offsetBodyStart : ℕ := 0
  feeding : Bool := false
  deriving DecidableEq, Repr

namespace MessageBuilderBase

def defaultMaxChunkCount : ℕ := 1000
def defaultMaxMessageSize : ℕ := 1024 * 64 * 1024
def defaultMaxChunkSize : ℕ := 1024 * 8

variable {σ ε ω : Type}

/-- The constructor: zero means the default. -/
def construct (maxMessageSize maxChunkCount : ℕ) (derived : σ) : MessageBuilderBase σ where
  maxMessageSize := if maxMessageSize = 0 then defaultMaxMessageSize else maxMessageSize
  maxChunkCount := if maxChunkCount = 0 then defaultMaxChunkCount else maxChunkCount
  derived := derived

/-! ### The methods of the base class -/

/-- `_read_headers`. The id of the channel is not compared with anything: the field
`#_expectedChannelId` is zero for good. -/
def _read_headers (h : Headers σ) (stream : BinaryStream) :
    Headers σ × Except (Report ε) BinaryStream :=
  match readMessageHeader stream with
  | .error e =>
    (h, .error ⟨.BadTcpInternalError, s!"_read_headers error {e.message}", []⟩)
  | .ok (messageHeader, stream) =>
    let h := { h with messageHeader := some messageHeader }
    match stream.readUInt32 with
    | .error e =>
      (h, .error ⟨.BadTcpInternalError, s!"_read_headers error {e.message}", []⟩)
    | .ok (channelId, stream) => ({ h with channelId }, .ok stream)

variable {stream : BinaryStream} {h h' : Headers σ}

lemma _read_headers_derived
    {r : Except (Report ε) BinaryStream} (hread : _read_headers h stream = (h', r)) :
    h'.derived = h.derived := by
  unfold _read_headers at hread
  split at hread
  · cases hread
    rfl
  · dsimp only at hread
    split at hread
    · cases hread
      rfl
    · cases hread
      rfl

lemma _read_headers_before {report : Report ε}
    (hread : _read_headers h stream = (h', .error report)) : report.before = [] := by
  unfold _read_headers at hread
  split at hread
  · cases hread
    rfl
  · dsimp only at hread
    split at hread
    · cases hread
      rfl
    · cases hread

lemma _read_headers_ok {chunk : Buffer} (hread : (_read_headers h { buffer := chunk } :
      Headers σ × Except (Report ε) BinaryStream) = (h', .ok stream)) :
    12 ≤ chunk.length ∧ stream = { buffer := chunk, length := 12 } ∧
      ∃ messageHeader rest, readMessageHeader { buffer := chunk } = .ok (messageHeader, rest) ∧
        h' = { h with
          messageHeader := some messageHeader, channelId := leUInt32 (chunk.drop 8) } := by
  unfold _read_headers at hread
  cases hheader : readMessageHeader { buffer := chunk } with
  | error e =>
    rw [hheader] at hread
    cases hread
  | ok r =>
    obtain ⟨messageHeader, rest⟩ := r
    obtain ⟨-, rfl⟩ := readMessageHeader_ok hheader
    rw [hheader] at hread
    dsimp only at hread
    cases hword : BinaryStream.readUInt32 { buffer := chunk, length := 8 } with
    | error e =>
      rw [hword] at hread
      cases hread
    | ok r =>
      obtain ⟨hlen, rfl⟩ := BinaryStream.readUInt32_eq_ok_iff.mp hword
      rw [hword] at hread
      cases hread
      exact ⟨hlen, rfl, messageHeader, _, rfl, rfl⟩

section

variable (s : MessageBuilderBase σ)

/-- `_report_error`. -/
def _report_error (report : Report ε) :
    MessageBuilderBase σ × List (Event ε) :=
  ({ s with _hasReceivedError := true },
    report.before.map .derived ++ [.error report.errorMessage report.statusCode s.requestId])

/-- `_report_abandon`. -/
def _report_abandon (sequenceHeader : SequenceHeader) :
    MessageBuilderBase σ × List (Event ε) :=
  ({ s with _hasReceivedError := false }, [.abandon sequenceHeader.requestId])

/-- `#_init_new`. -/
def _init_new : MessageBuilderBase σ :=
  { s with
    _securityDefeated := false
    _hasReceivedError := false
    totalBodySize := 0
    totalMessageSize := 0
    _blocks := []
    messageChunks := [] }

end

variable (o : Overrides σ ε ω)

section

variable (s : MessageBuilderBase σ)

/-- The end of `#_append`, once the headers are read: the rest of the chunk is a block of the
body. -/
def appendBlock (chunk : Buffer) (binaryStream : BinaryStream) :
    MessageBuilderBase σ × List (Event ε) :=
  if s.messageHeader.map (·.length) ≠ some chunk.length then
    s._report_error ⟨.BadTcpInternalError,
      s!"Invalid messageChunk size: the provided chunk is {chunk.length} bytes long but header specifies {(s.messageHeader.map (·.length)).getD 0}",
      []⟩
  else
    let offsetBodyStart := binaryStream.length
    let offsetBodyEnd := binaryStream.buffer.length
    -- a stream shares its memory with the chunk, so that what is decrypted in place is seen here
    let sharedBuffer := (binaryStream.buffer.take offsetBodyEnd).drop offsetBodyStart
    ({ s with
       totalBodySize := s.totalBodySize + offsetBodyEnd - offsetBodyStart
       _offsetBodyStart := offsetBodyStart
       _blocks := s._blocks ++ [sharedBuffer] }, [])

/-- `#_append`. -/
def _append (chunk : Buffer) :
    MessageBuilderBase σ × List (Event ε) :=
  if s._hasReceivedError then (s, [])
  else if s.messageChunks.length + 1 > s.maxChunkCount then
    s._report_error ⟨.BadTcpMessageTooLarge, s!"max chunk count exceeded: {s.maxChunkCount}", []⟩
  else
    let s := { s with
      messageChunks := s.messageChunks ++ [chunk]
      totalMessageSize := s.totalMessageSize + chunk.length }
    if s.totalMessageSize > s.maxMessageSize then
      s._report_error ⟨.BadTcpMessageTooLarge,
        s!"max message size exceeded: {s.maxMessageSize} : total message size {s.totalMessageSize}",
        []⟩
    else
      match o._read_headers s.toHeaders { buffer := chunk } with
      | (headers, .error report) => { s with toHeaders := headers }._report_error report
      | (headers, .ok stream) => { s with toHeaders := headers }.appendBlock chunk stream

/-- An ERR chunk: its status code and its text are reported. -/
def feedErrorMessage (chunk : Buffer) :
    MessageBuilderBase σ × List (Event ε) :=
  match BinaryStream.readUInt32 { buffer := chunk, length := 8 } with
  | .error e => (s, [.exception e.message])
  | .ok (code, stream) =>
    match stream.readString with
    | .error e => (s, [.exception e.message])
    | .ok (message, _) =>
      s._report_error ⟨o.getStatusCodeFromCode code,
        if message.getD "" = "" then "Error message not specified" else message.getD "", []⟩

/-- What is emitted when a complete body is decoded. -/
def emitMessage (fullMessageBody : Buffer) : List (Event ε) :=
  match o._decodeMessageBody s.toHeaders fullMessageBody with
  | .ok messages => messages.map .derived
  | .error report => (s._report_error report).2

/-- The last chunk of a message. -/
def feedFinal (chunk : Buffer) :
    MessageBuilderBase σ × List (Event ε) :=
  let (s, events) := s._append o chunk
  if s._hasReceivedError then (s, events)
  else
    let fullMessageBody := s._blocks.flatten
    -- a failure to decode is reported, and forgotten: the builder is ready for the next message
    (s._init_new,
      events ++ .full_message_body fullMessageBody :: s.emitMessage o fullMessageBody)

end

/-- The security and sequence headers of an abort chunk, read from behind its message header: the
id of the channel, the id of the token, and the sequence header. -/
def readAbort : Reader (ℕ × ℕ × SequenceHeader) := do
  let channelId ← BinaryStream.readUInt32
  let tokenId ← BinaryStream.readUInt32
  let sequenceHeader ← SequenceHeader.decode
  return (channelId, tokenId, sequenceHeader)

section

variable (s : MessageBuilderBase σ)

/-- An abort chunk. -/
def feedAbort (chunk : Buffer) :
    MessageBuilderBase σ × List (Event ε) :=
  match readAbort { buffer := chunk, length := 8 } with
  | .ok ((_, _, sequenceHeader), _) => s._report_abandon sequenceHeader
  | .error e =>
    s._report_error ⟨.BadTcpInternalError, s!"Error decoding message header {e.message}", []⟩

/-- `#_feed_messageChunk`. -/
def _feed_messageChunk (chunk : Buffer) :
    MessageBuilderBase σ × List (Event ε) :=
  match readMessageHeader { buffer := chunk } with
  | .error e => (s, [.exception e.message])
  | .ok (messageHeader, _) =>
    let (s, events) :=
      if messageHeader.isFinal = "F" then
        if messageHeader.msgType = "ERR" then s.feedErrorMessage o chunk else s.feedFinal o chunk
      else if messageHeader.isFinal = "A" then s.feedAbort chunk
      else if messageHeader.isFinal = "C" then s._append o chunk
      else (s, [])
    (s, .chunk chunk :: events)

/-- What the builder does with an event of its packet assembler. -/
def onPacket : PacketAssembler.Event → MessageBuilderBase σ × List (Event ε)
  | .startChunk info data => (s, [.startChunk info data])
  | .chunk messageChunk => s._feed_messageChunk o messageChunk
  | .error message _ =>
    s._report_error ⟨.BadTcpMessageTooLarge, s!"packet assembler: {message}", []⟩
  | .exception message => (s, [.exception message])

end

/-- The base class itself: a body is not decoded. -/
def baseClass (getStatusCodeFromCode : ℕ → StatusCode) : Overrides Unit Empty Empty where
  _read_headers := _read_headers
  _decodeMessageBody _ _ := .ok []
  assign _ d := d
  getStatusCodeFromCode := getStatusCodeFromCode
  twelve_le_length := by
    intro h b h' stream hread
    obtain ⟨-, rfl, -⟩ := _read_headers_ok hread
    exact Nat.le_refl 12

/-! ### Runs -/

/-- The inputs of a builder: a call of `feed` begins, the packet assembler emits an event during
it, or other code assigns to a field of the builder. -/
inductive Input (ω : Type)
  | feed
  | packet (event : PacketAssembler.Event)
  | assign (value : ω)
  deriving DecidableEq, Repr

/-- The event ends the call of `feed`. -/
def Event.isException : Event ε → Bool
  | .exception _ => true
  | _ => false

/-- One input. -/
def step (s : MessageBuilderBase σ) : Input ω → MessageBuilderBase σ × List (Event ε)
  | .feed => ({ s with feeding := !s._securityDefeated && !s._hasReceivedError }, [])
  | .packet event =>
    if s.feeding then
      let (s, events) := s.onPacket o event
      ({ s with feeding := !events.any Event.isException }, events)
    else (s, [])
  | .assign value => ({ s with derived := o.assign value s.derived }, [])

end MessageBuilderBase

/-- A builder with its packet assembler. -/
structure Receiver (σ : Type) where
  _packetAssembler : PacketAssembler := {}
  builder : MessageBuilderBase σ

namespace Receiver

variable {σ ε ω : Type} (o : Overrides σ ε ω) (maxChunkSize : ℕ)

/-- `feed`. When an exception ends the call, the assembler has just completed a chunk. -/
def feed (r : Receiver σ) (data : Buffer) : Receiver σ × List (Event ε) :=
  let builder := (r.builder.step o .feed).1
  if builder.feeding then
    let (assembler, packets) :=
      PacketAssembler.feed (rawAssembler maxChunkSize) r._packetAssembler data
    let (builder, events) := Mealy.run (step o) builder (packets.map .packet)
    let assembler := if builder.feeding then assembler
      else { assembler with _stack := [], expectedLength := 0, currentLength := 0 }
    ({ _packetAssembler := assembler, builder }, events)
  else ({ r with builder }, [])

end Receiver

end NodeOpcua
