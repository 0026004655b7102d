import NodeOpcua.Library.Mealy
import NodeOpcua.MessageHeader

set_option autoImplicit false

/-!
# The packet assembler

`PacketAssembler.feed` of `node-opcua-packet-assembler`: pieces of a byte stream go in, complete
chunks come out. The state is the list of pieces kept so far (`_stack`), their total length, and
the expected length of the chunk in progress, zero while its header is not complete.

## Main definitions

* `PacketAssembler.feed`.
* `PacketAssembler.run`.

## Design

`feed` calls itself on the two parts of a piece that holds more than the chunk in progress. The
recursion is on a fuel argument, `data.length + 1` at the call. `feed_eq` in
`PacketAssembler.Fragmentation` is the equation without fuel: under the invariant of
the state the fuel is never used up.
-/

namespace NodeOpcua

/-- `PacketAssemblerErrorCode`. -/
inductive PacketAssemblerErrorCode
  | ChunkSizeExceeded
  | ChunkTooSmall
  deriving DecidableEq, Repr

/-- `PacketAssemblerOptions`, with the defaults of the constructor filled in. -/
structure PacketAssemblerOptions where
  readChunkFunc : Buffer → Except StreamError PacketInfo
  minimumSizeInBytes : ℕ
  maxChunkSize : ℕ

/-- `PacketAssembler.defaultMaxMessageSize`. -/
def PacketAssembler.defaultMaxMessageSize : ℕ := 1024 * 64 - 7

/-- The constructor: a missing value is replaced by its default, and an explicit `maxChunkSize` of
zero, or one below the header size, fails an assertion. -/
def PacketAssemblerOptions.construct (readChunkFunc : Buffer → Except StreamError PacketInfo)
    (minimumSizeInBytes : ℕ) (maxChunkSize : Option ℕ) : Option PacketAssemblerOptions :=
  let minimumSizeInBytes := if minimumSizeInBytes = 0 then 8 else minimumSizeInBytes
  let size := maxChunkSize.getD PacketAssembler.defaultMaxMessageSize
  if maxChunkSize = some 0 ∨ size < minimumSizeInBytes then none
  else some { readChunkFunc, minimumSizeInBytes, maxChunkSize := size }

/-- The assembler of a transport and of a message builder: eight header bytes, read by
`readRawMessageHeader`. -/
def rawAssembler (maxChunkSize : ℕ) : PacketAssemblerOptions where
  readChunkFunc := readRawMessageHeader
  minimumSizeInBytes := 8
  maxChunkSize := maxChunkSize

/-- The state of a `PacketAssembler`. -/
structure PacketAssembler where
  _stack : List Buffer := []
  expectedLength : ℕ := 0
  currentLength : ℕ := 0
  packetInfo : Option PacketInfo := none
  deriving DecidableEq, Repr

namespace PacketAssembler

/-- What a call of `feed` emits; `exception` stands for an error thrown to the caller. -/
inductive Event
  | startChunk (packetInfo : PacketInfo) (data : Buffer)
  | chunk (messageChunk : Buffer)
  | error (message : String) (errCode : PacketAssemblerErrorCode)
  | exception (message : String)
  deriving DecidableEq, Repr

variable (options : PacketAssemblerOptions)

/-- `_buildData`: the data kept in the stack followed by `data`. -/
def _buildData (s : PacketAssembler) (data : Buffer) : Buffer × PacketAssembler :=
  if s._stack.length = 0 then (data, s)
  else ((s._stack ++ [data]).flatten, { s with _stack := [] })

/-- The first part of `feed`: at the start of a chunk, once enough bytes are there, read the
expected length of the chunk. It gives the state and the data to go on with, or, in the `error`
case, the state in which the call ends. -/
def _readHeader (s : PacketAssembler) (data : Buffer) :
    Except (PacketAssembler × List Event) (PacketAssembler × Buffer × List Event) :=
  if s.expectedLength = 0 ∧ s.currentLength + data.length ≥ options.minimumSizeInBytes then
    -- the data already kept and the new data are one block from here on
    let (data, s) :=
      if s._stack.length > 0 then
        let (data, s) := s._buildData data
        (data, { s with currentLength := 0 })
      else (data, s)
    match options.readChunkFunc data with
    | .error e => .error (s, [.exception e.message])
    | .ok info =>
      let s := { s with packetInfo := some info }
      if s.currentLength ≠ 0 then .error (s, [.exception "currentLength === 0"])
      else if info.length < options.minimumSizeInBytes then
        .error (s, [.error "chunk is too small " .ChunkTooSmall])
      else if info.length > options.maxChunkSize then
        .error (s, [.error
          s!"maximum chunk size exceeded (maxChunkSize={options.maxChunkSize} current chunk size = {info.length})"
          .ChunkSizeExceeded])
      else .ok ({ s with expectedLength := info.length }, data, [.startChunk info data])
  else .ok (s, data, [])

section

variable (recur : PacketAssembler → Buffer → PacketAssembler × List Event) (s : PacketAssembler)
  (data : Buffer)

/-- The second part of `feed`: keep the data, or complete the chunk in progress, or, when the data
holds more than that chunk, cut it and call `feed` (here `recur`) on the two parts. -/
def _consume : PacketAssembler × List Event :=
  if s.expectedLength = 0 ∨ s.currentLength + data.length < s.expectedLength then
    -- more data is expected to complete the chunk
    ({ s with _stack := s._stack ++ [data], currentLength := s.currentLength + data.length }, [])
  else if s.currentLength + data.length = s.expectedLength then
    let (messageChunk, s) := s._buildData data
    ({ s with currentLength := 0, expectedLength := 0 }, [.chunk messageChunk])
  else
    -- the data holds more than the chunk: complete it, then go on with the rest
    let size1 := s.expectedLength - s.currentLength
    let r1 := if size1 > 0 then recur s (data.take size1) else (s, [])
    let chunk2 := data.drop size1
    let r2 := if chunk2.length > 0 then recur r1.1 chunk2 else (r1.1, [])
    (r2.1, r1.2 ++ r2.2)

/-- `feed` with its recursive calls given. -/
def feedWith : PacketAssembler × List Event :=
  match _readHeader options s data with
  | .error r => r
  | .ok (s, data, events) => ((_consume recur s data).1, events ++ (_consume recur s data).2)

end

/-- `feed`, on a fuel argument that bounds the depth of the recursion. -/
def feedAux : ℕ → PacketAssembler → Buffer → PacketAssembler × List Event
  | 0 => fun s _ => (s, [])
  | fuel + 1 => feedWith options (feedAux fuel)

/-- `feed`: one piece of the stream. -/
def feed (s : PacketAssembler) (data : Buffer) : PacketAssembler × List Event :=
  feedAux options (data.length + 1) s data

/-- The calls of `feed` on a list of pieces, from a new assembler. -/
def run (pieces : List Buffer) : PacketAssembler × List Event :=
  Mealy.run (feed options) {} pieces

/-- The chunk of a "chunk" event. -/
def Event.chunk? : Event → Option Buffer
  | .chunk c => some c
  | _ => none

/-- The event reports a failure. -/
def Event.isFailure : Event → Bool
  | .error _ _ => true
  | .exception _ => true
  | _ => false

/-- The chunks emitted, in order. -/
def emittedChunks (events : List Event) : List Buffer := events.filterMap Event.chunk?

@[simp] lemma emittedChunks_nil : emittedChunks [] = [] := rfl

@[simp] lemma emittedChunks_append (es fs : List Event) :
    emittedChunks (es ++ fs) = emittedChunks es ++ emittedChunks fs :=
  List.filterMap_append

@[simp] lemma emittedChunks_chunk (c : Buffer) (es : List Event) :
    emittedChunks (.chunk c :: es) = c :: emittedChunks es := rfl

end PacketAssembler

end NodeOpcua
