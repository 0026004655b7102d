import NodeOpcua.PacketAssembler.Fragmentation
import NodeOpcua.Transport.MessageBuilderBase

set_option autoImplicit false

/-!
# The message builder behind its packet assembler

The transport hands bytes to the message builder in pieces of any length. The cut makes no difference
as long as the builder reports no error.
-/

namespace NodeOpcua

open MessageBuilderBase
open PacketAssembler (emittedChunks)

variable {σ ε ω : Type} (o : Overrides σ ε ω)

namespace MessageBuilderBase

/-- The builder is in a call of `feed` that goes on, and the next call will not be refused. -/
structure Reading (s : MessageBuilderBase σ) : Prop where
  security : s._securityDefeated = false
  error : s._hasReceivedError = false
  feeding : s.feeding = true

lemma Reading.eq {s : MessageBuilderBase σ} (h : s.Reading) : { s with feeding := true } = s := by
  cases s
  cases h.feeding
  rfl

lemma Reading.step_feed {s : MessageBuilderBase σ} (h : s.Reading) : (s.step o .feed).1 = s := by
  have hguard : (!s._securityDefeated && !s._hasReceivedError) = true := by
    rw [h.security, h.error]
    rfl
  simp only [step, hguard]
  exact h.eq

/-- The event is the beginning of a chunk, which is emitted once the header is complete. -/
def Event.isStart : Event ε → Bool
  | .startChunk _ _ => true
  | _ => false

/-- The builder goes on reading after the input. -/
def GoesOn (s : MessageBuilderBase σ) (input : Input ω) : Prop := (s.step o input).1.Reading

end MessageBuilderBase

namespace Receiver

/-- The chunks, as inputs of the builder. -/
def chunkInputs (events : List PacketAssembler.Event) : List (Input ω) :=
  (emittedChunks events).map fun c => .packet (.chunk c)

/-- **The events of one call**: but for the beginnings of chunks, they are those of the chunks. -/
lemma run_packets {b : MessageBuilderBase σ} {events : List PacketAssembler.Event}
    (hok : ∀ e ∈ events, e.isFailure = false) (hb : b.Reading)
    (hgo : Mealy.Along (step o) (GoesOn o) b (chunkInputs events)) :
    let r := Mealy.run (step o) b (events.map .packet)
    let r' := Mealy.run (step o) b (chunkInputs events)
    r.1 = r'.1 ∧ r.2.filter (!·.isStart) = r'.2.filter (!·.isStart) ∧ r.1.Reading := by
  induction events generalizing b with
  | nil => exact ⟨rfl, rfl, hb⟩
  | cons e events ih =>
    rw [List.forall_mem_cons] at hok
    cases e with
    | startChunk info data =>
      have hstep : b.step o (.packet (.startChunk info data)) = (b, [.startChunk info data]) := by
        show (if b.feeding then ({ b with feeding := true }, _) else (b, [])) = _
        rw [if_pos hb.feeding, hb.eq]
      simp only [List.map_cons, Mealy.run_cons_fst, Mealy.run_cons_snd, hstep]
      exact ih hok.2 hb hgo
    | chunk c =>
      obtain ⟨hfst, hsnd, hreading⟩ := ih hok.2 hgo.1 hgo.2
      refine ⟨hfst, ?_, hreading⟩
      simp only [List.map_cons, Mealy.run_cons_snd, List.filter_append, hsnd]
      exact (List.filter_append _ _).symm
    | error => cases hok.1
    | exception => cases hok.1

variable (maxChunkSize : ℕ)

/-- What the assembler emits for the pieces. -/
def packetEvents (r : Receiver σ) (pieces : List Buffer) : List PacketAssembler.Event :=
  (Mealy.run (PacketAssembler.feed (rawAssembler maxChunkSize)) r._packetAssembler pieces).2

/-- **Any pieces**, from any state of the assembler: the next call finds the builder where the chunks
lead it.

**Proof sketch.** Induction on the pieces. -/
lemma run_pieces {r : Receiver σ} {pieces : List Buffer}
    (hok : ∀ e ∈ r.packetEvents maxChunkSize pieces, e.isFailure = false)
    (hb : (r.builder.step o .feed).1.Reading)
    (hgo : Mealy.Along (step o) (GoesOn o) (r.builder.step o .feed).1
      (chunkInputs (r.packetEvents maxChunkSize pieces))) :
    let s := Mealy.run (feed o maxChunkSize) r pieces
    let s' := Mealy.run (step o) (r.builder.step o .feed).1
      (chunkInputs (r.packetEvents maxChunkSize pieces))
    (s.1.builder.step o .feed).1 = s'.1 ∧
      s.2.filter (!·.isStart) = s'.2.filter (!·.isStart) := by
  induction pieces generalizing r with
  | nil => exact ⟨rfl, rfl⟩
  | cons data pieces ih =>
    cases hpackets : PacketAssembler.feed (rawAssembler maxChunkSize) r._packetAssembler data with
    | mk assembler events =>
      simp only [Mealy.run_cons_fst, Mealy.run_cons_snd, hpackets, chunkInputs, packetEvents,
        PacketAssembler.emittedChunks_append, List.map_append, Mealy.along_append, Mealy.run_append,
        List.mem_append, or_imp, forall_and] at hok hgo ⊢
      obtain ⟨hfst, hsnd, hreading⟩ := run_packets o hok.1 hb hgo.1
      have hfeed : r.feed o maxChunkSize data =
          (⟨assembler, (Mealy.run (step o) (r.builder.step o .feed).1 (events.map .packet)).1⟩,
            (Mealy.run (step o) (r.builder.step o .feed).1 (events.map .packet)).2) := by
        simp only [feed, hpackets]
        rw [if_pos hb.feeding, if_pos hreading.feeding]
      have hnext := ih (r := ⟨assembler, _⟩) hok.2 (by rwa [hreading.step_feed])
        (by rw [hreading.step_feed, hfst]; exact hgo.2)
      rw [hreading.step_feed, hfst] at hnext
      simp only [hfeed, List.filter_append, hsnd]
      rw [hnext.2]
      exact ⟨hnext.1, rfl⟩

/-- **The cut makes no difference**: pieces that make up a stream of packets lead the builder, as the
next call sees it, where the packets lead it, with the same events but for the beginnings of chunks,
if no packet makes it report an error. -/
theorem run_fragmentation (packets : List Buffer) {pieces : List Buffer} {b : MessageBuilderBase σ}
    (hpackets : ∀ p ∈ packets, Framing.IsFrame 8
      (PacketAssembler.chunkLength (rawAssembler maxChunkSize)) p)
    (hcut : pieces.flatten = packets.flatten) (hb : (b.step o .feed).1.Reading)
    (hgo : Mealy.Along (step o) (GoesOn o) (b.step o .feed).1
      (packets.map fun p => .packet (.chunk p))) :
    let r := Mealy.run (feed o maxChunkSize) { builder := b } pieces
    let r' := Mealy.run (step o) (b.step o .feed).1 (packets.map fun p => .packet (.chunk p))
    (r.1.builder.step o .feed).1 = r'.1 ∧
      r.2.filter (!·.isStart) = r'.2.filter (!·.isStart) := by
  have hframes : ∀ p ∈ packets, Framing.IsFrame (rawAssembler maxChunkSize).minimumSizeInBytes
      _ p := hpackets
  obtain ⟨hchunks, hok⟩ := PacketAssembler.run_packets
    (fun b c h => readRawMessageHeader_append h c) (Nat.succ_pos 7) hframes hcut
  rw [← hchunks] at hgo ⊢
  exact run_pieces o maxChunkSize hok hb hgo

/-- A message of two chunks, cut inside the first header and inside the second one. -/
theorem run_fragmentation_two :
    let o := baseClass fun _ => .Good
    let b := construct 0 0 ()
    let r := Mealy.run (feed o 8192) { builder := b } [[0x4d, 0x53, 0x47], [0x43, 13, 0, 0, 0, 1, 0,
      0, 0, 7, 0x4d], [0x53, 0x47, 0x46, 13, 0, 0, 0, 1, 0, 0, 0, 8]]
    let r' := Mealy.run (step o) (b.step o .feed).1
      [.packet (.chunk [0x4d, 0x53, 0x47, 0x43, 13, 0, 0, 0, 1, 0, 0, 0, 7]),
        .packet (.chunk [0x4d, 0x53, 0x47, 0x46, 13, 0, 0, 0, 1, 0, 0, 0, 8])]
    (r.1.builder.step o .feed).1 = r'.1 ∧
      r.2.filter (!·.isStart) = r'.2.filter (!·.isStart) := by
  refine run_fragmentation _ 8192 [_, _] ?_ rfl ⟨rfl, rfl, rfl⟩
    ⟨⟨rfl, rfl, rfl⟩, ⟨rfl, rfl, rfl⟩, trivial⟩
  simp only [List.forall_mem_cons]
  exact ⟨⟨by decide, rfl⟩, ⟨by decide, rfl⟩, by simp⟩

end Receiver

end NodeOpcua
