import HomeMesh.Transfer
import HomeMesh.Wire.Envelope

/-!
# The bus

The bus carries envelopes between nodes as frames of bytes.  It is a queue of at most sixteen
frames of at most thirty-two bytes, and its link may be down.  Whoever receives from it decodes the
oldest frame; so whatever crosses the bus has been encoded and decoded.
-/

namespace HomeMesh

/-- The most bytes of one frame. -/
abbrev maxFrameLength : Nat := 32

/-- The bytes of one message on the bus. -/
abbrev Frame := Bounded UInt8 maxFrameLength

/-- The most frames on the bus. -/
abbrev busDepth : Nat := 16

/-- A queue of frames. -/
structure Bus where
  /-- The frames, the oldest first. -/
  frames : Bounded Frame busDepth := .empty
  /-- Whether the link is up. -/
  isUp : Bool := true
deriving DecidableEq

namespace Bus

/-- A bus without frames, its link up. -/
def new : Bus := {}

/-- How many frames the bus holds. -/
def pending (b : Bus) : Nat := b.frames.length

/-- Takes the link up or down. -/
def setLink (b : Bus) (up : Bool) : Bus := { b with isUp := up }

/-- Adds a frame, whatever its bytes and whether the link is up or not. -/
def inject (b : Bus) (bytes : Wire.Bytes) : Bus × Except Fault Unit :=
  match (Bounded.ofList? bytes).bind b.frames.concat? with
  | some frames => ({ b with frames := frames }, .ok ())
  | none => (b, .error (.transport .busy))

/-- Sends an envelope, if the link is up and there is room. -/
def send : Transport Bus := fun b m =>
  if b.isUp then
    match m.encodeInto maxFrameLength with
    | .ok bytes => b.inject bytes
    | .error cause => (b, .error (.codec cause))
  else (b, .error (.transport .linkDown))

/-- Takes the oldest frame off the bus and decodes it. -/
def receive? (b : Bus) : Option (Except CodecFault Envelope × Bus) :=
  b.frames.uncons?.map fun (frame, frames) =>
    (Envelope.decode frame.items, { b with frames := frames })

/-- Taking a frame off the bus leaves fewer frames. -/
theorem pending_lt_of_receive? {b b' : Bus} {answer : Except CodecFault Envelope}
    (h : b.receive? = some (answer, b')) : b'.pending < b.pending := by
  obtain ⟨⟨items, hi⟩, up⟩ := b
  cases items with
  | nil => simp [receive?, Bounded.uncons?] at h
  | cons frame rest =>
    simp only [receive?, Bounded.uncons?, Option.map_some, Option.some.injEq, Prod.mk.injEq] at h
    simp [← h.2, pending, Bounded.length]

end Bus

end HomeMesh
