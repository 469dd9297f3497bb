import HomeMesh.Envelope
import HomeMesh.Fault
import HomeMesh.Wire.Primitive

/-!
# Envelopes on the wire

An envelope is its source, its list of destinations, its command and its three values, in this
order.  `Envelope.encodeInto` writes these parts into a buffer, one after the other, and gives up at
the first part without room.  `Envelope.decode` takes bytes that hold one envelope and nothing else.
Bytes that are not of this form are malformed; an envelope that names no destination is well formed,
but refused.
-/

namespace HomeMesh

open Wire

namespace Envelope

/-- The bytes of an envelope. -/
def encode (m : Envelope) : Bytes :=
  putChoice m.source ++ putList putChoice m.destinations ++ putChoice m.command ++
    putInt32 m.value0 ++ putInt32 m.value1 ++ putSingle m.value2

/-- The parts of an envelope, in the order in which they are written. -/
def parts (m : Envelope) : List Bytes :=
  putChoice m.source :: putNat m.destinations.length :: m.destinations.items.map putChoice ++
    [putChoice m.command, putInt32 m.value0, putInt32 m.value1, putSingle m.value2]

/-- Writes the parts of an envelope into a buffer of `size` bytes, and gives what was written. -/
def encodeInto (m : Envelope) (size : Nat) : Except CodecFault Bytes :=
  match m.parts.foldlM write (.empty : Bounded UInt8 size) with
  | .ok buffer => .ok buffer.items
  | .error fault => .error fault.codecFault

/-- Takes an envelope off the front of the bytes. -/
def read : Reader Envelope := do
  let source ← readChoice
  let destinations ← readList maxDestinations readChoice
  let command ← readChoice
  let value0 ← readInt32
  let value1 ← readInt32
  let value2 ← readSingle
  pure { source, destinations, command, value0, value1, value2 }

/-- The envelope that the bytes hold. -/
def decode (bytes : Bytes) : Except CodecFault Envelope :=
  match read bytes with
  | some (m, []) => if m.destinations.isEmpty then .error .badDestinations else .ok m
  | _ => .error .malformed

end Envelope

end HomeMesh
