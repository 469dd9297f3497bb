import HomeMesh.Envelope

/-!
# The outbox

Envelopes that a node wants to send wait in its outbox until they are flushed.  The outbox holds at
most eight of them and gives out the most recent first.
-/

namespace HomeMesh

/-- The most envelopes that wait at a time. -/
abbrev outboxCapacity : Nat := 8

/-- Envelopes that wait to be sent, the most recent first. -/
abbrev Outbox := Bounded Envelope outboxCapacity

namespace Outbox

/-- Adds an envelope, if there is room. -/
def push? (box : Outbox) (m : Envelope) : Option Outbox := box.cons? m

/-- Takes out the most recent envelope. -/
def pop? (box : Outbox) : Option (Envelope × Outbox) := box.uncons?

end Outbox

end HomeMesh
