import HomeMesh.Actuator

/-!
# Applying actuator states

An `Applier` turns a sequence of actuator states into writes.  It remembers the state that it
applied last, and writes only what differs from it; at first, and after it has been told to forget,
it writes everything.  It remembers the whole state, whichever channels it was asked to write.

An application goes through the outputs, the lamp first, and keeps a `Tally`: what it has written,
and a count that it raises with each write.
-/

namespace HomeMesh

/-- A write to an output. -/
inductive Write where
  /-- The status lamp takes a colour. -/
  | led (colour : StatusLed)
  /-- A channel is switched. -/
  | channel (c : Channel) (on : Bool)
deriving DecidableEq

/-- What was written, and how many writes were counted. -/
structure Tally where
  writes : List Write := []
  count : Nat := 0
deriving DecidableEq

/-- A write is made and counted, if it is needed. -/
def Tally.addIf (t : Tally) (needed : Bool) (w : Write) : Tally :=
  if needed then ⟨t.writes ++ [w], t.count + 1⟩ else t

/-- What an applier remembers. -/
structure Applier where
  /-- The state that was applied last. -/
  last : Option ActuatorState := none
deriving DecidableEq

namespace Applier

/-- The applier that has nothing to remember. -/
def fresh : Applier := {}

/-- Whether the lamp has to be written. -/
def needsLed (a : Applier) (s : ActuatorState) : Bool :=
  a.last.all fun last => last.led != s.led

/-- Whether a channel has to be written. -/
def needsChannel (a : Applier) (s : ActuatorState) (c : Channel) : Bool :=
  a.last.all fun last => last.isOn c != s.isOn c

/-- Applies a state to the lamp and then to the channels of a set in order, and remembers it. -/
def apply (a : Applier) (s : ActuatorState) (channels : ChannelSet) : Applier × Tally :=
  let lamp := Tally.addIf {} (a.needsLed s) (.led s.led)
  let step (t : Tally) (c : Channel) := t.addIf (a.needsChannel s c) (.channel c (s.isOn c))
  (⟨some s⟩, channels.toList.foldl step lamp)

end Applier

end HomeMesh
