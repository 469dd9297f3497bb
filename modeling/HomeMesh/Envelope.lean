import HomeMesh.Bounded
import HomeMesh.Enumerated
import HomeMesh.Single

/-!
# Envelopes

Every command and every report between nodes travels as one `Envelope`: who sends it, to whom, what
it is, and three value slots whose meaning depends on the command.  An envelope names at most two
destinations; one of them may be the sentinel `NodeId.broadcast`, which reaches each node that
accepts broadcasts (`Envelope.isAddressedTo`).
-/

namespace HomeMesh

/-! ## Addresses -/

/-- A node of the mesh, or the sentinel for all of them. -/
inductive NodeId where
  /-- The hub, to which every report goes. -/
  | b01
  | b02
  | t01
  /-- Every node that accepts broadcasts. -/
  | broadcast
deriving DecidableEq

namespace NodeId

/-- The node to which every report goes. -/
def hub : NodeId := .b01

/-- The name of a node in log lines. -/
def name : NodeId → String
  | .b01 => "B01"
  | .b02 => "B02"
  | .t01 => "T01"
  | .broadcast => "BROADCAST"

/-- The label of a node in profile texts and address lists. -/
def label : NodeId → String
  | .b01 => "B01"
  | .b02 => "B02"
  | .t01 => "T01"
  | .broadcast => "Broadcast"

instance : Enumerated NodeId where
  all := [.b01, .b02, .t01, .broadcast]
  label := label
  mem_all a := by cases a <;> decide
  nodup_all := by decide
  label_injective a b := by cases a <;> cases b <;> decide

/-- The labels of an address list, in brackets. -/
def listText (ids : List NodeId) : String := "[" ++ ", ".intercalate (ids.map label) ++ "]"

end NodeId

/-! ## Commands -/

/-- What an envelope asks for or reports. -/
inductive Command where
  /-- Enter the mode that the first value names. -/
  | setMode
  /-- Begin or end the alert for an intrusion. -/
  | setIntrusion
  | setLight
  | setWarning
  /-- Report pressure and temperature. -/
  | updateTemperature
  /-- Report humidity, pressure and temperature. -/
  | updateHumidity
  | updateDoorState
deriving DecidableEq

namespace Command

def label : Command → String
  | .setMode => "SetMode"
  | .setIntrusion => "SetIntrusion"
  | .setLight => "SetLight"
  | .setWarning => "SetWarning"
  | .updateTemperature => "UpdateTemperature"
  | .updateHumidity => "UpdateHumidity"
  | .updateDoorState => "UpdateDoorState"

instance : Enumerated Command where
  all := [.setMode, .setIntrusion, .setLight, .setWarning, .updateTemperature, .updateHumidity,
    .updateDoorState]
  label := label
  mem_all a := by cases a <;> decide
  nodup_all := by decide
  label_injective a b := by cases a <;> cases b <;> decide

end Command

/-- The argument of a command that switches something. -/
inductive Switch where
  | off
  | on
deriving DecidableEq

namespace Switch

def label : Switch → String
  | .off => "Off"
  | .on => "On"

/-- The position that a value slot stands for: any value but zero is `on`. -/
def ofValue (v : Int32) : Switch := if v = 0 then .off else .on

/-- The value that stands for a position. -/
def value : Switch → Int32
  | .off => 0
  | .on => 1

/-- The position for a truth value. -/
def ofBool (b : Bool) : Switch := if b then .on else .off

end Switch

/-! ## The envelope -/

/-- The most destinations that one envelope names. -/
abbrev maxDestinations : Nat := 2

/-- One command or report on its way. -/
structure Envelope where
  source : NodeId
  destinations : Bounded NodeId maxDestinations
  command : Command
  /-- The first value: a mode, a switch position, a humidity or a door state. -/
  value0 : Int32 := 0
  /-- The second value: a pressure, or zero. -/
  value1 : Int32 := 0
  /-- The third value: a temperature, or zero. -/
  value2 : Single := Single.zero
deriving DecidableEq

namespace Envelope

/-- An envelope with zero in all slots; destinations past the second are left out. -/
def new (source : NodeId) (destinations : List NodeId) (command : Command) : Envelope :=
  { source := source, destinations := .truncate destinations, command := command }

/-- The envelope with these values in its slots. -/
def withValues (m : Envelope) (v0 v1 : Int32) (v2 : Single) : Envelope :=
  { m with value0 := v0, value1 := v1, value2 := v2 }

/-- An envelope that carries a switch position. -/
def switch (source : NodeId) (destinations : List NodeId) (command : Command) (s : Switch) :
    Envelope :=
  (new source destinations command).withValues s.value 0 Single.zero

/-- The first value, read as a switch position. -/
def switchValue (m : Envelope) : Switch := Switch.ofValue m.value0

/-- Whether the node `id` is among the destinations, by name or as one that accepts broadcasts. -/
def isAddressedTo (m : Envelope) (id : NodeId) (acceptsBroadcast : Bool) : Bool :=
  m.destinations.items.any fun d => d == id || (acceptsBroadcast && d == .broadcast)

end Envelope

end HomeMesh
