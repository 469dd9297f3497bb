import HomeMesh.Profile

/-!
# Outputs and actuator states

A mode decides about outputs without regard to what a node has: `ModeOutputs`.  A profile maps them
onto channels, and leaves out those that the node does not carry: `ModeOutputs.actuators` gives the
`ActuatorState`, which says for each channel whether it is on.
-/

namespace HomeMesh

/-- The colour of the status lamp. -/
inductive StatusLed where
  | green
  | red
deriving DecidableEq

def StatusLed.label : StatusLed → String
  | .green => "Green"
  | .red => "Red"

/-- What a pin drives. -/
inductive PinRole where
  | redLed
  | greenLed
  | channel (c : Channel)
deriving DecidableEq

/-- The name of a pin in log lines. -/
def PinRole.name : PinRole → String
  | .redLed => "status_red"
  | .greenLed => "status_green"
  | .channel c => c.name

/-- The lit segment of the light strip. -/
inductive StripTier where
  | off
  | green
  | yellow
  | red
deriving DecidableEq

namespace StripTier

def label : StripTier → String
  | .off => "Off"
  | .green => "Green"
  | .yellow => "Yellow"
  | .red => "Red"

instance : Enumerated StripTier where
  all := [.off, .green, .yellow, .red]
  label := label
  mem_all a := by cases a <;> decide
  nodup_all := by decide
  label_injective a b := by cases a <;> cases b <;> decide

/-- The channel of the lit segment. -/
def channel? : StripTier → Option Channel
  | .off => none
  | .green => some .stripGreen
  | .yellow => some .stripYellow
  | .red => some .stripRed

end StripTier

/-- What a mode wants of the outputs, whatever the node has. -/
structure ModeOutputs where
  led : StatusLed
  light : Bool
  alert : Bool
  strip : StripTier
  display : Bool
  /-- The power of the movement sensors. -/
  motionSensor : Bool
  /-- The warning of an uncomfortable climate. -/
  comfortWarning : Bool
deriving DecidableEq

/-- Every output of a node at one moment. -/
structure ActuatorState where
  led : StatusLed
  /-- The channels that are on. -/
  lit : ChannelSet
  /-- Whether an envelope waits to be sent. -/
  messagePending : Bool
deriving DecidableEq

def ActuatorState.isOn (s : ActuatorState) (c : Channel) : Bool := s.lit.contains c

namespace ModeOutputs

/-- The channels that a mode wants to be on, on a node with this light and this alert. -/
def wanted (out : ModeOutputs) (primaryLight alert : Channel) : ChannelSet :=
  let lights := (ChannelSet.empty.insertIf out.light primaryLight).insertIf out.alert alert
  let warned := lights.insertIf out.comfortWarning .warningLed
  let striped := out.strip.channel?.elim warned warned.insert
  (striped.insertIf out.display .display).insertIf out.motionSensor .motionSensor

/-- The outputs mapped onto the channels that a node carries. -/
def actuators (out : ModeOutputs) (p : Profile) (messagePending : Bool) : ActuatorState :=
  { led := out.led
    lit := (out.wanted p.primaryLight p.alert).inter p.channels
    messagePending := messagePending }

end ModeOutputs

end HomeMesh
