import HomeMesh.Enumerated

/-!
# Actuator channels

Every output that a node can switch has a `Channel`.  A `ChannelSet` is a mask of sixteen bits of
which the lowest nine stand for the channels, in order.  The other seven bits mean nothing, but a
set keeps whatever they hold.
-/

namespace HomeMesh

/-- A switchable output of a node. -/
inductive Channel where
  | verandaLight
  | frontLight
  | stripGreen
  | stripYellow
  | stripRed
  | buzzer
  /-- The lamp that warns of an intrusion or of an uncomfortable climate. -/
  | warningLed
  /-- The power of the status display. -/
  | display
  /-- The power of the movement sensors. -/
  | motionSensor
deriving DecidableEq

namespace Channel

/-- The channels, from the lowest bit to the highest. -/
def all : List Channel :=
  [.verandaLight, .frontLight, .stripGreen, .stripYellow, .stripRed, .buzzer, .warningLed,
    .display, .motionSensor]

def label : Channel → String
  | .verandaLight => "VerandaLight"
  | .frontLight => "FrontLight"
  | .stripGreen => "StripGreen"
  | .stripYellow => "StripYellow"
  | .stripRed => "StripRed"
  | .buzzer => "Buzzer"
  | .warningLed => "WarningLed"
  | .display => "Display"
  | .motionSensor => "MotionSensor"

instance : Enumerated Channel where
  all := all
  label := label
  mem_all a := by cases a <;> decide
  nodup_all := by decide
  label_injective a b := by cases a <;> cases b <;> decide

/-- The name of a channel in log lines. -/
def name : Channel → String
  | .verandaLight => "veranda_light"
  | .frontLight => "front_light"
  | .stripGreen => "strip_green"
  | .stripYellow => "strip_yellow"
  | .stripRed => "strip_red"
  | .buzzer => "buzzer"
  | .warningLed => "warning_led"
  | .display => "display"
  | .motionSensor => "motion_sensor"

/-- The bit of a channel. -/
def mask : Channel → UInt16
  | .verandaLight => 0x001
  | .frontLight => 0x002
  | .stripGreen => 0x004
  | .stripYellow => 0x008
  | .stripRed => 0x010
  | .buzzer => 0x020
  | .warningLed => 0x040
  | .display => 0x080
  | .motionSensor => 0x100

end Channel

/-- A set of channels, as a mask. -/
structure ChannelSet where
  /-- One bit for each channel, and seven bits without a meaning. -/
  bits : UInt16
deriving DecidableEq

namespace ChannelSet

def empty : ChannelSet := ⟨0⟩

instance : EmptyCollection ChannelSet := ⟨empty⟩

def contains (s : ChannelSet) (c : Channel) : Bool := s.bits &&& c.mask != 0

/-- The set with one more channel. -/
def insert (s : ChannelSet) (c : Channel) : ChannelSet := ⟨s.bits ||| c.mask⟩

/-- The set with one more channel if `p` holds, and the same set otherwise. -/
def insertIf (s : ChannelSet) (p : Bool) (c : Channel) : ChannelSet :=
  if p then s.insert c else s

def ofList (cs : List Channel) : ChannelSet := cs.foldl insert empty

/-- The channels of the set, in order. -/
def toList (s : ChannelSet) : List Channel := Channel.all.filter s.contains

/-- The channels that are in both sets. -/
def inter (s t : ChannelSet) : ChannelSet := ⟨s.bits &&& t.bits⟩

end ChannelSet

end HomeMesh
