import HomeMesh.Channel
import HomeMesh.Envelope
import HomeMesh.Fault
import HomeMesh.Sensors
import HomeMesh.Window

/-!
# Node profiles

A `Profile` holds everything in which one kind of node differs from another: its outputs, how long
a passing activation lasts, the thresholds of darkness and comfort, the poll periods and the
addresses of its reports.  `Profile.validate` refuses profiles that a node could not run sensibly,
with the first fault that applies.  Two kinds of node are built in, `Profile.b02` and
`Profile.t01`.
-/

namespace HomeMesh

/-- What a movement does while the node is silent. -/
structure MovementAction where
  /-- Ask the light peer for light if it is dark. -/
  notifyLightPeer : Bool
  /-- Wake the status display. -/
  wakeDisplay : Bool
deriving DecidableEq

/-- A movement sensor and what its movements do. -/
structure MovementBinding where
  input : MovementInput
  action : MovementAction
deriving DecidableEq

/-- How long windows run, and how often sensors are polled. -/
structure Timing where
  light : Duration
  display : Duration
  /-- How long an intrusion alert lasts and further reports are held back. -/
  intrusion : Duration
  luminosityPoll : Duration
  environmentPoll : Duration
  /-- The period at which the door is polled; none on nodes without a door contact. -/
  doorPoll : Option Duration
deriving DecidableEq

/-- The temperatures between which no warning is given. -/
structure ComfortBand where
  /-- Below this it is too cold to leave the door open. -/
  low : Single
  /-- Above this it is too warm to keep the door closed. -/
  high : Single
deriving DecidableEq

/-- The most movement sensors on one node. -/
abbrev maxMovementInputs : Nat := 3

/-- A kind of node. -/
structure Profile where
  id : NodeId
  /-- The node to which reports go. -/
  hub : NodeId
  lightPeer : NodeId
  intrusionTargets : Bounded NodeId maxDestinations
  acceptsBroadcast : Bool
  channels : ChannelSet
  /-- The output that movements and light commands switch. -/
  primaryLight : Channel
  /-- The output that intrusions switch. -/
  alert : Channel
  movement : Bounded MovementBinding maxMovementInputs
  timing : Timing
  /-- It is dark if a valid measurement is below this. -/
  darknessThreshold : Single
  /-- The comfortable temperatures, on nodes that warn of others. -/
  comfort : Option ComfortBand
deriving DecidableEq

namespace Profile

/-! ## Built-in kinds -/

/-- The veranda node: three movement sensors, a light strip, a buzzer and a display.  It accepts
broadcasts, and broadcasts its own intrusion reports. -/
def b02 : Profile where
  id := .b02
  hub := .hub
  lightPeer := .t01
  intrusionTargets := .truncate [.broadcast]
  acceptsBroadcast := true
  channels := .ofList
    [.verandaLight, .stripGreen, .stripYellow, .stripRed, .buzzer, .display, .motionSensor]
  primaryLight := .verandaLight
  alert := .buzzer
  movement := .truncate
    [⟨.door, ⟨true, false⟩⟩, ⟨.front, ⟨true, false⟩⟩, ⟨.veranda, ⟨false, true⟩⟩]
  timing :=
    { light := 60000, display := 30000, intrusion := 30000, luminosityPoll := 1000,
      environmentPoll := 60000, doorPoll := none }
  darknessThreshold := .ofQuotient false 11 2
  comfort := none

/-- The hall node: one movement sensor, a door contact, a warning lamp and a display.  It ignores
broadcasts, and reports intrusions to the hub and to the veranda node. -/
def t01 : Profile where
  id := .t01
  hub := .hub
  lightPeer := .b02
  intrusionTargets := .truncate [.b01, .b02]
  acceptsBroadcast := false
  channels := .ofList [.frontLight, .warningLed, .display, .motionSensor]
  primaryLight := .frontLight
  alert := .warningLed
  movement := .truncate [⟨.front, ⟨true, true⟩⟩]
  timing :=
    { light := 120000, display := 20000, intrusion := 30000, luminosityPoll := 1000,
      environmentPoll := 30000, doorPoll := some 500 }
  darknessThreshold := .ofQuotient false 10 1
  comfort := some ⟨.ofQuotient false 15 1, .ofQuotient false 25 1⟩

/-- The built-in profile of a node. -/
def forNode? : NodeId → Option Profile
  | .b02 => some b02
  | .t01 => some t01
  | .b01 | .broadcast => none

/-! ## Queries -/

/-- What a movement on a sensor does, if the node has that sensor. -/
def movementAction? (p : Profile) (input : MovementInput) : Option MovementAction :=
  (p.movement.items.find? fun b => b.input == input).map fun b => b.action

/-- Whether the node has a door contact. -/
def hasDoorSensor (p : Profile) : Bool := p.timing.doorPoll.isSome

/-! ## Validation -/

/-- What a profile has to satisfy, each condition with the fault of a profile that breaks it. -/
def conditions (p : Profile) : List (Bool × ProfileFault) :=
  [(p.id != .broadcast, .idIsBroadcast),
    (p.lightPeer != p.id, .lightPeerIsSelf),
    (!p.intrusionTargets.isEmpty, .noIntrusionTargets),
    (p.timing.light != 0 && p.timing.display != 0 && p.timing.intrusion != 0, .zeroWindow),
    (p.timing.luminosityPoll != 0 && p.timing.environmentPoll != 0 && p.timing.doorPoll != some 0,
      .zeroPoll),
    (p.darknessThreshold.isFinite, .thresholdNotFinite),
    (p.comfort.all fun band => band.low.lt band.high, .comfortBandEmpty),
    (p.channels.contains p.primaryLight && p.channels.contains p.alert, .outputNotCarried),
    (p.channels.contains .display || !p.movement.items.any fun b => b.action.wakeDisplay,
      .displayNotCarried)]

/-- Accepts a profile that satisfies every condition, and refuses any other with the fault of the
first condition that it breaks. -/
def validate (p : Profile) : Except ProfileFault Unit :=
  match p.conditions.find? fun c => !c.1 with
  | none => .ok ()
  | some (_, fault) => .error fault

end Profile

end HomeMesh
