import HomeMesh.Actuator
import HomeMesh.Decimal
import HomeMesh.Mode
import HomeMesh.Single.Text

/-!
# Notices

What happens in a node and around it is noted in a log.  A `Notice` names the occurrence and what
it is about; its level, the area that it comes from and its text follow from it
(`Notice.line`).
-/

namespace HomeMesh

/-! ## Lines of a log -/

/-- The weight of a log line. -/
inductive Level where
  | trace
  | debug
  | info
  | warn
deriving DecidableEq

namespace Level

def name : Level → String
  | .trace => "TRACE"
  | .debug => "DEBUG"
  | .info => "INFO"
  | .warn => "WARN"

/-- The place of a level, the least weight first. -/
def rank : Level → Nat
  | .trace => 0
  | .debug => 1
  | .info => 2
  | .warn => 3

end Level

/-- The part of the program that a log line comes from. -/
inductive Area where
  | events
  | modes
  | movements
  | outbox
  | transfer
  | rails
  | simulation
deriving DecidableEq

/-- The path of an area in log lines. -/
def Area.path : Area → String
  | .events => "homenode::app::controller"
  | .modes => "homenode::fsm"
  | .movements => "homenode::fsm::states"
  | .outbox => "homenode::fsm::context"
  | .transfer => "homenode::app::runtime"
  | .rails => "homenode::adapters::power_rails"
  | .simulation => "homenode_sim"

/-- A line of a log. -/
structure LogLine where
  level : Level
  area : Area
  text : String
deriving DecidableEq

namespace LogLine

/-- The line with its level in front. -/
def brief (l : LogLine) : String := l.level.name ++ " " ++ l.text

/-- The line with its level, in five columns, and its area in front. -/
def full (l : LogLine) : String :=
  let level := l.level.name
  let padding := String.ofList (List.replicate (5 - level.length) ' ')
  "[" ++ level ++ padding ++ " " ++ l.area.path ++ "] " ++ l.text

end LogLine

/-! ## Occurrences -/

/-- Something worth noting that happened at a node or around it. -/
inductive Notice where
  | started (node : NodeId)
  | luminosity (node : NodeId) (reading : LuminosityReading) (isDark : Bool)
  /-- A failed measurement of the climate is kept. -/
  | invalidEnvironment (node : NodeId)
  | noDoorSensor (node : NodeId)
  | unmappedButton (node : NodeId) (button : RemoteButton)
  /-- A movement came from a sensor that the node does not have. -/
  | unboundMovement (node : NodeId) (input : MovementInput)
  | notAddressed (node : NodeId) (command : Command) (source : NodeId)
  | unknownMode (node : NodeId) (value : Int32) (source : NodeId)
  | intrusionReported (node : NodeId) (source : NodeId)
  | comfortWarning (node : NodeId) (position : Switch)
  /-- The node has no warning of an uncomfortable climate to switch. -/
  | noComfortWarning (node : NodeId)
  /-- A report came to a node that is not the hub. -/
  | reportIgnored (node : NodeId) (command : Command)
  | modeEntered (node : NodeId) (old new : Mode)
  /-- A movement changes nothing because the light window is running. -/
  | movementAbsorbed (node : NodeId) (now : Tick)
  | lightRequested (node : NodeId) (peer : NodeId)
  | displayWoken (node : NodeId) (now : Tick)
  | intrusionDetected (node : NodeId) (now : Tick)
  /-- A movement changes nothing because the alarm is on. -/
  | movementIgnored (node : NodeId) (now : Tick)
  /-- The outbox has no room for an envelope, which is lost. -/
  | outboxFull (node : NodeId) (command : Command)
  | sent (m : Envelope)
  /-- A transport refused an envelope, which is lost. -/
  | rejected (m : Envelope) (fault : Fault)
  /-- A pin refused to be written. -/
  | pinRefused (role : PinRole)
  /-- A channel has no pin. -/
  | notWired (c : Channel)
  /-- There is no room for the pin of a channel. -/
  | noRailLeft (c : Channel)
deriving DecidableEq

namespace Notice

/-- The weight of a notice. -/
def level : Notice → Level
  | .luminosity .. | .unmappedButton .. | .movementAbsorbed .. | .displayWoken ..
  | .movementIgnored .. => .trace
  | .invalidEnvironment .. | .noDoorSensor .. | .unboundMovement .. | .notAddressed ..
  | .unknownMode .. | .noComfortWarning .. | .reportIgnored .. | .lightRequested ..
  | .sent .. => .debug
  | .started .. | .intrusionReported .. | .comfortWarning .. | .modeEntered ..
  | .intrusionDetected .. => .info
  | .outboxFull .. | .rejected .. | .pinRefused .. | .notWired .. | .noRailLeft .. => .warn

/-- The area that a notice comes from. -/
def area : Notice → Area
  | .started .. | .luminosity .. | .invalidEnvironment .. | .noDoorSensor ..
  | .unmappedButton .. | .unboundMovement .. | .notAddressed .. | .unknownMode ..
  | .intrusionReported .. | .comfortWarning .. | .noComfortWarning .. | .reportIgnored .. =>
    .events
  | .modeEntered .. => .modes
  | .movementAbsorbed .. | .lightRequested .. | .displayWoken .. | .intrusionDetected ..
  | .movementIgnored .. => .movements
  | .outboxFull .. => .outbox
  | .sent .. | .rejected .. => .transfer
  | .pinRefused .. | .notWired .. | .noRailLeft .. => .rails

/-- A truth value in a log line. -/
def boolText (b : Bool) : String := if b then "true" else "false"

/-- A tick in a log line. -/
def tickText (now : Tick) : String := Decimal.text now.toNat

/-- What a notice says. -/
def text : Notice → String
  | .started node => node.name ++ ": controller up in SILENCE"
  | .luminosity node reading isDark =>
    node.name ++ ": lux=" ++ reading.lux.tenthsText ++ " valid=" ++ boolText reading.valid ++
      " dark=" ++ boolText isDark
  | .invalidEnvironment node => node.name ++ ": invalid environment reading cached"
  | .noDoorSensor node => node.name ++ ": no door sensor, ignoring door state"
  | .unmappedButton node button =>
    node.name ++ ": remote button " ++ button.label ++ " (unmapped)"
  | .unboundMovement node input => node.name ++ ": no " ++ input.label ++ " input, ignoring"
  | .notAddressed node command source =>
    node.name ++ ": " ++ command.label ++ " from " ++ source.name ++ " not for us"
  | .unknownMode node value source =>
    node.name ++ ": unknown mode " ++ Decimal.intText value.toInt ++ " from " ++ source.name
  | .intrusionReported node source => node.name ++ ": intrusion reported by " ++ source.name
  | .comfortWarning node position => node.name ++ ": comfort warning " ++ position.label
  | .noComfortWarning node => node.name ++ ": no comfort warning feature"
  | .reportIgnored node command =>
    node.name ++ ": telemetry " ++ command.label ++ " is hub-bound, ignoring"
  | .modeEntered node old new => node.name ++ ": mode " ++ old.name ++ " -> " ++ new.name
  | .movementAbsorbed node now =>
    node.name ++ ": light window running, movement at " ++ tickText now ++ " absorbed"
  | .lightRequested node peer =>
    node.name ++ ": dark movement, asking " ++ peer.name ++ " for light"
  | .displayWoken node now => node.name ++ ": display woken at " ++ tickText now
  | .intrusionDetected node now => node.name ++ ": intrusion detected at " ++ tickText now
  | .movementIgnored node now =>
    node.name ++ ": movement at " ++ tickText now ++ " ignored in ALARM"
  | .outboxFull node command => node.name ++ ": outbox full, dropped " ++ command.label
  | .sent m =>
    m.source.name ++ ": sent " ++ m.command.label ++ " to " ++
      NodeId.listText m.destinations.items
  | .rejected m fault =>
    m.source.name ++ ": dropping " ++ m.command.label ++ ": " ++ fault.message
  | .pinRefused role => "power rails: " ++ role.name ++ " write failed: Other"
  | .notWired c => "power rails: " ++ c.name ++ " not wired"
  | .noRailLeft c => "power rails: no slot left for " ++ c.name

/-- The log line of a notice. -/
def line (n : Notice) : LogLine := ⟨n.level, n.area, n.text⟩

end Notice

end HomeMesh
