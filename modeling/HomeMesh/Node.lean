import HomeMesh.Notice
import HomeMesh.Outbox

/-!
# Nodes

A `Node` is what one node of the mesh knows: its profile, its mode, what its sensors have seen,
three timing windows, whether it warns of an uncomfortable climate, and the envelopes that it wants
to send.  Outputs are not stored; they follow from the rest.

Every operation on a node is total.  One that may note something or queue an envelope answers with
a `Reaction`.
-/

namespace HomeMesh

/-- The timing windows of a node. -/
structure Windows where
  /-- Runs while the light is on. -/
  light : Window := .inactive
  /-- Runs while the display is awake. -/
  display : Window := .inactive
  /-- Runs while an intrusion alert lasts. -/
  intrusion : Window := .inactive
deriving DecidableEq

/-- Closes the windows whose start lies after `now`. -/
def Windows.normalize (w : Windows) (now : Tick) : Windows :=
  ⟨w.light.normalize now, w.display.normalize now, w.intrusion.normalize now⟩

/-- What a node knows. -/
structure Node where
  profile : Profile
  mode : Mode := .silence
  sensors : SensorCache := {}
  windows : Windows := {}
  warningEnabled : Bool := true
  outbox : Outbox := .empty
deriving DecidableEq

/-- What the status display shows, and for how long. -/
structure DisplaySnapshot where
  /-- The last measurement of the climate, valid or not. -/
  environment : EnvironmentReading
  /-- How long the display stays awake. -/
  timeout : Duration
deriving DecidableEq

/-- The answer of a node to an event. -/
structure Reaction where
  node : Node
  /-- When the sensor that the event came from is to be polled next. -/
  delay : Option Duration := none
  /-- The envelope that the node handed to its outbox, whether there was room for it or not. -/
  offered : Option Envelope := none
  notices : List Notice := []
deriving DecidableEq

namespace Node

/-- A node at its start. -/
def new (p : Profile) : Node := { profile := p }

/-- The address of a node. -/
def id (n : Node) : NodeId := n.profile.id

/-- Starts a node. -/
def start (p : Profile) : Reaction := { node := new p, notices := [.started p.id] }

/-- Starts a node anew. -/
def reset (n : Node) : Reaction := start n.profile

/-! ## Windows -/

/-- Closes the windows whose start lies after `now`. -/
def normalizeWindows (n : Node) (now : Tick) : Node :=
  { n with windows := n.windows.normalize now }

/-- Closes all windows. -/
def closeWindows (n : Node) : Node := { n with windows := {} }

/-- Whether the light window is running. -/
def isLightRunning (n : Node) (now : Tick) : Bool :=
  n.windows.light.isRunning now n.profile.timing.light

/-- Whether the display window is running. -/
def isDisplayRunning (n : Node) (now : Tick) : Bool :=
  n.windows.display.isRunning now n.profile.timing.display

/-- Whether the intrusion window is running. -/
def isIntrusionRunning (n : Node) (now : Tick) : Bool :=
  n.windows.intrusion.isRunning now n.profile.timing.intrusion

/-- Opens the light window if it has expired; says whether it did. -/
def reopenLight (n : Node) (now : Tick) : Node × Bool :=
  let (light, reopened) := n.windows.light.reopenIfExpired now n.profile.timing.light
  ({ n with windows := { n.windows with light := light } }, reopened)

/-- Opens the intrusion window if it has expired, and the light window with it; says whether it
did. -/
def reopenIntrusion (n : Node) (now : Tick) : Node × Bool :=
  let (intrusion, reopened) :=
    n.windows.intrusion.reopenIfExpired now n.profile.timing.intrusion
  let light := if reopened then .openedAt now else n.windows.light
  ({ n with windows := { n.windows with light := light, intrusion := intrusion } }, reopened)

/-- Closes the light window. -/
def closeLight (n : Node) : Node := { n with windows := { n.windows with light := .inactive } }

/-- Closes the intrusion window. -/
def closeIntrusion (n : Node) : Node :=
  { n with windows := { n.windows with intrusion := .inactive } }

/-- Opens the display window. -/
def wakeDisplay (n : Node) (now : Tick) : Node :=
  { n with windows := { n.windows with display := .openedAt now } }

/-- How long the light stays on after a movement. -/
def lightTimeout (n : Node) : Duration := n.profile.timing.light

/-! ## Climate -/

/-- Whether the climate is uncomfortable in a way that the door could change: too cold while it is
open, or too warm while it is closed. -/
def comfortWarning (n : Node) : Bool :=
  match n.profile.comfort with
  | none => false
  | some band =>
    let environment := n.sensors.environment
    n.warningEnabled && environment.valid &&
      if n.sensors.doorOpen then environment.temperature.lt band.low
      else band.high.lt environment.temperature

/-- What the status display shows. -/
def snapshot (n : Node) : DisplaySnapshot :=
  { environment := n.sensors.environment, timeout := n.profile.timing.display }

/-! ## Envelopes -/

/-- Hands an envelope to the outbox.  If there is no room for it, it is lost. -/
def offer (n : Node) (m : Envelope) : Reaction :=
  match n.outbox.push? m with
  | some outbox => { node := { n with outbox := outbox }, offered := some m }
  | none => { node := n, offered := some m, notices := [.outboxFull n.id m.command] }

/-- Hands an envelope with a switch position to the outbox. -/
def offerSwitch (n : Node) (destinations : List NodeId) (command : Command) (s : Switch) :
    Reaction :=
  n.offer (.switch n.id destinations command s)

/-- Takes the most recent envelope out of the outbox. -/
def popMessage? (n : Node) : Option (Envelope × Node) :=
  (Outbox.pop? n.outbox).map fun (m, outbox) => (m, { n with outbox := outbox })

end Node

namespace Reaction

/-- The reaction with something noted before the rest. -/
def noting (notice : Notice) (r : Reaction) : Reaction :=
  { r with notices := notice :: r.notices }

/-- The reaction with a delay until the next poll. -/
def after (delay : Duration) (r : Reaction) : Reaction := { r with delay := some delay }

end Reaction

end HomeMesh
