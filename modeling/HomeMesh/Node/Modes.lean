import HomeMesh.Node

/-!
# What the modes do

A mode decides how a node reacts to movements (`Node.move`) and what it wants of its outputs
(`Node.outputs`).  Entering a mode closes all windows, also if the node is in that mode already.

* In *silence* a movement opens the light window; in the dark it may ask a peer for light, and it
  may wake the display.  While the light window is running, a movement does nothing.
* On *guard* a movement opens the intrusion window and the light window, and reports an intrusion.
  While the intrusion window is running, a movement does nothing.
* In *alarm* a movement does nothing.
-/

namespace HomeMesh.Node

/-! ## Entering a mode -/

/-- Enters a mode and closes all windows. -/
def enter (n : Node) (mode : Mode) : Reaction :=
  { node := { n with mode := mode }.closeWindows, notices := [.modeEntered n.id n.mode mode] }

/-! ## Movements -/

/-- Asks the light peer for light, if it is dark and the movement is bound to do so. -/
def requestLight (n : Node) (action : MovementAction) : Reaction :=
  if n.sensors.isDark && action.notifyLightPeer then
    (n.offerSwitch [n.profile.lightPeer] .setLight .on).noting
      (.lightRequested n.id n.profile.lightPeer)
  else { node := n }

/-- A movement in silence. -/
def moveInSilence (n : Node) (action : MovementAction) (now : Tick) : Reaction :=
  match n.reopenLight now with
  | (n, false) => { node := n, notices := [.movementAbsorbed n.id now] }
  | (n, true) =>
    let requested := n.requestLight action
    if action.wakeDisplay then
      { requested with
        node := requested.node.wakeDisplay now
        notices := requested.notices ++ [.displayWoken n.id now] }
    else requested

/-- A movement on guard. -/
def moveOnGuard (n : Node) (now : Tick) : Reaction :=
  match n.reopenIntrusion now with
  | (n, false) => { node := n }
  | (n, true) =>
    (n.offerSwitch n.profile.intrusionTargets.items .setIntrusion .on).noting
      (.intrusionDetected n.id now)

/-- A movement on a sensor that is bound to `action`. -/
def move (n : Node) (action : MovementAction) (now : Tick) : Reaction :=
  match n.mode with
  | .silence => n.moveInSilence action now
  | .guard => n.moveOnGuard now
  | .alarm => { node := n, notices := [.movementIgnored n.id now] }

/-! ## Outputs -/

/-- What a node wants of its outputs in silence. -/
def outputsInSilence (n : Node) (now : Tick) : ModeOutputs :=
  let light := n.sensors.isDark && n.isLightRunning now
  { led := .green
    light := light
    alert := false
    strip := if light then .green else .off
    display := n.isDisplayRunning now
    motionSensor := true
    comfortWarning := n.comfortWarning }

/-- What a node wants of its outputs on guard. -/
def outputsOnGuard (n : Node) (now : Tick) : ModeOutputs :=
  let light := n.sensors.isDark && n.isLightRunning now
  let alert := n.isIntrusionRunning now
  { led := .red
    light := light
    alert := alert
    strip := if alert then .red else if light then .yellow else .off
    display := false
    motionSensor := true
    comfortWarning := false }

/-- What a node wants of its outputs in alarm. -/
def outputsInAlarm (n : Node) : ModeOutputs :=
  { led := .red
    light := n.sensors.isDark
    alert := true
    strip := .red
    display := false
    motionSensor := false
    comfortWarning := false }

/-- What a node wants of its outputs. -/
def outputs (n : Node) (now : Tick) : ModeOutputs :=
  match n.mode with
  | .silence => n.outputsInSilence now
  | .guard => n.outputsOnGuard now
  | .alarm => n.outputsInAlarm

/-- The outputs of a node. -/
def actuators (n : Node) (now : Tick) : ActuatorState :=
  (n.outputs now).actuators n.profile (!n.outbox.isEmpty)

end HomeMesh.Node
