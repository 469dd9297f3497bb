import HomeMesh.Node.Modes

/-!
# Events

Sensors, the remote control and the transport hand their `Event`s to a node one at a time.
`Node.react` is the answer to any of them.

Measurements are cached; a valid measurement of the climate and every door state are reported to the
hub.  A movement or an accepted envelope first closes the windows whose start lies in the future.
An envelope never makes a node send another one.
-/

namespace HomeMesh

/-- What can happen to a node. -/
inductive Event where
  | luminosity (reading : LuminosityReading)
  | environment (reading : EnvironmentReading)
  | door (isOpen : Bool)
  | movement (input : MovementInput)
  | button (key : RemoteButton)
  | message (m : Envelope)
deriving DecidableEq

namespace Node

/-! ## Sensors -/

/-- Notes whether it is dark. -/
def observeLuminosity (n : Node) (reading : LuminosityReading) : Reaction :=
  let isDark := reading.valid && reading.lux.lt n.profile.darknessThreshold
  { node := { n with sensors := { n.sensors with isDark := isDark } }
    delay := some n.profile.timing.luminosityPoll
    notices := [.luminosity n.id reading isDark] }

/-- The report of a valid measurement of the climate. -/
def climateReport (n : Node) (reading : EnvironmentReading) : Envelope :=
  let pressure := reading.pressure.elim 0 Single.toInt32
  match reading.humidity with
  | some humidity =>
    (Envelope.new n.id [n.profile.hub] .updateHumidity).withValues humidity.toInt32 pressure
      reading.temperature
  | none =>
    (Envelope.new n.id [n.profile.hub] .updateTemperature).withValues 0 pressure
      reading.temperature

/-- Keeps a measurement of the climate, and reports it if it is valid. -/
def observeEnvironment (n : Node) (reading : EnvironmentReading) : Reaction :=
  let n := { n with sensors := { n.sensors with environment := reading } }
  let reported : Reaction :=
    if reading.valid then n.offer (n.climateReport reading)
    else { node := n, notices := [.invalidEnvironment n.id] }
  reported.after n.profile.timing.environmentPoll

/-- Keeps and reports a door state, on a node with a door contact. -/
def observeDoor (n : Node) (isOpen : Bool) : Reaction :=
  match n.profile.timing.doorPoll with
  | none => { node := n, notices := [.noDoorSensor n.id] }
  | some period =>
    let n := { n with sensors := { n.sensors with doorOpen := isOpen } }
    (n.offerSwitch [n.profile.hub] .updateDoorState (.ofBool isOpen)).after period

/-- A key does nothing yet. -/
def pressButton (n : Node) (key : RemoteButton) : Reaction :=
  { node := n, notices := [.unmappedButton n.id key] }

/-- A movement, on a node that has the sensor. -/
def observeMovement (n : Node) (input : MovementInput) (now : Tick) : Reaction :=
  match n.profile.movementAction? input with
  | none => { node := n, notices := [.unboundMovement n.id input] }
  | some action => (n.normalizeWindows now).move action now

/-! ## Envelopes -/

/-- Enters the mode that a value stands for. -/
def obeyMode (n : Node) (m : Envelope) : Reaction :=
  match Mode.ofValue? m.value0 with
  | some mode => n.enter mode
  | none => { node := n, notices := [.unknownMode n.id m.value0 m.source] }

/-- Begins or ends the alert for an intrusion that another node has seen. -/
def obeyIntrusion (n : Node) (m : Envelope) (now : Tick) : Reaction :=
  match m.switchValue with
  | .on =>
    match n.reopenIntrusion now with
    | (n, true) => { node := n, notices := [.intrusionReported n.id m.source] }
    | (n, false) => { node := n }
  | .off => { node := n.closeIntrusion }

/-- Switches the light. -/
def obeyLight (n : Node) (m : Envelope) (now : Tick) : Reaction :=
  match m.switchValue with
  | .on => { node := (n.reopenLight now).1 }
  | .off => { node := n.closeLight }

/-- Switches the warning of an uncomfortable climate, on a node that has one. -/
def obeyWarning (n : Node) (m : Envelope) : Reaction :=
  if n.profile.comfort.isSome then
    { node := { n with warningEnabled := m.switchValue == .on }
      notices := [.comfortWarning n.id m.switchValue] }
  else { node := n, notices := [.noComfortWarning n.id] }

/-- Does what an envelope for this node asks for. -/
def obey (n : Node) (m : Envelope) (now : Tick) : Reaction :=
  match m.command with
  | .setMode => n.obeyMode m
  | .setIntrusion => n.obeyIntrusion m now
  | .setLight => n.obeyLight m now
  | .setWarning => n.obeyWarning m
  | .updateTemperature | .updateHumidity | .updateDoorState =>
    { node := n, notices := [.reportIgnored n.id m.command] }

/-- An envelope has come in. -/
def receive (n : Node) (m : Envelope) (now : Tick) : Reaction :=
  if m.isAddressedTo n.id n.profile.acceptsBroadcast then (n.normalizeWindows now).obey m now
  else { node := n, notices := [.notAddressed n.id m.command m.source] }

/-! ## Any event -/

/-- The answer of a node to an event at the tick `now`. -/
def react (n : Node) (e : Event) (now : Tick) : Reaction :=
  match e with
  | .luminosity reading => n.observeLuminosity reading
  | .environment reading => n.observeEnvironment reading
  | .door isOpen => n.observeDoor isOpen
  | .movement input => n.observeMovement input now
  | .button key => n.pressButton key
  | .message m => n.receive m now

end Node

end HomeMesh
