import HomeMesh.Proofs.Node.Reports
import HomeMesh.Proofs.Node.Run

/-!
# A node with deadlines

The rules of a node are about passing activations: a light that stays on for a while, a display that
is awake for a while, an intrusion that holds further reports back for a while.  This module states
the rules on a clock that never wraps.  Each activation is a deadline, the last moment at which it
lasts; there are no start ticks to compare and no guard against a wrapped counter, and the outbox is
a plain list.

`observe` is what an event makes of such a node, `isOn` its truth table of outputs, and `run` what a
sequence of calls leads to.
-/

namespace HomeMesh

/-- A node whose activations are deadlines. -/
structure DeadlineNode where
  profile : Profile
  mode : Mode := .silence
  sensors : SensorCache := {}
  /-- The last moment at which the light stays on. -/
  lightUntil : Option Nat := none
  displayUntil : Option Nat := none
  intrusionUntil : Option Nat := none
  warningEnabled : Bool := true
  /-- The envelopes that it wants to send, the most recent first. -/
  pending : List Envelope := []

namespace DeadlineNode

/-- A node at its start. -/
def new (p : Profile) : DeadlineNode := { profile := p }

/-- Whether there is a deadline and it has not passed. -/
def isAhead (deadline : Option Nat) (now : Nat) : Bool :=
  deadline.any fun last => decide (now ≤ last)

/-! ## Sending -/

/-- Keeps an envelope until it is sent.  At most eight are kept; one more is lost. -/
def queue (a : DeadlineNode) (m : Envelope) : DeadlineNode :=
  if a.pending.length < 8 then { a with pending := m :: a.pending } else a

/-! ## The rules -/

/-- A movement on a sensor that is bound to `action`. -/
def move (a : DeadlineNode) (action : MovementAction) (now : Nat) : DeadlineNode :=
  let timing := a.profile.timing
  match a.mode with
  | .silence =>
    if isAhead a.lightUntil now then a
    else
      let lit := { a with lightUntil := some (now + timing.light.toNat) }
      let asked :=
        if a.sensors.isDark && action.notifyLightPeer then
          lit.queue a.profile.lightRequest
        else lit
      if action.wakeDisplay then
        { asked with displayUntil := some (now + timing.display.toNat) }
      else asked
  | .guard =>
    if isAhead a.intrusionUntil now then a
    else
      { a with
        lightUntil := some (now + timing.light.toNat)
        intrusionUntil := some (now + timing.intrusion.toNat) }.queue
        a.profile.intrusionReport
  | .alarm => a

/-- Whether an envelope names the node, or names everybody and the node accepts that. -/
def accepts (a : DeadlineNode) (m : Envelope) : Bool :=
  m.destinations.items.contains a.profile.id ||
    (a.profile.acceptsBroadcast && m.destinations.items.contains .broadcast)

/-- What an accepted envelope asks for. -/
def obey (a : DeadlineNode) (m : Envelope) (now : Nat) : DeadlineNode :=
  let timing := a.profile.timing
  let entering (mode : Mode) : DeadlineNode :=
    { a with mode := mode, lightUntil := none, displayUntil := none, intrusionUntil := none }
  match m.command with
  | .setMode =>
    if m.value0 = 0 then entering .silence
    else if m.value0 = 1 then entering .guard
    else if m.value0 = 2 then entering .alarm
    else a
  | .setIntrusion =>
    if m.value0 = 0 then { a with intrusionUntil := none }
    else if isAhead a.intrusionUntil now then a
    else
      { a with
        lightUntil := some (now + timing.light.toNat)
        intrusionUntil := some (now + timing.intrusion.toNat) }
  | .setLight =>
    if m.value0 = 0 then { a with lightUntil := none }
    else if isAhead a.lightUntil now then a
    else { a with lightUntil := some (now + timing.light.toNat) }
  | .setWarning =>
    if a.profile.comfort.isSome then { a with warningEnabled := decide (m.value0 ≠ 0) } else a
  | .updateTemperature | .updateHumidity | .updateDoorState => a

/-- The node after an event, and the delay until the sensor is to be polled next. -/
def observe (a : DeadlineNode) (e : Event) (now : Nat) : DeadlineNode × Option Duration :=
  let timing := a.profile.timing
  match e with
  | .luminosity reading =>
    let isDark := reading.valid && reading.lux.lt a.profile.darknessThreshold
    ({ a with sensors := { a.sensors with isDark := isDark } }, some timing.luminosityPoll)
  | .environment reading =>
    let kept := { a with sensors := { a.sensors with environment := reading } }
    (if reading.valid then kept.queue (a.profile.climateReport reading) else kept,
      some timing.environmentPoll)
  | .door isOpen =>
    match timing.doorPoll with
    | none => (a, none)
    | some period =>
      ({ a with sensors := { a.sensors with doorOpen := isOpen } }.queue
        (a.profile.doorReport isOpen), some period)
  | .movement input =>
    match a.profile.movementAction? input with
    | none => (a, none)
    | some action => (a.move action now, none)
  | .button _ => (a, none)
  | .message m => (if a.accepts m then a.obey m now else a, none)

/-! ## The truth table -/

/-- Whether the light is on. -/
def light (a : DeadlineNode) (now : Nat) : Bool :=
  a.sensors.isDark && (a.mode == .alarm || isAhead a.lightUntil now)

/-- Whether the alert is on. -/
def alert (a : DeadlineNode) (now : Nat) : Bool :=
  a.mode == .alarm || (a.mode == .guard && isAhead a.intrusionUntil now)

/-- The lit segment of the light strip. -/
def strip (a : DeadlineNode) (now : Nat) : StripTier :=
  if a.alert now then .red
  else if a.light now then (if a.mode = .silence then .green else .yellow)
  else .off

/-- Whether the climate is uncomfortable in a way that the door could change. -/
def warning (a : DeadlineNode) : Bool :=
  a.mode == .silence && a.warningEnabled && a.sensors.environment.valid &&
    a.profile.comfort.any fun band =>
      if a.sensors.doorOpen then a.sensors.environment.temperature.lt band.low
      else band.high.lt a.sensors.environment.temperature

/-- Whether a channel is on: the node carries it, and it shows an output that is on. -/
def isOn (a : DeadlineNode) (now : Nat) (c : Channel) : Bool :=
  let output : Bool :=
    match c with
    | .verandaLight | .frontLight | .buzzer => false
    | .stripGreen => a.strip now == .green
    | .stripYellow => a.strip now == .yellow
    | .stripRed => a.strip now == .red
    | .warningLed => a.warning
    | .display => a.mode == .silence && isAhead a.displayUntil now
    | .motionSensor => a.mode != .alarm
  a.profile.channels.contains c &&
    (c == a.profile.primaryLight && a.light now || c == a.profile.alert && a.alert now || output)

/-- The outputs of the node. -/
def actuators (a : DeadlineNode) (now : Nat) : ActuatorState where
  led := if a.mode = .silence then .green else .red
  lit := .ofList (Channel.all.filter (a.isOn now))
  messagePending := !a.pending.isEmpty

/-! ## Runs -/

/-- The node after a call, and its answer. -/
def call (a : DeadlineNode) : Call Nat → DeadlineNode × Answer
  | .event e now => ((a.observe e now).1, .delay (a.observe e now).2)
  | .pop =>
    match a.pending with
    | [] => (a, .envelope none)
    | m :: rest => ({ a with pending := rest }, .envelope (some m))
  | .reset => (new a.profile, .started)

/-- The node after some calls, and its answers in order. -/
def run (a : DeadlineNode) : List (Call Nat) → DeadlineNode × List Answer
  | [] => (a, [])
  | c :: calls => ((run (a.call c).1 calls).1, (a.call c).2 :: (run (a.call c).1 calls).2)

end DeadlineNode

end HomeMesh
