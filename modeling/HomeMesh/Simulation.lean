import HomeMesh.Applier
import HomeMesh.Mesh

/-!
# A simulated house

A veranda node and a hall node share a bus with a hub.  The script of an evening takes them through
the three modes; the log shows every output that is switched and every report that reaches the hub.

A `World` plays one `Scene` after the other.  It *settles* at a tick by giving every node the
chance to switch its outputs and send its envelopes, delivering what was sent, and doing both once
more.
-/

namespace HomeMesh.Simulation

/-! ## The world -/

/-- A node and what is remembered of its outputs. -/
structure Station where
  node : Node
  /-- What was applied to its outputs. -/
  applier : Applier := .fresh

/-- The nodes on a bus, and what was logged about them. -/
structure World where
  /-- The nodes, in the order in which they are served. -/
  stations : List Station := []
  bus : Bus := .new
  /-- The log, the first line first. -/
  log : List LogLine := []

/-- A line of the simulation itself. -/
def say (text : String) : LogLine := ⟨.info, .simulation, text⟩

/-- The line of a switched output. -/
def writeLine (node : NodeId) : Write → LogLine
  | .led colour => say ("[" ++ node.name ++ "] status LED " ++ colour.label)
  | .channel c on =>
    say ("[" ++ node.name ++ "] " ++ c.name ++ " " ++ if on then "ON" else "off")

/-- What the hub says of an envelope that reaches it. -/
def hubText (m : Envelope) : String :=
  let temperature := m.source.name ++ " temperature " ++ m.value2.tenthsText ++ " C"
  match m.command with
  | .updateTemperature => temperature
  | .updateHumidity => temperature ++ " humidity " ++ Decimal.intText m.value0.toInt ++ " %"
  | .updateDoorState =>
    m.source.name ++ " door " ++ if m.value0 = 0 then "closed" else "open"
  | .setMode | .setIntrusion | .setLight | .setWarning =>
    m.source.name ++ " sent " ++ m.command.label ++ "(" ++ Decimal.intText m.value0.toInt ++ ")"

/-- The lines of the hub and the bus about a frame. -/
def hubLines : Except CodecFault Envelope → List LogLine
  | .ok m => if m.isAddressedTo .hub true then [say ("[hub] " ++ hubText m)] else []
  | .error cause =>
    [⟨.warn, .simulation, "bus: dropping undecodable frame: " ++ (Fault.codec cause).message⟩]

namespace World

/-- Adds lines to the log. -/
def logging (w : World) (lines : List LogLine) : World := { w with log := w.log ++ lines }

/-- Adds a node, if its profile is valid. -/
def join (w : World) (p : Profile) : Except Fault World :=
  match p.validate with
  | .error cause => .error (.profile cause)
  | .ok () =>
    let started := Node.start p
    let w := w.logging (started.notices.map Notice.line)
    .ok { w with stations := w.stations ++ [{ node := started.node }] }

/-- Lets something happen to a node. -/
def happen (w : World) (id : NodeId) (e : Event) (now : Tick) : World :=
  let answer (s : Station) : Station × List LogLine :=
    if s.node.id = id then
      let r := s.node.react e now
      ({ s with node := r.node }, r.notices.map Notice.line)
    else (s, [])
  let answers := w.stations.map answer
  { w with stations := answers.map Prod.fst }.logging (answers.flatMap Prod.snd)

/-- Lets the hub put both nodes into a mode. -/
def command (w : World) (mode : Mode) : Except Fault World :=
  let m := (Envelope.new .hub [.b02, .t01] .setMode).withValues mode.value 0 Single.zero
  match Bus.send w.bus m with
  | (bus, .ok ()) => .ok { w with bus := bus }
  | (_, .error fault) => .error fault

/-- Lets a node switch its outputs and send its envelopes; it is put behind the others. -/
def serve (now : Tick) (w : World) (s : Station) : World :=
  let (applier, tally) := s.applier.apply (s.node.actuators now) s.node.profile.channels
  let (node, transfer) := s.node.flush Bus.send w.bus
  let served : Station := { node, applier }
  { w with stations := w.stations ++ [served], bus := transfer.state }.logging
    (tally.writes.map (writeLine s.node.id) ++ transfer.notices.map Notice.line)

/-- Lets every node switch its outputs and send its envelopes. -/
def serveAll (w : World) (now : Tick) : World :=
  w.stations.foldl (serve now) { w with stations := [] }

/-- Delivers what is on the bus. -/
def deliver (w : World) (now : Tick) : World :=
  let round := Mesh.deliver (w.stations.map Station.node) w.bus now
  let stations := w.stations.zipWith (fun s n => { s with node := n }) round.nodes
  let lines := round.deliveries.flatMap fun d => hubLines d.answer ++ d.notices.map Notice.line
  { w with stations := stations, bus := round.bus }.logging lines

/-- Serves and delivers twice, so that answers to what was sent arrive as well. -/
def settle (w : World) (now : Tick) : World :=
  (((w.serveAll now).deliver now).serveAll now).deliver now

end World

/-! ## The script -/

/-- A step of the script. -/
inductive Scene where
  /-- A heading in the log. -/
  | heading (text : String)
  /-- A node starts. -/
  | join (p : Profile)
  /-- Something happens to a node. -/
  | event (id : NodeId) (e : Event) (now : Tick)
  /-- The hub puts both nodes into a mode. -/
  | command (mode : Mode)
  /-- The world settles. -/
  | settle (now : Tick)
  /-- The modes of the nodes are logged. -/
  | modes

/-- Plays a step of the script. -/
def World.play (w : World) : Scene → Except Fault World
  | .heading text => .ok (w.logging [say text])
  | .join p => w.join p
  | .event id e now => .ok (w.happen id e now)
  | .command mode => w.command mode
  | .settle now => .ok (w.settle now)
  | .modes =>
    let modes := w.stations.map fun s => s.node.id.name ++ "=" ++ s.node.mode.label
    .ok (w.logging [say ("final modes: " ++ " ".intercalate modes)])

/-- The version of the simulator. -/
def version : String := "0.2.0"

/-- A whole number as a reading. -/
def reading (n : Nat) : Single := .ofQuotient false n 1

/-- An evening: people come home, leave, and somebody breaks in. -/
def script : List Scene :=
  [.heading ("HomeNode simulator v" ++ version),
    .join .b02,
    .join .t01,
    .heading "--- t=0 SILENCE, dusk ---",
    .event .b02 (.luminosity ⟨reading 3, true⟩) 0,
    .event .t01 (.luminosity ⟨reading 4, true⟩) 0,
    .event .b02 (.environment ⟨.ofQuotient false 17 2, none, some (reading 1009), true⟩) 0,
    .event .t01 (.environment ⟨reading 12, some (reading 61), none, true⟩) 0,
    .event .t01 (.door true) 0,
    .settle 0,
    .heading "--- t=1000 someone at the door ---",
    .event .b02 (.movement .door) 1000,
    .settle 1000,
    .heading "--- t=2000 door closed ---",
    .event .t01 (.door false) 2000,
    .settle 2000,
    .heading "--- t=200000 hub arms GUARD ---",
    .command .guard,
    .settle 200000,
    .heading "--- t=205000 movement in the hall ---",
    .event .t01 (.movement .front) 205000,
    .settle 205000,
    .heading "--- t=240000 intrusion window over ---",
    .settle 240000,
    .heading "--- t=250000 hub raises ALARM ---",
    .command .alarm,
    .settle 250000,
    .heading "--- t=300000 hub stands down ---",
    .command .silence,
    .settle 300000,
    .modes]

/-! ## The run -/

/-- How a run ends. -/
structure Outcome where
  /-- The lines that were logged. -/
  log : List LogLine
  /-- What ended the run before the end of the script. -/
  fault : Option Fault

/-- Plays scenes up to the first fault. -/
def World.playAll (w : World) : List Scene → Outcome
  | [] => ⟨w.log, none⟩
  | scene :: rest =>
    match w.play scene with
    | .ok w => w.playAll rest
    | .error fault => ⟨w.log, some fault⟩

/-- Plays the script. -/
def run : Outcome := World.playAll {} script

/-- The least weight of the lines that are shown: the flags `-v` and `--verbose` show more. -/
def threshold (args : List String) : Level :=
  if args.any fun a => a == "-v" || a == "--verbose" then .debug else .info

/-- The lines of a run that are shown. -/
def Outcome.shown (o : Outcome) (args : List String) : List String :=
  (o.log.filter fun l => (threshold args).rank ≤ l.level.rank).map LogLine.full

/-- The exit code of a run. -/
def Outcome.exitCode (o : Outcome) : UInt32 := if o.fault.isNone then 0 else 1

end HomeMesh.Simulation
