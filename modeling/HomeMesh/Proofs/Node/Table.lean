import HomeMesh.Proofs.Actuator
import HomeMesh.Proofs.Node.Step

/-!
# The table of the modes

What a node wants of its outputs is a table with a row for each mode.  `Node.row` is the row of a
node at a tick.  It says nothing about handlers or masks, but speaks of what a node has seen: whether
it is dark, how long ago its windows opened (`Window.Runs`), and whether the climate calls for a
warning (`Node.IsUncomfortable`).

The outputs that the handlers compute are those of the row (`gives_outputs`).  The main result
`isOn_iff_row` follows the row onto the channels.  Any channel can be the light or the alert of a
profile, so one channel may be asked for in several columns; it is on if the node carries it and at
least one of them asks for it.
-/

namespace HomeMesh

/-- The window is open, its start has been reached, and at most `d` has passed since then. -/
def Window.Runs (w : Window) (now : Tick) (d : Duration) : Prop :=
  ∃ start, w.start = some start ∧ start ≤ now ∧ now - start ≤ d

theorem Window.isRunning_iff_runs {w : Window} {now : Tick} {d : Duration} :
    w.isRunning now d = true ↔ w.Runs now d := by
  rw [isRunning_iff]
  refine exists_congr fun s => and_congr_right fun _ => and_congr_right fun hs => ?_
  have hsub : (now - s).toNat = now.toNat - s.toNat := UInt32.toNat_sub_of_le _ _ hs
  rw [UInt32.le_iff_toNat_le, hsub]
  omega

instance (w : Window) (now : Tick) (d : Duration) : Decidable (w.Runs now d) :=
  decidable_of_iff _ Window.isRunning_iff_runs

/-- The node is to warn of the climate, has a valid measurement of it, and finds it too cold with
the door open or too warm with the door closed. -/
def Node.IsUncomfortable (n : Node) : Prop :=
  ∃ band, n.profile.comfort = some band ∧ n.warningEnabled = true ∧
    n.sensors.environment.valid = true ∧
    (n.sensors.doorOpen = true ∧ n.sensors.environment.temperature.lt band.low = true ∨
      n.sensors.doorOpen = false ∧ band.high.lt n.sensors.environment.temperature = true)

/-- A row of the table: when each of the outputs is wanted, and which tier the strip shows. -/
structure OutputRow where
  light : Prop
  alert : Prop
  strip : StripTier
  display : Prop
  /-- The power of the movement sensors. -/
  motionSensor : Prop
  /-- The warning of an uncomfortable climate. -/
  warning : Prop

/-- These outputs are what the row wants. -/
structure OutputRow.Gives (r : OutputRow) (out : ModeOutputs) : Prop where
  light : out.light = true ↔ r.light
  alert : out.alert = true ↔ r.alert
  strip : out.strip = r.strip
  display : out.display = true ↔ r.display
  motionSensor : out.motionSensor = true ↔ r.motionSensor
  warning : out.comfortWarning = true ↔ r.warning

namespace Node

variable (n : Node) (now : Tick)

/-- The row of a node at a tick. -/
def row : OutputRow :=
  let light := n.sensors.isDark = true ∧ n.windows.light.Runs now n.profile.timing.light
  let alert := n.windows.intrusion.Runs now n.profile.timing.intrusion
  match n.mode with
  | .silence =>
    { light := light
      alert := False
      strip := if light then .green else .off
      display := n.windows.display.Runs now n.profile.timing.display
      motionSensor := True
      warning := n.IsUncomfortable }
  | .guard =>
    { light := light
      alert := alert
      strip := if alert then .red else if light then .yellow else .off
      display := False
      motionSensor := True
      warning := False }
  | .alarm =>
    { light := n.sensors.isDark = true
      alert := True
      strip := .red
      display := False
      motionSensor := False
      warning := False }

/-! ## The handlers agree with the table -/

theorem comfortWarning_iff : n.comfortWarning = true ↔ n.IsUncomfortable := by
  unfold comfortWarning IsUncomfortable
  cases n.profile.comfort with
  | none => simp
  | some band => cases n.sensors.doorOpen <;> simp [and_assoc]

/-- The light is wanted in the dark, while its window is running. -/
theorem light_iff :
    (n.sensors.isDark && n.isLightRunning now) = true ↔
      n.sensors.isDark = true ∧ n.windows.light.Runs now n.profile.timing.light := by
  rw [Bool.and_eq_true, isLightRunning, Window.isRunning_iff_runs]

/-- What a node wants of its outputs is its row. -/
theorem gives_outputs : (n.row now).Gives (n.outputs now) := by
  have hlight := n.light_iff now
  have halert : n.isIntrusionRunning now = true ↔ _ := Window.isRunning_iff_runs
  have hdisplay : n.isDisplayRunning now = true ↔ _ := Window.isRunning_iff_runs
  unfold row outputs
  cases n.mode with
  | silence =>
    refine ⟨hlight, by simp [outputsInSilence], ?_, hdisplay, by simp [outputsInSilence],
      n.comfortWarning_iff⟩
    exact if_congr hlight rfl rfl
  | guard =>
    refine ⟨hlight, halert, ?_, by simp [outputsOnGuard], by simp [outputsOnGuard],
      by simp [outputsOnGuard]⟩
    exact if_congr halert rfl (if_congr hlight rfl rfl)
  | alarm => constructor <;> simp [outputsInAlarm]

/-- The status lamp is green in silence only. -/
theorem led_eq_green_iff : (n.outputs now).led = .green ↔ n.mode = .silence := by
  unfold outputs
  cases n.mode with
  | silence => simp [outputsInSilence]
  | guard => simp [outputsOnGuard]
  | alarm => simp [outputsInAlarm]

/-! ## The main result -/

/-- **The table of the modes.**  Whatever a node knows, and at any tick: its status lamp is green
exactly in silence, it has a message to send exactly if its outbox is not empty, and a channel is on
exactly if the node carries it and a column of its row asks for it. -/
theorem isOn_iff_row :
    ((n.actuators now).led = .green ↔ n.mode = .silence) ∧
      ((n.actuators now).messagePending = true ↔ n.outbox.items ≠ []) ∧
      ∀ c : Channel, (n.actuators now).isOn c = true ↔
        n.profile.channels.contains c = true ∧
          (c = n.profile.primaryLight ∧ (n.row now).light ∨
            c = n.profile.alert ∧ (n.row now).alert ∨
            c = .warningLed ∧ (n.row now).warning ∨
            (c = .stripGreen ∧ (n.row now).strip = .green ∨
              c = .stripYellow ∧ (n.row now).strip = .yellow ∨
              c = .stripRed ∧ (n.row now).strip = .red) ∨
            c = .display ∧ (n.row now).display ∨
            c = .motionSensor ∧ (n.row now).motionSensor) := by
  have hrow : (n.row now).Gives (n.outputs now) := n.gives_outputs now
  refine ⟨n.led_eq_green_iff now, ?_, fun c => ?_⟩
  · simp [actuators, ModeOutputs.actuators, Bounded.isEmpty]
  · rw [actuators, ModeOutputs.isOn_actuators_iff, hrow.light, hrow.alert, hrow.warning,
      StripTier.channel?_eq_some_iff, hrow.strip, hrow.display, hrow.motionSensor]

end Node

end HomeMesh
