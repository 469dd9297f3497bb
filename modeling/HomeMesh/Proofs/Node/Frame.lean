import HomeMesh.Proofs.Node.Exchange

/-!
# What an event leaves alone

A measurement changes what the node has measured, and nothing else but the outbox.  A movement
changes windows and the outbox.  An envelope changes the mode, the windows and the warning, each
only where its command is about it.  `Node.Frame` says this for all kinds of events: the node after
the event is the node before it, with the named parts taken from the new one.  Sensors that a node
does not have, and envelopes that are not for it, change nothing; not even the windows are guarded
against a wrapped counter.

The main result `react_frame` also says what becomes of the outbox: the envelope that the event
offers comes on top of it if there is room.  So whatever waits there stays as it is and where it is,
also over many events (`outbox_handle`).
-/

namespace HomeMesh

/-- The window `w'` is the window `w`; or `w` started after `now`, and `w'` is closed. -/
def Window.KeptAs (w w' : Window) (now : Tick) : Prop :=
  w' = w ∨ w' = .inactive ∧ ∃ s, w.start = some s ∧ now < s

theorem Window.keptAs_normalize (w : Window) (now : Tick) : w.KeptAs (w.normalize now) now := by
  obtain ⟨start⟩ := w
  cases start with
  | none => exact .inl rfl
  | some s =>
    by_cases hs : now < s
    · exact .inr ⟨by simp [normalize, hs], s, rfl, hs⟩
    · exact .inl (by simp [normalize, hs])

namespace Envelope

/-- The first value stands for a mode. -/
def NamesMode (m : Envelope) : Prop := m.value0 = 0 ∨ m.value0 = 1 ∨ m.value0 = 2

/-- The envelope is not about windows: it commands something that is no mode, switches the warning
of an uncomfortable climate, or reports what a sensor has seen. -/
def IsNotAboutWindows (m : Envelope) : Prop :=
  match m.command with
  | .setMode => ¬ m.NamesMode
  | .setIntrusion | .setLight => False
  | .setWarning | .updateTemperature | .updateHumidity | .updateDoorState => True

theorem isSome_ofValue? {m : Envelope} : (Mode.ofValue? m.value0).isSome ↔ m.NamesMode := by
  grind [Mode.ofValue?, NamesMode]

end Envelope

namespace Node

variable {n : Node} {now : Tick}

/-! ## What may change -/

/-- A measurement of the climate is kept, and reported if it is valid. -/
structure EnvironmentFrame (n : Node) (reading : EnvironmentReading) (r : Reaction) : Prop where
  node : r.node = { n with
    sensors := { n.sensors with environment := reading }
    outbox := r.node.outbox }
  offered : r.offered.isSome = reading.valid

/-- A node with a door contact keeps a door state and reports it; any other ignores it. -/
structure DoorFrame (n : Node) (isOpen : Bool) (r : Reaction) : Prop where
  present : n.profile.timing.doorPoll ≠ none →
    r.offered.isSome ∧ r.node = { n with
      sensors := { n.sensors with doorOpen := isOpen }
      outbox := r.node.outbox }
  absent : n.profile.timing.doorPoll = none →
    r.node = n ∧ r.offered = none ∧ r.delay = none

/-- A movement opens windows and may be reported, if the node has the sensor. -/
structure MovementFrame (n : Node) (input : MovementInput) (r : Reaction) : Prop where
  node : r.node = { n with windows := r.node.windows, outbox := r.node.outbox }
  unbound : n.profile.movementAction? input = none → r.node = n ∧ r.offered = none

/-- An envelope is never answered by another one, and changes a part of the node only if it commands
it. -/
structure MessageFrame (n : Node) (m : Envelope) (now : Tick) (r : Reaction) : Prop where
  node : r.node = { n with
    mode := r.node.mode
    windows := r.node.windows
    warningEnabled := r.node.warningEnabled }
  offered : r.offered = none
  notAddressed : m.isAddressedTo n.id n.profile.acceptsBroadcast = false → r.node = n
  mode : r.node.mode ≠ n.mode → m.command = .setMode ∧ m.NamesMode
  warning : r.node.warningEnabled ≠ n.warningEnabled →
    m.command = .setWarning ∧ n.profile.comfort.isSome
  windows : m.IsNotAboutWindows → ∀ k, (n.windows.get k).KeptAs (r.node.windows.get k) now

/-- What an event at `now` may change, and whether it may offer an envelope to the outbox. -/
def Frame (n : Node) (e : Event) (now : Tick) (r : Reaction) : Prop :=
  match e with
  | .luminosity _ =>
    r.offered = none ∧
      r.node = { n with sensors := { n.sensors with isDark := r.node.sensors.isDark } }
  | .environment reading => n.EnvironmentFrame reading r
  | .door isOpen => n.DoorFrame isOpen r
  | .button _ => r.offered = none ∧ r.node = n
  | .movement input => n.MovementFrame input r
  | .message m => n.MessageFrame m now r

/-! ## One kind of event after the other -/

theorem environmentFrame_react (reading : EnvironmentReading) :
    n.EnvironmentFrame reading (n.react (.environment reading) now) where
  node := by
    rw [node_react]
    rfl
  offered := by
    rw [offered_react, report?]
    cases reading.valid <;> rfl

theorem doorFrame_react (isOpen : Bool) : n.DoorFrame isOpen (n.react (.door isOpen) now) where
  present h := by
    have hsensor : n.profile.hasDoorSensor = true := Option.isSome_iff_ne_none.mpr h
    constructor
    · rw [offered_react, report?, if_pos hsensor, Option.isSome_some]
    · rw [node_react]
      simp only [after, modeAfter, sensorsAfter, hsensor, if_true]
      rfl
  absent h := by
    have hsensor : n.profile.hasDoorSensor = false := Option.isSome_eq_false_iff.mpr (by simp [h])
    refine ⟨?_, ?_, ?_⟩
    · rw [node_react]
      simp only [after, modeAfter, sensorsAfter, report?, hsensor]
      rfl
    · rw [offered_react, report?, hsensor]
      rfl
    · rw [delay_react, delayAfter, h]

theorem movementFrame_react (input : MovementInput) :
    n.MovementFrame input (n.react (.movement input) now) where
  node := by
    rw [node_react]
    rfl
  unbound h := by
    rw [node_react, offered_react]
    simp only [after, windowsAfter, fate, report?, h, and_true]
    rfl

/-- An envelope that is not about windows only has them guarded against a wrapped counter. -/
theorem messageFate_of_isNotAboutWindows {m : Envelope} (h : m.IsNotAboutWindows)
    (k : WindowName) : n.messageFate m now k = .guarded := by
  rw [Envelope.IsNotAboutWindows] at h
  cases hcommand : m.command with
  | setMode =>
    simp only [hcommand, ← Envelope.isSome_ofValue?] at h
    simp [messageFate, hcommand, h]
  | setIntrusion | setLight => simp only [hcommand] at h
  | setWarning | updateTemperature | updateHumidity | updateDoorState =>
    simp only [messageFate, hcommand]

theorem messageFrame_react (m : Envelope) :
    n.MessageFrame m now (n.react (.message m) now) where
  node := by
    rw [node_react]
    rfl
  offered := offered_react _
  notAddressed h := by
    have hrefused : n.accepts m = false := h
    rw [node_react]
    simp only [after, modeAfter, sensorsAfter, windowsAfter, warningAfter, fate, report?, hrefused]
    rfl
  mode h := by
    rw [node_react] at h
    simp only [after, modeAfter] at h
    split at h
    next hmode =>
      have hcommand : m.command = .setMode := eq_of_beq (Bool.and_eq_true_iff.mp hmode).2
      cases hvalue : Mode.ofValue? m.value0 with
      | none => simp [hvalue] at h
      | some mode => exact ⟨hcommand, Envelope.isSome_ofValue?.mp (by simp [hvalue])⟩
    next => exact absurd rfl h
  warning h := by
    rw [node_react] at h
    simp only [after, warningAfter] at h
    split at h
    next hwarning =>
      obtain ⟨hfirst, hcomfort⟩ := Bool.and_eq_true_iff.mp hwarning
      exact ⟨eq_of_beq (Bool.and_eq_true_iff.mp hfirst).2, hcomfort⟩
    next => exact absurd rfl h
  windows h k := by
    have hwindow : (n.react (.message m) now).node.windows.get k =
        (n.fate (.message m) now k).apply (n.windows.get k) now := by
      rw [node_react]
      exact get_windowsAfter _ k
    rw [hwindow, fate, messageFate_of_isNotAboutWindows h]
    split
    · exact Window.keptAs_normalize _ now
    · exact .inl rfl

/-! ## All events -/

theorem frame_react (n : Node) (e : Event) (now : Tick) : n.Frame e now (n.react e now) := by
  cases e with
  | luminosity reading => exact ⟨rfl, rfl⟩
  | environment reading => exact environmentFrame_react reading
  | door isOpen => exact doorFrame_react isOpen
  | movement input => exact movementFrame_react input
  | button key => exact ⟨rfl, rfl⟩
  | message m => exact messageFrame_react m

theorem profile_react (n : Node) (e : Event) (now : Tick) :
    (n.react e now).node.profile = n.profile := by
  rw [node_react]
  rfl

/-- **What an event leaves alone.**  In any state of a node and at any tick an event changes only
what its frame allows.  It never changes the profile.  What it offers to the outbox comes on top if
there is room, and is lost otherwise; the envelopes that were waiting stay as they are. -/
theorem react_frame (n : Node) (e : Event) (now : Tick) :
    let r := n.react e now
    n.Frame e now r ∧
      r.node.profile = n.profile ∧
      r.node.outbox.items =
        if n.outbox.items.length < outboxCapacity then r.offered.toList ++ n.outbox.items
        else n.outbox.items :=
  ⟨frame_react n e now, profile_react n e now, items_outbox_react n e now⟩

/-- The hall node with its light on since the tick 100, and with a report on its door that waits. -/
def litHall : Node :=
  (((new .t01).react (.door true) 90).node.react
    (.message (Profile.t01.order .setLight 1)) 100).node

/-- After the counter has wrapped the hall node is commanded a mode that there is not.  It only loses
the light window, which began in the future, and it goes on waiting to report its door.  A door state
is nothing to the veranda node. -/
theorem react_frame_wrappedHall :
    let order := Profile.t01.order .setMode 7
    let hall := (litHall.react (.message order) 50).node
    let veranda := (new .b02).react (.door true) 50
    (¬ litHall.windows.light = .inactive ∧ hall.windows.light = .inactive ∧
        hall.mode = litHall.mode ∧ hall.outbox = litHall.outbox) ∧
      (Profile.b02.timing.doorPoll = none ∧ veranda.node = new .b02 ∧ veranda.delay = none) := by
  intro order hall veranda
  constructor
  · have hframe : litHall.MessageFrame order 50 (litHall.react (.message order) 50) :=
      (react_frame litHall (.message order) 50).1
    have hunknown : ¬ order.NamesMode := by
      simp [order, Profile.order, Envelope.NamesMode]
    have hchanged : hall.windows.light ≠ litHall.windows.light := by decide +kernel
    obtain hkept | ⟨hclosed, -⟩ := hframe.windows hunknown .light
    · exact absurd hkept hchanged
    · have hmode : hall.mode = litHall.mode :=
        Decidable.byContradiction fun hother => hunknown (hframe.mode hother).2
      have houtbox := congrArg outbox hframe.node
      exact ⟨by decide +kernel, hclosed, hmode, houtbox⟩
  · have hframe : (new .b02).DoorFrame true veranda := (react_frame (new .b02) (.door true) 50).1
    obtain ⟨hnode, -, hdelay⟩ := hframe.absent rfl
    exact ⟨rfl, hnode, hdelay⟩

/-- Whatever waits in the outbox is still there after some events, below what they have added. -/
theorem outbox_handle (n : Node) (events : List (Event × Tick)) :
    n.outbox.items <:+ (n.handle events).outbox.items := by
  induction events generalizing n with
  | nil => exact List.suffix_refl _
  | cons event events ih =>
    obtain ⟨e, now⟩ := event
    have hstep : n.outbox.items <:+ (n.react e now).node.outbox.items := by
      rw [items_outbox_react]
      split
      · exact List.suffix_append _ _
      · exact List.suffix_refl _
    exact hstep.trans (ih _)

end Node

end HomeMesh
