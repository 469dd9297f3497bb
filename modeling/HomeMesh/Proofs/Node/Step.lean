import HomeMesh.Proofs.Node.Reaction

/-!
# One step of a node

A node consists of six parts, and this module says for each what an event makes of it:

* the profile stays;
* `modeAfter`: only a mode command changes the mode;
* `sensorsAfter`: what was measured is kept;
* `fate`: each of the three windows is left alone, guarded against a wrapped counter, closed or
  opened;
* `warningAfter`: only a warning command switches the warning;
* `report?`: what is sent, and pushed onto the outbox if there is room.

The main result `node_react` is that the node after the event consists of just these parts.  With
`offered_react` and `delay_react` it is all that later modules use of `Node.react`.  At ticks that
never decrease it keeps an invariant: no open window starts in the future (`Node.StartsBy`).
-/

namespace HomeMesh

/-- The mode that an envelope commands. -/
def Envelope.mode? (m : Envelope) : Option Mode :=
  if m.command = .setMode then Mode.ofValue? m.value0 else none

/-! ## Windows by name -/

/-- The three windows of a node. -/
inductive WindowName where
  | light
  | display
  | intrusion
deriving DecidableEq

/-- The command that switches what a window stands for. -/
def WindowName.command? : WindowName → Option Command
  | .light => some .setLight
  | .display => none
  | .intrusion => some .setIntrusion

/-- The window of a name. -/
def Windows.get (w : Windows) : WindowName → Window
  | .light => w.light
  | .display => w.display
  | .intrusion => w.intrusion

theorem Windows.ext_get {w w' : Windows} (h : ∀ k, w.get k = w'.get k) : w = w' := by
  obtain ⟨light, display, intrusion⟩ := w
  obtain ⟨light', display', intrusion'⟩ := w'
  exact congr (congr (congrArg Windows.mk (h .light)) (h .display)) (h .intrusion)

/-- How long the window of a name runs. -/
def Timing.duration (t : Timing) : WindowName → Duration
  | .light => t.light
  | .display => t.display
  | .intrusion => t.intrusion

/-- Whether the window of a name is running. -/
def Node.isRunning (n : Node) (k : WindowName) (now : Tick) : Bool :=
  (n.windows.get k).isRunning now (n.profile.timing.duration k)

/-- What becomes of a window when an event is handled. -/
inductive Fate where
  /-- It is left alone. -/
  | spared
  /-- It is closed if its start lies in the future, and left alone otherwise. -/
  | guarded
  | closed
  | opened
deriving DecidableEq

/-- The window after its fate. -/
def Fate.apply (f : Fate) (w : Window) (now : Tick) : Window :=
  match f with
  | .spared => w
  | .guarded => w.normalize now
  | .closed => .inactive
  | .opened => .openedAt now

/-- A window that is running goes on, unless it is closed. -/
theorem Fate.isRunning_apply {f : Fate} {w : Window} {now : Tick} {d : Duration} (hf : f ≠ .closed)
    (h : w.isRunning now d = true) : (f.apply w now).isRunning now d = true := by
  cases f with
  | spared => exact h
  | guarded => exact Window.isRunning_normalize.trans h
  | closed => exact absurd rfl hf
  | opened => exact Window.isRunning_openedAt now d

/-- A window that is open after its fate has kept its start, or has just been opened. -/
theorem Fate.start_of_apply {f : Fate} {w : Window} {now s : Tick}
    (h : (f.apply w now).start = some s) : w.start = some s ∨ f = .opened ∧ s = now := by
  cases f with
  | spared => exact .inl h
  | guarded => exact .inl (Window.start_normalize.mp h).1
  | closed => cases h
  | opened => exact .inr ⟨rfl, (Option.some.inj h).symm⟩

/-- A window that is not left alone does not start in the future afterwards. -/
theorem Fate.startsBy_apply_of_ne_spared {f : Fate} {w : Window} {now : Tick} (hf : f ≠ .spared) :
    (f.apply w now).StartsBy now := by
  cases f with
  | spared => exact absurd rfl hf
  | guarded => exact Window.startsBy_normalize
  | closed => exact Window.startsBy_inactive
  | opened => exact Window.startsBy_openedAt

theorem Fate.startsBy_apply {f : Fate} {w : Window} {now : Tick} (h : w.StartsBy now) :
    (f.apply w now).StartsBy now := by
  by_cases hf : f = .spared
  · rw [hf]
    exact h
  · exact startsBy_apply_of_ne_spared hf

/-- A window stays as it is if it is guarded where its start has been reached, or closed where it is
not open. -/
theorem Fate.apply_eq_self {f : Fate} {w : Window} {now : Tick} (hopened : f ≠ .opened)
    (hclosed : f = .closed → w = .inactive) (hguarded : f = .guarded → w.StartsBy now) :
    f.apply w now = w := by
  cases f with
  | spared => rfl
  | guarded => exact Window.normalize_of_started (hguarded rfl)
  | closed => exact (hclosed rfl).symm
  | opened => exact absurd rfl hopened

namespace Node

variable {n : Node} {k : WindowName} {now : Tick}

/-! ## What an event makes of each part -/

/-- Whether an envelope is for this node. -/
def accepts (n : Node) (m : Envelope) : Bool := m.isAddressedTo n.id n.profile.acceptsBroadcast

/-- The mode after an event. -/
def modeAfter (n : Node) : Event → Mode
  | .message m =>
    if n.accepts m && m.command == .setMode then (Mode.ofValue? m.value0).getD n.mode else n.mode
  | _ => n.mode

theorem modeAfter_message_eq (m : Envelope) :
    n.modeAfter (.message m) = if n.accepts m then m.mode?.getD n.mode else n.mode := by
  rw [modeAfter, Envelope.mode?]
  by_cases hcommand : m.command = .setMode
  · cases n.accepts m <;> simp [hcommand]
  · simp [hcommand]

/-- What the sensors have seen after an event. -/
def sensorsAfter (n : Node) : Event → SensorCache
  | .luminosity reading =>
    { n.sensors with isDark := reading.valid && reading.lux.lt n.profile.darknessThreshold }
  | .environment reading => { n.sensors with environment := reading }
  | .door isOpen =>
    if n.profile.hasDoorSensor then { n.sensors with doorOpen := isOpen } else n.sensors
  | _ => n.sensors

/-- Whether the node warns of an uncomfortable climate after an event. -/
def warningAfter (n : Node) : Event → Bool
  | .message m =>
    if n.accepts m && m.command == .setWarning && n.profile.comfort.isSome then
      decide (m.value0 ≠ 0)
    else n.warningEnabled
  | _ => n.warningEnabled

/-- The fate of the windows at a movement. -/
def movementFate (n : Node) (action : MovementAction) (now : Tick) (k : WindowName) : Fate :=
  match n.mode, k with
  | .silence, .light => if n.isLightRunning now then .guarded else .opened
  | .silence, .display =>
    if !n.isLightRunning now && action.wakeDisplay then .opened else .guarded
  | .silence, .intrusion => .guarded
  | .guard, .light | .guard, .intrusion =>
    if n.isIntrusionRunning now then .guarded else .opened
  | .guard, .display => .guarded
  | .alarm, _ => .guarded

/-- The fate of the windows at an envelope for this node. -/
def messageFate (n : Node) (m : Envelope) (now : Tick) (k : WindowName) : Fate :=
  match m.command, k with
  | .setMode, _ => if (Mode.ofValue? m.value0).isSome then .closed else .guarded
  | .setIntrusion, .intrusion =>
    if m.value0 = 0 then .closed else if n.isIntrusionRunning now then .guarded else .opened
  | .setIntrusion, .light =>
    if m.value0 = 0 || n.isIntrusionRunning now then .guarded else .opened
  | .setLight, .light =>
    if m.value0 = 0 then .closed else if n.isLightRunning now then .guarded else .opened
  | _, _ => .guarded

/-- The fate of the windows at an event. -/
def fate (n : Node) (e : Event) (now : Tick) (k : WindowName) : Fate :=
  match e with
  | .movement input =>
    match n.profile.movementAction? input with
    | none => .spared
    | some action => n.movementFate action now k
  | .message m => if n.accepts m then n.messageFate m now k else .spared
  | .luminosity _ | .environment _ | .door _ | .button _ => .spared

/-- The windows after an event. -/
def windowsAfter (n : Node) (e : Event) (now : Tick) : Windows where
  light := (n.fate e now .light).apply n.windows.light now
  display := (n.fate e now .display).apply n.windows.display now
  intrusion := (n.fate e now .intrusion).apply n.windows.intrusion now

theorem get_windowsAfter (e : Event) (k : WindowName) :
    (n.windowsAfter e now).get k = (n.fate e now k).apply (n.windows.get k) now := by
  cases k <;> rfl

/-- The envelope that an event makes a node send. -/
def report? (n : Node) (e : Event) (now : Tick) : Option Envelope :=
  match e with
  | .environment reading => if reading.valid then some (n.profile.climateReport reading) else none
  | .door isOpen =>
    if n.profile.hasDoorSensor then some (n.profile.doorReport isOpen) else none
  | .movement input =>
    match n.profile.movementAction? input with
    | none => none
    | some action =>
      match n.mode with
      | .silence =>
        if n.isLightRunning now then none
        else if n.sensors.isDark && action.notifyLightPeer then some n.profile.lightRequest
        else none
      | .guard => if n.isIntrusionRunning now then none else some n.profile.intrusionReport
      | .alarm => none
  | .luminosity _ | .button _ | .message _ => none

/-- The delay that a node answers to an event. -/
def delayAfter (n : Node) : Event → Option Duration
  | .luminosity _ => some n.profile.timing.luminosityPoll
  | .environment _ => some n.profile.timing.environmentPoll
  | .door _ => n.profile.timing.doorPoll
  | .movement _ | .button _ | .message _ => none

/-- The node whose parts are what an event makes of them. -/
def after (n : Node) (e : Event) (now : Tick) : Node where
  profile := n.profile
  mode := n.modeAfter e
  sensors := n.sensorsAfter e
  windows := n.windowsAfter e now
  warningEnabled := n.warningAfter e
  outbox := (n.report? e now).elim n.outbox n.outbox.offering

/-! ## Which events close a window -/

theorem guarded_or_opened_ne_closed {P : Prop} [Decidable P] :
    (if P then Fate.guarded else .opened) ≠ .closed := by
  split <;> exact Fate.noConfusion

theorem movementFate_guarded_or_opened (action : MovementAction) :
    n.movementFate action now k = .guarded ∨ n.movementFate action now k = .opened := by
  cases hmode : n.mode <;> cases k <;> simp only [movementFate, hmode] <;> (try split) <;> simp

/-- An envelope closes a window if it commands a mode, or switches off what the window stands
for. -/
theorem messageFate_eq_closed {m : Envelope} :
    n.messageFate m now k = .closed ↔
      m.mode?.isSome ∨ k.command? = some m.command ∧ m.switchValue = .off := by
  have hoff : m.switchValue = .off ↔ m.value0 = 0 := by simp [switchValue_eq]
  rw [hoff, Envelope.mode?]
  cases hcommand : m.command with
  | setMode =>
    cases k <;> cases hmode : Mode.ofValue? m.value0 <;>
      simp [messageFate, hcommand, hmode, WindowName.command?]
  | _ =>
    cases k <;>
      simp [messageFate, hcommand, WindowName.command?, guarded_or_opened_ne_closed]

/-- An envelope opens a window only if it switches on what a window that is not running stands
for. -/
theorem exists_command_of_messageFate_eq_opened {m : Envelope}
    (h : n.messageFate m now k = .opened) :
    ∃ k' : WindowName,
      k'.command? = some m.command ∧ m.value0 ≠ 0 ∧ n.isRunning k' now = false := by
  cases hcommand : m.command with
  | setIntrusion =>
    refine ⟨.intrusion, rfl, ?_⟩
    change m.value0 ≠ 0 ∧ n.isIntrusionRunning now = false
    cases k <;> simp only [messageFate, hcommand] at h <;> grind
  | setLight =>
    refine ⟨.light, rfl, ?_⟩
    change m.value0 ≠ 0 ∧ n.isLightRunning now = false
    cases k <;> simp only [messageFate, hcommand] at h <;> grind
  | setMode =>
    simp only [messageFate, hcommand] at h
    split at h <;> cases h
  | setWarning | updateTemperature | updateHumidity | updateDoorState =>
    simp [messageFate, hcommand] at h

/-! ## The step -/

theorem node_react_movement (input : MovementInput) :
    (n.react (.movement input) now).node = n.after (.movement input) now := by
  have hmode : (n.normalizeWindows now).mode = n.mode := rfl
  simp only [react, node_observeMovement, after, windowsAfter, fate, report?]
  cases n.profile.movementAction? input with
  | none => rfl
  | some action =>
    simp only [node_move, hmode, node_moveInSilence, node_moveOnGuard,
      isLightRunning_normalizeWindows, isIntrusionRunning_normalizeWindows, movementFate]
    cases hm : n.mode with
    | silence =>
      simp only [normalizeWindows, Windows.normalize, modeAfter, hm]
      cases n.isLightRunning now with
      | true => rfl
      | false =>
        cases n.sensors.isDark && action.notifyLightPeer <;> cases action.wakeDisplay <;> rfl
    | guard =>
      simp only [normalizeWindows, Windows.normalize, modeAfter, hm]
      cases n.isIntrusionRunning now <;> rfl
    | alarm =>
      simp only [normalizeWindows, Windows.normalize, modeAfter, hm]
      rfl

theorem node_react_message (m : Envelope) :
    (n.react (.message m) now).node = n.after (.message m) now := by
  simp only [react, node_receive, after, windowsAfter, modeAfter, warningAfter, fate, report?]
  change (if n.accepts m then _ else n) = _
  cases n.accepts m with
  | false => rfl
  | true =>
    have hcomfort : (n.normalizeWindows now).profile = n.profile := rfl
    simp only [if_true, Bool.true_and, node_obey, messageFate, hcomfort,
      isLightRunning_normalizeWindows, isIntrusionRunning_normalizeWindows]
    cases m.command with
    | setMode => cases Mode.ofValue? m.value0 <;> rfl
    | setIntrusion =>
      by_cases h0 : m.value0 = 0
      · simp only [h0, if_true]
        rfl
      · cases n.isIntrusionRunning now <;> simp only [h0, if_false] <;> rfl
    | setLight =>
      by_cases h0 : m.value0 = 0
      · simp only [h0, if_true]
        rfl
      · cases n.isLightRunning now <;> simp only [h0, if_false] <;> rfl
    | setWarning => cases n.profile.comfort <;> rfl
    | updateTemperature | updateHumidity | updateDoorState => rfl

/-- After an event a node consists of what the event makes of its parts. -/
theorem node_react (e : Event) : (n.react e now).node = n.after e now := by
  cases e with
  | luminosity reading => rfl
  | environment reading =>
    simp only [react, node_observeEnvironment, after, report?]
    cases reading.valid <;> rfl
  | door isOpen =>
    simp only [react, node_observeDoor, after, sensorsAfter, report?]
    cases n.profile.hasDoorSensor <;> rfl
  | movement input => exact node_react_movement input
  | button key => rfl
  | message m => exact node_react_message m

/-- An event makes a node send the envelope that `report?` names, and no other. -/
theorem offered_react (e : Event) : (n.react e now).offered = n.report? e now := by
  cases e with
  | luminosity reading => rfl
  | environment reading =>
    simp only [react, observeEnvironment, Reaction.after, report?]
    cases reading.valid with
    | false => rfl
    | true => simp only [if_true, offered_offer, climateReport_eq]
  | door isOpen =>
    have hreport := switch_door_eq
      (n := { n with sensors := { n.sensors with doorOpen := isOpen } }) isOpen
    simp only [react, observeDoor, report?]
    unfold Profile.hasDoorSensor
    cases n.profile.timing.doorPoll with
    | none => rfl
    | some period =>
      simp only [Reaction.after, offerSwitch, offered_offer, hreport, Option.isSome_some, if_true]
  | movement input =>
    have hmode : (n.normalizeWindows now).mode = n.mode := rfl
    simp only [react, observeMovement, report?]
    cases n.profile.movementAction? input with
    | none => rfl
    | some action =>
      simp only [offered_move, hmode, offered_moveInSilence, offered_moveOnGuard,
        isLightRunning_normalizeWindows, isIntrusionRunning_normalizeWindows]
      rfl
  | button key => rfl
  | message m =>
    simp only [react, receive, report?]
    cases m.isAddressedTo n.id n.profile.acceptsBroadcast with
    | false => rfl
    | true => exact offered_obey m

/-- Only polled sensors are answered by a delay, which is their period. -/
theorem delay_react (e : Event) : (n.react e now).delay = n.delayAfter e := by
  cases e with
  | luminosity reading => rfl
  | environment reading => rfl
  | door isOpen =>
    simp only [react, observeDoor, delayAfter]
    cases n.profile.timing.doorPoll <;> rfl
  | movement input =>
    simp only [react, observeMovement, delayAfter]
    cases n.profile.movementAction? input with
    | none => rfl
    | some action => exact delay_move action
  | button key => rfl
  | message m =>
    simp only [react, receive, delayAfter]
    cases m.isAddressedTo n.id n.profile.acceptsBroadcast with
    | false => rfl
    | true => exact delay_obey m

/-! ## Windows that are running afterwards -/

theorem isRunning_after (e : Event) :
    (n.after e now).isRunning k now =
      ((n.fate e now k).apply (n.windows.get k) now).isRunning now (n.profile.timing.duration k) :=
  congrArg (fun w : Window => w.isRunning now (n.profile.timing.duration k)) (get_windowsAfter e k)

/-- A window that is opened unless it is running is running afterwards. -/
theorem isRunning_after_of_fate {e : Event}
    (hfate : n.fate e now k = if n.isRunning k now then .guarded else .opened) :
    (n.after e now).isRunning k now = true := by
  rw [isRunning_after, hfate]
  split
  next hrunning => exact Window.isRunning_normalize.trans hrunning
  next => exact Window.isRunning_openedAt now _

/-- An envelope for the node that switches on what a window stands for leaves the window
running. -/
theorem isRunning_after_of_switchedOn {m : Envelope} (haccepts : n.accepts m = true)
    (hcommand : k.command? = some m.command) (hon : m.value0 ≠ 0) :
    (n.after (.message m) now).isRunning k now = true := by
  refine isRunning_after_of_fate ?_
  rw [fate, if_pos haccepts]
  cases k with
  | light =>
    have hm : m.command = .setLight := (Option.some.inj hcommand).symm
    simp only [messageFate, hm, if_neg hon]
    rfl
  | display => cases hcommand
  | intrusion =>
    have hm : m.command = .setIntrusion := (Option.some.inj hcommand).symm
    simp only [messageFate, hm, if_neg hon]
    rfl

/-! ## Windows at ticks that never decrease -/

/-- No open window of the node starts after `now`. -/
structure StartsBy (n : Node) (now : Tick) : Prop where
  light : n.windows.light.StartsBy now
  display : n.windows.display.StartsBy now
  intrusion : n.windows.intrusion.StartsBy now

theorem startsBy_iff_get : n.StartsBy now ↔ ∀ k, (n.windows.get k).StartsBy now := by
  constructor
  · intro h k
    cases k with
    | light => exact h.light
    | display => exact h.display
    | intrusion => exact h.intrusion
  · intro h
    exact ⟨h .light, h .display, h .intrusion⟩

theorem StartsBy.mono {later : Tick} (h : n.StartsBy now) (hle : now ≤ later) :
    n.StartsBy later :=
  ⟨h.light.mono hle, h.display.mono hle, h.intrusion.mono hle⟩

theorem startsBy_new (p : Profile) : (new p).StartsBy now :=
  ⟨Window.startsBy_inactive, Window.startsBy_inactive, Window.startsBy_inactive⟩

/-- The invariant: whatever happens at `now` opens no window later than that. -/
theorem StartsBy.after (h : n.StartsBy now) (e : Event) : (n.after e now).StartsBy now :=
  ⟨Fate.startsBy_apply h.light, Fate.startsBy_apply h.display, Fate.startsBy_apply h.intrusion⟩

end Node

/-! ## Orders of the hub -/

/-- The hub tells a node to do something. -/
def Profile.order (p : Profile) (command : Command) (value : Int32) : Envelope where
  source := .hub
  destinations := .truncate [p.id]
  command := command
  value0 := value

theorem Profile.mode?_order {p : Profile} (mode : Mode) :
    (p.order .setMode mode.value).mode? = some mode := by
  cases mode <;> rfl

theorem Node.accepts_order {n : Node} (command : Command) (value : Int32) :
    n.accepts (n.profile.order command value) = true := by
  simp [accepts, Envelope.isAddressedTo, Profile.order, Bounded.truncate, id]

end HomeMesh
