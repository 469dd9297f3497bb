import HomeMesh.Proofs.Actuator
import HomeMesh.Proofs.Deadline.Node
import HomeMesh.Proofs.Node.Step

/-!
# Nodes keep their deadlines

While the ticks that a node is called at never decrease, it behaves exactly like a node with
deadlines.  `Node.withDeadlines` turns each start tick into a deadline on an unbounded clock, so
that not even the greatest durations overflow.

One step is `withDeadlines_after`, which rests on a single invariant: no open window starts in the
future (`Node.StartsBy`).  It makes the guard against a wrapped counter idle and a start tick with
the time since then as good as a deadline.  From there `run_withDeadlines` covers every run, and
`actuators_withDeadlines` the outputs; `run_simulates` is the result for a node from its start.
-/

namespace HomeMesh

open DeadlineNode (isAhead)

/-! ## Starts and deadlines -/

/-- The last tick at which a window runs, on a clock that never wraps. -/
def Window.deadline (w : Window) (d : Duration) : Option Nat :=
  w.start.map fun s => s.toNat + d.toNat

/-- A deadline is ahead as long as the window is running. -/
theorem Window.isAhead_deadline {w : Window} {now : Tick} {d : Duration} (h : w.StartsBy now) :
    isAhead (w.deadline d) now.toNat = w.isRunning now d := by
  rw [Bool.eq_iff_iff, isRunning_iff]
  obtain ⟨start⟩ := w
  cases start with
  | none => simp [deadline, isAhead]
  | some s =>
    have hs : s ≤ now := h s rfl
    simp [deadline, isAhead, hs]

/-- What becomes of a deadline when an event is handled, where `last` is what it is renewed to. -/
def Fate.deadlineAfter (f : Fate) (last : Nat) (deadline : Option Nat) : Option Nat :=
  match f with
  | .spared | .guarded => deadline
  | .closed => none
  | .opened => some last

theorem Fate.deadline_apply {f : Fate} {w : Window} {now : Tick} {d : Duration}
    (h : w.StartsBy now) :
    (f.apply w now).deadline d = f.deadlineAfter (now.toNat + d.toNat) (w.deadline d) := by
  cases f with
  | spared => rfl
  | guarded =>
    rw [apply, Window.normalize_of_started h]
    rfl
  | closed => rfl
  | opened => rfl

/-- What depends on the mode that a value stands for, value by value. -/
theorem Mode.elim_ofValue? {α : Type} (v : Int32) (ignored : α) (entering : Mode → α) :
    (Mode.ofValue? v).elim ignored entering =
      if v = 0 then entering .silence
      else if v = 1 then entering .guard
      else if v = 2 then entering .alarm
      else ignored := by
  unfold Mode.ofValue?
  split_ifs <;> rfl

namespace Node

variable {n : Node} {now : Tick}

/-- The same node, with a deadline for each of its windows. -/
def withDeadlines (n : Node) : DeadlineNode where
  profile := n.profile
  mode := n.mode
  sensors := n.sensors
  lightUntil := n.windows.light.deadline n.profile.timing.light
  displayUntil := n.windows.display.deadline n.profile.timing.display
  intrusionUntil := n.windows.intrusion.deadline n.profile.timing.intrusion
  warningEnabled := n.warningEnabled
  pending := n.outbox.items

theorem withDeadlines_new (p : Profile) : (new p).withDeadlines = DeadlineNode.new p := rfl

theorem StartsBy.isAhead_light (h : n.StartsBy now) :
    isAhead n.withDeadlines.lightUntil now.toNat = n.isLightRunning now :=
  Window.isAhead_deadline h.light

theorem StartsBy.isAhead_display (h : n.StartsBy now) :
    isAhead n.withDeadlines.displayUntil now.toNat = n.isDisplayRunning now :=
  Window.isAhead_deadline h.display

theorem StartsBy.isAhead_intrusion (h : n.StartsBy now) :
    isAhead n.withDeadlines.intrusionUntil now.toNat = n.isIntrusionRunning now :=
  Window.isAhead_deadline h.intrusion

/-! ## One step -/

theorem accepts_withDeadlines (m : Envelope) : n.withDeadlines.accepts m = n.accepts m := by
  rw [Bool.eq_iff_iff]
  simp only [DeadlineNode.accepts, accepts, withDeadlines, Envelope.isAddressedTo, id,
    Bool.or_eq_true, Bool.and_eq_true, List.contains_iff_mem, List.any_eq_true, beq_iff_eq]
  constructor
  · rintro (hid | ⟨hall, hmem⟩)
    · exact ⟨_, hid, .inl rfl⟩
    · exact ⟨_, hmem, .inr ⟨hall, rfl⟩⟩
  · rintro ⟨d, hmem, rfl | ⟨hall, rfl⟩⟩
    · exact .inl hmem
    · exact .inr ⟨hall, hmem⟩

/-- The parts of a node with deadlines after an event, in terms of the fates of the windows. -/
theorem withDeadlines_parts (h : n.StartsBy now) (e : Event) :
    (n.after e now).withDeadlines =
      { profile := n.profile
        mode := n.modeAfter e
        sensors := n.sensorsAfter e
        lightUntil :=
          (n.fate e now .light).deadlineAfter (now.toNat + n.profile.timing.light.toNat)
            n.withDeadlines.lightUntil
        displayUntil :=
          (n.fate e now .display).deadlineAfter (now.toNat + n.profile.timing.display.toNat)
            n.withDeadlines.displayUntil
        intrusionUntil :=
          (n.fate e now .intrusion).deadlineAfter (now.toNat + n.profile.timing.intrusion.toNat)
            n.withDeadlines.intrusionUntil
        warningEnabled := n.warningAfter e
        pending := (n.report? e now).elim n.outbox.items fun m =>
          if n.outbox.items.length < 8 then m :: n.outbox.items else n.outbox.items } := by
  have hpending : ((n.report? e now).elim n.outbox n.outbox.offering).items =
      (n.report? e now).elim n.outbox.items fun m =>
        if n.outbox.items.length < 8 then m :: n.outbox.items else n.outbox.items := by
    cases n.report? e now with
    | none => rfl
    | some m => exact Outbox.items_offering n.outbox m
  simp only [withDeadlines, after, windowsAfter, Fate.deadline_apply h.light,
    Fate.deadline_apply h.display, Fate.deadline_apply h.intrusion, hpending]

theorem queue_eq (a : DeadlineNode) (m : Envelope) :
    a.queue m =
      { a with pending := if a.pending.length < 8 then m :: a.pending else a.pending } := by
  unfold DeadlineNode.queue
  by_cases h : a.pending.length < 8 <;> simp only [h, if_true, if_false]

theorem withDeadlines_movement (h : n.StartsBy now) (input : MovementInput) :
    (n.after (.movement input) now).withDeadlines =
      (n.withDeadlines.observe (.movement input) now.toNat).1 := by
  have hprofile : n.withDeadlines.profile = n.profile := rfl
  have hmode : n.withDeadlines.mode = n.mode := rfl
  have hsensors : n.withDeadlines.sensors = n.sensors := rfl
  rw [withDeadlines_parts h]
  simp only [DeadlineNode.observe, fate, report?, hprofile]
  cases n.profile.movementAction? input with
  | none => rfl
  | some action =>
    simp only [DeadlineNode.move, h.isAhead_light, h.isAhead_intrusion, movementFate, hmode,
      hsensors, hprofile, queue_eq]
    cases hm : n.mode with
    | silence =>
      cases n.isLightRunning now with
      | true => rfl
      | false =>
        simp only [modeAfter, hm]
        cases n.sensors.isDark && action.notifyLightPeer <;> cases action.wakeDisplay <;> rfl
    | guard =>
      cases n.isIntrusionRunning now with
      | true => rfl
      | false =>
        simp only [modeAfter, hm]
        rfl
    | alarm => rfl

theorem withDeadlines_message (h : n.StartsBy now) (m : Envelope) :
    (n.after (.message m) now).withDeadlines =
      (n.withDeadlines.observe (.message m) now.toNat).1 := by
  have hprofile : n.withDeadlines.profile = n.profile := rfl
  rw [withDeadlines_parts h]
  simp only [DeadlineNode.observe, fate, report?, modeAfter, warningAfter, accepts_withDeadlines]
  cases n.accepts m with
  | false => rfl
  | true =>
    simp only [DeadlineNode.obey, h.isAhead_light, h.isAhead_intrusion, messageFate, hprofile,
      if_true, Bool.true_and]
    cases m.command with
    | setMode =>
      have hvalue := Mode.elim_ofValue? m.value0 n.withDeadlines fun mode =>
        { n.withDeadlines with
          mode := mode, lightUntil := none, displayUntil := none, intrusionUntil := none }
      refine Eq.trans ?_ hvalue
      cases Mode.ofValue? m.value0 <;> rfl
    | setIntrusion =>
      by_cases h0 : m.value0 = 0
      · simp only [h0, if_true]
        rfl
      · cases n.isIntrusionRunning now <;> simp only [h0, if_false] <;> rfl
    | setLight =>
      by_cases h0 : m.value0 = 0
      · simp only [h0, if_true]
        rfl
      · cases n.isLightRunning now <;> simp only [h0, if_false] <;> rfl
    | setWarning => cases n.profile.comfort.isSome <;> rfl
    | updateTemperature | updateHumidity | updateDoorState => rfl

/-- One step: an event makes of the deadlines what the rules on an unbounded clock say. -/
theorem withDeadlines_after (h : n.StartsBy now) (e : Event) :
    (n.after e now).withDeadlines = (n.withDeadlines.observe e now.toNat).1 := by
  have hprofile : n.withDeadlines.profile = n.profile := rfl
  cases e with
  | luminosity reading => exact withDeadlines_parts h _
  | environment reading =>
    rw [withDeadlines_parts h]
    simp only [DeadlineNode.observe, report?, queue_eq, hprofile]
    cases reading.valid <;> rfl
  | door isOpen =>
    rw [withDeadlines_parts h]
    simp only [DeadlineNode.observe, report?, sensorsAfter, hprofile, queue_eq]
    unfold Profile.hasDoorSensor
    cases n.profile.timing.doorPoll <;> rfl
  | movement input => exact withDeadlines_movement h input
  | button key => exact withDeadlines_parts h _
  | message m => exact withDeadlines_message h m

theorem delay_observe (e : Event) (t : Nat) :
    (n.withDeadlines.observe e t).2 = n.delayAfter e := by
  have hprofile : n.withDeadlines.profile = n.profile := rfl
  cases e with
  | luminosity reading => rfl
  | environment reading => rfl
  | door isOpen =>
    simp only [delayAfter, DeadlineNode.observe, hprofile]
    cases n.profile.timing.doorPoll <;> rfl
  | movement input =>
    simp only [delayAfter, DeadlineNode.observe, hprofile]
    cases n.profile.movementAction? input <;> rfl
  | button key => rfl
  | message m => rfl

/-! ## Whole runs -/

/-- One call: the answers on the two clocks are the same, and no window starts later than the
latest event. -/
theorem call_withDeadlines {past : Tick} (h : n.StartsBy past) (c : Call Tick)
    (hlate : ∀ t, c.time? = some t → past ≤ t) :
    ((n.call c).1.withDeadlines, (n.call c).2) = n.withDeadlines.call (c.map UInt32.toNat) ∧
      (n.call c).1.StartsBy (c.time?.getD past) := by
  cases c with
  | event e t =>
    have ht : n.StartsBy t := h.mono (hlate t rfl)
    simp only [call, node_react, delay_react, withDeadlines_after ht, ← delay_observe e t.toNat]
    exact ⟨rfl, ht.after e⟩
  | pop =>
    obtain ⟨profile, mode, sensors, windows, warningEnabled, ⟨items, hitems⟩⟩ := n
    cases items with
    | nil => exact ⟨rfl, h⟩
    | cons m rest => exact ⟨rfl, h.light, h.display, h.intrusion⟩
  | reset => exact ⟨rfl, startsBy_new n.profile⟩

/-- A run answers the same on either clock and leads to the same node.  The induction carries the
tick `past` of the latest event, by which every window has started. -/
theorem run_withDeadlines {past : Tick} (h : n.StartsBy past) (calls : List (Call Tick))
    (hlate : ∀ t ∈ Call.times calls, past ≤ t)
    (hordered : (Call.times calls).Pairwise (· ≤ ·)) :
    ((n.run calls).1.withDeadlines, (n.run calls).2) =
        n.withDeadlines.run (calls.map (Call.map UInt32.toNat)) ∧
      ∀ t, past ≤ t → (∀ s ∈ Call.times calls, s ≤ t) → (n.run calls).1.StartsBy t := by
  induction calls generalizing n past with
  | nil => exact ⟨rfl, fun t ht _ => h.mono ht⟩
  | cons c calls ih =>
    obtain ⟨hfirst, hlater, hrest⟩ := Call.ordered_of_cons hlate hordered
    obtain ⟨hcall, hstarts⟩ := call_withDeadlines h c hfirst
    obtain ⟨hrun, hend⟩ := ih hstarts hlater hrest
    have hfst : (n.call c).1.withDeadlines = (n.withDeadlines.call (c.map UInt32.toNat)).1 :=
      congrArg Prod.fst hcall
    have hsnd : (n.call c).2 = (n.withDeadlines.call (c.map UInt32.toNat)).2 :=
      congrArg Prod.snd hcall
    refine ⟨?_, fun t ht hall => ?_⟩
    · rw [hfst] at hrun
      simp only [run, List.map_cons, DeadlineNode.run, ← hrun, hsnd]
    · obtain ⟨hpast, hbefore⟩ := Call.le_of_cons ht hall
      exact hend t hpast hbefore

/-! ## Outputs -/

theorem comfortWarning_eq :
    n.comfortWarning =
      (n.warningEnabled && n.sensors.environment.valid &&
        n.profile.comfort.any fun band =>
          if n.sensors.doorOpen then n.sensors.environment.temperature.lt band.low
          else band.high.lt n.sensors.environment.temperature) := by
  unfold comfortWarning
  cases n.profile.comfort <;> simp

/-- The wishes of each mode, output by output, are the truth table. -/
theorem outputs_eq (h : n.StartsBy now) :
    n.outputs now =
      { led := if n.mode = .silence then .green else .red
        light := n.withDeadlines.light now.toNat
        alert := n.withDeadlines.alert now.toNat
        strip := n.withDeadlines.strip now.toNat
        display := n.mode == .silence && isAhead n.withDeadlines.displayUntil now.toNat
        motionSensor := n.mode != .alarm
        comfortWarning := n.withDeadlines.warning } := by
  have hmode : n.withDeadlines.mode = n.mode := rfl
  have hsensors : n.withDeadlines.sensors = n.sensors := rfl
  have hwarning : n.withDeadlines.warning = (n.mode == .silence && n.comfortWarning) := by
    rw [comfortWarning_eq]
    simp only [DeadlineNode.warning, Bool.and_assoc]
    rfl
  have hsilence : (Mode.silence == Mode.alarm) = false := rfl
  have hguard : (Mode.guard == Mode.alarm) = false := rfl
  rw [hwarning]
  simp only [DeadlineNode.strip, DeadlineNode.light, DeadlineNode.alert, h.isAhead_light,
    h.isAhead_display, h.isAhead_intrusion, hmode, hsensors]
  cases hm : n.mode with
  | silence => simp [outputs, outputsInSilence, hm, hsilence]
  | guard => simp [outputs, outputsOnGuard, hm, hguard]
  | alarm => simp [outputs, outputsInAlarm, hm]

/-- The outputs are those of the truth table, whichever clock the windows are kept on. -/
theorem actuators_withDeadlines (h : n.StartsBy now) :
    n.actuators now = n.withDeadlines.actuators now.toNat := by
  refine ActuatorState.ext_isOn (ModeOutputs.isProper_actuators _ _ _)
    (ChannelSet.isProper_ofList _) ?_ (fun c => ?_) rfl
  · rw [actuators, ModeOutputs.actuators, outputs_eq h]
    rfl
  · have hmem : c ∈ Channel.all := Enumerated.mem_all c
    change _ = (ChannelSet.ofList _).contains c
    rw [actuators, ModeOutputs.isOn_actuators_eq, outputs_eq h, ChannelSet.contains_ofList]
    simp only [List.mem_filter, hmem, true_and, Bool.decide_eq_true]
    cases c <;> rfl

end Node

/-- **Nodes keep their deadlines.**  Started with any profile and called at ticks that never
decrease, a node gives the same answers as the node with deadlines, is in the same state after every
run, and drives the same outputs at every tick from the last event on. -/
theorem run_simulates (p : Profile) (calls : List (Call Tick))
    (hordered : (Call.times calls).Pairwise (· ≤ ·)) :
    let real := (Node.new p).run calls
    let ideal := (DeadlineNode.new p).run (calls.map (Call.map UInt32.toNat))
    real.2 = ideal.2 ∧
      real.1.mode = ideal.1.mode ∧
      real.1.sensors = ideal.1.sensors ∧
      real.1.warningEnabled = ideal.1.warningEnabled ∧
      real.1.outbox.items = ideal.1.pending ∧
      ∀ t : Tick, (∀ s ∈ Call.times calls, s ≤ t) →
        real.1.actuators t = ideal.1.actuators t.toNat := by
  intro real ideal
  obtain ⟨hrun, hstarts⟩ := Node.run_withDeadlines (Node.startsBy_new p) calls
    (fun t _ => UInt32.zero_le) hordered
  rw [Node.withDeadlines_new] at hrun
  have hnode : real.1.withDeadlines = ideal.1 := congrArg Prod.fst hrun
  have hanswers : real.2 = ideal.2 := congrArg Prod.snd hrun
  rw [← hnode]
  exact ⟨hanswers, rfl, rfl, rfl, rfl, fun t ht =>
    Node.actuators_withDeadlines (hstarts t UInt32.zero_le ht)⟩

/-- A veranda node whose light stays on for the longest duration there is. -/
def Profile.longLit : Profile :=
  { Profile.b02 with timing := { Profile.b02.timing with light := 4294967295 } }

/-- A movement in the dark shortly before the last tick, and another one at the last tick. -/
def duskCalls : List (Call Tick) :=
  [.event (.luminosity ⟨.zero, true⟩) 5, .event (.movement .veranda) 4294967290, .pop,
    .event (.movement .door) 4294967295]

/-- The deadline of the light lies far beyond the range of the counter, and the second movement is
absorbed on either clock. -/
theorem run_simulates_longLit :
    (Call.times duskCalls).Pairwise (· ≤ ·) ∧
      ((DeadlineNode.new .longLit).run (duskCalls.map (Call.map UInt32.toNat))).1.lightUntil =
        some 8589934585 ∧
      ((Node.new .longLit).run duskCalls).2 =
        ((DeadlineNode.new .longLit).run (duskCalls.map (Call.map UInt32.toNat))).2 ∧
      ((Node.new .longLit).run duskCalls).1.actuators 4294967295 =
        ((DeadlineNode.new .longLit).run
          (duskCalls.map (Call.map UInt32.toNat))).1.actuators 4294967295 := by
  have hordered : (Call.times duskCalls).Pairwise (· ≤ ·) := by decide
  have hlast : ∀ s ∈ Call.times duskCalls, s ≤ 4294967295 := by
    intro s _
    exact UInt32.le_iff_toNat_le.mpr (Nat.le_of_lt_succ s.toNat_lt)
  obtain ⟨hanswers, -, -, -, -, hactuators⟩ := run_simulates .longLit duskCalls hordered
  exact ⟨hordered, by decide +kernel, hanswers, hactuators 4294967295 hlast⟩

end HomeMesh
