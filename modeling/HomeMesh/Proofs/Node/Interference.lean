import HomeMesh.Proofs.Actuator
import HomeMesh.Proofs.Node.Exchange

/-!
# Telemetry does not interfere with the watch

What a node keeps watch with is its mode, whether it is dark, and its windows.  The climate, the
door, the remote control and the envelopes that report on them or switch the comfort warning
(`Event.isTelemetry`) have no part in it.

Two nodes keep the same watch if they agree on these parts (`Node.SameWatch`).  Telemetry leaves a
node with the same watch as before (`sameWatch_after`): it may make the node look for windows that
start in the future, but at ticks that never decrease there are none.  Any other event leaves
two nodes of the same watch with the same watch, and makes them send the same
(`SameWatch.after`, `SameWatch.report?_eq`).  So a run with telemetry keeps the same watch as the
run without it (`sameWatch_serveAll`), as long as the outbox is drained after each event and has
room for every alert.  Runs that are alike but for their telemetry are therefore alike in all that
concerns the watch (`telemetry_does_not_interfere`).
-/

namespace HomeMesh

/-- Whether an event is about the climate, the door or the remote control, or is an envelope that
reports such things or switches the comfort warning. -/
def Event.isTelemetry : Event → Bool
  | .environment _ | .door _ | .button _ => true
  | .message m =>
    match m.command with
    | .setWarning | .updateTemperature | .updateHumidity | .updateDoorState => true
    | .setMode | .setIntrusion | .setLight => false
  | .luminosity _ | .movement _ => false

/-- Whether an envelope asks for light or reports an intrusion. -/
def Envelope.isAlert (m : Envelope) : Bool := m.command == .setLight || m.command == .setIntrusion

namespace Node

variable {n n' : Node} {e : Event} {now past : Tick} {events : List (Event × Tick)}

/-! ## Draining the outbox -/

/-- Takes out of the outbox until it is empty. -/
def drain (n : Node) : List Envelope × Node :=
  match _popped : n.popMessage? with
  | none => ([], n)
  | some (m, rest) => (m :: rest.drain.1, rest.drain.2)
termination_by n.outbox.items.length
decreasing_by all_goals
  rw [(popMessage?_eq_some _popped).1]
  exact Nat.lt_succ_self _

theorem drain_eq (n : Node) : n.drain = (n.outbox.items, { n with outbox := .empty }) := by
  obtain ⟨profile, mode, sensors, windows, warningEnabled, ⟨items, hlength⟩⟩ := n
  induction items with
  | nil =>
    unfold drain
    rfl
  | cons m items ih =>
    have hrest : items.length ≤ outboxCapacity := Nat.le_of_succ_le hlength
    unfold drain
    split
    next hnone => cases hnone
    next m' rest hsome =>
      obtain ⟨rfl, rfl⟩ := Prod.mk.inj (Option.some.inj hsome)
      simp only [ih hrest]

/-- An event happens to a node, and all that it makes the node send is taken out. -/
def serve (n : Node) (e : Event) (now : Tick) : List Envelope × Node := (n.react e now).node.drain

/-- Some events happen to a node, and all that each of them makes it send is taken out. -/
def serveAll (n : Node) : List (Event × Tick) → List Envelope × Node
  | [] => ([], n)
  | (e, now) :: events =>
    ((n.serve e now).1 ++ ((n.serve e now).2.serveAll events).1,
      ((n.serve e now).2.serveAll events).2)

/-- A node with an empty outbox sends what the event makes it report. -/
theorem serve_eq (hempty : n.outbox = .empty) (e : Event) (now : Tick) :
    n.serve e now = ((n.report? e now).toList, { n.after e now with outbox := .empty }) := by
  have hroom : n.outbox.items.length < outboxCapacity := by
    rw [hempty]
    decide
  have hnone : (Bounded.empty : Outbox).items = [] := rfl
  rw [serve, drain_eq, outbox_react_of_room e now hroom, hempty, hnone, List.append_nil, node_react,
    offered_react]

theorem outbox_serveAll (hempty : n.outbox = .empty) :
    (n.serveAll events).2.outbox = .empty := by
  induction events generalizing n with
  | nil => exact hempty
  | cons event events ih =>
    refine ih (n := (n.serve event.1 event.2).2) ?_
    rw [serve_eq hempty]

/-! ## The same watch -/

/-- Two nodes of the same kind keep the same watch. -/
structure SameWatch (n n' : Node) : Prop where
  profile : n'.profile = n.profile
  mode : n'.mode = n.mode
  isDark : n'.sensors.isDark = n.sensors.isDark
  windows : n'.windows = n.windows

namespace SameWatch

theorem refl (n : Node) : n.SameWatch n := ⟨rfl, rfl, rfl, rfl⟩

theorem symm (h : n.SameWatch n') : n'.SameWatch n :=
  ⟨h.profile.symm, h.mode.symm, h.isDark.symm, h.windows.symm⟩

theorem trans {n'' : Node} (h : n.SameWatch n') (h' : n'.SameWatch n'') : n.SameWatch n'' :=
  ⟨h'.profile.trans h.profile, h'.mode.trans h.mode, h'.isDark.trans h.isDark,
    h'.windows.trans h.windows⟩

/-- The outbox has no part in the watch. -/
theorem with_outbox (h : n.SameWatch n') (box box' : Outbox) :
    SameWatch { n with outbox := box } { n' with outbox := box' } :=
  ⟨h.profile, h.mode, h.isDark, h.windows⟩

theorem isRunning_eq (h : n.SameWatch n') (k : WindowName) (now : Tick) :
    n'.isRunning k now = n.isRunning k now := by
  rw [isRunning, h.windows, h.profile]
  rfl

theorem isLightRunning_eq (h : n.SameWatch n') (now : Tick) :
    n'.isLightRunning now = n.isLightRunning now := h.isRunning_eq .light now

theorem isDisplayRunning_eq (h : n.SameWatch n') (now : Tick) :
    n'.isDisplayRunning now = n.isDisplayRunning now := h.isRunning_eq .display now

theorem isIntrusionRunning_eq (h : n.SameWatch n') (now : Tick) :
    n'.isIntrusionRunning now = n.isIntrusionRunning now := h.isRunning_eq .intrusion now

theorem accepts_eq (h : n.SameWatch n') (m : Envelope) : n'.accepts m = n.accepts m := by
  rw [accepts, id, h.profile]
  rfl

theorem fate_eq (h : n.SameWatch n') (e : Event) (now : Tick) (k : WindowName) :
    n'.fate e now k = n.fate e now k := by
  cases e with
  | movement input =>
    simp only [fate, movementFate, h.profile, h.mode, h.isLightRunning_eq, h.isIntrusionRunning_eq]
  | message m =>
    simp only [fate, messageFate, h.accepts_eq, h.isLightRunning_eq, h.isIntrusionRunning_eq]
  | luminosity _ | environment _ | door _ | button _ => rfl

/-- An event that happens to both leaves them with the same watch. -/
theorem after (h : n.SameWatch n') (e : Event) (now : Tick) :
    (n.after e now).SameWatch (n'.after e now) where
  profile := h.profile
  mode := by cases e <;> simp only [Node.after, modeAfter, h.mode, h.accepts_eq]
  isDark := by
    cases e with
    | luminosity reading => simp only [Node.after, sensorsAfter, h.profile]
    | door isOpen =>
      simp only [Node.after, sensorsAfter, h.profile]
      split <;> exact h.isDark
    | environment _ | movement _ | button _ | message _ => exact h.isDark
  windows := by simp only [Node.after, windowsAfter, h.fate_eq, h.windows]

/-- Whatever is no telemetry makes both send the same. -/
theorem report?_eq (h : n.SameWatch n') (he : e.isTelemetry = false) (now : Tick) :
    n'.report? e now = n.report? e now := by
  cases e with
  | movement input =>
    simp only [report?, h.profile, h.mode, h.isDark, h.isLightRunning_eq, h.isIntrusionRunning_eq]
  | luminosity _ | message _ => rfl
  | environment _ | door _ | button _ => cases he

end SameWatch

/-! ## Telemetry -/

/-- At telemetry a node only looks for windows that start in the future. -/
theorem fate_of_isTelemetry (he : e.isTelemetry = true) (now : Tick) (k : WindowName) :
    n.fate e now k = .spared ∨ n.fate e now k = .guarded := by
  cases e with
  | environment _ | door _ | button _ => exact .inl rfl
  | luminosity _ | movement _ => cases he
  | message m =>
    rw [fate]
    split
    · refine .inr ?_
      cases hcommand : m.command with
      | setWarning | updateTemperature | updateHumidity | updateDoorState =>
        simp only [messageFate, hcommand]
      | setMode | setIntrusion | setLight => simp [Event.isTelemetry, hcommand] at he
    · exact .inl rfl

theorem apply_of_isTelemetry (he : e.isTelemetry = true) {k : WindowName} {w : Window}
    (hw : w.StartsBy now) : (n.fate e now k).apply w now = w := by
  obtain hfate | hfate := fate_of_isTelemetry (n := n) he now k
  · rw [hfate]
    rfl
  · rw [hfate]
    exact Window.normalize_of_started hw

/-- Telemetry leaves a node with the same watch, unless a window starts in the future. -/
theorem sameWatch_after (he : e.isTelemetry = true) (hstarts : n.StartsBy now) :
    n.SameWatch (n.after e now) where
  profile := rfl
  mode := by
    cases e with
    | message m =>
      have hcommand : m.command ≠ .setMode := fun hcommand => by
        simp [Event.isTelemetry, hcommand] at he
      rw [after, modeAfter_message_eq, Envelope.mode?, if_neg hcommand]
      exact ite_self n.mode
    | _ => rfl
  isDark := by
    cases e with
    | luminosity reading => cases he
    | door isOpen =>
      rw [after, sensorsAfter]
      split <;> rfl
    | _ => rfl
  windows := by
    simp only [after, windowsAfter, apply_of_isTelemetry he hstarts.light,
      apply_of_isTelemetry he hstarts.display, apply_of_isTelemetry he hstarts.intrusion]

/-- Telemetry makes a node send no alert. -/
theorem filter_isAlert_of_isTelemetry (he : e.isTelemetry = true) (now : Tick) :
    (n.report? e now).toList.filter Envelope.isAlert = [] := by
  cases e with
  | environment reading =>
    rw [report?]
    split
    · rw [Profile.climateReport]
      cases reading.humidity <;> rfl
    · rfl
  | door isOpen =>
    rw [report?]
    split <;> rfl
  | luminosity _ | movement _ => cases he
  | button _ | message _ => rfl

/-! ## Runs -/

/-- The events that are no telemetry. -/
def watchful (events : List (Event × Tick)) : List (Event × Tick) :=
  events.filter fun event => !event.1.isTelemetry

/-- A run with telemetry keeps the same watch as the run without it, and sends the same alerts. -/
theorem sameWatch_serveAll (hwatch : n.SameWatch n') (hempty : n.outbox = .empty)
    (hempty' : n'.outbox = .empty) (hstarts : n.StartsBy past)
    (hlate : ∀ event ∈ events, past ≤ event.2)
    (hordered : (events.map Prod.snd).Pairwise (· ≤ ·)) :
    (n.serveAll events).2.SameWatch (n'.serveAll (watchful events)).2 ∧
      (n'.serveAll (watchful events)).1.filter Envelope.isAlert =
        (n.serveAll events).1.filter Envelope.isAlert := by
  induction events generalizing n n' past with
  | nil => exact ⟨hwatch, rfl⟩
  | cons event events ih =>
    obtain ⟨e, now⟩ := event
    obtain ⟨hafter, hrest⟩ := List.pairwise_cons.mp hordered
    have hnow : n.StartsBy now := hstarts.mono (hlate (e, now) List.mem_cons_self)
    have hlater : ∀ event ∈ events, now ≤ event.2 := fun event hevent =>
      hafter event.2 (List.mem_map_of_mem hevent)
    have hserved : Node.StartsBy { n.after e now with outbox := .empty } now :=
      let h := hnow.after e
      ⟨h.light, h.display, h.intrusion⟩
    rw [serveAll, serve_eq hempty]
    cases he : e.isTelemetry with
    | true =>
      have hskip : watchful ((e, now) :: events) = watchful events := by simp [watchful, he]
      have hsame : Node.SameWatch { n.after e now with outbox := .empty } n' :=
        ((sameWatch_after he hnow).symm.trans hwatch).with_outbox .empty n'.outbox
      obtain ⟨hwatch', halerts⟩ := ih hsame rfl hempty' hserved hlater hrest
      rw [hskip, List.filter_append, filter_isAlert_of_isTelemetry he, List.nil_append]
      exact ⟨hwatch', halerts⟩
    | false =>
      have hkeep : watchful ((e, now) :: events) = (e, now) :: watchful events := by
        simp [watchful, he]
      have hsame : Node.SameWatch { n.after e now with outbox := .empty }
          { n'.after e now with outbox := .empty } := (hwatch.after e now).with_outbox .empty .empty
      obtain ⟨hwatch', halerts⟩ := ih hsame rfl rfl hserved hlater hrest
      rw [hkeep, serveAll, serve_eq hempty', hwatch.report?_eq he, List.filter_append,
        List.filter_append, halerts]
      exact ⟨hwatch', rfl⟩

/-! ## Outputs -/

/-- Out of silence the outputs depend on the watch only. -/
theorem SameWatch.outputs_eq (h : n.SameWatch n') (hmode : n.mode ≠ .silence) (t : Tick) :
    n'.outputs t = n.outputs t := by
  rw [outputs, outputs, h.mode]
  cases hm : n.mode with
  | silence => exact absurd hm hmode
  | guard => simp only [outputsOnGuard, h.isDark, h.isLightRunning_eq, h.isIntrusionRunning_eq]
  | alarm => simp only [outputsInAlarm, h.isDark]

/-- In silence all outputs but the comfort warning do. -/
theorem SameWatch.outputs_eq_of_silence (h : n.SameWatch n') (hmode : n.mode = .silence)
    (t : Tick) :
    n'.outputs t = { n.outputs t with comfortWarning := n'.comfortWarning } := by
  rw [outputs, outputs, h.mode, hmode]
  simp only [outputsInSilence, h.isDark, h.isLightRunning_eq, h.isDisplayRunning_eq]

/-- Outputs that differ in the comfort warning only agree on every channel but the warning lamp. -/
theorem isOn_comfortWarning (out : ModeOutputs) (warning : Bool) (p : Profile) (pending : Bool)
    {c : Channel} (hc : c ≠ .warningLed) :
    ({ out with comfortWarning := warning }.actuators p pending).isOn c =
      (out.actuators p pending).isOn c := by
  rw [Bool.eq_iff_iff, ModeOutputs.isOn_actuators_iff, ModeOutputs.isOn_actuators_iff]
  simp only [hc, false_and, false_or]

/-! ## The main result -/

/-- **Telemetry does not interfere with the watch.**  Take two runs of a node from its start at
ticks that never decrease, where the outbox is drained after each event, and let them have the same
events but for telemetry.  Then the node ends up in the same mode, with the same windows, and takes
it to be equally dark; it has sent the same alerts in the same order; and at any tick it wants the
same of all its outputs, except that in silence the warning lamp may differ.  Beginnings of two such
runs that have the same events but for telemetry are two such runs as well, so all this holds after
every event that the runs have in common. -/
theorem telemetry_does_not_interfere (p : Profile) (xs ys : List (Event × Tick))
    (hxs : (xs.map Prod.snd).Pairwise (· ≤ ·)) (hys : (ys.map Prod.snd).Pairwise (· ≤ ·))
    (hsame : watchful xs = watchful ys) :
    let left := (new p).serveAll xs
    let right := (new p).serveAll ys
    left.2.mode = right.2.mode ∧
      left.2.sensors.isDark = right.2.sensors.isDark ∧
      left.2.windows = right.2.windows ∧
      left.1.filter Envelope.isAlert = right.1.filter Envelope.isAlert ∧
      (left.2.mode ≠ .silence → ∀ t, left.2.actuators t = right.2.actuators t) ∧
      (left.2.mode = .silence → ∀ t,
        (left.2.actuators t).led = (right.2.actuators t).led ∧
          (left.2.actuators t).messagePending = (right.2.actuators t).messagePending ∧
          ∀ c, c ≠ .warningLed → (left.2.actuators t).isOn c = (right.2.actuators t).isOn c) := by
  intro left right
  have hrun (events : List (Event × Tick)) (h : (events.map Prod.snd).Pairwise (· ≤ ·)) :=
    sameWatch_serveAll (.refl (new p)) rfl rfl (startsBy_new p)
      (fun event _ => UInt32.zero_le (a := event.2)) h
  obtain ⟨hleft, hleftAlerts⟩ := hrun xs hxs
  obtain ⟨hright, hrightAlerts⟩ := hrun ys hys
  rw [hsame] at hleft hleftAlerts
  have hwatch : left.2.SameWatch right.2 := hleft.trans hright.symm
  have houtbox : left.2.outbox = right.2.outbox :=
    (outbox_serveAll rfl).trans (outbox_serveAll rfl).symm
  refine ⟨hwatch.mode.symm, hwatch.isDark.symm, hwatch.windows.symm,
    hleftAlerts.symm.trans hrightAlerts, fun hmode t => ?_, fun hmode t => ?_⟩
  · rw [actuators, actuators, hwatch.outputs_eq hmode, hwatch.profile, houtbox]
  · rw [actuators, actuators, hwatch.outputs_eq_of_silence hmode, hwatch.profile, houtbox]
    exact ⟨rfl, rfl, fun c hc => (isOn_comfortWarning _ _ _ _ hc).symm⟩

/-- It grows dark in the hall.  It is cold, the door is opened and the warning of that is switched
on; then somebody comes. -/
def coldEvening : List (Event × Tick) :=
  [(.luminosity ⟨.zero, true⟩, 5), (.environment ⟨.ofQuotient false 10 1, none, none, true⟩, 10),
    (.door true, 20), (.message (Profile.t01.order .setWarning 1), 30), (.movement .front, 40)]

/-- The same evening without a door or a thermometer, and with somebody at the remote control. -/
def plainEvening : List (Event × Tick) :=
  [(.luminosity ⟨.zero, true⟩, 5), (.button .ok, 30), (.movement .front, 40), (.button .ok, 45)]

/-- On both evenings the hall node asks for light and switches its own on.  Only the warning lamp
shows that it is cold. -/
theorem telemetry_does_not_interfere_coldEvening :
    let left := (new .t01).serveAll coldEvening
    let right := (new .t01).serveAll plainEvening
    (coldEvening.map Prod.snd).Pairwise (· ≤ ·) ∧ (plainEvening.map Prod.snd).Pairwise (· ≤ ·) ∧
      watchful coldEvening = watchful plainEvening ∧ left.2.mode = .silence ∧
      left.1.length = 3 ∧ right.1.length = 1 ∧
      right.1.filter Envelope.isAlert = [Profile.t01.lightRequest] ∧
      left.1.filter Envelope.isAlert = [Profile.t01.lightRequest] ∧
      (left.2.actuators 50).isOn .warningLed = true ∧
      (right.2.actuators 50).isOn .warningLed = false ∧
      (right.2.actuators 50).isOn .frontLight = true ∧
      (left.2.actuators 50).isOn .frontLight = true := by
  intro left right
  have hleft : (coldEvening.map Prod.snd).Pairwise (· ≤ ·) := by decide
  have hright : (plainEvening.map Prod.snd).Pairwise (· ≤ ·) := by decide
  have hsame : watchful coldEvening = watchful plainEvening := by decide +kernel
  have hmode : left.2.mode = .silence := by decide +kernel
  have halert : right.1.filter Envelope.isAlert = [Profile.t01.lightRequest] := by decide +kernel
  have hlight : (right.2.actuators 50).isOn .frontLight = true := by decide +kernel
  obtain ⟨-, -, -, halerts, -, hsilence⟩ :=
    telemetry_does_not_interfere .t01 coldEvening plainEvening hleft hright hsame
  obtain ⟨-, -, hchannels⟩ := hsilence hmode 50
  exact ⟨hleft, hright, hsame, hmode, by decide +kernel, by decide +kernel, halert,
    halerts.trans halert, by decide +kernel, by decide +kernel, hlight,
    (hchannels .frontLight (by decide)).trans hlight⟩

end Node

end HomeMesh
