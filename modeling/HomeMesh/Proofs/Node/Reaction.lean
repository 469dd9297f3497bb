import HomeMesh.Proofs.Node.Reports
import HomeMesh.Proofs.Window

/-!
# What the handlers of a node do

Every handler of an event is stated here as one record: which fields of the node it changes, and
under which condition (`node_…`).  Beside it stands the envelope that it hands to the outbox
(`offered_…`): one of four kinds, each made from the profile of the node and, for reports of its
sensors, from what they have measured.

`HomeMesh.Proofs.Node.Step` puts these equations together; no handler is opened again after that.
-/

namespace HomeMesh

/-! ## The outbox -/

/-- The outbox after an envelope was handed to it.  If there is no room for it, it is lost. -/
def Outbox.offering (box : Outbox) (m : Envelope) : Outbox := (box.push? m).getD box

theorem Outbox.items_offering (box : Outbox) (m : Envelope) :
    (box.offering m).items =
      if box.items.length < outboxCapacity then m :: box.items else box.items := by
  by_cases h : box.items.length < outboxCapacity
  · have hroom : (m :: box.items).length ≤ outboxCapacity := h
    rw [offering, push?, Bounded.cons?, Bounded.ofList?, dif_pos hroom, if_pos h]
    rfl
  · have hfull : ¬ (m :: box.items).length ≤ outboxCapacity := h
    rw [offering, push?, Bounded.cons?, Bounded.ofList?, dif_neg hfull, if_neg h]
    rfl

namespace Node

variable {n : Node} {now : Tick}

@[simp] theorem node_offer (m : Envelope) :
    (n.offer m).node = { n with outbox := n.outbox.offering m } := by
  unfold offer Outbox.offering
  cases n.outbox.push? m <;> rfl

@[simp] theorem offered_offer (m : Envelope) : (n.offer m).offered = some m := by
  unfold offer
  cases n.outbox.push? m <;> rfl

@[simp] theorem delay_offer (m : Envelope) : (n.offer m).delay = none := by
  unfold offer
  cases n.outbox.push? m <;> rfl

/-! ## Windows -/

/-- The light window opens unless it is running. -/
theorem reopenLight_eq :
    n.reopenLight now =
      if n.isLightRunning now then (n, false)
      else ({ n with windows := { n.windows with light := .openedAt now } }, true) := by
  unfold reopenLight isLightRunning
  rw [Window.reopenIfExpired_eq]
  cases n.windows.light.isRunning now n.profile.timing.light <;> rfl

/-- The intrusion window opens unless it is running, and the light window with it. -/
theorem reopenIntrusion_eq :
    n.reopenIntrusion now =
      if n.isIntrusionRunning now then (n, false)
      else
        ({ n with windows :=
            { n.windows with light := .openedAt now, intrusion := .openedAt now } }, true) := by
  unfold reopenIntrusion isIntrusionRunning
  rw [Window.reopenIfExpired_eq]
  cases n.windows.intrusion.isRunning now n.profile.timing.intrusion <;> rfl

@[simp] theorem isLightRunning_normalizeWindows :
    (n.normalizeWindows now).isLightRunning now = n.isLightRunning now :=
  Window.isRunning_normalize

@[simp] theorem isIntrusionRunning_normalizeWindows :
    (n.normalizeWindows now).isIntrusionRunning now = n.isIntrusionRunning now :=
  Window.isRunning_normalize

/-! ## Sensors -/

theorem node_observeEnvironment (reading : EnvironmentReading) :
    (n.observeEnvironment reading).node =
      { n with
        sensors := { n.sensors with environment := reading }
        outbox :=
          if reading.valid then n.outbox.offering (n.profile.climateReport reading)
          else n.outbox } := by
  unfold observeEnvironment
  cases reading.valid with
  | false => rfl
  | true =>
    simp only [Reaction.after, if_true, node_offer, climateReport_eq]

theorem node_observeDoor (isOpen : Bool) :
    (n.observeDoor isOpen).node =
      if n.profile.hasDoorSensor then
        { n with
          sensors := { n.sensors with doorOpen := isOpen }
          outbox := n.outbox.offering (n.profile.doorReport isOpen) }
      else n := by
  unfold observeDoor Profile.hasDoorSensor
  cases n.profile.timing.doorPoll with
  | none => rfl
  | some period =>
    have hreport := switch_door_eq
      (n := { n with sensors := { n.sensors with doorOpen := isOpen } })
      isOpen
    simp only [Reaction.after, offerSwitch, node_offer, hreport, Option.isSome_some, if_true]

/-! ## Movements -/

theorem node_requestLight (action : MovementAction) :
    (n.requestLight action).node =
      { n with
        outbox :=
          if n.sensors.isDark && action.notifyLightPeer then
            n.outbox.offering n.profile.lightRequest
          else n.outbox } := by
  unfold requestLight
  cases n.sensors.isDark && action.notifyLightPeer with
  | false => rfl
  | true => simp only [if_true, Reaction.noting, offerSwitch, node_offer, switch_light_eq]

theorem node_moveInSilence (action : MovementAction) :
    (n.moveInSilence action now).node =
      if n.isLightRunning now then n
      else
        { n with
          windows :=
            { n.windows with
              light := .openedAt now
              display := if action.wakeDisplay then .openedAt now else n.windows.display }
          outbox :=
            if n.sensors.isDark && action.notifyLightPeer then
              n.outbox.offering n.profile.lightRequest
            else n.outbox } := by
  unfold moveInSilence
  rw [reopenLight_eq]
  cases n.isLightRunning now with
  | true => rfl
  | false =>
    cases action.wakeDisplay <;> simp [node_requestLight, wakeDisplay]

theorem node_moveOnGuard :
    (n.moveOnGuard now).node =
      if n.isIntrusionRunning now then n
      else
        { n with
          windows := { n.windows with light := .openedAt now, intrusion := .openedAt now }
          outbox := n.outbox.offering n.profile.intrusionReport } := by
  unfold moveOnGuard
  rw [reopenIntrusion_eq]
  cases n.isIntrusionRunning now with
  | true => rfl
  | false =>
    have hreport := switch_intrusion_eq
      (n := { n with
        windows := { n.windows with light := .openedAt now, intrusion := .openedAt now } })
    simp only [if_false, Bool.false_eq_true, Reaction.noting, offerSwitch, node_offer, hreport]

/-- A movement on guard or in alarm does not depend on what the sensor is bound to. -/
theorem node_move (action : MovementAction) :
    (n.move action now).node =
      match n.mode with
      | .silence => (n.moveInSilence action now).node
      | .guard => (n.moveOnGuard now).node
      | .alarm => n := by
  unfold move
  cases n.mode <;> rfl

theorem node_observeMovement (input : MovementInput) :
    (n.observeMovement input now).node =
      match n.profile.movementAction? input with
      | none => n
      | some action => ((n.normalizeWindows now).move action now).node := by
  unfold observeMovement
  cases n.profile.movementAction? input <;> rfl

/-! ## Envelopes that come in -/

theorem switchValue_eq (m : Envelope) : m.switchValue = if m.value0 = 0 then .off else .on := rfl

/-- What an envelope for the node makes of it, command by command. -/
theorem node_obey (m : Envelope) :
    (n.obey m now).node =
      match m.command with
      | .setMode =>
        match Mode.ofValue? m.value0 with
        | some mode => { n with mode := mode, windows := {} }
        | none => n
      | .setIntrusion =>
        if m.value0 = 0 then { n with windows := { n.windows with intrusion := .inactive } }
        else if n.isIntrusionRunning now then n
        else
          { n with windows :=
            { n.windows with light := .openedAt now, intrusion := .openedAt now } }
      | .setLight =>
        if m.value0 = 0 then { n with windows := { n.windows with light := .inactive } }
        else if n.isLightRunning now then n
        else { n with windows := { n.windows with light := .openedAt now } }
      | .setWarning =>
        if n.profile.comfort.isSome then { n with warningEnabled := decide (m.value0 ≠ 0) } else n
      | .updateTemperature | .updateHumidity | .updateDoorState => n := by
  unfold obey
  cases m.command with
  | setMode =>
    simp only [obeyMode]
    cases Mode.ofValue? m.value0 <;> rfl
  | setIntrusion =>
    simp only [obeyIntrusion, switchValue_eq, reopenIntrusion_eq]
    by_cases h0 : m.value0 = 0
    · simp only [h0, if_true, closeIntrusion]
    · cases n.isIntrusionRunning now <;> simp [h0]
  | setLight =>
    simp only [obeyLight, switchValue_eq, reopenLight_eq]
    by_cases h0 : m.value0 = 0
    · simp only [h0, if_true, closeLight]
    · cases n.isLightRunning now <;> simp [h0]
  | setWarning =>
    simp only [obeyWarning, switchValue_eq]
    by_cases h0 : m.value0 = 0 <;> cases n.profile.comfort <;> simp [h0]
  | updateTemperature | updateHumidity | updateDoorState => rfl

theorem node_receive (m : Envelope) :
    (n.receive m now).node =
      if m.isAddressedTo n.id n.profile.acceptsBroadcast then
        ((n.normalizeWindows now).obey m now).node
      else n := by
  unfold receive
  cases m.isAddressedTo n.id n.profile.acceptsBroadcast <;> rfl

/-! ## What a node sends -/

theorem offered_requestLight (action : MovementAction) :
    (n.requestLight action).offered =
      if n.sensors.isDark && action.notifyLightPeer then some n.profile.lightRequest else none := by
  unfold requestLight
  cases n.sensors.isDark && action.notifyLightPeer with
  | false => rfl
  | true => simp only [if_true, Reaction.noting, offerSwitch, offered_offer, switch_light_eq]

theorem offered_moveInSilence (action : MovementAction) :
    (n.moveInSilence action now).offered =
      if n.isLightRunning now then none
      else if n.sensors.isDark && action.notifyLightPeer then some n.profile.lightRequest
      else none := by
  unfold moveInSilence
  rw [reopenLight_eq]
  cases n.isLightRunning now with
  | true => rfl
  | false =>
    have hrequest := offered_requestLight action
      (n := { n with windows := { n.windows with light := .openedAt now } })
    cases action.wakeDisplay <;> exact hrequest

theorem offered_moveOnGuard :
    (n.moveOnGuard now).offered =
      if n.isIntrusionRunning now then none else some n.profile.intrusionReport := by
  unfold moveOnGuard
  rw [reopenIntrusion_eq]
  cases n.isIntrusionRunning now with
  | true => rfl
  | false =>
    have hreport := switch_intrusion_eq
      (n := { n with
        windows := { n.windows with light := .openedAt now, intrusion := .openedAt now } })
    simp only [if_false, Bool.false_eq_true, Reaction.noting, offerSwitch, offered_offer, hreport]

theorem offered_move (action : MovementAction) :
    (n.move action now).offered =
      match n.mode with
      | .silence => (n.moveInSilence action now).offered
      | .guard => (n.moveOnGuard now).offered
      | .alarm => none := by
  unfold move
  cases n.mode <;> rfl

theorem offered_obey (m : Envelope) : (n.obey m now).offered = none := by
  unfold obey
  cases m.command with
  | setMode =>
    simp only [obeyMode]
    cases Mode.ofValue? m.value0 <;> rfl
  | setIntrusion =>
    simp only [obeyIntrusion, reopenIntrusion_eq]
    cases m.switchValue <;> cases n.isIntrusionRunning now <;> rfl
  | setLight =>
    simp only [obeyLight]
    cases m.switchValue <;> rfl
  | setWarning =>
    simp only [obeyWarning]
    cases n.profile.comfort.isSome <;> rfl
  | updateTemperature | updateHumidity | updateDoorState => rfl

/-! ## Delays -/

theorem delay_requestLight (action : MovementAction) :
    (n.requestLight action).delay = none := by
  unfold requestLight
  cases n.sensors.isDark && action.notifyLightPeer with
  | false => rfl
  | true => exact delay_offer _

/-- A movement is not answered by a delay. -/
theorem delay_move (action : MovementAction) : (n.move action now).delay = none := by
  unfold move
  cases n.mode with
  | silence =>
    simp only [moveInSilence, reopenLight_eq]
    cases n.isLightRunning now with
    | true => rfl
    | false => cases action.wakeDisplay <;> exact delay_requestLight action
  | guard =>
    simp only [moveOnGuard, reopenIntrusion_eq]
    cases n.isIntrusionRunning now with
    | true => rfl
    | false => exact delay_offer _
  | alarm => rfl

/-- An envelope is not answered by a delay. -/
theorem delay_obey (m : Envelope) : (n.obey m now).delay = none := by
  unfold obey
  cases m.command with
  | setMode =>
    simp only [obeyMode]
    cases Mode.ofValue? m.value0 <;> rfl
  | setIntrusion =>
    simp only [obeyIntrusion, reopenIntrusion_eq]
    cases m.switchValue <;> cases n.isIntrusionRunning now <;> rfl
  | setLight =>
    simp only [obeyLight]
    cases m.switchValue <;> rfl
  | setWarning =>
    simp only [obeyWarning]
    cases n.profile.comfort.isSome <;> rfl
  | updateTemperature | updateHumidity | updateDoorState => rfl

end Node

end HomeMesh
