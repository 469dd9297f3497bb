import HomeMesh.Proofs.Node.Run
import HomeMesh.Proofs.Node.WarningLamp

/-!
# The warning as a function of the history

A node keeps its warning in four places: the last measurement of the climate, the last state of the
door, the switch of the warning, and its profile.  This module forgets the places and speaks of the
events since the node was started: what the latest of them was that tells a measurement, a door
state or a switch position (`Event.latest?`).

A node remembers of its past just the latest of each kind (`Lived.remembers`).  All other events,
whatever they do to the mode, to the windows or to the outbox, leave these memories alone
(`Remembers.after`).  So the warning lamp of a silent node shows whether its past calls for a
warning (`isOn_warningLed_iff_callsForWarning`), and the events that do not bear on the climate can
be struck from the past.
-/

namespace HomeMesh

/-! ## What events tell -/

namespace Event

variable {α : Type} {e : Event}

/-- The measurement of the climate that an event brings. -/
def reading? : Event → Option EnvironmentReading
  | environment reading => some reading
  | _ => none

/-- The state of the door that an event brings, whether the node has a door contact or not. -/
def door? : Event → Option Bool
  | door isOpen => some isOpen
  | _ => none

/-- Whether an event is a measurement of the climate, a state of the door, or an envelope that
switches the warning, whomever it is for. -/
def bearsOnClimate : Event → Bool
  | environment _ | door _ => true
  | message m => m.command == .setWarning
  | luminosity _ | movement _ | button _ => false

theorem reading?_eq_none (h : e.bearsOnClimate = false) : e.reading? = none := by
  cases e with
  | environment _ => cases h
  | _ => rfl

theorem door?_eq_none (h : e.bearsOnClimate = false) : e.door? = none := by
  cases e with
  | door _ => cases h
  | _ => rfl

/-- The latest of what some events tell. -/
def latest? (tell : Event → Option α) (past : List Event) : Option α :=
  (past.filterMap tell).getLast?

theorem latest?_concat (tell : Event → Option α) (past : List Event) (e : Event) :
    latest? tell (past ++ [e]) = (tell e).or (latest? tell past) := by
  rw [latest?, List.filterMap_append, List.getLast?_append]
  cases h : tell e <;> simp [h, latest?]

/-- Events that tell nothing can be struck out. -/
theorem latest?_filter {tell : Event → Option α} {keep : Event → Bool}
    (hsilent : ∀ e, keep e = false → tell e = none) (past : List Event) :
    latest? tell (past.filter keep) = latest? tell past := by
  rw [latest?, List.filterMap_filter, latest?]
  congr 1
  refine List.filterMap_congr fun e _ => ?_
  cases h : keep e
  · simp [hsilent e h]
  · simp

end Event

namespace Profile

/-- The value that switches the warning, if an event is an envelope for a node with this profile
that does so. -/
def warningSwitch? (p : Profile) : Event → Option Int32
  | .message m =>
    if m.isAddressedTo p.id p.acceptsBroadcast && m.command == .setWarning then some m.value0
    else none
  | _ => none

theorem warningSwitch?_eq_none {p : Profile} {e : Event} (h : e.bearsOnClimate = false) :
    p.warningSwitch? e = none := by
  cases e with
  | message m =>
    have hcommand : (m.command == .setWarning) = false := h
    rw [warningSwitch?, hcommand, Bool.and_false]
    rfl
  | _ => rfl

/-- The past of a node calls for a warning: it was not switched off last, the last measurement of
the climate is valid, and it is too cold if the door is known to be open, and too warm otherwise. -/
def CallsForWarning (p : Profile) (past : List Event) : Prop :=
  ∃ band, p.comfort = some band ∧
    (∀ value, Event.latest? p.warningSwitch? past = some value → value ≠ 0) ∧
    ∃ reading, Event.latest? Event.reading? past = some reading ∧ reading.valid = true ∧
      if p.hasDoorSensor = true ∧ Event.latest? Event.door? past = some true then
        reading.temperature.lt band.low = true
      else band.high.lt reading.temperature = true

end Profile

namespace Node

variable {p : Profile} {n : Node} {past : List Event}

/-! ## What an event makes of the memories -/

theorem environment_sensorsAfter (e : Event) :
    (n.sensorsAfter e).environment = e.reading?.getD n.sensors.environment := by
  cases e with
  | door isOpen =>
    rw [sensorsAfter]
    split <;> rfl
  | luminosity _ | environment _ | movement _ | button _ | message _ => rfl

theorem doorOpen_sensorsAfter (e : Event) :
    (n.sensorsAfter e).doorOpen =
      if n.profile.hasDoorSensor then e.door?.getD n.sensors.doorOpen
      else n.sensors.doorOpen := by
  cases e with
  | door isOpen =>
    rw [sensorsAfter]
    split <;> rfl
  | luminosity _ | environment _ | movement _ | button _ | message _ => exact (ite_self _).symm

theorem warningAfter_eq (hcomfort : n.profile.comfort.isSome = true) (e : Event) :
    n.warningAfter e =
      (n.profile.warningSwitch? e).elim n.warningEnabled fun value => decide (value ≠ 0) := by
  cases e with
  | message m =>
    rw [warningAfter, hcomfort, Bool.and_true, Profile.warningSwitch?, accepts, id]
    split <;> rfl
  | luminosity _ | environment _ | door _ | movement _ | button _ => rfl

/-! ## What a node remembers -/

/-- What a node with the profile `p` has kept of its past. -/
structure Remembers (n : Node) (p : Profile) (past : List Event) : Prop where
  profile : n.profile = p
  environment : n.sensors.environment = (Event.latest? Event.reading? past).getD .invalid
  door : n.sensors.doorOpen = (p.hasDoorSensor && (Event.latest? Event.door? past).getD false)
  /-- Without comfortable temperatures the warning cannot be switched. -/
  warning : p.comfort.isSome = true →
    n.warningEnabled =
      (Event.latest? p.warningSwitch? past).elim true fun value => decide (value ≠ 0)

theorem remembers_new (p : Profile) : (new p).Remembers p [] where
  profile := rfl
  environment := rfl
  door := (Bool.and_false _).symm
  warning _ := rfl

/-- An event is remembered in place of the last one of its kind. -/
theorem Remembers.after (h : n.Remembers p past) (e : Event) (now : Tick) :
    (n.after e now).Remembers p (past ++ [e]) := by
  obtain ⟨rfl, henvironment, hdoor, hwarning⟩ := h
  refine ⟨rfl, ?_, ?_, fun hcomfort => ?_⟩ <;> rw [Event.latest?_concat]
  · rw [Option.getD_or, ← henvironment]
    exact environment_sensorsAfter e
  · rw [Option.getD_or]
    refine (doorOpen_sensorsAfter e).trans ?_
    cases hsensor : n.profile.hasDoorSensor with
    | false =>
      -- Without a contact the door stays closed, whatever events say.
      rw [hsensor] at hdoor
      exact hdoor
    | true =>
      rw [hsensor, Bool.true_and] at hdoor
      rw [if_pos rfl, hdoor, Bool.true_and]
  · refine (warningAfter_eq hcomfort e).trans ?_
    cases n.profile.warningSwitch? e with
    | none => exact hwarning hcomfort
    | some value => rfl

/-- The invariant: a node has kept of its past the latest event of each kind. -/
theorem Lived.remembers {past : List (Event × Tick)} (h : Lived p past n) :
    n.Remembers p (past.map Prod.fst) := by
  induction h with
  | new => exact remembers_new p
  | event e now _ ih =>
    rw [node_react, List.map_append]
    exact ih.after e now
  | pop _ hpop ih =>
    rw [(popMessage?_eq_some hpop).2]
    exact ⟨ih.profile, ih.environment, ih.door, ih.warning⟩
  | flush send state _ ih => exact ⟨ih.profile, ih.environment, ih.door, ih.warning⟩
  | reset _ ih =>
    rw [← ih.profile]
    exact remembers_new _

namespace Remembers

variable (h : n.Remembers p past)

include h

/-- The door is taken to be open if there is a contact and its last state says so. -/
theorem doorOpen_iff :
    n.sensors.doorOpen = true ↔
      p.hasDoorSensor = true ∧ Event.latest? Event.door? past = some true := by
  rw [h.door, Bool.and_eq_true]
  cases Event.latest? Event.door? past <;> simp

theorem warningEnabled_iff (hcomfort : p.comfort.isSome = true) :
    n.warningEnabled = true ↔
      ∀ value, Event.latest? p.warningSwitch? past = some value → value ≠ 0 := by
  rw [h.warning hcomfort]
  cases Event.latest? p.warningSwitch? past <;> simp

/-- A valid measurement is one that was made. -/
theorem environment_iff {P : EnvironmentReading → Prop} :
    n.sensors.environment.valid = true ∧ P n.sensors.environment ↔
      ∃ reading, Event.latest? Event.reading? past = some reading ∧ reading.valid = true ∧
        P reading := by
  rw [h.environment]
  cases Event.latest? Event.reading? past with
  | none => simp [EnvironmentReading.invalid]
  | some reading => simp

/-- A node warns exactly if its past calls for it. -/
theorem comfortWarning_iff : n.comfortWarning = true ↔ p.CallsForWarning past := by
  rw [Node.comfortWarning_iff, IsUncomfortable, h.profile]
  refine exists_congr fun band => and_congr_right fun hband => ?_
  have hcomfort : p.comfort.isSome = true := by rw [hband]; rfl
  refine and_congr (h.warningEnabled_iff hcomfort) ?_
  refine Iff.trans (and_congr_right fun _ => ?_) h.environment_iff
  by_cases hopen : n.sensors.doorOpen = true
  · rw [if_pos (h.doorOpen_iff.mp hopen)]
    simp [hopen]
  · rw [if_neg fun hknown => hopen (h.doorOpen_iff.mpr hknown)]
    simp [hopen]

end Remembers

/-! ## The main result -/

/-- What does not bear on the climate can be struck from the past. -/
theorem callsForWarning_filter (p : Profile) (past : List Event) :
    p.CallsForWarning (past.filter Event.bearsOnClimate) ↔ p.CallsForWarning past := by
  unfold Profile.CallsForWarning
  rw [Event.latest?_filter (fun _ => Event.reading?_eq_none),
    Event.latest?_filter (fun _ => Event.door?_eq_none),
    Event.latest?_filter (fun _ => Profile.warningSwitch?_eq_none)]

/-- **The warning lamp as a function of the history.**  Let the node carry the warning lamp, and let
its light be another channel.  Whatever has happened to the node, whenever it is in silence the lamp
is on exactly if the events since its start call for a warning.  Of these events only measurements
of the climate, door states and switches of the warning matter. -/
theorem isOn_warningLed_iff_callsForWarning {past : List (Event × Tick)}
    (hlamp : p.channels.contains .warningLed = true) (hlight : p.primaryLight ≠ .warningLed)
    (h : Lived p past n) (hmode : n.mode = .silence) (t : Tick) :
    ((n.actuators t).isOn .warningLed = true ↔ p.CallsForWarning (past.map Prod.fst)) ∧
      (p.CallsForWarning (past.map Prod.fst) ↔
        p.CallsForWarning ((past.map Prod.fst).filter Event.bearsOnClimate)) := by
  have hmemory : n.Remembers p (past.map Prod.fst) := h.remembers
  refine ⟨?_, (callsForWarning_filter p _).symm⟩
  rw [isOn_warningLed_iff hmode, hmemory.profile, hmemory.comfortWarning_iff]
  simp [hlamp, hlight]

/-- On guard the hall node measures 30 degrees and sees a movement; a switch of the warning that is
meant for the veranda node comes in, and then silence is commanded: the warning lamp is on. -/
theorem isOn_warningLed_iff_callsForWarning_afterGuard :
    let warm : Event := .environment ⟨.ofQuotient false 30 1, none, none, true⟩
    let misaddressed : Event := .message (Profile.b02.order .setWarning 0)
    let past : List (Event × Tick) :=
      [(.message (Profile.t01.order .setMode Mode.guard.value), 10), (warm, 20),
        (.movement .front, 30), (misaddressed, 40),
        (.message (Profile.t01.order .setMode Mode.silence.value), 50)]
    let n := past.foldl (fun n x => (n.react x.1 x.2).node) (new .t01)
    Lived .t01 past n ∧ n.mode = .silence ∧
      (past.map Prod.fst).filter Event.bearsOnClimate = [warm, misaddressed] ∧
      (n.actuators 60).isOn .warningLed = true ∧
      Profile.t01.CallsForWarning (past.map Prod.fst) := by
  intro warm misaddressed past n
  have hlived : Lived .t01 past n :=
    .event _ 50 (.event _ 40 (.event _ 30 (.event _ 20 (.event _ 10 .new))))
  have hlamp : Profile.t01.channels.contains .warningLed = true := by decide +kernel
  have hlight : Profile.t01.primaryLight ≠ .warningLed := by decide
  have hmode : n.mode = .silence := by decide +kernel
  have hon : (n.actuators 60).isOn .warningLed = true := by decide +kernel
  have hcalls := (isOn_warningLed_iff_callsForWarning hlamp hlight hlived hmode 60).1.mp hon
  exact ⟨hlived, hmode, by decide +kernel, hon, hcalls⟩

end Node

end HomeMesh
