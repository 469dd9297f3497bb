import HomeMesh.Node.Events

/-!
# The envelopes that a node sends

A node sends four kinds of envelopes: a report on the climate, a report on the door, a request for
light and a report of an intrusion.  Each is stated here slot by slot, as it follows from the
profile of the node and from what a sensor has measured, and the handlers are shown to build
just these.
-/

namespace HomeMesh

namespace Profile

/-- The report of a measurement of the climate, to the hub. -/
def climateReport (p : Profile) (reading : EnvironmentReading) : Envelope where
  source := p.id
  destinations := .truncate [p.hub]
  command := if reading.humidity.isSome then .updateHumidity else .updateTemperature
  value0 := reading.humidity.elim 0 Single.toInt32
  value1 := reading.pressure.elim 0 Single.toInt32
  value2 := reading.temperature

/-- The report of a door state, to the hub. -/
def doorReport (p : Profile) (isOpen : Bool) : Envelope where
  source := p.id
  destinations := .truncate [p.hub]
  command := .updateDoorState
  value0 := if isOpen then 1 else 0

/-- The request for light, to the light peer. -/
def lightRequest (p : Profile) : Envelope where
  source := p.id
  destinations := .truncate [p.lightPeer]
  command := .setLight
  value0 := 1

/-- The report of an intrusion, to the intrusion targets. -/
def intrusionReport (p : Profile) : Envelope where
  source := p.id
  destinations := p.intrusionTargets
  command := .setIntrusion
  value0 := 1

end Profile

@[simp] theorem Bounded.truncate_items {α : Type} {k : Nat} (xs : Bounded α k) :
    Bounded.truncate xs.items = xs := by
  obtain ⟨items, h⟩ := xs
  simp [truncate, List.take_of_length_le h]

namespace Node

variable {n : Node}

theorem climateReport_eq (reading : EnvironmentReading) :
    n.climateReport reading = n.profile.climateReport reading := by
  obtain ⟨temperature, humidity, pressure, valid⟩ := reading
  cases humidity <;> rfl

theorem switch_door_eq (isOpen : Bool) :
    Envelope.switch n.id [n.profile.hub] .updateDoorState (.ofBool isOpen) =
      n.profile.doorReport isOpen := by
  cases isOpen <;> rfl

theorem switch_light_eq :
    Envelope.switch n.id [n.profile.lightPeer] .setLight .on = n.profile.lightRequest := rfl

theorem switch_intrusion_eq :
    Envelope.switch n.id n.profile.intrusionTargets.items .setIntrusion .on =
      n.profile.intrusionReport := by
  simp only [Envelope.switch, Envelope.new, Bounded.truncate_items]
  rfl

end Node

end HomeMesh
