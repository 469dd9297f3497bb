import HomeMesh.Proofs.Node.Step
import HomeMesh.Proofs.Single.Nearest

/-!
# What a report on the climate says

An envelope has two slots for integers and one for a `Single`.  A report on the climate puts the
temperature into the latter, bit for bit, and rounds the pressure and the humidity.  What the slots
have to hold is stated by `Envelope.Conveys` from the measurement alone: the rounding is the one of
`Single.Rounds`, and no mention is made of how it is computed.

A sensor may deliver any patterns, also infinite values and such that are not numbers, and a
measurement counts as valid for what the sensor says of it.  So the main result
`climateReport_exact` is about all patterns in each of the three places.
-/

namespace HomeMesh

/-- What an envelope has to say of a measurement of the climate.  A quantity that the sensor does
not measure leaves its slot zero, and without humidity the command is another one. -/
structure Envelope.Conveys (m : Envelope) (reading : EnvironmentReading) : Prop where
  temperature : m.value2.bits = reading.temperature.bits
  pressure : reading.pressure.elim (m.value1 = 0) (·.Rounds m.value1)
  humid : ∀ humidity, reading.humidity = some humidity →
    m.command = .updateHumidity ∧ humidity.Rounds m.value0
  dry : reading.humidity = none → m.command = .updateTemperature ∧ m.value0 = 0

/-- What an envelope has to say of a measurement determines all that it carries. -/
theorem Envelope.Conveys.unique {m m' : Envelope} {reading : EnvironmentReading}
    (h : m.Conveys reading) (h' : m'.Conveys reading) :
    m.command = m'.command ∧ m.value0 = m'.value0 ∧ m.value1 = m'.value1 ∧
      m.value2 = m'.value2 := by
  have htemperature : m.value2 = m'.value2 :=
    congrArg Single.mk (h.temperature.trans h'.temperature.symm)
  have hpressure : m.value1 = m'.value1 := by
    have hp := h.pressure
    have hp' := h'.pressure
    cases hmeasured : reading.pressure with
    | none =>
      simp only [hmeasured, Option.elim_none] at hp hp'
      rw [hp, hp']
    | some pressure =>
      simp only [hmeasured, Option.elim_some] at hp hp'
      exact hp.unique hp'
  cases hmeasured : reading.humidity with
  | none =>
    obtain ⟨hcommand, hvalue⟩ := h.dry hmeasured
    obtain ⟨hcommand', hvalue'⟩ := h'.dry hmeasured
    exact ⟨hcommand.trans hcommand'.symm, hvalue.trans hvalue'.symm, hpressure, htemperature⟩
  | some humidity =>
    obtain ⟨hcommand, hvalue⟩ := h.humid humidity hmeasured
    obtain ⟨hcommand', hvalue'⟩ := h'.humid humidity hmeasured
    exact ⟨hcommand.trans hcommand'.symm, hvalue.unique hvalue', hpressure, htemperature⟩

theorem Profile.conveys_climateReport (p : Profile) (reading : EnvironmentReading) :
    (p.climateReport reading).Conveys reading where
  temperature := rfl
  pressure := by
    rw [climateReport]
    cases reading.pressure with
    | none => rfl
    | some pressure => exact Single.rounds_toInt32
  humid := by
    intro humidity hmeasured
    simp only [climateReport, hmeasured, Option.isSome_some, if_true, Option.elim_some]
    exact ⟨trivial, Single.rounds_toInt32⟩
  dry := by
    intro hmeasured
    simp [climateReport, hmeasured]

namespace Node

/-- **Reports on the climate are exact.**  At a valid measurement a node offers an envelope to its
outbox which says of the measurement what it has to: the temperature bit for bit, and for the other
quantities the nearest integer with a tie away from zero, as far as it fits the slot. -/
theorem climateReport_exact (n : Node) (reading : EnvironmentReading) (now : Tick)
    (hvalid : reading.valid = true) :
    ∃ m, (n.react (.environment reading) now).offered = some m ∧ m.Conveys reading := by
  refine ⟨n.profile.climateReport reading, ?_, n.profile.conveys_climateReport reading⟩
  rw [offered_react, report?, hvalid, if_pos rfl]

/-- A measurement at the edges: the temperature is not a number, the humidity is the negative half
which goes down to `-1`, and the pressure is 2³¹, just too great for the slot. -/
def edgeReading : EnvironmentReading where
  temperature := ⟨0x7FC00001⟩
  humidity := some ⟨0xBF000000⟩
  pressure := some ⟨0x4F000000⟩
  valid := true

theorem climateReport_exact_edgeReading :
    edgeReading.valid = true ∧
      ∃ m, (({ profile := .b02 } : Node).react (.environment edgeReading) 0).offered = some m ∧
        m.Conveys edgeReading ∧ m.command = .updateHumidity ∧ m.value0 = -1 ∧
        m.value1 = 2147483647 ∧ m.value2.bits = 0x7FC00001 := by
  obtain ⟨m, hoffered, hconveys⟩ :=
    climateReport_exact { profile := .b02 } edgeReading 0 (by decide)
  obtain ⟨hcommand, hhumidity⟩ := hconveys.humid ⟨0xBF000000⟩ rfl
  refine ⟨by decide, m, hoffered, hconveys, hcommand, ?_, ?_, hconveys.temperature⟩
  · exact (Single.rounds_iff.mp hhumidity).trans (by decide)
  · have hpressure : (⟨0x4F000000⟩ : Single).Rounds m.value1 := hconveys.pressure
    exact (Single.rounds_iff.mp hpressure).trans (by decide)

end Node

end HomeMesh
