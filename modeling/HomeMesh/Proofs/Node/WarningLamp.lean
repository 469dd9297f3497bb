import HomeMesh.Proofs.Node.Emission
import HomeMesh.Proofs.Node.Table
import HomeMesh.Proofs.Single.Order

/-!
# Warnings that can be seen

The warning of an uncomfortable climate goes to the warning lamp, on every node.  An accepted
profile need not carry one: validation asks for the channels of the light, of the alert and, if a
movement wakes it, of the display, but not for the lamp of a node that warns.  Without the lamp the
warning is given and nobody sees it.

Whether that matters depends on the band.  A node that can be neither too warm nor too cold never
warns.  `Profile.CanWarn` says which nodes can: those whose band leaves room above, and those with a
door contact whose band leaves room below.  Every warning is given by one of these
(`Reachable.canWarn`), and each of them gives one at some temperature (`exists_warning`).  So
`warning_shows_iff` says exactly which of the accepted profiles show all of their warnings.
-/

namespace HomeMesh

/-- Some temperature lies outside of the band in a way that the node warns of: above it, or below it
on a node that can know of an open door. -/
def Profile.CanWarn (p : Profile) : Prop :=
  ∃ band, p.comfort = some band ∧
    (band.high ≠ .highest ∨ p.hasDoorSensor = true ∧ band.low ≠ .lowest)

theorem StripTier.channel?_ne_warningLed (tier : StripTier) :
    tier.channel? ≠ some .warningLed := by
  cases tier <;> decide

namespace Node

variable {p : Profile} {n : Node}

theorem reachable_after (h : Reachable p n) (e : Event) (now : Tick) :
    Reachable p (n.after e now) :=
  node_react (n := n) e ▸ .event e now h

/-! ## The lamp in silence -/

/-- In silence the lamp shows the warning, and the light if that is wired to it. -/
theorem isOn_warningLed_iff (hmode : n.mode = .silence) (t : Tick) :
    (n.actuators t).isOn .warningLed = true ↔
      n.profile.channels.contains .warningLed = true ∧
        (n.profile.primaryLight = .warningLed ∧ (n.outputs t).light = true ∨
          n.comfortWarning = true) := by
  have halert : (n.outputs t).alert = false := by rw [outputs, hmode]; rfl
  have hwarning : (n.outputs t).comfortWarning = n.comfortWarning := by rw [outputs, hmode]; rfl
  have hstrip := (n.outputs t).strip.channel?_ne_warningLed
  rw [actuators, ModeOutputs.isOn_actuators_iff, halert, hwarning]
  simp [hstrip, eq_comm (a := Channel.warningLed)]

/-! ## Who can warn -/

/-- The invariant: only a node with a door contact thinks that the door is open. -/
theorem Reachable.hasDoorSensor (h : Reachable p n) (hopen : n.sensors.doorOpen = true) :
    p.hasDoorSensor = true := by
  induction h with
  | new => cases hopen
  | @event n e now hn ih =>
    rw [node_react] at hopen
    cases e with
    | door isOpen =>
      by_cases hdoor : n.profile.hasDoorSensor = true
      · exact hn.emits.1 ▸ hdoor
      · simp only [after, sensorsAfter, if_neg hdoor] at hopen
        exact ih hopen
    | luminosity _ | environment _ | movement _ | button _ | message _ => exact ih hopen
  | pop _ hpop ih =>
    rw [(popMessage?_eq_some hpop).2] at hopen
    exact ih hopen
  | flush send state _ ih => exact ih hopen

/-- Whoever warns can warn. -/
theorem Reachable.canWarn (h : Reachable p n) (hwarning : n.comfortWarning = true) :
    p.CanWarn := by
  obtain ⟨band, hband, -, -, hclimate⟩ := n.comfortWarning_iff.mp hwarning
  refine ⟨band, h.emits.1 ▸ hband, ?_⟩
  obtain ⟨hopen, hcold⟩ | ⟨-, hwarm⟩ := hclimate
  · refine .inr ⟨h.hasDoorSensor hopen, fun hlowest => ?_⟩
    exact Single.not_lt_lowest (hlowest ▸ hcold)
  · refine .inl fun hhighest => ?_
    exact Single.not_highest_lt (hhighest ▸ hwarm)

/-- Whoever can warn does so at the highest temperature, or at the lowest one with the door open. -/
theorem exists_warning (hp : p.validate = .ok ()) (h : p.CanWarn) :
    ∃ n, Reachable p n ∧ n.mode = .silence ∧ n.comfortWarning = true := by
  obtain ⟨band, hband, hroom⟩ := h
  obtain ⟨hlow, hhigh, -⟩ := Single.lt_iff.mp (Profile.low_lt_high hp hband)
  obtain hhighest | ⟨hdoor, hlowest⟩ := hroom
  · have hwarm : band.high.lt .highest = true := Single.lt_highest_iff.mpr ⟨hhigh, hhighest⟩
    refine ⟨(new p).after (.environment ⟨.highest, none, none, true⟩) 0,
      reachable_after .new _ 0, rfl, ?_⟩
    exact (comfortWarning_iff _).mpr ⟨band, hband, rfl, rfl, .inr ⟨rfl, hwarm⟩⟩
  · have hcold : Single.lowest.lt band.low = true := Single.lowest_lt_iff.mpr ⟨hlow, hlowest⟩
    have hopen : ((new p).after (.door true) 0).sensors.doorOpen = true := by
      have hsensor : (new p).profile.hasDoorSensor = true := hdoor
      simp only [after, sensorsAfter, if_pos hsensor]
    refine ⟨((new p).after (.door true) 0).after (.environment ⟨.lowest, none, none, true⟩) 0,
      reachable_after (reachable_after .new _ 0) _ 0, rfl, ?_⟩
    exact (comfortWarning_iff _).mpr ⟨band, hband, rfl, rfl, .inl ⟨hopen, hcold⟩⟩

/-! ## The main result -/

/-- **Warnings that can be seen.**  Let the profile be accepted.  Its nodes show every warning that
they give in silence, whatever has happened to them and at any tick, exactly if they carry the
warning lamp or can never warn. -/
theorem warning_shows_iff (hp : p.validate = .ok ()) :
    (∀ n, Reachable p n → n.mode = .silence → ∀ t, n.comfortWarning = true →
        (n.actuators t).isOn .warningLed = true) ↔
      p.channels.contains .warningLed = true ∨ ¬ p.CanWarn := by
  constructor
  · intro hshown
    by_cases hcan : p.CanWarn
    · obtain ⟨n, hreachable, hmode, hwarning⟩ := exists_warning hp hcan
      have hon : (n.actuators 0).isOn .warningLed = true := hshown n hreachable hmode 0 hwarning
      exact .inl (hreachable.emits.1 ▸ ((isOn_warningLed_iff hmode 0).mp hon).1)
    · exact .inr hcan
  · rintro (hlamp | hcannot) n hreachable hmode t hwarning
    · exact (isOn_warningLed_iff hmode t).mpr ⟨hreachable.emits.1.symm ▸ hlamp, .inr hwarning⟩
    · exact absurd (hreachable.canWarn hwarning) hcannot

/-- The hall node carries the lamp: at 30 degrees with the door closed the warning shows. -/
theorem warning_shows_iff_hall :
    let warm := ((new .t01).react (.environment ⟨.ofQuotient false 30 1, none, none, true⟩) 0).node
    Profile.t01.validate = .ok () ∧ Reachable .t01 warm ∧ warm.comfortWarning = true ∧
      (warm.actuators 1000).isOn .warningLed = true := by
  intro warm
  have hvalid : Profile.t01.validate = .ok () := by rfl
  have hreachable : Reachable .t01 warm := .event _ 0 .new
  have hwarning : warm.comfortWarning = true := by decide +kernel
  have hlamp : Profile.t01.channels.contains .warningLed = true := by decide +kernel
  have hshown := (warning_shows_iff hvalid).mpr (.inl hlamp) warm hreachable rfl 1000 hwarning
  exact ⟨hvalid, hreachable, hwarning, hshown⟩

/-- The hall node with a buzzer in place of the warning lamp. -/
def buzzingHall : Profile :=
  { Profile.t01 with
    channels := .ofList [.frontLight, .buzzer, .display, .motionSensor]
    alert := .buzzer }

/-- With the buzzer as its alert the node needs no lamp to be accepted, and keeps its comfortable
temperatures.  At 30 degrees it warns, and nothing shows it. -/
theorem warning_unseen :
    let warm :=
      ((new buzzingHall).react (.environment ⟨.ofQuotient false 30 1, none, none, true⟩) 10).node
    buzzingHall.validate = .ok () ∧ buzzingHall.comfort.isSome = true ∧
      Reachable buzzingHall warm ∧ warm.mode = .silence ∧ warm.comfortWarning = true ∧
      (warm.actuators 10).isOn .warningLed = false := by
  intro warm
  have hreachable : Reachable buzzingHall warm := .event _ 10 .new
  exact ⟨by rfl, rfl, hreachable, rfl, by decide +kernel, by decide +kernel⟩

end Node

end HomeMesh
