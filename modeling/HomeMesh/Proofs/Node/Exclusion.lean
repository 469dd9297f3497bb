import HomeMesh.Proofs.Actuator
import HomeMesh.Proofs.Node.Emission
import HomeMesh.Proofs.Node.Forgetting
import HomeMesh.Proofs.Single.Order

/-!
# Outputs that should not be on together

What a mode wants of its outputs excludes some combinations: the strip has one tier at a time, the
display is dark outside of silence, and the movement sensors have no power in alarm.  On channels
this need not hold.  A profile says which channel is the light and which one the alert, and an
accepted profile may name a segment of the strip, the display or the movement sensors.  Such a
channel is on whenever the light or the alert is, whatever the mode wants of it otherwise.

`Profile.litTogether` lists what is wanted together at the worst moment of each mode.  Whatever a
node has lit of the strip is on one of these lists (`exists_litTogether`), and each list is reached
by some node in the dark (`reachable_lit`, `isOn_lit`).  So `exclusions_iff` says for each
exclusion exactly which of the accepted profiles keep it.
-/

namespace HomeMesh

/-- Whether a channel is a segment of the light strip. -/
def Channel.isSegment : Channel → Bool
  | .stripGreen | .stripYellow | .stripRed => true
  | _ => false

theorem StripTier.isSegment_of_channel? {tier : StripTier} {c : Channel}
    (h : tier.channel? = some c) : c.isSegment = true := by
  cases tier <;> cases h <;> rfl

namespace Profile

/-- What a mode wants to be on together, in the dark, just after the light was switched on. -/
def litTogether (p : Profile) : Mode → List Channel
  | .silence => [p.primaryLight, .stripGreen]
  | .guard => [p.primaryLight, .stripYellow]
  | .alarm => [p.primaryLight, p.alert, .stripRed]

/-- Of the segments that the node carries, no two are wanted together. -/
def KeepsSegmentsApart (p : Profile) : Prop :=
  ∀ mode, ∀ c ∈ p.litTogether mode, ∀ d ∈ p.litTogether mode,
    c.isSegment = true → d.isSegment = true → p.channels.contains c = true →
      p.channels.contains d = true → c = d

end Profile

/-- At most one segment of the strip is lit. -/
def ActuatorState.HasOneSegment (s : ActuatorState) : Prop :=
  ∀ c d : Channel, c.isSegment = true → d.isSegment = true → s.isOn c = true → s.isOn d = true →
    c = d

/-- A segment is lit by its tier, or by a light or an alert that is wired to it. -/
theorem ModeOutputs.isOn_segment_iff {out : ModeOutputs} {p : Profile} {pending : Bool}
    {c : Channel} (hc : c.isSegment = true) :
    (out.actuators p pending).isOn c = true ↔
      p.channels.contains c = true ∧
        (c = p.primaryLight ∧ out.light = true ∨ c = p.alert ∧ out.alert = true ∨
          out.strip.channel? = some c) := by
  have hwarning : c ≠ .warningLed := by rintro rfl; cases hc
  have hdisplay : c ≠ .display := by rintro rfl; cases hc
  have hsensor : c ≠ .motionSensor := by rintro rfl; cases hc
  simp only [isOn_actuators_iff, hwarning, hdisplay, hsensor, false_and, false_or, or_false]

namespace Node

variable {p : Profile} {n : Node} {mode : Mode} {c : Channel}

/-! ## What can be lit -/

/-- All that a node has lit of the strip is wanted together in one of the modes. -/
theorem exists_litTogether (n : Node) (t : Tick) :
    ∃ mode, ∀ c : Channel, c.isSegment = true → (n.actuators t).isOn c = true →
      c ∈ n.profile.litTogether mode ∧ n.profile.channels.contains c = true := by
  cases hmode : n.mode with
  | silence =>
    refine ⟨.silence, fun c hc hon => ?_⟩
    rw [actuators, ModeOutputs.isOn_segment_iff hc, outputs, hmode] at hon
    obtain ⟨hcarried, ⟨rfl, -⟩ | ⟨-, halert⟩ | hstrip⟩ := hon
    · exact ⟨List.mem_cons_self, hcarried⟩
    · cases halert
    · simp only [outputsInSilence] at hstrip
      split at hstrip
      · cases hstrip
        exact ⟨List.mem_cons_of_mem _ List.mem_cons_self, hcarried⟩
      · cases hstrip
  | guard =>
    -- While an intrusion lasts, all of an alarm may be on; after that the light at most.
    cases halert : n.isIntrusionRunning t with
    | true =>
      refine ⟨.alarm, fun c hc hon => ?_⟩
      rw [actuators, ModeOutputs.isOn_segment_iff hc, outputs, hmode] at hon
      obtain ⟨hcarried, ⟨rfl, -⟩ | ⟨rfl, -⟩ | hstrip⟩ := hon
      · exact ⟨List.mem_cons_self, hcarried⟩
      · exact ⟨List.mem_cons_of_mem _ List.mem_cons_self, hcarried⟩
      · simp only [outputsOnGuard, halert, if_true] at hstrip
        cases hstrip
        exact ⟨List.mem_cons_of_mem _ (List.mem_cons_of_mem _ List.mem_cons_self), hcarried⟩
    | false =>
      refine ⟨.guard, fun c hc hon => ?_⟩
      rw [actuators, ModeOutputs.isOn_segment_iff hc, outputs, hmode] at hon
      simp only [outputsOnGuard, halert, Bool.false_eq_true, and_false, false_or, if_false] at hon
      obtain ⟨hcarried, ⟨rfl, -⟩ | hstrip⟩ := hon
      · exact ⟨List.mem_cons_self, hcarried⟩
      · split at hstrip
        · cases hstrip
          exact ⟨List.mem_cons_of_mem _ List.mem_cons_self, hcarried⟩
        · cases hstrip
  | alarm =>
    refine ⟨.alarm, fun c hc hon => ?_⟩
    rw [actuators, ModeOutputs.isOn_segment_iff hc, outputs, hmode] at hon
    obtain ⟨hcarried, ⟨rfl, -⟩ | ⟨rfl, -⟩ | hstrip⟩ := hon
    · exact ⟨List.mem_cons_self, hcarried⟩
    · exact ⟨List.mem_cons_of_mem _ List.mem_cons_self, hcarried⟩
    · cases hstrip
      exact ⟨List.mem_cons_of_mem _ (List.mem_cons_of_mem _ List.mem_cons_self), hcarried⟩

/-- Outside of silence the display is on only if the light or the alert is wired to it. -/
theorem isOn_display_eq_false (hmode : n.mode ≠ .silence)
    (hlight : n.profile.primaryLight ≠ .display) (halert : n.profile.alert ≠ .display) (t : Tick) :
    (n.actuators t).isOn .display = false := by
  have hdark : (n.outputs t).display = false := by
    cases hm : n.mode with
    | silence => exact absurd hm hmode
    | guard => rw [outputs, hm]; rfl
    | alarm => rw [outputs, hm]; rfl
  rw [Bool.eq_false_iff, ne_eq, actuators, ModeOutputs.isOn_actuators_iff, hdark]
  rintro ⟨-, ⟨heq, -⟩ | ⟨heq, -⟩ | ⟨heq, -⟩ | hstrip | ⟨-, hfalse⟩ | ⟨heq, -⟩⟩
  · exact hlight heq.symm
  · exact halert heq.symm
  · cases heq
  · cases StripTier.isSegment_of_channel? hstrip
  · cases hfalse
  · cases heq

/-- In alarm the movement sensors have power only if the light or the alert is wired to them. -/
theorem isOn_motionSensor_eq_false (hmode : n.mode = .alarm)
    (hlight : n.profile.primaryLight ≠ .motionSensor) (halert : n.profile.alert ≠ .motionSensor)
    (t : Tick) : (n.actuators t).isOn .motionSensor = false := by
  have hoff : (n.outputs t).motionSensor = false := by rw [outputs, hmode]; rfl
  rw [Bool.eq_false_iff, ne_eq, actuators, ModeOutputs.isOn_actuators_iff, hoff]
  rintro ⟨-, ⟨heq, -⟩ | ⟨heq, -⟩ | ⟨heq, -⟩ | hstrip | ⟨heq, -⟩ | ⟨-, hfalse⟩⟩
  · exact hlight heq.symm
  · exact halert heq.symm
  · cases heq
  · cases StripTier.isSegment_of_channel? hstrip
  · cases heq
  · cases hfalse

/-! ## What will be lit -/

/-- A node in the dark whose light was switched on at the tick 0. -/
def lit (p : Profile) (mode : Mode) : Node :=
  { new p with mode := mode, sensors := { isDark := true }, windows := { light := .openedAt 0 } }

/-- Every accepted profile has such a node in every mode: it grows dark, the mode is entered, and
the light is switched on. -/
theorem reachable_lit (hp : p.validate = .ok ()) (mode : Mode) : Reachable p (lit p mode) := by
  have hfinite : p.darknessThreshold.isFinite = true := Profile.isFinite_darknessThreshold hp
  let dark : Node := { new p with sensors := { isDark := true } }
  let entered : Node := { dark with mode := mode }
  have hdark : ((new p).react (.luminosity ⟨.lowest, true⟩) 0).node = dark := by
    have hbelow : Single.lowest.lt (new p).profile.darknessThreshold = true :=
      Single.lowest_lt hfinite
    simp only [react, observeLuminosity, hbelow]
    rfl
  have hentered : (dark.react (.message (p.order .setMode mode.value)) 0).node = entered :=
    node_react_setMode 0 (accepts_order (n := dark) .setMode mode.value) (Profile.mode?_order mode)
  have hlit : (entered.react (.message (p.order .setLight 1)) 0).node = lit p mode := by
    have haccepts : entered.accepts (p.order .setLight 1) = true :=
      accepts_order (n := entered) .setLight 1
    rw [react, node_receive]
    change (if entered.accepts (p.order .setLight 1) then _ else _) = _
    rw [if_pos haccepts, node_obey]
    rfl
  rw [← hlit, ← hentered, ← hdark]
  exact .event _ 0 (.event _ 0 (.event _ 0 .new))

theorem isLightRunning_lit (p : Profile) (mode : Mode) : (lit p mode).isLightRunning 0 = true :=
  Window.isRunning_openedAt 0 _

theorem light_lit : ((lit p mode).outputs 0).light = true := by
  cases mode with
  | silence => exact isLightRunning_lit p .silence
  | guard => exact isLightRunning_lit p .guard
  | alarm => rfl

/-- At the tick 0 it has lit all that its mode wants together, as far as it carries it. -/
theorem isOn_lit (hc : c ∈ p.litTogether mode) (hcarried : p.channels.contains c = true) :
    ((lit p mode).actuators 0).isOn c = true := by
  have hlight : ((lit p mode).outputs 0).light = true := light_lit
  rw [actuators, ModeOutputs.isOn_actuators_iff]
  refine ⟨hcarried, ?_⟩
  cases mode with
  | silence =>
    have hstrip : ((lit p .silence).outputs 0).strip = .green := by
      change (if ((lit p .silence).outputs 0).light = true then StripTier.green else .off) = .green
      exact if_pos hlight
    obtain rfl | rfl := List.mem_pair.mp hc
    · exact .inl ⟨rfl, hlight⟩
    · rw [hstrip]
      simp [StripTier.channel?]
  | guard =>
    have hstrip : ((lit p .guard).outputs 0).strip = .yellow := by
      change (if ((lit p .guard).outputs 0).light = true then StripTier.yellow else .off) = .yellow
      exact if_pos hlight
    obtain rfl | rfl := List.mem_pair.mp hc
    · exact .inl ⟨rfl, hlight⟩
    · rw [hstrip]
      simp [StripTier.channel?]
  | alarm =>
    have hstrip : ((lit p .alarm).outputs 0).strip = .red := rfl
    obtain rfl | rfl | rfl := List.mem_cons.mp hc |>.imp_right List.mem_pair.mp
    · exact .inl ⟨rfl, hlight⟩
    · exact .inr (.inl ⟨rfl, rfl⟩)
    · rw [hstrip]
      simp [StripTier.channel?]

/-- In alarm an accepted profile has the light and the alert on in the dark, whatever they are wired
to. -/
theorem isOn_lit_alarm (hp : p.validate = .ok ()) (hc : c = p.primaryLight ∨ c = p.alert) :
    ((lit p .alarm).actuators 0).isOn c = true := by
  obtain ⟨hlight, halert⟩ := Profile.carries_outputs hp
  obtain rfl | rfl := hc
  · exact isOn_lit List.mem_cons_self hlight
  · exact isOn_lit (List.mem_cons_of_mem _ List.mem_cons_self) halert

/-! ## The main result -/

/-- **Which profiles keep the exclusions.**  Take an accepted profile and all states that its nodes
may come to.  At most one segment of the strip is ever lit exactly if no two segments that the node
carries are wanted together; the display is always dark outside of silence exactly if neither the
light nor the alert is wired to it; and the same holds of the power of the movement sensors in
alarm. -/
theorem exclusions_iff (hp : p.validate = .ok ()) :
    ((∀ n, Reachable p n → ∀ t, (n.actuators t).HasOneSegment) ↔ p.KeepsSegmentsApart) ∧
      ((∀ n, Reachable p n → ∀ t, n.mode ≠ .silence → (n.actuators t).isOn .display = false) ↔
        p.primaryLight ≠ .display ∧ p.alert ≠ .display) ∧
      ((∀ n, Reachable p n → ∀ t, n.mode = .alarm →
          (n.actuators t).isOn .motionSensor = false) ↔
        p.primaryLight ≠ .motionSensor ∧ p.alert ≠ .motionSensor) := by
  have halarm : Reachable p (lit p .alarm) := reachable_lit hp .alarm
  -- What is wired to the light or to the alert is on in alarm.
  have hwired : ∀ {c : Channel}, ((lit p .alarm).actuators 0).isOn c = false →
      p.primaryLight ≠ c ∧ p.alert ≠ c := fun hoff =>
    ⟨fun heq => Bool.false_ne_true (hoff.symm.trans (isOn_lit_alarm hp (.inl heq.symm))),
      fun heq => Bool.false_ne_true (hoff.symm.trans (isOn_lit_alarm hp (.inr heq.symm)))⟩
  refine ⟨⟨fun h mode c hc d hd hcs hds hcc hdc => ?_, fun h n hn t c d hcs hds hcon hdon => ?_⟩,
    ⟨fun h => ?_, fun ⟨hlight, halert⟩ n hn t hmode => ?_⟩,
    ⟨fun h => ?_, fun ⟨hlight, halert⟩ n hn t hmode => ?_⟩⟩
  · exact h (lit p mode) (reachable_lit hp mode) 0 c d hcs hds (isOn_lit hc hcc) (isOn_lit hd hdc)
  · obtain ⟨mode, htogether⟩ := exists_litTogether n t
    rw [hn.emits.1] at htogether
    obtain ⟨hc, hcc⟩ := htogether c hcs hcon
    obtain ⟨hd, hdc⟩ := htogether d hds hdon
    exact h mode c hc d hd hcs hds hcc hdc
  · exact hwired (h (lit p .alarm) halarm 0 (show Mode.alarm ≠ .silence by decide))
  · rw [← hn.emits.1] at hlight halert
    exact isOn_display_eq_false hmode hlight halert t
  · exact hwired (h (lit p .alarm) halarm 0 rfl)
  · rw [← hn.emits.1] at hlight halert
    exact isOn_motionSensor_eq_false hmode hlight halert t

/-- The veranda node keeps all three: its light and its alert have channels of their own. -/
theorem exclusions_iff_veranda :
    Profile.b02.validate = .ok () ∧ Profile.b02.KeepsSegmentsApart ∧
      (Profile.b02.primaryLight ≠ .display ∧ Profile.b02.alert ≠ .display) ∧
      (Profile.b02.primaryLight ≠ .motionSensor ∧ Profile.b02.alert ≠ .motionSensor) ∧
      ∀ n, Reachable .b02 n → ∀ t, (n.actuators t).HasOneSegment ∧
        (n.mode ≠ .silence → (n.actuators t).isOn .display = false) ∧
        (n.mode = .alarm → (n.actuators t).isOn .motionSensor = false) := by
  have hvalid : Profile.b02.validate = .ok () := by rfl
  have hsegments : Profile.b02.KeepsSegmentsApart := by
    intro mode
    cases mode <;> decide
  have hdisplay : Profile.b02.primaryLight ≠ .display ∧ Profile.b02.alert ≠ .display := by decide
  have hsensor : Profile.b02.primaryLight ≠ .motionSensor ∧ Profile.b02.alert ≠ .motionSensor := by
    decide
  obtain ⟨hone, hdark, hoff⟩ := exclusions_iff hvalid
  exact ⟨hvalid, hsegments, hdisplay, hsensor, fun n hn t =>
    ⟨hone.mpr hsegments n hn t, hdark.mpr hdisplay n hn t, hoff.mpr hsensor n hn t⟩⟩

/-- The veranda node with its alert wired to some channel, after the hub has called the alarm. -/
def alarmed (alert : Channel) : Node :=
  let p : Profile := { Profile.b02 with alert := alert }
  ((new p).react (.message (p.order .setMode Mode.alarm.value)) 10).node

/-- With the alert wired to the green segment, to the display or to the movement sensors, the
profile is accepted; and in alarm two segments are lit, the display is on, or the sensors have
power. -/
theorem exclusions_fail :
    (∀ alert ∈ [Channel.stripGreen, .display, .motionSensor],
      (alarmed alert).profile.validate = .ok () ∧
        Reachable (alarmed alert).profile (alarmed alert) ∧ (alarmed alert).mode = .alarm) ∧
      ¬ ((alarmed .stripGreen).actuators 10).HasOneSegment ∧
      ((alarmed .display).actuators 10).isOn .display = true ∧
      ((alarmed .motionSensor).actuators 10).isOn .motionSensor = true := by
  refine ⟨?_, ?_, by decide +kernel, by decide +kernel⟩
  · have hstate (alert : Channel)
        (hvalid : (alarmed alert).profile.validate = .ok ())
        (hmode : (alarmed alert).mode = .alarm) :
        (alarmed alert).profile.validate = .ok () ∧
          Reachable (alarmed alert).profile (alarmed alert) ∧ (alarmed alert).mode = .alarm :=
      ⟨hvalid, .event _ 10 .new, hmode⟩
    simp only [List.forall_mem_cons]
    exact ⟨hstate _ rfl rfl, hstate _ rfl rfl, hstate _ rfl rfl, List.forall_mem_nil _⟩
  · intro hone
    have hboth := hone .stripGreen .stripRed rfl rfl (by decide +kernel) (by decide +kernel)
    cases hboth

end Node

end HomeMesh
