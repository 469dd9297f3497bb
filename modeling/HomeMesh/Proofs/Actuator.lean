import HomeMesh.Actuator
import HomeMesh.Proofs.ChannelSet

/-!
# Outputs on channels

Which channels a mode wants to be on is a mask that is filled bit by bit.  `contains_wanted` reads
it as a truth table, one line for each output, and `isOn_actuators` adds that a channel which the
node does not carry is never on.  `isOn_actuators_eq` says channel by channel what the flag of each
of them is, and `ActuatorState.existsUnique_isOn` that the mask of an actuator state is the same as
a flag for each channel.
-/

namespace HomeMesh

/-- The strip shows a tier by the segment of its colour. -/
theorem StripTier.channel?_eq_some_iff {tier : StripTier} {c : Channel} :
    tier.channel? = some c ↔
      c = .stripGreen ∧ tier = .green ∨ c = .stripYellow ∧ tier = .yellow ∨
        c = .stripRed ∧ tier = .red := by
  cases tier <;> simp [channel?, eq_comm]

/-- States are the same if the lamp, every channel and the waiting message are, and if no bits
without a meaning are set. -/
theorem ActuatorState.ext_isOn {s s' : ActuatorState} (hs : s.lit.IsProper)
    (hs' : s'.lit.IsProper) (hled : s.led = s'.led) (hon : ∀ c, s.isOn c = s'.isOn c)
    (hpending : s.messagePending = s'.messagePending) : s = s' := by
  have hlit : s.lit = s'.lit := hs.ext hs' hon
  calc s = ⟨s.led, s.lit, s.messagePending⟩ := rfl
    _ = s' := by rw [hled, hlit, hpending]

/-- For any flags of the channels there is exactly one state without bits that mean nothing, so that
the mask of a state stands for a flag of each channel and for nothing else. -/
theorem ActuatorState.existsUnique_isOn (led : StatusLed) (flag : Channel → Bool)
    (pending : Bool) :
    ∃! s : ActuatorState,
      s.lit.IsProper ∧ s.led = led ∧ (∀ c, s.isOn c = flag c) ∧ s.messagePending = pending := by
  have hflag (c : Channel) : (ChannelSet.ofList (Channel.all.filter flag)).contains c = flag c := by
    have hmem : c ∈ Channel.all := Enumerated.mem_all c
    simp [ChannelSet.contains_ofList, hmem]
  refine ⟨⟨led, .ofList (Channel.all.filter flag), pending⟩,
    ⟨ChannelSet.isProper_ofList _, rfl, hflag, rfl⟩, ?_⟩
  rintro s ⟨hs, hled, hon, hpending⟩
  exact ext_isOn hs (ChannelSet.isProper_ofList _) hled (fun c => (hon c).trans (hflag c).symm)
    hpending

namespace ModeOutputs

open ChannelSet

variable (out : ModeOutputs) (primaryLight alert : Channel)

theorem contains_elim_insert (o : Option Channel) (s : ChannelSet) (c : Channel) :
    (o.elim s s.insert).contains c = (s.contains c || decide (o = some c)) := by
  cases o <;> simp

theorem isProper_elim_insert (o : Option Channel) {s : ChannelSet} (h : s.IsProper) :
    (o.elim s s.insert).IsProper := by
  cases o with
  | none => exact h
  | some c => exact h.insert c

/-- The channels that a mode wants to be on, output by output. -/
theorem contains_wanted (c : Channel) :
    (out.wanted primaryLight alert).contains c =
      (decide (c = primaryLight) && out.light ||
        decide (c = alert) && out.alert ||
        decide (c = .warningLed) && out.comfortWarning ||
        decide (out.strip.channel? = some c) ||
        decide (c = .display) && out.display ||
        decide (c = .motionSensor) && out.motionSensor) := by
  simp only [wanted, contains_insertIf, contains_elim_insert, contains_empty, Bool.false_or,
    eq_comm (b := c), Bool.and_comm]

theorem isProper_wanted : (out.wanted primaryLight alert).IsProper :=
  ((isProper_elim_insert _ (((isProper_empty.insertIf _ _).insertIf _ _).insertIf _ _)).insertIf
    _ _).insertIf _ _

theorem isProper_actuators (p : Profile) (pending : Bool) :
    (out.actuators p pending).lit.IsProper :=
  (out.isProper_wanted _ _).inter _

/-- A channel is on if the node carries it and the mode wants it. -/
theorem isOn_actuators (p : Profile) (pending : Bool) (c : Channel) :
    (out.actuators p pending).isOn c =
      (p.channels.contains c && (out.wanted p.primaryLight p.alert).contains c) := by
  rw [actuators, ActuatorState.isOn, contains_inter, Bool.and_comm]

/-- The same, with the outputs that can make the mode want the channel. -/
theorem isOn_actuators_iff (p : Profile) (pending : Bool) (c : Channel) :
    (out.actuators p pending).isOn c = true ↔
      p.channels.contains c = true ∧
        (c = p.primaryLight ∧ out.light = true ∨ c = p.alert ∧ out.alert = true ∨
          c = .warningLed ∧ out.comfortWarning = true ∨ out.strip.channel? = some c ∨
          c = .display ∧ out.display = true ∨ c = .motionSensor ∧ out.motionSensor = true) := by
  rw [isOn_actuators, contains_wanted]
  simp only [Bool.and_eq_true, Bool.or_eq_true, decide_eq_true_eq, or_assoc]

/-- What a mode wants of a channel as such, apart from the light and the alert of a node. -/
def wantsAsSuch (out : ModeOutputs) : Channel → Bool
  | .verandaLight | .frontLight | .buzzer => false
  | .stripGreen => out.strip == .green
  | .stripYellow => out.strip == .yellow
  | .stripRed => out.strip == .red
  | .warningLed => out.comfortWarning
  | .display => out.display
  | .motionSensor => out.motionSensor

theorem wantsAsSuch_iff (c : Channel) :
    out.wantsAsSuch c = true ↔
      c = .warningLed ∧ out.comfortWarning = true ∨ out.strip.channel? = some c ∨
        c = .display ∧ out.display = true ∨ c = .motionSensor ∧ out.motionSensor = true := by
  cases c <;> simp [wantsAsSuch, StripTier.channel?_eq_some_iff]

/-- The flag of every channel: it is on if the node carries it, and the mode wants it as the light,
as the alert, or as such. -/
theorem isOn_actuators_eq (p : Profile) (pending : Bool) (c : Channel) :
    (out.actuators p pending).isOn c =
      (p.channels.contains c &&
        (c == p.primaryLight && out.light || c == p.alert && out.alert || out.wantsAsSuch c)) := by
  rw [Bool.eq_iff_iff, isOn_actuators_iff]
  simp only [Bool.and_eq_true, Bool.or_eq_true, beq_iff_eq, wantsAsSuch_iff, or_assoc]

end ModeOutputs

end HomeMesh
