import HomeMesh.Proofs.Node.Emission
import HomeMesh.Proofs.Node.Run
import HomeMesh.Proofs.Node.Table
import Mathlib.Order.Defs.PartialOrder

/-!
# Outputs between events

As long as nothing happens to a node, time only switches its outputs off.  What changes are the
windows, and those only run out: a window that is still running at the later tick was running at the
earlier one too (`Window.isRunning_of_later`).

For this the window must have started by the earlier tick.  A start that lies ahead would let the
window begin to run without any event.  But every open window started at the tick of some event
(`Lived.start_mem`), so from the last event on no start lies ahead.

The strip has an order in which it wanes: green goes off, red goes yellow or off, and yellow goes
off.  On guard it is driven by two windows.  When the alert ends before the light the strip falls
from red to yellow, and when the light ends first it stays red until the alert ends
(`strip_guard_le`).  The main result `outputs_wane` holds for every mode.
-/

namespace HomeMesh

namespace StripTier

/-- Whether the second tier is the first one, or can wane to it. -/
def isAtMost : StripTier → StripTier → Bool
  | off, _ | green, green | yellow, yellow | yellow, red | red, red => true
  | _, _ => false

/-- The order in which the strip wanes: all tiers to off, and red to yellow. -/
instance : PartialOrder StripTier where
  le a b := a.isAtMost b = true
  le_refl a := by cases a <;> rfl
  le_trans a b c := by cases a <;> cases b <;> cases c <;> decide
  le_antisymm a b := by cases a <;> cases b <;> decide

instance : DecidableLE StripTier := fun a b =>
  inferInstanceAs (Decidable (a.isAtMost b = true))

theorem off_le (tier : StripTier) : off ≤ tier := rfl

theorem yellow_le_red : yellow ≤ red := rfl

variable {light light' alert alert' : Bool}

/-- In silence the strip follows the light. -/
theorem strip_silence_le (hlight : light' = true → light = true) :
    (if light' then green else off) ≤ if light then green else off := by
  cases light' with
  | false => exact off_le _
  | true => rw [hlight rfl]

/-- On guard the strip is red during the alert and yellow while there is only light. -/
theorem strip_guard_le (hlight : light' = true → light = true)
    (halert : alert' = true → alert = true) :
    (if alert' then red else if light' then yellow else off) ≤
      if alert then red else if light then yellow else off := by
  cases alert' with
  | true =>
    rw [halert rfl]
    exact le_refl red
  | false =>
    cases light' with
    | false => exact off_le _
    | true =>
      rw [hlight rfl]
      cases alert with
      | false => exact le_refl yellow
      | true => exact yellow_le_red

end StripTier

/-- From the early outputs to the late ones the light, the alert and the display were at most
switched off, the strip stayed or waned, and nothing else has changed. -/
structure ModeOutputs.Wanes (early late : ModeOutputs) : Prop where
  led : late.led = early.led
  light : late.light = true → early.light = true
  alert : late.alert = true → early.alert = true
  strip : late.strip ≤ early.strip
  display : late.display = true → early.display = true
  motionSensor : late.motionSensor = early.motionSensor
  comfortWarning : late.comfortWarning = early.comfortWarning

/-- A window that has started does not run again once it has run out. -/
theorem Window.isRunning_of_later {w : Window} {t₁ t₂ : Tick} {d : Duration} (h : w.StartsBy t₁)
    (hle : t₁ ≤ t₂) (hlater : w.isRunning t₂ d = true) : w.isRunning t₁ d = true := by
  obtain ⟨s, hs, -, hd⟩ := isRunning_iff.mp hlater
  have ht : t₁.toNat ≤ t₂.toNat := UInt32.le_iff_toNat_le.mp hle
  exact isRunning_iff.mpr ⟨s, hs, h s hs, ht.trans hd⟩

namespace Node

variable {p : Profile} {n : Node} {past : List (Event × Tick)} {t₁ t₂ : Tick}

/-! ## Where windows start -/

/-- The invariant: an open window started at the tick of some event. -/
theorem Lived.start_mem (h : Lived p past n) {k : WindowName} {s : Tick}
    (hs : (n.windows.get k).start = some s) : s ∈ past.map Prod.snd := by
  induction h with
  | new => cases k <;> cases hs
  | event e now _ ih =>
    rw [node_react, after, get_windowsAfter] at hs
    rw [List.map_append]
    obtain hbefore | ⟨-, rfl⟩ := Fate.start_of_apply hs
    · exact List.mem_append_left _ (ih hbefore)
    · exact List.mem_append_right _ (List.mem_singleton_self s)
  | pop _ hpop ih =>
    rw [(popMessage?_eq_some hpop).2] at hs
    exact ih hs
  | flush send state _ ih => exact ih hs
  | reset _ _ => cases k <;> cases hs

/-- No window starts after a tick that no event is after. -/
theorem Lived.startsBy (h : Lived p past n) {t : Tick} (hlast : ∀ s ∈ past.map Prod.snd, s ≤ t) :
    n.StartsBy t :=
  startsBy_iff_get.mpr fun _ s hs => hlast s (h.start_mem hs)

/-! ## One mode after the other -/

/-- Outputs wane from the tick on by which all windows have started. -/
theorem StartsBy.wanes (h : n.StartsBy t₁) (hle : t₁ ≤ t₂) :
    (n.outputs t₁).Wanes (n.outputs t₂) := by
  have hlight : (n.sensors.isDark && n.isLightRunning t₂) = true →
      (n.sensors.isDark && n.isLightRunning t₁) = true := by
    rw [Bool.and_eq_true, Bool.and_eq_true]
    exact And.imp_right (Window.isRunning_of_later h.light hle)
  have hdisplay : n.isDisplayRunning t₂ = true → n.isDisplayRunning t₁ = true :=
    Window.isRunning_of_later h.display hle
  have halert : n.isIntrusionRunning t₂ = true → n.isIntrusionRunning t₁ = true :=
    Window.isRunning_of_later h.intrusion hle
  unfold outputs
  cases n.mode with
  | silence =>
    exact ⟨rfl, hlight, fun hon => hon, StripTier.strip_silence_le hlight, hdisplay, rfl, rfl⟩
  | guard =>
    exact ⟨rfl, hlight, halert, StripTier.strip_guard_le hlight halert, fun hon => hon, rfl, rfl⟩
  | alarm => exact ⟨rfl, fun hon => hon, fun hon => hon, le_refl _, fun hon => hon, rfl, rfl⟩

/-! ## The main result -/

/-- **Outputs between events.**  Whatever has happened to a node, let no event of its past be after
the tick `t₁`.  From there to a later tick its outputs only wane.  And every open window started at
the tick of an event, and is running at exactly the ticks from that one on that are at most its
duration away. -/
theorem outputs_wane (h : Lived p past n) (hlast : ∀ s ∈ past.map Prod.snd, s ≤ t₁)
    (hle : t₁ ≤ t₂) :
    (n.outputs t₁).Wanes (n.outputs t₂) ∧
      ∀ k s, (n.windows.get k).start = some s →
        s ∈ past.map Prod.snd ∧
          ∀ t, n.isRunning k t = true ↔ s ≤ t ∧ t - s ≤ p.timing.duration k := by
  refine ⟨(h.startsBy hlast).wanes hle, fun k s hs => ⟨h.start_mem hs, fun t => ?_⟩⟩
  rw [isRunning, Window.isRunning_iff_runs, Window.Runs, hs, h.reachable.emits.1]
  simp

/-- On guard in the dark somebody comes to the door, shortly before the counter wraps.  The strip is
red for the 30 seconds of the alert and then yellow, as long as the light is on. -/
theorem outputs_wane_atTheDoor :
    let past : List (Event × Tick) :=
      [(.luminosity ⟨.zero, true⟩, 4294800000),
        (.message (Profile.b02.order .setMode Mode.guard.value), 4294850000),
        (.movement .door, 4294900000)]
    let n := past.foldl (fun n x => (n.react x.1 x.2).node) (new .b02)
    Lived .b02 past n ∧ (n.outputs 4294920000).strip = .red ∧
      (n.outputs 4294940000).strip = .yellow ∧
      (n.outputs 4294920000).Wanes (n.outputs 4294940000) ∧
      ∀ t, n.isRunning .intrusion t = true ↔ 4294900000 ≤ t ∧ t - 4294900000 ≤ 30000 := by
  intro past n
  have hlived : Lived .b02 past n :=
    .event _ 4294900000 (.event _ 4294850000 (.event _ 4294800000 .new))
  have hlast : ∀ s ∈ past.map Prod.snd, s ≤ 4294920000 := by
    simp only [past, List.map_cons, List.forall_mem_cons]
    exact ⟨by decide, by decide, by decide, List.forall_mem_nil _⟩
  have hopen : (n.windows.get .intrusion).start = some 4294900000 := by decide +kernel
  have hle : (4294920000 : Tick) ≤ 4294940000 := by decide
  obtain ⟨hwanes, hruns⟩ := outputs_wane hlived hlast hle
  exact ⟨hlived, by decide +kernel, by decide +kernel, hwanes, (hruns .intrusion _ hopen).2⟩

end Node

end HomeMesh
