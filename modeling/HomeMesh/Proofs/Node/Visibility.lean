import HomeMesh.Proofs.Actuator
import HomeMesh.Proofs.Node.Emission

/-!
# Nothing that is wanted stays hidden

A channel that the node does not carry is never on, whatever the mode wants.  For the light, the
alert and the display of an accepted profile this hides nothing.  The first two are among the
channels by validation.  The display need not be: validation asks for it only if some movement
wakes it.  But then it is never wanted either, since the display window is open only in nodes with
such a movement (`Reachable.wakesDisplay`): no other event opens it.
-/

namespace HomeMesh

namespace Profile

variable {p : Profile}

/-- Some movement wakes the display. -/
def WakesDisplay (p : Profile) : Prop := ∃ b ∈ p.movement.items, b.action.wakeDisplay = true

theorem exists_binding_of_movementAction? {input : MovementInput} {action : MovementAction}
    (h : p.movementAction? input = some action) : ∃ b ∈ p.movement.items, b.action = action := by
  obtain ⟨b, hfind, haction⟩ := Option.map_eq_some_iff.mp h
  exact ⟨b, List.mem_of_find?_eq_some hfind, haction⟩

/-- A node whose display can be woken carries it. -/
theorem WakesDisplay.carries (hwakes : p.WakesDisplay) (h : p.validate = .ok ()) :
    p.channels.contains .display = true := by
  obtain ⟨b, hb, hwake⟩ := hwakes
  have hany : (p.movement.items.any fun b => b.action.wakeDisplay) = true :=
    List.any_eq_true.mpr ⟨b, hb, hwake⟩
  have hcondition := forall_conditions_of_validate h
    (p.channels.contains .display || !p.movement.items.any fun b => b.action.wakeDisplay,
      .displayNotCarried)
    (by simp [conditions])
  simpa [hany] using hcondition

end Profile

/-- A window that is open after its fate was open before, or has just been opened. -/
theorem Fate.isOpen_of_apply {f : Fate} {w : Window} {now : Tick}
    (h : (f.apply w now).isOpen = true) : w.isOpen = true ∨ f = .opened := by
  obtain ⟨s, hs⟩ := Option.isSome_iff_exists.mp h
  exact (start_of_apply hs).imp (fun hw => Option.isSome_iff_exists.mpr ⟨s, hw⟩) And.left

theorem Window.isOpen_of_isRunning {w : Window} {now : Tick} {d : Duration}
    (h : w.isRunning now d = true) : w.isOpen = true := by
  obtain ⟨s, hs, -⟩ := isRunning_iff.mp h
  exact Option.isSome_iff_exists.mpr ⟨s, hs⟩

namespace Node

variable {p : Profile} {n : Node} {now : Tick}

/-! ## What opens the display window -/

theorem messageFate_display_ne_opened (m : Envelope) :
    n.messageFate m now .display ≠ .opened := by
  cases hcommand : m.command with
  | setMode => cases hmode : Mode.ofValue? m.value0 <;> simp [messageFate, hcommand, hmode]
  | _ => simp [messageFate, hcommand]

/-- Only a movement that wakes the display opens its window. -/
theorem wakesDisplay_of_fate {e : Event} (h : n.fate e now .display = .opened) :
    n.profile.WakesDisplay := by
  cases e with
  | movement input =>
    simp only [fate] at h
    split at h
    · cases h
    next action hbound =>
      have hwake : action.wakeDisplay = true := by
        cases hmode : n.mode with
        | silence =>
          simp only [movementFate, hmode] at h
          split at h
          next hwakes => exact (Bool.and_eq_true_iff.mp hwakes).2
          next => cases h
        | guard => simp [movementFate, hmode] at h
        | alarm => simp [movementFate, hmode] at h
      obtain ⟨b, hb, rfl⟩ := Profile.exists_binding_of_movementAction? hbound
      exact ⟨b, hb, hwake⟩
  | message m =>
    simp only [fate] at h
    split at h
    · exact absurd h (messageFate_display_ne_opened m)
    · cases h
  | luminosity _ | environment _ | door _ | button _ => cases h

/-- The invariant: the display window is open only if some movement of the profile wakes it. -/
theorem Reachable.wakesDisplay (h : Reachable p n) (hopen : n.windows.display.isOpen = true) :
    p.WakesDisplay := by
  induction h with
  | new => cases hopen
  | @event n e now hn ih =>
    rw [node_react] at hopen
    obtain hbefore | hopened := Fate.isOpen_of_apply hopen
    · exact ih hbefore
    · exact hn.emits.1 ▸ wakesDisplay_of_fate hopened
  | pop _ hpop ih =>
    rw [(popMessage?_eq_some hpop).2] at hopen
    exact ih hopen
  | flush send state _ ih => exact ih hopen

/-- The display is wanted in silence only, while its window is running. -/
theorem isDisplayRunning_of_wanted (h : (n.outputs now).display = true) :
    n.isDisplayRunning now = true := by
  unfold outputs at h
  cases hmode : n.mode <;> rw [hmode] at h
  case silence => exact h
  case guard | alarm => cases h

/-! ## The main result -/

/-- **Nothing that is wanted stays hidden.**  Let the profile be accepted, and let anything have
happened to the node.  Whenever its mode wants the light, the alert or the display, the channel of
the light, of the alert or of the display is on. -/
theorem isOn_of_wanted (hp : p.validate = .ok ()) (h : Reachable p n) (now : Tick) :
    ((n.outputs now).light = true → (n.actuators now).isOn p.primaryLight = true) ∧
      ((n.outputs now).alert = true → (n.actuators now).isOn p.alert = true) ∧
      ((n.outputs now).display = true → (n.actuators now).isOn .display = true) := by
  obtain rfl : n.profile = p := h.emits.1
  obtain ⟨hlight, halert⟩ := Profile.carries_outputs hp
  have hon (c : Channel) := (n.outputs now).isOn_actuators_iff n.profile (!n.outbox.isEmpty) c
  refine ⟨fun hwanted => (hon _).mpr ⟨hlight, .inl ⟨rfl, hwanted⟩⟩,
    fun hwanted => (hon _).mpr ⟨halert, .inr (.inl ⟨rfl, hwanted⟩)⟩,
    fun hwanted => (hon _).mpr ⟨?_, by simp [hwanted]⟩⟩
  have hopen : n.windows.display.isOpen = true :=
    Window.isOpen_of_isRunning (isDisplayRunning_of_wanted hwanted)
  exact (h.wakesDisplay hopen).carries hp

/-- In the dark somebody comes onto the veranda: the light and the display are wanted, and both are
on. -/
theorem isOn_of_wanted_darkVeranda :
    let dark := ((new .b02).react (.luminosity ⟨.zero, true⟩) 0).node
    let moved := (dark.react (.movement .veranda) 10).node
    Profile.b02.validate = .ok () ∧ Reachable .b02 moved ∧
      ((moved.outputs 20).light = true ∧ (moved.actuators 20).isOn .verandaLight = true) ∧
      ((moved.outputs 20).display = true ∧ (moved.actuators 20).isOn .display = true) := by
  intro dark moved
  have hvalid : Profile.b02.validate = .ok () := by rfl
  have hreachable : Reachable .b02 moved := .event _ 10 (.event _ 0 .new)
  have hlight : (moved.outputs 20).light = true := by decide +kernel
  have hdisplay : (moved.outputs 20).display = true := by decide +kernel
  obtain ⟨hlit, -, hawake⟩ := isOn_of_wanted hvalid hreachable 20
  exact ⟨hvalid, hreachable, ⟨hlight, hlit hlight⟩, hdisplay, hawake hdisplay⟩

end Node

end HomeMesh
