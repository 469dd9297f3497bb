import HomeMesh.Proofs.Node.Step

/-!
# The guard against a wrapped counter

A window whose start lies in the future was opened before the counter wrapped, and the guard
(`Node.normalizeWindows`) closes it.  The guard is run by every movement on a node that has the
sensor and by every envelope for the node (`runsGuard`); other events leave the windows alone
(`runsGuard_iff`).

Nobody sees the guard being run: a window that starts in the future is not running anyway, and
whether they are running is all that the outputs tell of the windows (`outputs_normalizeWindows`).
Its effect shows after the event.  Whatever the event itself did to the windows, no start lies in
the future any more (`startsBy_after_of_runsGuard`), and a start that a window did not have before
is the tick of the event (`start_after`).  The main result is `guard_unseen_and_complete`.
-/

namespace HomeMesh.Node

variable {n : Node} {e : Event} {now : Tick}

/-! ## Events that run the guard -/

/-- Whether an event makes a node close the windows whose start lies in the future. -/
def runsGuard (n : Node) : Event → Bool
  | .movement input => (n.profile.movementAction? input).isSome
  | .message m => n.accepts m
  | _ => false

theorem fate_of_runsGuard_eq_false (h : n.runsGuard e = false) (k : WindowName) :
    n.fate e now k = .spared := by
  cases e with
  | movement input =>
    have hnone : n.profile.movementAction? input = none :=
      Option.not_isSome_iff_eq_none.mp (ne_true_of_eq_false h)
    rw [fate, hnone]
  | message m =>
    have hrejected : n.accepts m = false := h
    simp only [fate, hrejected, Bool.false_eq_true, if_false]
  | _ => rfl

theorem movementFate_ne_spared (action : MovementAction) (k : WindowName) :
    n.movementFate action now k ≠ .spared := by
  intro hspared
  obtain hfate | hfate := movementFate_guarded_or_opened action <;> cases hfate.symm.trans hspared

theorem messageFate_ne_spared (m : Envelope) (k : WindowName) :
    n.messageFate m now k ≠ .spared := by
  cases hcommand : m.command <;> cases k <;> simp only [messageFate, hcommand] <;>
    (try split) <;> (try split) <;> exact Fate.noConfusion

/-- The guard is run by the events that do not leave the windows alone, and by no others. -/
theorem runsGuard_iff (k : WindowName) : n.runsGuard e = true ↔ n.fate e now k ≠ .spared := by
  constructor
  · intro h
    cases e with
    | movement input =>
      obtain ⟨action, haction⟩ := Option.isSome_iff_exists.mp h
      rw [fate, haction]
      exact movementFate_ne_spared action k
    | message m =>
      have haccepts : n.accepts m = true := h
      simp only [fate, haccepts, if_true]
      exact messageFate_ne_spared m k
    | _ => cases h
  · intro hfate
    cases hguard : n.runsGuard e with
    | true => rfl
    | false => exact absurd (fate_of_runsGuard_eq_false hguard k) hfate

/-! ## The windows after the guard -/

/-- Whatever runs the guard leaves no window that starts in the future. -/
theorem startsBy_after_of_runsGuard (h : n.runsGuard e = true) : (n.after e now).StartsBy now := by
  refine startsBy_iff_get.mpr fun k => ?_
  rw [after, get_windowsAfter]
  exact Fate.startsBy_apply_of_ne_spared ((runsGuard_iff k).mp h)

/-- A window that is open after an event has kept its start, or has just been opened. -/
theorem start_after {k : WindowName} {s : Tick}
    (h : ((n.after e now).windows.get k).start = some s) :
    (n.windows.get k).start = some s ∨ s = now := by
  rw [after, get_windowsAfter] at h
  exact (Fate.start_of_apply h).imp_right And.right

/-! ## What is seen of the guard -/

theorem isDisplayRunning_normalizeWindows :
    (n.normalizeWindows now).isDisplayRunning now = n.isDisplayRunning now :=
  Window.isRunning_normalize

/-- In no mode do the outputs tell whether the guard was run. -/
theorem outputs_normalizeWindows : (n.normalizeWindows now).outputs now = n.outputs now := by
  have hmode : (n.normalizeWindows now).mode = n.mode := rfl
  have hsensors : (n.normalizeWindows now).sensors = n.sensors := rfl
  have hcomfort : (n.normalizeWindows now).comfortWarning = n.comfortWarning := rfl
  rw [outputs, outputs, hmode]
  cases n.mode with
  | silence =>
    simp only [outputsInSilence, hsensors, hcomfort, isLightRunning_normalizeWindows,
      isDisplayRunning_normalizeWindows]
  | guard =>
    simp only [outputsOnGuard, hsensors, isLightRunning_normalizeWindows,
      isIntrusionRunning_normalizeWindows]
  | alarm => simp only [outputsInAlarm, hsensors]

/-! ## The main result -/

/-- **The guard is not seen, and leaves nothing to do.**  Let the windows of a node have any starts,
also in the future, and let the guard be run at a tick.  In every mode the node wants the same of
its outputs at that tick as before, and the same windows are running.

After an envelope for the node, or a movement on a sensor that it has, no open window starts in the
future; and every window that is open has kept its start or starts at the tick of the event. -/
theorem guard_unseen_and_complete (n : Node) (now : Tick) :
    ((∀ mode, (({ n with mode := mode } : Node).normalizeWindows now).outputs now =
        ({ n with mode := mode } : Node).outputs now) ∧
      (n.normalizeWindows now).isLightRunning now = n.isLightRunning now ∧
      (n.normalizeWindows now).isDisplayRunning now = n.isDisplayRunning now ∧
      (n.normalizeWindows now).isIntrusionRunning now = n.isIntrusionRunning now) ∧
    ∀ e, n.runsGuard e = true →
      ∀ k s, ((n.react e now).node.windows.get k).start = some s →
        s ≤ now ∧ ((n.windows.get k).start = some s ∨ s = now) := by
  refine ⟨⟨fun mode => outputs_normalizeWindows, isLightRunning_normalizeWindows,
    isDisplayRunning_normalizeWindows, isIntrusionRunning_normalizeWindows⟩, ?_⟩
  intro e hguard k s hstart
  rw [node_react] at hstart
  have hstarts : (n.after e now).StartsBy now := startsBy_after_of_runsGuard hguard
  exact ⟨startsBy_iff_get.mp hstarts k s hstart, start_after hstart⟩

/-- The counter of a veranda node has wrapped since its light and its display came on, and then an
intrusion was reported. -/
def wrappedSinceDusk : Node where
  profile := .b02
  windows :=
    { light := .openedAt 4294967000, display := .openedAt 4294967000, intrusion := .openedAt 100 }

/-- Somebody comes to the door: the light window opens anew, the display window is closed, and the
intrusion window keeps its start. -/
theorem guard_unseen_and_complete_wrappedSinceDusk :
    let moved := (wrappedSinceDusk.react (.movement .door) 200).node
    let windows := wrappedSinceDusk.windows
    wrappedSinceDusk.runsGuard (.movement .door) = true ∧
      moved.windows = { light := .openedAt 200, intrusion := .openedAt 100 } ∧
      ((200 : Tick) ≤ 200 ∧ (windows.light.start = some 200 ∨ (200 : Tick) = 200)) ∧
      ((100 : Tick) ≤ 200 ∧ (windows.intrusion.start = some 100 ∨ (100 : Tick) = 200)) := by
  intro moved windows
  have hguard : wrappedSinceDusk.runsGuard (.movement .door) = true := by decide
  have hmoved : moved.windows = { light := .openedAt 200, intrusion := .openedAt 100 } := by
    decide +kernel
  have hlight : (moved.windows.get .light).start = some 200 := by
    rw [hmoved]
    rfl
  have hintrusion : (moved.windows.get .intrusion).start = some 100 := by
    rw [hmoved]
    rfl
  obtain ⟨-, hcomplete⟩ := guard_unseen_and_complete wrappedSinceDusk 200
  exact ⟨hguard, hmoved, hcomplete _ hguard .light 200 hlight,
    hcomplete _ hguard .intrusion 100 hintrusion⟩

end HomeMesh.Node
