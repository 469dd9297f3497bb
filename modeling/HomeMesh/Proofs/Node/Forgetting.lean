import HomeMesh.Proofs.Node.Run
import HomeMesh.Proofs.Node.Step

/-!
# A mode command makes a node forget

A node that enters a mode closes all its windows, also if it was in that mode before.  Of its past
it keeps what its sensors have seen, whether it warns of an uncomfortable climate, and what waits in
its outbox; in all else it is a node at its start, put into the mode (`node_react_setMode`).

So two nodes that keep the same (`SameMemory`) cannot be told apart any more once each has heard a
command of the same mode, whatever they have been through and whenever they heard it
(`indistinguishable_after_setMode`).
-/

namespace HomeMesh.Node

variable {n n' : Node} {m m' : Envelope} {mode : Mode}

theorem windowsAfter_setMode (now : Tick) (haccepts : n.accepts m = true)
    (hmode : m.mode? = some mode) : n.windowsAfter (.message m) now = {} := by
  have hfate (k : WindowName) : n.fate (.message m) now k = .closed := by
    have hclosed : n.messageFate m now k = .closed :=
      messageFate_eq_closed.mpr (Or.inl (by rw [hmode]; rfl))
    rw [fate, if_pos haccepts, hclosed]
  simp only [windowsAfter, hfate]
  rfl

/-- A node that has entered a mode is one at its start, but for what it remembers. -/
theorem node_react_setMode (now : Tick) (haccepts : n.accepts m = true)
    (hmode : m.mode? = some mode) :
    (n.react (.message m) now).node =
      { new n.profile with
        mode := mode
        sensors := n.sensors
        warningEnabled := n.warningEnabled
        outbox := n.outbox } := by
  have hcommand : m.command = .setMode := (Option.ite_none_right_eq_some.mp hmode).1
  have hwarning : n.warningAfter (.message m) = n.warningEnabled := by
    simp [warningAfter, hcommand]
  rw [node_react, after, modeAfter_message_eq, if_pos haccepts, hmode, hwarning,
    windowsAfter_setMode now haccepts hmode]
  rfl

/-- Two nodes of the same kind keep the same if both enter a mode. -/
structure SameMemory (n n' : Node) : Prop where
  profile : n.profile = n'.profile
  sensors : n.sensors = n'.sensors
  warningEnabled : n.warningEnabled = n'.warningEnabled
  outbox : n.outbox = n'.outbox

/-- **A mode command makes a node forget.**  Take two nodes that keep the same, whatever else is
different between them, and let each accept a command of the same mode, at ticks of their own.
Then nobody can tell them apart from then on, and neither from a node at its start that was put into
the mode with the same memory. -/
theorem indistinguishable_after_setMode (now now' : Tick) (hmemory : n.SameMemory n')
    (haccepts : n.accepts m = true) (hmode : m.mode? = some mode)
    (haccepts' : n'.accepts m' = true) (hmode' : m'.mode? = some mode) :
    (n.react (.message m) now).node.Indistinguishable (n'.react (.message m') now').node ∧
      (n.react (.message m) now).node.Indistinguishable
        { new n.profile with
          mode := mode
          sensors := n.sensors
          warningEnabled := n.warningEnabled
          outbox := n.outbox } := by
  have hfresh := node_react_setMode now haccepts hmode
  have hsame : (n.react (.message m) now).node = (n'.react (.message m') now').node := by
    rw [hfresh, node_react_setMode now' haccepts' hmode', hmemory.profile, hmemory.sensors,
      hmemory.warningEnabled, hmemory.outbox]
  exact ⟨hsame ▸ .refl _, hfresh ▸ .refl _⟩

/-- In the dark a veranda node has reported an intruder, and the report has been taken out; another
one has seen nothing but the dark.  The movement after a command to be on guard is reported by
both. -/
theorem indistinguishable_after_setMode_sameMode :
    let command : Envelope :=
      { source := .b01, destinations := .truncate [.b02], command := .setMode, value0 := 1 }
    let used := ((new .b02).run
      [.event (.luminosity ⟨.zero, true⟩) 5, .event (.message command) 10,
        .event (.movement .door) 20, .pop]).1
    let fresh := ((new .b02).run [.event (.luminosity ⟨.zero, true⟩) 7]).1
    used.mode = .guard ∧ used.isRunning .intrusion 30 = true ∧ used.SameMemory fresh ∧
      used.accepts command = true ∧ fresh.accepts command = true ∧
      command.mode? = some .guard ∧
      (used.react (.message command) 30).node.Indistinguishable
        (fresh.react (.message command) 4000000000).node := by
  intro command used fresh
  have hmemory : used.SameMemory fresh :=
    ⟨by rfl, by decide +kernel, by decide +kernel, by decide +kernel⟩
  have haccepts : used.accepts command = true := by decide +kernel
  have haccepts' : fresh.accepts command = true := by decide +kernel
  have hmode : command.mode? = some .guard := by decide
  exact ⟨by decide +kernel, by decide +kernel, hmemory, haccepts, haccepts', hmode,
    (indistinguishable_after_setMode 30 4000000000 hmemory haccepts hmode haccepts' hmode).1⟩

end HomeMesh.Node
