import HomeMesh.Proofs.Node.Exchange
import HomeMesh.Proofs.Node.WrapGuard

/-!
# Duplicates and bursts

At one tick the same things may happen to a node many times: an envelope is delivered twice, or a
person sets off several sensors at once.  Only the first time counts.

An event changes nothing if the node is already as the event would make it (`Node.Settled`).  For an
envelope this is so right after it was heard (`settled_after_message`).  What it switches on is
running, since a window that has just opened is running however short it lasts, and what it closes
is closed; and the guard against a wrapped counter finds nothing to do a second time.

Whether a movement has an effect hangs on one window, which one depends on the mode
(`Mode.movementWindow?`).  After a movement this window is running, whether the movement opened it
or found it so (`absorbs_after_movement`), and all further movements are absorbed
(`handle_of_absorbs`).
-/

namespace HomeMesh

/-- Whether a notice says that a movement had no effect. -/
def Notice.isIdle : Notice → Bool
  | .unboundMovement .. | .movementAbsorbed .. | .movementIgnored .. => true
  | _ => false

/-- The window that makes a movement have no effect while it is running; in alarm no movement has
one. -/
def Mode.movementWindow? : Mode → Option WindowName
  | .silence => some .light
  | .guard => some .intrusion
  | .alarm => none

namespace Node

variable {n : Node} {e : Event} {m : Envelope} {input : MovementInput} {k : WindowName} {now : Tick}

/-! ## Events that find nothing to do -/

/-- The node is already as the event would make it, and has nothing to send. -/
structure Settled (n : Node) (e : Event) (now : Tick) : Prop where
  mode : n.modeAfter e = n.mode
  sensors : n.sensorsAfter e = n.sensors
  windows : ∀ k, (n.fate e now k).apply (n.windows.get k) now = n.windows.get k
  warning : n.warningAfter e = n.warningEnabled
  report : n.report? e now = none

theorem Settled.after_eq (h : n.Settled e now) : n.after e now = n := by
  have hwindows : n.windowsAfter e now = n.windows :=
    Windows.ext_get fun k => (get_windowsAfter e k).trans (h.windows k)
  rw [after, h.mode, h.sensors, hwindows, h.warning, h.report]
  rfl

theorem Settled.node_react (h : n.Settled e now) : (n.react e now).node = n :=
  (Node.node_react e).trans h.after_eq

/-- An envelope opens nothing if all that it switches on is running. -/
theorem fate_message_ne_opened
    (hrunning : ∀ k : WindowName, k.command? = some m.command → m.value0 ≠ 0 →
      n.isRunning k now = true) (k : WindowName) :
    n.fate (.message m) now k ≠ .opened := by
  intro hopened
  rw [fate] at hopened
  split at hopened
  next =>
    obtain ⟨k', hcommand, hon, hexpired⟩ := exists_command_of_messageFate_eq_opened hopened
    exact Bool.false_ne_true (hexpired.symm.trans (hrunning k' hcommand hon))
  next => cases hopened

/-! ## An envelope that comes twice -/

theorem settled_of_not_accepts (h : n.accepts m = false) : n.Settled (.message m) now where
  mode := by simp [modeAfter, h]
  sensors := rfl
  windows k := by
    have hfate : n.fate (.message m) now k = .spared := by simp [fate, h]
    rw [hfate]
    rfl
  warning := by simp [warningAfter, h]
  report := rfl

theorem settled_after_message (haccepts : n.accepts m = true) :
    (n.after (.message m) now).Settled (.message m) now := by
  have haccepts' : (n.after (.message m) now).accepts m = true := haccepts
  have hstarts : (n.after (.message m) now).StartsBy now := startsBy_after_of_runsGuard haccepts
  constructor
  case mode =>
    have hmode : (n.after (.message m) now).mode = m.mode?.getD n.mode := by
      rw [after, modeAfter_message_eq, if_pos haccepts]
    rw [modeAfter_message_eq, if_pos haccepts', hmode]
    cases m.mode? <;> rfl
  case sensors => rfl
  case windows =>
    intro k
    have hopened : (n.after (.message m) now).fate (.message m) now k ≠ .opened :=
      fate_message_ne_opened (fun _ => isRunning_after_of_switchedOn haccepts) k
    refine Fate.apply_eq_self hopened (fun hclosed => ?_) fun _ => startsBy_iff_get.mp hstarts k
    -- Whether an envelope closes a window does not hang on the node, so it was closed before.
    rw [fate, if_pos haccepts'] at hclosed
    have hbefore : n.fate (.message m) now k = .closed :=
      (if_pos haccepts).trans (messageFate_eq_closed.mpr (messageFate_eq_closed.mp hclosed))
    rw [after, get_windowsAfter, hbefore]
    rfl
  case warning =>
    have hcomfort : (n.after (.message m) now).profile.comfort = n.profile.comfort := rfl
    have hwarning : (n.after (.message m) now).warningEnabled = n.warningAfter (.message m) := rfl
    simp only [warningAfter, haccepts, Bool.true_and] at hwarning
    simp only [warningAfter, haccepts', hcomfort, Bool.true_and]
    split
    next hswitch => rw [hwarning, if_pos hswitch]
    next => rfl
  case report => rfl

/-- Whether or not an envelope is for the node, the second copy changes nothing. -/
theorem node_react_message_twice (n : Node) (m : Envelope) (now : Tick) :
    ((n.react (.message m) now).node.react (.message m) now).node =
      (n.react (.message m) now).node := by
  cases haccepts : n.accepts m with
  | false =>
    have hignored : n.Settled (.message m) now := settled_of_not_accepts haccepts
    rw [hignored.node_react, hignored.node_react]
  | true =>
    have hheard : (n.react (.message m) now).node = n.after (.message m) now := Node.node_react _
    rw [hheard]
    exact (settled_after_message haccepts).node_react

/-! ## Movements in a row -/

/-- Movements at `now` have no effect: the window that they depend on is running, and no window
starts in the future. -/
structure Absorbs (n : Node) (now : Tick) : Prop where
  startsBy : n.StartsBy now
  isRunning : ∀ k, n.mode.movementWindow? = some k → n.isRunning k now = true

/-- A movement opens the window that it depends on, unless it is running. -/
theorem movementFate_of_movementWindow? (hk : n.mode.movementWindow? = some k)
    (action : MovementAction) :
    n.movementFate action now k = if n.isRunning k now then .guarded else .opened := by
  cases hmode : n.mode <;> simp only [hmode, Mode.movementWindow?, Option.some.injEq] at hk
  case silence =>
    obtain rfl := hk
    simp only [movementFate, hmode]
    rfl
  case guard =>
    obtain rfl := hk
    simp only [movementFate, hmode]
    rfl
  case alarm => cases hk

/-- After a movement on a sensor that the node has, further movements have no effect. -/
theorem absorbs_after_movement (hbound : (n.profile.movementAction? input).isSome) :
    (n.after (.movement input) now).Absorbs now where
  startsBy := startsBy_after_of_runsGuard hbound
  isRunning k hk := by
    obtain ⟨action, haction⟩ := Option.isSome_iff_exists.mp hbound
    have hfate : n.fate (.movement input) now k = n.movementFate action now k := by
      rw [fate, haction]
    have hmode : n.mode.movementWindow? = some k := hk
    exact isRunning_after_of_fate (hfate.trans (movementFate_of_movementWindow? hmode action))

theorem Absorbs.movementFate_eq (h : n.Absorbs now) (action : MovementAction) (k : WindowName) :
    n.movementFate action now k = .guarded := by
  have hrunning := h.isRunning
  cases hmode : n.mode with
  | silence =>
    have hlight : n.isLightRunning now = true := hrunning .light (by rw [hmode]; rfl)
    cases k <;> simp [movementFate, hmode, hlight]
  | guard =>
    have hintrusion : n.isIntrusionRunning now = true := hrunning .intrusion (by rw [hmode]; rfl)
    cases k <;> simp [movementFate, hmode, hintrusion]
  | alarm => simp [movementFate, hmode]

theorem Absorbs.report?_eq (h : n.Absorbs now) (input : MovementInput) :
    n.report? (.movement input) now = none := by
  have hrunning := h.isRunning
  rw [report?]
  cases n.profile.movementAction? input with
  | none => rfl
  | some action =>
    cases hmode : n.mode with
    | silence => exact if_pos (hrunning .light (by rw [hmode]; rfl))
    | guard => exact if_pos (hrunning .intrusion (by rw [hmode]; rfl))
    | alarm => rfl

theorem Absorbs.settled (h : n.Absorbs now) (input : MovementInput) :
    n.Settled (.movement input) now where
  mode := rfl
  sensors := rfl
  windows k := by
    rw [fate]
    cases n.profile.movementAction? input with
    | none => rfl
    | some action =>
      simp only [h.movementFate_eq]
      exact Window.normalize_of_started (startsBy_iff_get.mp h.startsBy k)
  warning := rfl
  report := h.report?_eq input

/-- What is noted of a movement without effect says no more than this. -/
theorem Absorbs.isIdle (h : n.Absorbs now) (input : MovementInput) :
    ∀ notice ∈ (n.react (.movement input) now).notices, notice.isIdle = true := by
  have hrunning := h.isRunning
  have hmode' : (n.normalizeWindows now).mode = n.mode := rfl
  simp only [react, observeMovement]
  cases n.profile.movementAction? input with
  | none => exact List.forall_mem_singleton.mpr rfl
  | some action =>
    simp only [move, hmode']
    cases hmode : n.mode with
    | silence =>
      have hlight : n.isLightRunning now = true := hrunning .light (by rw [hmode]; rfl)
      simp only [moveInSilence, reopenLight_eq, isLightRunning_normalizeWindows, hlight, if_true]
      exact List.forall_mem_singleton.mpr rfl
    | guard =>
      have hintrusion : n.isIntrusionRunning now = true :=
        hrunning .intrusion (by rw [hmode]; rfl)
      simp only [moveOnGuard, reopenIntrusion_eq, isIntrusionRunning_normalizeWindows, hintrusion,
        if_true]
      exact List.forall_mem_nil _
    | alarm => exact List.forall_mem_singleton.mpr rfl

/-- Some movements, all at the same tick. -/
def burst (inputs : List MovementInput) (now : Tick) : List (Event × Tick) :=
  inputs.map fun input => (.movement input, now)

/-- A burst of movements without effect leaves the node as it is. -/
theorem handle_of_absorbs (h : n.Absorbs now) (inputs : List MovementInput) :
    n.handle (burst inputs now) = n ∧ n.produced (burst inputs now) = [] ∧
      ∀ notice ∈ n.noted (burst inputs now), notice.isIdle = true := by
  induction inputs with
  | nil => exact ⟨rfl, rfl, List.forall_mem_nil _⟩
  | cons input inputs ih =>
    obtain ⟨hnode, hproduced, hnoted⟩ := ih
    have hsame : (n.react (.movement input) now).node = n := (h.settled input).node_react
    have hnothing : (n.react (.movement input) now).offered = none :=
      (offered_react _).trans (h.report?_eq input)
    rw [burst, List.map_cons, handle, produced, noted, hsame, hnothing]
    exact ⟨hnode, hproduced, List.forall_mem_append.mpr ⟨h.isIdle input, hnoted⟩⟩

/-! ## The main result -/

/-- **Duplicates and bursts are absorbed.**  In any state of a node and at any tick, the second copy
of an envelope changes nothing.  And after a movement on a sensor that the node has, any number of
movements at the same tick, on any sensors, change nothing: nothing more is sent, and all that is
noted is that they had no effect. -/
theorem bursts_absorbed (n : Node) (now : Tick) :
    (∀ m : Envelope,
      ((n.react (.message m) now).node.react (.message m) now).node =
        (n.react (.message m) now).node) ∧
      ∀ input, (n.profile.movementAction? input).isSome →
        let moved := (n.react (.movement input) now).node
        ∀ inputs,
          moved.handle (burst inputs now) = moved ∧ moved.produced (burst inputs now) = [] ∧
            ∀ notice ∈ moved.noted (burst inputs now), notice.isIdle = true := by
  refine ⟨fun m => n.node_react_message_twice m now, fun input hbound => ?_⟩
  intro moved inputs
  have hmoved : moved = n.after (.movement input) now := Node.node_react _
  rw [hmoved]
  exact handle_of_absorbs (absorbs_after_movement hbound) inputs

/-- The counter of a veranda node has wrapped since its light and its display came on, and its
windows are set to last for no time at all. -/
def wrappedVeranda : Node where
  profile := { Profile.b02 with
    timing := { Profile.b02.timing with light := 0, display := 0, intrusion := 0 } }
  sensors := { isDark := true }
  windows := { light := .openedAt 4294967000, display := .openedAt 4294967000 }

/-- Somebody comes to the door and asks for light; the movements on all sensors at the same tick,
among them one that would wake the display, do nothing more. -/
theorem bursts_absorbed_wrappedVeranda :
    let moved := (wrappedVeranda.react (.movement .door) 200).node
    (wrappedVeranda.profile.movementAction? .door).isSome ∧
      moved.windows.light = .openedAt 200 ∧ moved.windows.display = .inactive ∧
      moved.outbox.items = [wrappedVeranda.profile.lightRequest] ∧
      moved.handle (burst [.veranda, .front, .door] 200) = moved ∧
      moved.produced (burst [.veranda, .front, .door] 200) = [] := by
  intro moved
  have hbound : (wrappedVeranda.profile.movementAction? .door).isSome := by decide
  obtain ⟨hnode, hproduced, -⟩ :=
    (bursts_absorbed wrappedVeranda 200).2 .door hbound [.veranda, .front, .door]
  exact ⟨hbound, by decide +kernel, by decide +kernel, by decide +kernel, hnode, hproduced⟩

end Node

end HomeMesh
