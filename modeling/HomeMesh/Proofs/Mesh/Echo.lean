import HomeMesh.Proofs.Mesh.Alert
import HomeMesh.Proofs.Node.Absorption
import HomeMesh.Proofs.Node.Spacing
import HomeMesh.Proofs.Node.Waning

/-!
# A node hears what it sent

The bus gives every envelope to every node, also to the one that sent it, and a profile may well
name the node itself, or all nodes, as those for whom its reports are.  Such an echo does no harm:
the node is already as its own envelope would make it (`settled_echo`).

A node commands no mode and switches nothing off.  So an echo can do no more than open a window
that is not running, and this is the window that the node opened itself when it sent the envelope
(`opened_of_report?`).  As long as that window lasts the echo finds it running.  No window is
closed by the guard against a wrapped counter either, for at ticks that never decrease none starts
in the future.

Meanwhile the envelope has to leave the outbox, and others may leave it too (`Node.Drained`); of
this the rest of the node knows nothing.
-/

namespace HomeMesh

/-- A window is still running when no more than its duration has passed since it was opened. -/
theorem Window.isRunning_openedAt_of_le {now later : Tick} {d : Duration} (hle : now ≤ later)
    (hpassed : later - now ≤ d) : (openedAt now).isRunning later d = true :=
  isRunning_iff_runs.mpr ⟨now, rfl, hle, hpassed⟩

namespace Node

/-- What a node may become while envelopes are taken out of its outbox, on request or by a flush,
and nothing else happens to it. -/
inductive Drained (n : Node) : Node → Prop
  | refl : Drained n n
  | pop {a rest : Node} {m : Envelope} :
    Drained n a → a.popMessage? = some (m, rest) → Drained n rest
  | flush {a : Node} {σ : Type} (send : Transport σ) (state : σ) :
    Drained n a → Drained n (a.flush send state).1

variable {p : Profile} {n rest : Node} {past : List (Event × Tick)} {e : Event} {m : Envelope}
  {now later : Tick}

theorem Drained.eq (h : n.Drained rest) : rest = { n with outbox := rest.outbox } := by
  induction h with
  | refl => rfl
  | pop _ hpop ih => rw [(popMessage?_eq_some hpop).2, ih]
  | flush send state _ ih => rw [Node.flush, ih]

/-- Whether an envelope finds something to do does not hang on the outbox. -/
theorem Settled.of_drained (h : n.Settled (.message m) now) (hrest : n.Drained rest) :
    rest.Settled (.message m) now := by
  rw [hrest.eq]
  exact ⟨h.mode, h.sensors, h.windows, h.warning, rfl⟩

/-- The window that an envelope stands for was opened when the envelope was sent. -/
theorem isRunning_after_of_report? {k : WindowName} (hsent : n.report? e now = some m)
    (hcommand : k.command? = some m.command) (hle : now ≤ later)
    (hpassed : later - now ≤ n.profile.timing.duration k) :
    (n.after e now).isRunning k later = true := by
  have hwindow : (n.after e now).windows.get k = .openedAt now := by
    rw [after, get_windowsAfter, (opened_of_report? hsent hcommand).2, Fate.apply]
  rw [isRunning, hwindow]
  exact Window.isRunning_openedAt_of_le hle hpassed

/-- A node that has sent an envelope is as the envelope would make it, as long as the window that it
opened with it is running. -/
theorem settled_echo (hstarts : n.StartsBy now) (hsent : n.report? e now = some m)
    (hle : now ≤ later)
    (hpassed : ∀ k : WindowName, k.command? = some m.command →
      later - now ≤ n.profile.timing.duration k) :
    (n.after e now).Settled (.message m) later := by
  have hemits : n.profile.Emits m := emits_of_report? hsent
  have hstarted : (n.after e now).StartsBy later := (hstarts.after e).mono hle
  constructor
  case mode =>
    have hmode : m.mode? = none := (hemits.spares .light).1
    rw [modeAfter_message_eq, hmode, Option.getD_none, ite_self]
  case sensors => rfl
  case windows =>
    intro k
    have hopened : (n.after e now).fate (.message m) later k ≠ .opened :=
      fate_message_ne_opened
        (fun k' hcommand _ => isRunning_after_of_report? hsent hcommand hle (hpassed k' hcommand)) k
    have hclosed : (n.after e now).fate (.message m) later k ≠ .closed :=
      fate_ne_closed (hemits.spares k)
    exact Fate.apply_eq_self hopened (absurd · hclosed) fun _ => startsBy_iff_get.mp hstarted k
  case warning =>
    have hcommand : m.command ≠ .setWarning := fun hwarning => by
      have hform := hemits.form
      rw [hwarning] at hform
      exact hform
    simp [warningAfter, hcommand]
  case report => rfl

/-- **A node is immune to its own echo.**  Whatever has happened to a node, let no event of its
past be after the tick `now`, at which an event makes it send an envelope.  Envelopes are taken out
of its outbox, and then, before anything else happens, the envelope comes back.  If it asks for
light, let this be while the light of the node lasts, and if it reports an intrusion, while its
alert lasts; a report of its sensors may be as late as it likes.  Then hearing the envelope changes
nothing of the node, be it among those for whom the envelope is or not. -/
theorem echo_changes_nothing (h : Lived p past n) (hlast : ∀ s ∈ past.map Prod.snd, s ≤ now)
    (hsent : (n.react e now).offered = some m) (hrest : (n.react e now).node.Drained rest)
    (hle : now ≤ later) (hlight : m.command = .setLight → later - now ≤ p.timing.light)
    (hintrusion : m.command = .setIntrusion → later - now ≤ p.timing.intrusion) :
    (rest.react (.message m) later).node = rest := by
  have hprofile : n.profile = p := h.reachable.emits.1
  have hpassed (k : WindowName) (hcommand : k.command? = some m.command) :
      later - now ≤ n.profile.timing.duration k := by
    rw [hprofile]
    cases k with
    | light => exact hlight (Option.some.inj hcommand).symm
    | display => cases hcommand
    | intrusion => exact hintrusion (Option.some.inj hcommand).symm
  rw [offered_react] at hsent
  have hechoed := settled_echo (h.startsBy hlast) hsent hle hpassed
  rw [← Node.node_react] at hechoed
  exact (hechoed.of_drained hrest).node_react

/-- On guard in the dark the veranda node reports an intruder to all nodes, and accepts the report
itself when the bus gives it back at the last tick of the alert. -/
theorem echo_changes_nothing_onGuard :
    let n := (((new .b02).react (.luminosity ⟨.zero, true⟩) 5).node.react
      (.message (Profile.b02.order .setMode Mode.guard.value)) 10).node
    let moved := (n.react (.movement .door) 500).node
    let flushed := moved.flush Bus.send Bus.new
    moved.outbox.items = [Profile.b02.intrusionReport] ∧
      flushed.2.state.envelopes = [Profile.b02.intrusionReport] ∧
      flushed.1.accepts Profile.b02.intrusionReport = true ∧
      flushed.1.isIntrusionRunning 30500 = true ∧ flushed.1.isIntrusionRunning 30501 = false ∧
      (flushed.1.react (.message Profile.b02.intrusionReport) 30500).node = flushed.1 := by
  intro n moved flushed
  have hlived : Lived .b02 [(.luminosity ⟨.zero, true⟩, 5),
      (.message (Profile.b02.order .setMode Mode.guard.value), 10)] n :=
    .event _ 10 (.event _ 5 .new)
  have hlast : ∀ s ∈ [(5 : Tick), 10], s ≤ 500 := by
    simp only [List.forall_mem_cons]
    exact ⟨by decide, by decide, List.forall_mem_nil _⟩
  have hsent : (n.react (.movement .door) 500).offered = some Profile.b02.intrusionReport := by
    decide +kernel
  have hrest : moved.Drained flushed.1 := .flush Bus.send Bus.new .refl
  exact ⟨by decide +kernel, by decide +kernel, by decide +kernel, by decide +kernel,
    by decide +kernel,
    echo_changes_nothing hlived hlast hsent hrest (by decide) nofun fun _ => by decide⟩

end Node

end HomeMesh
