import HomeMesh.Proofs.Mesh.Run
import HomeMesh.Proofs.Node.Emission

/-!
# All nodes are in the same mode

The hub commands a mode by an envelope that reaches every node.  Frames may be lost on the way, as
the bus is bounded and its link may be down; but what is lost is lost for all nodes, and what is
delivered is heard by all of them.  So at any time all nodes are in the mode that was commanded last
among what was delivered (`commanded`).

Nodes send frames as well, and so the argument needs that none of them commands a mode.  The
invariant `Agreement` says this of all envelopes in the outboxes, and of the frames on the bus that
those which decode to a mode command reach every node.  The main result is `modes_agree`.
-/

namespace HomeMesh

/-! ## Mode commands -/

/-- If an envelope commands a mode, known or not, it is for all these nodes. -/
def Envelope.ReachesAll (m : Envelope) (ps : List Profile) : Prop :=
  m.command = .setMode → ∀ p ∈ ps, m.isAddressedTo p.id p.acceptsBroadcast = true

/-- Whatever commands a mode on the bus is for all these nodes. -/
def Bus.ReachesAll (b : Bus) (ps : List Profile) : Prop :=
  ∀ frame ∈ b.frames.items, ∀ m, Envelope.decode frame.items = .ok m → m.ReachesAll ps

namespace Node

variable {n : Node}

/-- A node that hears an envelope for all is then in the mode that the envelope commands. -/
theorem modeAfter_message {m : Envelope} {ps : List Profile} (h : m.ReachesAll ps)
    (hn : n.profile ∈ ps) : n.modeAfter (.message m) = m.mode?.getD n.mode := by
  rw [modeAfter_message_eq]
  by_cases hcommand : m.command = .setMode
  · have haccepts : n.accepts m = true := h hcommand n.profile hn
    rw [if_pos haccepts]
  · simp [Envelope.mode?, hcommand]

theorem modeAfter_of_isLocal {e : Event} (h : e.isLocal) : n.modeAfter e = n.mode := by
  cases e with
  | message m => cases h
  | _ => rfl

end Node

namespace Mesh

/-- The mode that was commanded last among what was delivered.  Before the first command nodes are
in silence. -/
def commanded (heard : List (Except CodecFault Envelope)) : Mode :=
  (heard.reverse.findSome? fun answer => answer.toOption.bind Envelope.mode?).getD .silence

theorem commanded_concat (heard : List (Except CodecFault Envelope))
    (answer : Except CodecFault Envelope) :
    commanded (heard ++ [answer]) =
      (answer.toOption.bind Envelope.mode?).getD (commanded heard) := by
  rw [commanded, List.reverse_append, List.reverse_singleton, List.singleton_append,
    List.findSome?_cons]
  cases answer.toOption.bind Envelope.mode? <;> rfl

/-- Whoever commands a mode commands it to all these nodes: so does the hub, and so do the frames
that are injected. -/
def Action.ReachesAll (ps : List Profile) : Action → Prop
  | .send m => m.ReachesAll ps
  | .inject bytes => ∀ m, Envelope.decode bytes = .ok m → m.ReachesAll ps
  | _ => True

/-! ## The invariant -/

/-- The nodes have these profiles and are in the mode that was commanded last; no outbox holds a
mode command, and those on the bus are for all nodes. -/
structure Agreement (ps : List Profile) (s : State) : Prop where
  profiles : s.nodes.map Node.profile = ps
  modes : ∀ n ∈ s.nodes, n.mode = commanded s.heard
  outboxes : ∀ n ∈ s.nodes, ∀ m ∈ n.outbox.items, m.command ≠ .setMode
  bus : s.bus.ReachesAll ps

namespace Agreement

variable {ps : List Profile} {s : State}

theorem profile_mem (h : Agreement ps s) {n : Node} (hn : n ∈ s.nodes) : n.profile ∈ ps := by
  rw [← h.profiles]
  exact List.mem_map_of_mem hn

theorem start (ps : List Profile) : Agreement ps (State.start ps) where
  profiles := by simp [State.start, Function.comp_def, Node.new]
  modes := by
    intro n hn
    obtain ⟨p, -, rfl⟩ := List.mem_map.mp hn
    rfl
  outboxes := by
    intro n hn m hm
    obtain ⟨p, -, rfl⟩ := List.mem_map.mp hn
    cases hm
  bus := by
    intro frame hframe
    cases hframe

/-! ### The bus -/

theorem reachesAll_send {bus : Bus} {m : Envelope} (hbus : bus.ReachesAll ps)
    (hm : m.ReachesAll ps) : (bus.send m).1.ReachesAll ps := by
  intro frame hframe m' hdecode
  obtain hold | hnew := Bus.mem_frames_send hframe
  · exact hbus frame hold m' hdecode
  · rw [hnew, Envelope.decode_encode] at hdecode
    split at hdecode
    · cases hdecode
    · rwa [← Except.ok.inj hdecode]

theorem reachesAll_sendAll {bus : Bus} {ms : List Envelope} (hbus : bus.ReachesAll ps)
    (hms : ∀ m ∈ ms, m.ReachesAll ps) : (Bus.send.sendAll bus ms).state.ReachesAll ps := by
  induction ms generalizing bus with
  | nil => exact hbus
  | cons m ms ih =>
    have hsent : (bus.send m).1.ReachesAll ps := reachesAll_send hbus (hms m List.mem_cons_self)
    have hrest : (Bus.send.sendAll (bus.send m).1 ms).state.ReachesAll ps :=
      ih hsent fun m' hm' => hms m' (List.mem_cons_of_mem m hm')
    rw [Transport.sendAll]
    split
    next bus' hanswer =>
      rw [hanswer] at hrest
      exact hrest
    next bus' fault hanswer =>
      rw [hanswer] at hrest
      exact hrest

/-! ### The steps -/

/-- A node may change as long as its profile and mode stay, and no mode command comes into its
outbox. -/
theorem modify (h : Agreement ps s) (i : Nat) {f : Node → Node}
    (hprofile : ∀ n, (f n).profile = n.profile) (hmode : ∀ n, (f n).mode = n.mode)
    (houtbox : ∀ n, ∀ m ∈ (f n).outbox.items, m ∈ n.outbox.items ∨ m.command ≠ .setMode) :
    Agreement ps { s with nodes := s.nodes.modify i f } := by
  have hmem : ∀ n ∈ s.nodes.modify i f, n ∈ s.nodes ∨ ∃ n' ∈ s.nodes, n = f n' := by
    intro n hn
    obtain ⟨j, hj, rfl⟩ := List.mem_iff_getElem.mp hn
    rw [List.getElem_modify]
    split
    · exact Or.inr ⟨_, List.getElem_mem _, rfl⟩
    · exact Or.inl (List.getElem_mem _)
  refine ⟨?_, ?_, ?_, h.bus⟩
  · rw [← h.profiles]
    apply List.ext_getElem (by simp)
    intro j _ _
    simp only [List.getElem_map, List.getElem_modify]
    split
    · exact hprofile _
    · rfl
  · intro n hn
    obtain hold | ⟨n', hn', rfl⟩ := hmem n hn
    · exact h.modes n hold
    · exact (hmode n').trans (h.modes n' hn')
  · intro n hn m hm
    obtain hold | ⟨n', hn', rfl⟩ := hmem n hn
    · exact h.outboxes n hold m hm
    · obtain hwaiting | hcommand := houtbox n' m hm
      · exact h.outboxes n' hn' m hwaiting
      · exact hcommand

theorem event (h : Agreement ps s) (i : Nat) {e : Event} (he : e.isLocal) (now : Tick) :
    Agreement ps (s.step (.event i e he now)) := by
  simp only [State.step, Node.node_react]
  apply h.modify i
  · exact fun n => rfl
  · exact fun n => Node.modeAfter_of_isLocal he
  · exact fun n m hm => (Node.mem_outbox_after hm).imp_right Node.report?_ne_setMode

theorem flush (h : Agreement ps s) (i : Nat) : Agreement ps (s.flush i) := by
  rw [State.flush]
  split
  next => exact h
  next n hget =>
    have hemptied : Agreement ps
        { s with nodes := s.nodes.modify i fun n => (n.flush Bus.send s.bus).1 } :=
      h.modify i (fun n => rfl) (fun n => rfl) (fun n m hm => nomatch hm)
    have hsent : (Bus.send.sendAll s.bus n.outbox.items).state.ReachesAll ps := by
      apply reachesAll_sendAll h.bus
      exact fun m hm hcommand => absurd hcommand (h.outboxes n (List.mem_of_getElem? hget) m hm)
    exact ⟨hemptied.profiles, hemptied.modes, hemptied.outboxes, hsent⟩

/-- A frame is received: what it commands is for all nodes, and all of them hear it. -/
theorem hear (h : Agreement ps s) {answer : Except CodecFault Envelope} {rest : Bus}
    (hreceive : s.bus.receive? = some (answer, rest)) (now : Tick) :
    Agreement ps (s.hear answer rest now) := by
  obtain ⟨frame, hframes, hanswer, -⟩ := Bus.receive?_eq_some hreceive
  have hrest : rest.ReachesAll ps := by
    intro frame' hframe'
    exact h.bus frame' (hframes ▸ List.mem_cons_of_mem frame hframe')
  cases answer with
  | error cause =>
    refine ⟨h.profiles, ?_, h.outboxes, hrest⟩
    intro n hn
    rw [State.hear, commanded_concat]
    exact h.modes n hn
  | ok m =>
    have hm : m.ReachesAll ps :=
      h.bus frame (hframes ▸ List.mem_cons_self) m hanswer.symm
    have hnodes : (s.hear (.ok m) rest now).nodes =
        s.nodes.map fun n => n.after (.message m) now := by
      simp only [State.hear, hearAnswer, Mesh.hear, List.map_map]
      apply List.map_congr_left
      intro n _
      exact Node.node_react (.message m)
    refine ⟨?_, ?_, ?_, hrest⟩
    · rw [hnodes, List.map_map]
      exact h.profiles
    · rw [hnodes]
      intro n hn
      obtain ⟨n', hn', rfl⟩ := List.mem_map.mp hn
      rw [State.hear, commanded_concat, ← h.modes n' hn']
      exact Node.modeAfter_message hm (h.profile_mem hn')
    · rw [hnodes]
      intro n hn m' hm'
      obtain ⟨n', hn', rfl⟩ := List.mem_map.mp hn
      obtain hwaiting | hreport := Node.mem_outbox_after hm'
      · exact h.outboxes n' hn' m' hwaiting
      · exact Node.report?_ne_setMode hreport

/-- Every action keeps the nodes in agreement. -/
theorem step (h : Agreement ps s) {a : Action} (ha : a.ReachesAll ps) :
    Agreement ps (s.step a) := by
  cases a with
  | event i e he now => exact h.event i he now
  | flush i => exact h.flush i
  | send m => exact ⟨h.profiles, h.modes, h.outboxes, reachesAll_send h.bus ha⟩
  | inject bytes =>
    refine ⟨h.profiles, h.modes, h.outboxes, ?_⟩
    intro frame hframe m hdecode
    obtain hold | rfl := Bus.mem_frames_inject hframe
    · exact h.bus frame hold m hdecode
    · exact ha m hdecode
  | link up => exact ⟨h.profiles, h.modes, h.outboxes, h.bus⟩
  | deliver now =>
    exact State.deliver_induction h fun s answer rest hs hreceive => hs.hear hreceive now

theorem run (h : Agreement ps s) {actions : List Action}
    (hactions : ∀ a ∈ actions, a.ReachesAll ps) : Agreement ps (s.run actions) := by
  induction actions generalizing s with
  | nil => exact h
  | cons a actions ih =>
    have hstep : Agreement ps (s.step a) := h.step (hactions a List.mem_cons_self)
    exact ih hstep fun a' ha' => hactions a' (List.mem_cons_of_mem a ha')

end Agreement

/-! ## The main result -/

/-- **Agreement.**  Let nodes start with any profiles, and let anything happen to them and to their
bus, where each mode command of the hub or of an injected frame is for all of them.  Then they are
all in the mode that was commanded last among what was delivered; their outboxes hold no mode
command, and no event would make one of them send one. -/
theorem modes_agree {ps : List Profile} {actions : List Action}
    (h : ∀ a ∈ actions, a.ReachesAll ps) :
    let s := (State.start ps).run actions
    s.nodes.map Node.profile = ps ∧
      (∀ n ∈ s.nodes, n.mode = commanded s.heard) ∧
      ∀ n ∈ s.nodes, (∀ m ∈ n.outbox.items, m.command ≠ .setMode) ∧
        ∀ e now m, (n.react e now).offered = some m → m.command ≠ .setMode := by
  have hagree : Agreement ps ((State.start ps).run actions) := (Agreement.start ps).run h
  refine ⟨hagree.profiles, hagree.modes, fun n hn => ⟨hagree.outboxes n hn, ?_⟩⟩
  intro e now m hoffered
  rw [Node.offered_react] at hoffered
  exact Node.report?_ne_setMode hoffered

/-- A mode command for both kinds of nodes. -/
def modeCommand (mode : Mode) : Envelope where
  source := .hub
  destinations := .truncate [.b02, .t01]
  command := .setMode
  value0 := mode.value

/-- Both nodes are on guard when somebody moves on the veranda; while the link is down, the alarm of
the hub is lost. -/
def nightActions : List Action :=
  [.send (modeCommand .guard), .deliver 10, .event 0 (.movement .veranda) rfl 20, .flush 0,
    .link false, .send (modeCommand .alarm), .link true, .inject [0xFF, 0xFF], .deliver 30]

theorem modes_agree_atNight :
    (∀ a ∈ nightActions, a.ReachesAll [.b02, .t01]) ∧
      let s := (State.start [.b02, .t01]).run nightActions
      s.nodes.map Node.profile = [.b02, .t01] ∧ ∀ n ∈ s.nodes, n.mode = .guard := by
  have hcommand : ∀ mode, (modeCommand mode).ReachesAll [.b02, .t01] := by
    intro mode _
    cases mode <;> decide
  have hgarbage : ∀ m, Envelope.decode [0xFF, 0xFF] = .ok m → m.ReachesAll [.b02, .t01] := by
    intro m hdecode
    have hnothing : (Envelope.decode [0xFF, 0xFF]).toOption = none := by decide +kernel
    rw [hdecode] at hnothing
    cases hnothing
  have hreaches : ∀ a ∈ nightActions, a.ReachesAll [.b02, .t01] := by
    simp only [nightActions, List.forall_mem_cons]
    exact ⟨hcommand .guard, trivial, trivial, trivial, trivial, hcommand .alarm, trivial, hgarbage,
      trivial, List.forall_mem_nil _⟩
  have hguard : commanded ((State.start [.b02, .t01]).run nightActions).heard = .guard := by
    decide +kernel
  obtain ⟨hprofiles, hmodes, -⟩ := modes_agree hreaches
  exact ⟨hreaches, hprofiles, fun n hn => (hmodes n hn).trans hguard⟩

end Mesh

end HomeMesh
