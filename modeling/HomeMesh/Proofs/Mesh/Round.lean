import HomeMesh.Mesh
import HomeMesh.Proofs.Node.Emission

/-!
# A round of deliveries, node by node

The nodes have no part in how the bus is received, and no node has a part in what another one makes
of an envelope.  So after a round of deliveries every node is what it becomes by hearing, one after
the other, the envelopes that were on the bus (`nodes_deliver`).

Hearing changes neither the profile of a node nor what it has measured nor what it wants to send
(`profile_hearAll`, `sensors_hearAll`, `outbox_hearAll`).  An envelope that switches on what a window
stands for leaves the window running, and so it goes on until an envelope closes it
(`isRunning_hearAll`).
-/

namespace HomeMesh

/-- An envelope that closes no window of this name: it commands no mode, and does not switch off
what the window stands for. -/
def Envelope.Spares (m : Envelope) (k : WindowName) : Prop :=
  m.mode? = none ∧ (k.command? = some m.command → m.switchValue = .on)

/-- The envelopes on the bus, the oldest first; a frame that cannot be decoded holds none. -/
def Bus.envelopes (b : Bus) : List Envelope :=
  b.contents.filterMap fun bytes => (Envelope.decode bytes).toOption

namespace Node

/-- The node after it has heard some envelopes. -/
def hearAll (n : Node) (ms : List Envelope) (now : Tick) : Node :=
  ms.foldl (fun n m => (n.receive m now).node) n

variable {n : Node} {m : Envelope} {ms earlier later : List Envelope} {k : WindowName} {now : Tick}

/-! ## What a node makes of envelopes -/

theorem hearAll_cons (n : Node) (m : Envelope) (ms : List Envelope) (now : Tick) :
    n.hearAll (m :: ms) now = (n.after (.message m) now).hearAll ms now := by
  rw [← node_react_message]
  rfl

theorem hearAll_append (n : Node) (earlier later : List Envelope) (now : Tick) :
    n.hearAll (earlier ++ later) now = (n.hearAll earlier now).hearAll later now :=
  List.foldl_append

@[simp] theorem profile_hearAll (n : Node) (ms : List Envelope) (now : Tick) :
    (n.hearAll ms now).profile = n.profile := by
  induction ms generalizing n with
  | nil => rfl
  | cons m ms ih => exact (congrArg profile (hearAll_cons n m ms now)).trans (ih _)

@[simp] theorem sensors_hearAll (n : Node) (ms : List Envelope) (now : Tick) :
    (n.hearAll ms now).sensors = n.sensors := by
  induction ms generalizing n with
  | nil => rfl
  | cons m ms ih => exact (congrArg sensors (hearAll_cons n m ms now)).trans (ih _)

@[simp] theorem outbox_hearAll (n : Node) (ms : List Envelope) (now : Tick) :
    (n.hearAll ms now).outbox = n.outbox := by
  induction ms generalizing n with
  | nil => rfl
  | cons m ms ih => exact (congrArg outbox (hearAll_cons n m ms now)).trans (ih _)

/-! ## Windows -/

theorem fate_ne_closed (h : m.Spares k) : n.fate (.message m) now k ≠ .closed := by
  obtain ⟨hmode, hon⟩ := h
  rw [fate]
  split
  · rw [ne_eq, messageFate_eq_closed, hmode]
    rintro (hsome | ⟨hcommand, hoff⟩)
    · cases hsome
    · cases (hon hcommand).symm.trans hoff
  · exact Fate.noConfusion

/-- A window that is running goes on while envelopes are heard that close no such window. -/
theorem isRunning_hearAll (h : n.isRunning k now = true) (hspares : ∀ m ∈ ms, m.Spares k) :
    (n.hearAll ms now).isRunning k now = true := by
  induction ms generalizing n with
  | nil => exact h
  | cons m ms ih =>
    obtain ⟨hfirst, hrest⟩ := List.forall_mem_cons.mp hspares
    rw [hearAll_cons]
    exact ih ((isRunning_after _).trans (Fate.isRunning_apply (fate_ne_closed hfirst) h)) hrest

end Node

/-! ## The envelopes on the bus -/

namespace Bus

variable {b rest : Bus}

/-- Of envelopes that survive the wire the first are on the bus afterwards, as they were sent. -/
theorem envelopes_sendAll {ms : List Envelope} (hup : b.isUp = true) (h : ∀ m ∈ ms, m.Survives) :
    (Bus.send.sendAll b ms).state.envelopes = b.envelopes ++ ms.take (busDepth - b.pending) := by
  have hdecode : ((ms.take (busDepth - b.pending)).map Envelope.encode).filterMap
      (fun bytes => (Envelope.decode bytes).toOption) = ms.take (busDepth - b.pending) := by
    rw [List.filterMap_map]
    refine (List.filterMap_congr fun m hm => ?_).trans List.filterMap_some
    rw [Function.comp_apply, (h m (List.mem_of_mem_take hm)).decode_encode]
    rfl
  rw [envelopes, contents_sendAll hup, List.filterMap_append, hdecode]
  rfl

theorem envelopes_of_receive?_eq_none (h : b.receive? = none) : b.envelopes = [] := by
  obtain ⟨⟨items, hlength⟩, up⟩ := b
  cases items with
  | nil => rfl
  | cons frame items => cases h

theorem envelopes_of_receive?_eq_some {answer : Except CodecFault Envelope}
    (h : b.receive? = some (answer, rest)) :
    b.envelopes = answer.toOption.toList ++ rest.envelopes := by
  obtain ⟨bytes, hcontents, rfl⟩ := contents_of_receive? h
  rw [envelopes, hcontents, List.filterMap_cons]
  cases (Envelope.decode bytes).toOption <;> rfl

end Bus

/-! ## The round -/

namespace Mesh

/-- One frame: what it holds is heard by every node. -/
theorem nodes_hearAnswer (nodes : List Node) (answer : Except CodecFault Envelope) (now : Tick) :
    (hearAnswer nodes answer now).1 = nodes.map fun n => n.hearAll answer.toOption.toList now := by
  cases answer with
  | ok m => exact List.map_map
  | error cause => exact (List.map_id nodes).symm

/-- **A round of deliveries.**  Every node hears the envelopes that were on the bus, one after the
other, as if it were alone. -/
theorem nodes_deliver (nodes : List Node) (bus : Bus) (now : Tick) :
    (deliver nodes bus now).nodes = nodes.map fun n => n.hearAll bus.envelopes now := by
  fun_induction deliver nodes bus now with
  | case1 nodes bus hnone =>
    rw [Bus.envelopes_of_receive?_eq_none hnone]
    exact (List.map_id nodes).symm
  | case2 nodes bus answer rest hsome heard delivery hheard later ih =>
    have hfirst : heard = nodes.map fun n => n.hearAll answer.toOption.toList now := by
      rw [← nodes_hearAnswer, hheard]
    rw [Bus.envelopes_of_receive?_eq_some hsome]
    simp only [Node.hearAll_append]
    rw [ih, hfirst, List.map_map]
    rfl

end Mesh

end HomeMesh
