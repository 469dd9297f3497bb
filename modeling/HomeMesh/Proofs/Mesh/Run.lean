import HomeMesh.Mesh
import HomeMesh.Proofs.Bus

/-!
# Runs of a mesh

Nodes and a bus are a system that takes one `Action` after the other, in any order: something
happens to a node, a node flushes its outbox into the bus, the hub sends an envelope, a frame is
injected, the link goes up or down, or the bus is delivered until it is empty.

Besides the nodes and the bus, a `State` holds what all frames delivered so far were decoded to, the
earliest first.
-/

namespace HomeMesh

/-- Whether an event is something that a node notices by itself, and not an envelope. -/
def Event.isLocal : Event → Bool
  | .message _ => false
  | _ => true

namespace Mesh

/-- What can happen to a mesh. -/
inductive Action where
  /-- A sensor, the door, a movement or the remote control calls upon the node at this place. -/
  | event (i : Nat) (e : Event) (isLocal : e.isLocal) (now : Tick)
  /-- The node at this place flushes its outbox into the bus. -/
  | flush (i : Nat)
  | send (m : Envelope)
  /-- A frame is put onto the bus. -/
  | inject (bytes : Wire.Bytes)
  | link (up : Bool)
  /-- The bus is received until it is empty, and every node hears every envelope. -/
  | deliver (now : Tick)

/-- Nodes, their bus, and what was delivered. -/
structure State where
  nodes : List Node
  bus : Bus
  heard : List (Except CodecFault Envelope)

namespace State

/-- Nodes at their start, and an empty bus. -/
def start (ps : List Profile) : State := ⟨ps.map Node.new, Bus.new, []⟩

/-- The node at a place has flushed its outbox. -/
def flush (s : State) (i : Nat) : State :=
  match s.nodes[i]? with
  | none => s
  | some n =>
    { s with
      nodes := s.nodes.modify i fun n => (n.flush Bus.send s.bus).1
      bus := (n.flush Bus.send s.bus).2.state }

/-- Nodes and bus after a round of deliveries. -/
def deliver (s : State) (now : Tick) : State where
  nodes := (Mesh.deliver s.nodes s.bus now).nodes
  bus := (Mesh.deliver s.nodes s.bus now).bus
  heard := s.heard ++ (Mesh.deliver s.nodes s.bus now).deliveries.map Delivery.answer

/-- The state after an action. -/
def step (s : State) : Action → State
  | .event i e _ now => { s with nodes := s.nodes.modify i fun n => (n.react e now).node }
  | .flush i => s.flush i
  | .send m => { s with bus := (s.bus.send m).1 }
  | .inject bytes => { s with bus := (s.bus.inject bytes).1 }
  | .link up => { s with bus := s.bus.setLink up }
  | .deliver now => s.deliver now

/-- The state after some actions. -/
def run (s : State) (actions : List Action) : State := actions.foldl step s

/-! ## Deliveries, one frame at a time -/

/-- One frame was received. -/
def hear (s : State) (answer : Except CodecFault Envelope) (rest : Bus) (now : Tick) : State where
  nodes := (hearAnswer s.nodes answer now).1
  bus := rest
  heard := s.heard ++ [answer]

variable {s : State} {now : Tick}

theorem deliver_of_receive?_eq_none (h : s.bus.receive? = none) : s.deliver now = s := by
  have hround : Mesh.deliver s.nodes s.bus now = ⟨s.nodes, s.bus, []⟩ := by
    rw [Mesh.deliver]
    split
    next => rfl
    next hsome => rw [h] at hsome; cases hsome
  rw [deliver, hround, List.map_nil, List.append_nil]

theorem deliver_of_receive?_eq_some {answer : Except CodecFault Envelope} {rest : Bus}
    (h : s.bus.receive? = some (answer, rest)) :
    s.deliver now = (s.hear answer rest now).deliver now := by
  have hanswer : (hearAnswer s.nodes answer now).2.answer = answer := by
    cases answer <;> rfl
  have hround : Mesh.deliver s.nodes s.bus now =
      { Mesh.deliver (hearAnswer s.nodes answer now).1 rest now with
        deliveries := (hearAnswer s.nodes answer now).2 ::
          (Mesh.deliver (hearAnswer s.nodes answer now).1 rest now).deliveries } := by
    rw [Mesh.deliver]
    split
    next hnone => rw [h] at hnone; cases hnone
    next answer' rest' hsome =>
      obtain ⟨rfl, rfl⟩ := Prod.mk.inj (Option.some.inj (h.symm.trans hsome))
      rfl
  simp only [deliver, hear, hround, List.map_cons, hanswer, List.append_assoc,
    List.singleton_append]

/-- What holds at the beginning of a round, and after each frame that is received in it, holds at
the end. -/
theorem deliver_induction {P : State → Prop} (hs : P s)
    (hframe : ∀ s answer rest, P s → s.bus.receive? = some (answer, rest) →
      P (s.hear answer rest now)) :
    P (s.deliver now) := by
  -- Each frame that is received leaves fewer frames on the bus.
  induction hpending : s.bus.pending using Nat.strongRecOn generalizing s with
  | ind k ih =>
    cases hreceive : s.bus.receive? with
    | none => rwa [deliver_of_receive?_eq_none hreceive]
    | some received =>
      obtain ⟨answer, rest⟩ := received
      have hfewer : rest.pending < k := hpending ▸ Bus.pending_lt_of_receive? hreceive
      rw [deliver_of_receive?_eq_some hreceive]
      exact ih rest.pending hfewer (hframe s answer rest hs hreceive) rfl

end State

end Mesh

end HomeMesh
