import HomeMesh.Bus
import HomeMesh.Node.Events

/-!
# Nodes on a bus

In a round of deliveries the frames of the bus are received, oldest first, until there are none.
Each envelope goes to every node, which sees for itself whether it is meant; a frame that cannot be
decoded goes nowhere.
-/

namespace HomeMesh.Mesh

/-- One frame that was received, and what the nodes noted about it. -/
structure Delivery where
  /-- What the frame holds. -/
  answer : Except CodecFault Envelope
  /-- What there is to note. -/
  notices : List Notice

/-- What a round of deliveries leads to. -/
structure Round where
  nodes : List Node
  bus : Bus
  /-- The frames that were received, in order. -/
  deliveries : List Delivery

/-- Gives an envelope to every node. -/
def hear (nodes : List Node) (m : Envelope) (now : Tick) : List Reaction :=
  nodes.map fun n => n.receive m now

/-- Gives what a frame holds to every node. -/
def hearAnswer (nodes : List Node) (answer : Except CodecFault Envelope) (now : Tick) :
    List Node × Delivery :=
  match answer with
  | .ok m =>
    let reactions := hear nodes m now
    (reactions.map Reaction.node, ⟨answer, reactions.flatMap Reaction.notices⟩)
  | .error _ => (nodes, ⟨answer, []⟩)

/-- Receives and gives to every node, until the bus is empty. -/
def deliver (nodes : List Node) (bus : Bus) (now : Tick) : Round :=
  match _received : bus.receive? with
  | none => ⟨nodes, bus, []⟩
  | some (answer, rest) =>
    let (nodes, delivery) := hearAnswer nodes answer now
    let later := deliver nodes rest now
    { later with deliveries := delivery :: later.deliveries }
termination_by bus.pending
decreasing_by exact Bus.pending_lt_of_receive? _received

end HomeMesh.Mesh
