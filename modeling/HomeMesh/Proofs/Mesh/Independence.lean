import HomeMesh.Proofs.Mesh.Round

/-!
# Nodes do not depend on each other

A round of deliveries gives every frame to every node, one after the other.  No node sends anything
while it hears an envelope, so that nothing is put onto the bus while it is received.  The round
therefore takes just the frames that were there, whatever nodes there are (`receiveAll_deliver`),
and what becomes of a node depends on these frames and on the node alone (`outcomes_eq`).

So it makes no difference to a node in which order the nodes stand, or which others there are; this
is `deliver_independent`.
-/

namespace HomeMesh

/-! ## Frames -/

/-- The node after it has been given the bytes of a frame.  Bytes that cannot be decoded do nothing
to it. -/
def Node.hearFrame (n : Node) (bytes : Wire.Bytes) (now : Tick) : Node :=
  match Envelope.decode bytes with
  | .ok m => (n.receive m now).node
  | .error _ => n

/-- To hear the envelopes that are on a bus is to be given its frames. -/
theorem Node.hearAll_envelopes (n : Node) (bus : Bus) (now : Tick) :
    n.hearAll bus.envelopes now = bus.contents.foldl (fun n bytes => n.hearFrame bytes now) n := by
  rw [hearAll, Bus.envelopes, List.foldl_filterMap]
  congr 1
  funext n bytes
  rw [hearFrame]
  cases Envelope.decode bytes <;> rfl

namespace Mesh

/-- A round of deliveries receives the bus until it is empty.  The nodes have no part in it. -/
theorem receiveAll_deliver (nodes : List Node) (bus : Bus) (now : Tick) :
    ((deliver nodes bus now).deliveries.map Delivery.answer, (deliver nodes bus now).bus) =
      bus.receiveAll := by
  fun_induction deliver nodes bus now with
  | case1 nodes bus hnone =>
    unfold Bus.receiveAll
    split
    next => rfl
    next hsome => cases hnone.symm.trans hsome
  | case2 nodes bus answer rest hsome heard delivery hheard later ih =>
    have hanswer : delivery.answer = answer := by
      have hdelivery : delivery = (hearAnswer nodes answer now).2 := by rw [hheard]
      rw [hdelivery]
      cases answer <;> rfl
    unfold Bus.receiveAll
    split
    next hnone => cases hnone.symm.trans hsome
    next answer' rest' hsome' =>
      obtain ⟨rfl, rfl⟩ := Prod.mk.inj (Option.some.inj (hsome.symm.trans hsome'))
      rw [← ih, List.map_cons, hanswer]

/-! ## What becomes of a node -/

/-- Every node together with what becomes of it in a round of deliveries. -/
def outcomes (nodes : List Node) (bus : Bus) (now : Tick) : List (Node × Node) :=
  nodes.zip (deliver nodes bus now).nodes

/-- What becomes of a node is a function of the node. -/
theorem outcomes_eq (nodes : List Node) (bus : Bus) (now : Tick) :
    outcomes nodes bus now = nodes.map fun n => (n, n.hearAll bus.envelopes now) := by
  rw [outcomes, nodes_deliver, List.map_prod_left_eq_zip]

/-- **Nodes do not depend on each other.**  Let the nodes be in any states, and let there be
anything on the bus.  A round of deliveries decodes all that is on the bus, the oldest frame first,
and leaves the bus empty.  Each node ends up as what it becomes by being given the frames one after
the other.  Hence it ends up in the same way if the nodes stand in another order, and if there are
fewer of them.  What the nodes want to send and what they have measured stays as it was. -/
theorem deliver_independent (nodes : List Node) (bus : Bus) (now : Tick) :
    let round := deliver nodes bus now
    round.bus = { bus with frames := .empty } ∧
      round.deliveries.map Delivery.answer = bus.contents.map Envelope.decode ∧
      round.nodes = nodes.map (fun n =>
        bus.contents.foldl (fun n bytes => n.hearFrame bytes now) n) ∧
      (∀ reordered : List Node, reordered.Perm nodes →
        (outcomes reordered bus now).Perm (outcomes nodes bus now)) ∧
      (∀ fewer : List Node, fewer.Sublist nodes →
        (outcomes fewer bus now).Sublist (outcomes nodes bus now)) ∧
      round.nodes.map Node.outbox = nodes.map Node.outbox ∧
      round.nodes.map Node.sensors = nodes.map Node.sensors := by
  intro round
  obtain ⟨hanswers, hbus⟩ :=
    Prod.mk.inj ((receiveAll_deliver nodes bus now).trans bus.receiveAll_eq)
  have hnodes : round.nodes = nodes.map fun n => n.hearAll bus.envelopes now :=
    nodes_deliver nodes bus now
  refine ⟨hbus, hanswers, ?nodes, ?reordered, ?fewer, ?outbox, ?sensors⟩
  case nodes => exact hnodes.trans (List.map_congr_left fun n _ => n.hearAll_envelopes bus now)
  case reordered =>
    intro reordered hperm
    rw [outcomes_eq, outcomes_eq]
    exact hperm.map _
  case fewer =>
    intro fewer hsub
    rw [outcomes_eq, outcomes_eq]
    exact hsub.map _
  case outbox =>
    rw [hnodes, List.map_map]
    exact List.map_congr_left fun n _ => n.outbox_hearAll bus.envelopes now
  case sensors =>
    rw [hnodes, List.map_map]
    exact List.map_congr_left fun n _ => n.sensors_hearAll bus.envelopes now

/-- The hall node in silence.  A report on the door waits in its outbox. -/
def openHall : Node := ((Node.new .t01).react (.door true) 5).node

/-- The veranda node in silence, and on it is dark. -/
def duskVeranda : Node := ((Node.new .b02).react (.luminosity ⟨.zero, true⟩) 0).node

/-- A bus with an order for the hall node to be on guard and one for the veranda node to switch its
light on, and with noise between them. -/
def noisyOrders : Bus :=
  ((((Bus.new.send (Profile.t01.order .setMode 1)).1).inject [0xFF]).1.send
    (Profile.b02.order .setLight 1)).1

/-- The hall node ends up on guard and the veranda node lit, in whatever order they stand; and the
veranda node is lit as well if the hall node is not there. -/
theorem deliver_independent_hallAndVeranda :
    let round := deliver [openHall, duskVeranda] noisyOrders 20
    round.nodes.map Node.mode = [.guard, .silence] ∧
      round.nodes.map (fun n => n.isLightRunning 20) = [false, true] ∧
      round.nodes.map Node.outbox = [openHall.outbox, duskVeranda.outbox] ∧
      openHall.outbox.items.length = 1 ∧
      (outcomes [duskVeranda, openHall] noisyOrders 20).Perm
        (outcomes [openHall, duskVeranda] noisyOrders 20) ∧
      (outcomes [duskVeranda] noisyOrders 20).Sublist
        (outcomes [openHall, duskVeranda] noisyOrders 20) := by
  intro round
  obtain ⟨-, -, -, hreordered, hfewer, houtbox, -⟩ :=
    deliver_independent [openHall, duskVeranda] noisyOrders 20
  have hswap : [duskVeranda, openHall].Perm [openHall, duskVeranda] := .swap _ _ _
  have hrest : [duskVeranda].Sublist [openHall, duskVeranda] := List.sublist_cons_self _ _
  exact ⟨by decide +kernel, by decide +kernel, houtbox, by decide +kernel,
    hreordered _ hswap, hfewer _ hrest⟩

end Mesh

end HomeMesh
