import HomeMesh.Proofs.Node.Emission
import HomeMesh.Proofs.Node.Warnings

/-!
# Between two flushes

Some events happen to a node, then the node flushes its outbox into a bus, and the bus is received
until it is empty: an `Exchange`.  An event makes a node produce one envelope at most, so that an
empty outbox takes all that eight events produce (`outbox_handle_of_room`); and a bus has room for
all that an outbox holds.

Hence every envelope that the events produced is received, once and as it was (`Exchange.Exact`).
The outbox turns their order around.  With one event to each flush there is nothing to turn around,
and the envelopes are received in the order in which they were produced.
-/

namespace HomeMesh

open Notice (warnings)

namespace Node

variable {n : Node} {events : List (Event × Tick)}

/-! ## Some events -/

/-- The node after some events. -/
def handle (n : Node) : List (Event × Tick) → Node
  | [] => n
  | (e, now) :: events => (n.react e now).node.handle events

/-- The envelopes that some events make a node hand to its outbox, the earliest first. -/
def produced (n : Node) : List (Event × Tick) → List Envelope
  | [] => []
  | (e, now) :: events =>
    (n.react e now).offered.toList ++ (n.react e now).node.produced events

/-- What a node notes at some events. -/
def noted (n : Node) : List (Event × Tick) → List Notice
  | [] => []
  | (e, now) :: events => (n.react e now).notices ++ (n.react e now).node.noted events

/-- An event produces one envelope at most. -/
theorem length_produced_le (events : List (Event × Tick)) :
    (n.produced events).length ≤ events.length := by
  induction events generalizing n with
  | nil => exact Nat.zero_le 0
  | cons event events ih =>
    have hone : (n.react event.1 event.2).offered.toList.length ≤ 1 := Option.length_toList_le
    have hlater := ih (n := (n.react event.1 event.2).node)
    rw [produced, List.length_append, List.length_cons]
    omega

theorem Reachable.handle {p : Profile} (h : Reachable p n) : Reachable p (n.handle events) := by
  induction events generalizing n with
  | nil => exact h
  | cons event events ih => exact ih (h.event event.1 event.2)

theorem outbox_react (n : Node) (e : Event) (now : Tick) :
    (n.react e now).node.outbox = (n.react e now).offered.elim n.outbox n.outbox.offering := by
  rw [node_react, offered_react]
  rfl

/-- What an event offers comes on top of the outbox if there is room for it. -/
theorem items_outbox_react (n : Node) (e : Event) (now : Tick) :
    (n.react e now).node.outbox.items =
      if n.outbox.items.length < outboxCapacity then
        (n.react e now).offered.toList ++ n.outbox.items
      else n.outbox.items := by
  rw [outbox_react]
  rcases (n.react e now).offered with _ | m
  · exact (ite_self _).symm
  · exact Outbox.items_offering n.outbox m

theorem outbox_react_of_room (e : Event) (now : Tick)
    (h : n.outbox.items.length < outboxCapacity) :
    (n.react e now).node.outbox.items = (n.react e now).offered.toList ++ n.outbox.items := by
  rw [items_outbox_react, if_pos h]

/-- An outbox with room for one envelope of each event takes all that the events produce, and none
is warned of. -/
theorem outbox_handle_of_room (h : n.outbox.items.length + events.length ≤ outboxCapacity) :
    (n.handle events).outbox.items = (n.produced events).reverse ++ n.outbox.items ∧
      warnings (n.noted events) = [] := by
  induction events generalizing n with
  | nil => exact ⟨rfl, rfl⟩
  | cons event events ih =>
    obtain ⟨e, now⟩ := event
    rw [List.length_cons] at h
    have hroom : n.outbox.items.length < outboxCapacity := by omega
    have houtbox := outbox_react_of_room e now hroom
    have hrest : (n.react e now).node.outbox.items.length + events.length ≤ outboxCapacity := by
      have hone : (n.react e now).offered.toList.length ≤ 1 := Option.length_toList_le
      rw [houtbox, List.length_append]
      omega
    obtain ⟨hitems, hwarnings⟩ := ih hrest
    have hsame : (n.react e now).offered.toList.reverse = (n.react e now).offered.toList := by
      rcases (n.react e now).offered with _ | m <;> rfl
    constructor
    · rw [handle, hitems, houtbox, produced, List.reverse_append, hsame, List.append_assoc]
    · have hsilent : warnings (n.react e now).notices = [] := (warnsOfLoss_react e).of_room hroom
      rw [noted, Notice.warnings_append, hsilent, hwarnings, List.append_nil]

/-! ## Exchanges -/

/-- Some events, and the bus into which the outbox is flushed after them. -/
structure Batch where
  events : List (Event × Tick)
  bus : Bus

/-- There are no more events than an outbox holds envelopes, and the bus is up and empty. -/
structure Batch.IsAdmissible (b : Batch) : Prop where
  few : b.events.length ≤ outboxCapacity
  isUp : b.bus.isUp = true
  pending : b.bus.pending = 0

/-- What comes of a batch. -/
structure Exchange where
  /-- The node after the flush. -/
  node : Node
  /-- The bus after all was received. -/
  bus : Bus
  /-- What the events made the node hand to its outbox, the earliest first. -/
  produced : List Envelope
  /-- How many envelopes the flush answers that the bus took. -/
  accepted : Nat
  /-- What the frames on the bus were decoded to, the earliest first. -/
  received : List (Except CodecFault Envelope)
  /-- All that was noted, at the events and by the flush. -/
  notices : List Notice

/-- The events of a batch happen, the outbox is flushed, and the bus is received until it is
empty. -/
def exchange (n : Node) (b : Batch) : Exchange :=
  let (node, transfer) := (n.handle b.events).flush Bus.send b.bus
  let (received, bus) := transfer.state.receiveAll
  { node, bus, received, produced := n.produced b.events, accepted := transfer.accepted,
    notices := n.noted b.events ++ transfer.notices }

/-- The exchanges of some batches, one after the other. -/
def exchanges (n : Node) : List Batch → List Exchange
  | [] => []
  | b :: batches => n.exchange b :: (n.exchange b).node.exchanges batches

/-- Each envelope that was produced was taken and received, once and as it was, the latest first;
and nothing is left over or was warned of. -/
structure Exchange.Exact (x : Exchange) : Prop where
  accepted : x.accepted = x.produced.length
  received : x.received = x.produced.reverse.map .ok
  warnings : warnings x.notices = []
  outbox : x.node.outbox.items = []
  bus : x.bus.isUp = true ∧ x.bus.pending = 0

variable {p : Profile} {b : Batch}

theorem exact_exchange (hp : p.validate = .ok ()) (h : Reachable p n)
    (houtbox : n.outbox.items = []) (hb : b.IsAdmissible) : (n.exchange b).Exact := by
  have hroom : n.outbox.items.length + b.events.length ≤ outboxCapacity := by
    rw [houtbox, List.length_nil, Nat.zero_add]
    exact hb.few
  obtain ⟨hitems, hsilent⟩ := outbox_handle_of_room hroom
  rw [houtbox, List.append_nil] at hitems
  -- The bus takes all that waited in the outbox.
  have hfits : b.bus.pending + (n.produced b.events).reverse.length ≤ busDepth := by
    rw [hb.pending, Nat.zero_add, ← hitems]
    exact Nat.le_trans (n.handle b.events).outbox.length_le (by decide)
  obtain ⟨haccepted, hsent, hup, hcontents⟩ := Bus.sendAll_of_room hb.isUp hfits
  have hempty : b.bus.contents = [] := by
    rw [← List.length_eq_zero_iff, Bus.length_contents, hb.pending]
  rw [hempty, List.nil_append] at hcontents
  have hunwarned : warnings ((n.produced b.events).reverse.map .sent) = [] := by
    rw [Notice.warnings, List.filter_map, List.map_eq_nil_iff]
    exact List.filter_eq_nil_iff.mpr fun m _ => Bool.false_ne_true
  -- The frames on the bus are decoded to what was sent.
  have hdecode : ∀ m ∈ (n.produced b.events).reverse, Envelope.decode m.encode = .ok m := by
    intro m hm
    rw [← hitems] at hm
    have hsurvives : m.Survives := Profile.survives_of_emits hp (h.handle.emits.2 m hm)
    exact hsurvives.decode_encode
  simp only [exchange, flush, hitems, Bus.receiveAll_eq]
  constructor
  case accepted => exact haccepted.trans (List.length_reverse)
  case received =>
    rw [hcontents, List.map_map]
    exact List.map_congr_left hdecode
  case warnings => rw [Notice.warnings_append, hsilent, hsent, hunwarned, List.append_nil]
  case outbox => rfl
  case bus => exact ⟨hup, rfl⟩

/-- An exchange starts at a node whose outbox was flushed. -/
theorem exists_of_mem_exchanges {x : Exchange} {batches : List Batch} (h : Reachable p n)
    (houtbox : n.outbox.items = []) (hx : x ∈ n.exchanges batches) :
    ∃ b ∈ batches, ∃ n, Reachable p n ∧ n.outbox.items = [] ∧ x = n.exchange b := by
  induction batches generalizing n with
  | nil => cases hx
  | cons b batches ih =>
    rcases List.mem_cons.mp hx with rfl | hlater
    · exact ⟨b, List.mem_cons_self, n, h, houtbox, rfl⟩
    · have hflushed : Reachable p (n.exchange b).node := .flush Bus.send b.bus h.handle
      obtain ⟨b', hb', hstart⟩ := ih hflushed rfl hlater
      exact ⟨b', List.mem_cons_of_mem b hb', hstart⟩

/-- **Exactly once.**  Let the profile be accepted, and let the events come in batches of no more
than an outbox holds, with a flush into an empty bus after each, whose link is up.  Then each
batch is received as it was produced, the latest envelope first; and with one event to each flush
all is received in the order in which it was produced. -/
theorem exact_exchanges (hp : p.validate = .ok ()) (batches : List Batch)
    (hbatches : ∀ b ∈ batches, b.IsAdmissible) :
    (∀ x ∈ (new p).exchanges batches, x.Exact) ∧
      ((∀ b ∈ batches, b.events.length ≤ 1) →
        ((new p).exchanges batches).flatMap Exchange.received =
          (((new p).exchanges batches).flatMap Exchange.produced).map .ok) := by
  have hexact : ∀ x ∈ (new p).exchanges batches, x.Exact := by
    intro x hx
    obtain ⟨b, hb, n, hn, houtbox, rfl⟩ := exists_of_mem_exchanges .new rfl hx
    exact exact_exchange hp hn houtbox (hbatches b hb)
  refine ⟨hexact, fun hsingle => ?_⟩
  rw [List.map_flatMap]
  refine congrArg List.flatten (List.map_congr_left fun x hx => ?_)
  obtain ⟨b, hb, n, -, -, hxb⟩ := exists_of_mem_exchanges .new rfl hx
  have hone : x.produced.length ≤ 1 := by
    rw [hxb]
    exact Nat.le_trans (length_produced_le b.events) (hsingle b hb)
  have hreverse : x.produced.reverse = x.produced := by
    rcases Nat.le_one_iff_eq_zero_or_eq_one.mp hone with hnone | hsome
    · rw [List.length_eq_zero_iff.mp hnone, List.reverse_nil]
    · obtain ⟨m, hm⟩ := List.length_eq_one_iff.mp hsome
      rw [hm, List.reverse_singleton]
  rw [(hexact x hx).received, hreverse]

/-- On a dark evening someone comes to the door of the veranda, and comes again just after the
climate was measured. -/
theorem exact_exchanges_darkEvening :
    let climate : EnvironmentReading := ⟨Single.zero, none, none, true⟩
    let arrival : Batch := ⟨[(.luminosity ⟨Single.zero, true⟩, 0), (.movement .door, 10)], Bus.new⟩
    let again : Batch := ⟨[(.environment climate, 70000), (.movement .door, 70001)], Bus.new⟩
    let second := ((new .b02).exchange arrival).node.exchange again
    Profile.b02.validate = .ok () ∧ arrival.IsAdmissible ∧ again.IsAdmissible ∧
      second.produced = [Profile.b02.climateReport climate, Profile.b02.lightRequest] ∧
      second.received =
        [.ok Profile.b02.lightRequest, .ok (Profile.b02.climateReport climate)] := by
  intro climate arrival again second
  have hvalid : Profile.b02.validate = .ok () := by rfl
  have hfirst : arrival.IsAdmissible := ⟨by decide, rfl, rfl⟩
  have hsecond : again.IsAdmissible := ⟨by decide, rfl, rfl⟩
  have hproduced :
      second.produced = [Profile.b02.climateReport climate, Profile.b02.lightRequest] := by
    decide +kernel
  have hexact := (exact_exchanges hvalid [arrival, again] (by simp [hfirst, hsecond])).1 second
    (List.mem_cons_of_mem _ List.mem_cons_self)
  refine ⟨hvalid, hfirst, hsecond, hproduced, ?_⟩
  rw [hexact.received, hproduced]
  rfl

end Node

end HomeMesh
