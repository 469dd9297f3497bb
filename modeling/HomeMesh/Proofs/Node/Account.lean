import HomeMesh.Proofs.Node.Exchange
import HomeMesh.Proofs.Node.Run
import Mathlib.Algebra.GroupWithZero.Nat

/-!
# Every envelope is accounted for

An envelope that an event makes a node hand to its outbox has one of five ends: it is taken out on
request, a transport takes it, a transport refuses it, the outbox had no room for it, or it still
waits.  The first two are answered by the node, and the next two are noted (`Notice.isRejection`,
`Notice.isOverflow`).

Each deed of the owner keeps the account: what waited before, and what the deed makes the node hand
over, is as much as what leaves, what is noted as lost, and what waits after (`balance_perform`).
The accounts of a run add up (`balance_undergo`), and at a node's start nothing waits
(`envelopes_accounted`).

An envelope that comes in, or a key of the remote control, makes a node hand over nothing
(`produced_of_isInbound`).  So no number of deliveries makes a node send.
-/

namespace HomeMesh

open Notice (warnings)

namespace Notice

/-- Whether a transport has refused an envelope. -/
def isRejection : Notice → Bool
  | .rejected .. => true
  | _ => false

/-- Whether the outbox had no room for an envelope. -/
def isOverflow : Notice → Bool
  | .outboxFull .. => true
  | _ => false

theorem level_of_isRejection {notice : Notice} (h : notice.isRejection) : notice.level = .warn := by
  cases notice with
  | rejected m fault => rfl
  | _ => cases h

theorem level_of_isOverflow {notice : Notice} (h : notice.isOverflow) : notice.level = .warn := by
  cases notice with
  | outboxFull node command => rfl
  | _ => cases h

/-- Notices that are warnings can be counted among the warnings. -/
theorem countP_eq_countP_warnings {q : Notice → Bool}
    (hq : ∀ {notice : Notice}, q notice → notice.level = .warn) (notices : List Notice) :
    notices.countP q = (warnings notices).countP q := by
  rw [warnings, List.countP_filter]
  refine List.countP_congr fun notice _ => ?_
  rw [Bool.and_eq_true, beq_iff_eq]
  exact (and_iff_left_of_imp hq).symm

end Notice

/-! ## Transports -/

namespace Transport

variable {σ : Type} (send : Transport σ) (state : σ) (ms : List Envelope)

/-- Each envelope that a transport is handed is taken, or noted as refused. -/
theorem length_eq_accepted_add_rejections :
    ms.length =
      (send.sendAll state ms).accepted +
        (send.sendAll state ms).notices.countP Notice.isRejection := by
  induction ms generalizing state with
  | nil => rfl
  | cons m ms ih =>
    unfold sendAll
    split
    next later _ =>
      rw [List.countP_cons_of_neg Bool.false_ne_true, List.length_cons, ih later]
      exact Nat.add_right_comm _ _ _
    next later fault _ =>
      rw [List.countP_cons_of_pos rfl, List.length_cons, ih later]
      rfl

/-- A transport notes nothing about an outbox. -/
theorem countP_isOverflow_sendAll :
    (send.sendAll state ms).notices.countP Notice.isOverflow = 0 := by
  refine List.countP_eq_zero.mpr fun notice hnotice => ?_
  obtain ⟨m, -, rfl | ⟨fault, rfl⟩⟩ := mem_notices_sendAll hnotice
  · exact Bool.false_ne_true
  · exact Bool.false_ne_true

end Transport

namespace Node

variable {σ : Type} {n : Node}

/-! ## One event -/

/-- What a node hands over goes on top of what waits, or is noted to have found no room. -/
theorem balance_react (n : Node) (e : Event) (now : Tick) :
    (n.react e now).offered.toList.length + n.outbox.items.length =
      (n.react e now).notices.countP Notice.isOverflow +
        (n.react e now).node.outbox.items.length := by
  have hwarns : warnings (n.react e now).notices =
      (n.react e now).offered.elim [] (n.outbox.warnings n.id) := warnsOfLoss_react e
  rw [Notice.countP_eq_countP_warnings Notice.level_of_isOverflow, hwarns, outbox_react]
  rcases (n.react e now).offered with _ | m
  · rfl
  · rw [Option.elim_some, Option.elim_some, Outbox.items_offering, Outbox.warnings]
    split
    · rw [List.countP_nil, List.length_cons, Nat.zero_add]
      exact Nat.add_comm _ _
    · rfl

/-- No transport has a part in an event. -/
theorem countP_isRejection_react (e : Event) (now : Tick) :
    (n.react e now).notices.countP Notice.isRejection = 0 := by
  have hwarns : warnings (n.react e now).notices =
      (n.react e now).offered.elim [] (n.outbox.warnings n.id) := warnsOfLoss_react e
  rw [Notice.countP_eq_countP_warnings Notice.level_of_isRejection, hwarns]
  rcases (n.react e now).offered with _ | m
  · rfl
  · rw [Option.elim_some, Outbox.warnings]
    split <;> rfl

/-! ## Deeds and runs -/

/-- The envelopes that a deed makes a node hand to its outbox, be there room for them or not. -/
def handedBy (n : Node) : Deed σ → List Envelope
  | .event e now => (n.react e now).offered.toList
  | .pop | .flush _ => []

/-- The node and the transports after some deeds. -/
def undergo (n : Node) (outside : σ) : List (Deed σ) → Node × σ
  | [] => (n, outside)
  | d :: deeds => (n.perform outside d).1.undergo (n.perform outside d).2.1 deeds

/-- The envelopes that some deeds make a node hand to its outbox, the earliest first. -/
def handed (n : Node) (outside : σ) : List (Deed σ) → List Envelope
  | [] => []
  | d :: deeds => n.handedBy d ++ (n.perform outside d).1.handed (n.perform outside d).2.1 deeds

end Node

/-- How many envelopes have an end that can be seen: each was taken out on request, taken by a
transport, or noted as lost on the one or the other side of the outbox. -/
def Sight.gone (s : Sight) : Nat :=
  s.envelope.toList.length + s.accepted + s.notices.countP Notice.isRejection +
    s.notices.countP Notice.isOverflow

namespace Node

variable {σ : Type} {n : Node}

/-- One deed: what waited and what was handed over is gone, or still waits. -/
theorem balance_perform (outside : σ) (d : Deed σ) :
    (n.handedBy d).length + n.outbox.items.length =
      (n.perform outside d).2.2.gone + (n.perform outside d).1.outbox.items.length := by
  cases d with
  | event e now =>
    have hbalance := n.balance_react e now
    simp only [handedBy, perform, Sight.gone, Option.toList_none, List.length_nil,
      countP_isRejection_react]
    omega
  | pop =>
    simp only [handedBy, perform]
    split
    next m rest hpop =>
      rw [(popMessage?_eq_some hpop).1]
      simp only [Sight.gone, Option.toList_some, List.countP_nil, List.length_cons, List.length_nil]
      omega
    next => rfl
  | flush send =>
    have hsent := Transport.length_eq_accepted_add_rejections send outside n.outbox.items
    simp only [handedBy, perform, flush, Sight.gone, Option.toList_none, List.length_nil,
      Transport.countP_isOverflow_sendAll]
    have hempty : (Bounded.empty : Outbox).items.length = 0 := rfl
    omega

/-- A run: its deeds keep the account one after the other. -/
theorem balance_undergo (outside : σ) (deeds : List (Deed σ)) :
    (n.handed outside deeds).length + n.outbox.items.length =
      ((n.observe outside deeds).2.map Sight.gone).sum +
        (n.undergo outside deeds).1.outbox.items.length := by
  induction deeds generalizing n outside with
  | nil => rfl
  | cons d deeds ih =>
    have hdeed := balance_perform (n := n) outside d
    have hrest := ih (n := (n.perform outside d).1) (n.perform outside d).2.1
    have hseen : (n.observe outside (d :: deeds)).2 = (n.perform outside d).2.2 ::
        ((n.perform outside d).1.observe (n.perform outside d).2.1 deeds).2 := rfl
    rw [hseen, handed, undergo, List.length_append, List.map_cons, List.sum_cons]
    omega

end Node

/-- What is gone in a run, by the end that it came to. -/
theorem Sight.sum_gone (seen : List Sight) :
    (seen.map Sight.gone).sum =
      (seen.filterMap Sight.envelope).length + (seen.map Sight.accepted).sum +
        (seen.flatMap Sight.notices).countP Notice.isRejection +
        (seen.flatMap Sight.notices).countP Notice.isOverflow := by
  induction seen with
  | nil => rfl
  | cons s seen ih =>
    have henvelope : ((s :: seen).filterMap Sight.envelope).length =
        s.envelope.toList.length + (seen.filterMap Sight.envelope).length := by
      rw [List.filterMap_cons]
      rcases s.envelope with _ | m
      · exact (Nat.zero_add _).symm
      · exact Nat.add_comm _ _
    rw [henvelope]
    simp only [List.map_cons, List.sum_cons, List.flatMap_cons, List.countP_append, ih, gone]
    omega

/-! ## What comes from outside -/

/-- Whether an event comes from another node or from the remote control. -/
def Event.isInbound : Event → Bool
  | .message _ | .button _ => true
  | _ => false

namespace Node

variable {n : Node} {events : List (Event × Tick)}

theorem report?_of_isInbound {e : Event} (h : e.isInbound) (now : Tick) :
    n.report? e now = none := by
  cases e with
  | message m => rfl
  | button key => rfl
  | _ => cases h

/-- Whatever comes from outside makes a node hand over nothing, and leaves alone what waits. -/
theorem produced_of_isInbound (h : ∀ event ∈ events, event.1.isInbound) :
    n.produced events = [] ∧ (n.handle events).outbox = n.outbox := by
  induction events generalizing n with
  | nil => exact ⟨rfl, rfl⟩
  | cons event events ih =>
    obtain ⟨e, now⟩ := event
    obtain ⟨hinbound, hrest⟩ := List.forall_mem_cons.mp h
    have hoffered : (n.react e now).offered = none := by
      rw [offered_react]
      exact report?_of_isInbound hinbound now
    have houtbox : (n.react e now).node.outbox = n.outbox := by
      rw [outbox_react, hoffered]
      rfl
    obtain ⟨hproduced, hwaiting⟩ := ih (n := (n.react e now).node) hrest
    rw [produced, handle, hoffered, hproduced, hwaiting, houtbox]
    exact ⟨rfl, rfl⟩

/-! ## The main result -/

/-- **Every envelope is accounted for.**  Whatever is done with a node from its start, and whatever
its transports take or refuse, what it handed to its outbox was taken out on request, was taken by a
transport, was noted as refused by one, was noted to have found no room, or still waits.  Never more
wait than the outbox holds; an event makes the node hand over one envelope at most, be there room
for it or not; and whatever comes from outside, in any number, makes it hand over none. -/
theorem envelopes_accounted (p : Profile) {σ : Type} (outside : σ) (deeds : List (Deed σ)) :
    let n := ((new p).undergo outside deeds).1
    let seen := ((new p).observe outside deeds).2
    let notices := seen.flatMap Sight.notices
    ((new p).handed outside deeds).length =
        (seen.filterMap Sight.envelope).length + (seen.map Sight.accepted).sum +
          notices.countP Notice.isRejection + notices.countP Notice.isOverflow +
          n.outbox.items.length ∧
      n.outbox.items.length ≤ outboxCapacity ∧
      (∀ e now,
        (n.handedBy (Deed.event (σ := σ) e now)).length ≤ 1 ∧
          (n.react e now).notices.countP Notice.isOverflow +
              (n.react e now).node.outbox.items.length =
            (n.handedBy (Deed.event (σ := σ) e now)).length + n.outbox.items.length) ∧
      ∀ events : List (Event × Tick), (∀ event ∈ events, event.1.isInbound) →
        n.produced events = [] ∧ (n.handle events).outbox = n.outbox := by
  intro n seen notices
  refine ⟨?_, n.outbox.length_le, fun e now => ?_, fun events h => produced_of_isInbound h⟩
  · have hbalance := balance_undergo (n := new p) outside deeds
    rw [Sight.sum_gone] at hbalance
    exact hbalance
  · exact ⟨Option.length_toList_le, (n.balance_react e now).symm⟩

/-- A transport that refuses every other envelope. -/
def fickle : Transport Bool := fun refuses _ =>
  (!refuses, if refuses then .error (.transport .busy) else .ok ())

/-- The door of the hall is opened and closed ten times, one report is asked for, and the others are
flushed into a transport that refuses every other one; then the door is opened once more. -/
def busyDoor : List (Deed Bool) :=
  (List.range 10).map (fun i => .event (.door (i % 2 == 0)) 0) ++
    [.pop, .flush fickle, .event (.door true) 500]

/-- Of eleven reports one is taken out, four are taken and three refused, two found no room, and one
still waits.  A request for light and a key of the remote control make it send nothing more. -/
theorem envelopes_accounted_busyDoor :
    let n := ((new .t01).undergo false busyDoor).1
    let seen := ((new .t01).observe false busyDoor).2
    let notices := seen.flatMap Sight.notices
    let inbound : List (Event × Tick) :=
      [(.message Profile.b02.lightRequest, 600), (.button .ok, 600)]
    (seen.filterMap Sight.envelope).length = 1 ∧ (seen.map Sight.accepted).sum = 4 ∧
      notices.countP Notice.isRejection = 3 ∧ notices.countP Notice.isOverflow = 2 ∧
      n.outbox.items.length = 1 ∧ ((new .t01).handed false busyDoor).length = 11 ∧
      (∀ event ∈ inbound, event.1.isInbound) ∧ n.produced inbound = [] := by
  intro n seen notices inbound
  have hpopped : (seen.filterMap Sight.envelope).length = 1 := by decide +kernel
  have haccepted : (seen.map Sight.accepted).sum = 4 := by decide +kernel
  have hrejected : notices.countP Notice.isRejection = 3 := by decide +kernel
  have hoverflowed : notices.countP Notice.isOverflow = 2 := by decide +kernel
  have hwaiting : n.outbox.items.length = 1 := by decide +kernel
  have hinbound : ∀ event ∈ inbound, event.1.isInbound := by decide
  obtain ⟨hbalance, -, -, hproduced⟩ := envelopes_accounted .t01 false busyDoor
  have hhanded : ((new .t01).handed false busyDoor).length = 11 :=
    hbalance.trans (by rw [hpopped, haccepted, hrejected, hoverflowed, hwaiting])
  exact ⟨hpopped, haccepted, hrejected, hoverflowed, hwaiting, hhanded, hinbound,
    (hproduced inbound hinbound).1⟩

end Node

end HomeMesh
