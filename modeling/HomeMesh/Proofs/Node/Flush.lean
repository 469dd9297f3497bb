import HomeMesh.Proofs.Bus.History
import HomeMesh.Proofs.Node.Emission
import HomeMesh.Proofs.Node.Warnings

/-!
# Flushing drains the outbox

A flush is a loop: as long as the outbox gives out an envelope, the envelope is handed to the
transport, and whatever the transport answers, the loop goes on (`Node.Flushes`).  Nothing is
assumed of the transport.  Its answers may depend on all that it was handed before, and it may refuse
any of it.

Every round takes an envelope out of the outbox, so the loop ends, and `Node.flush` is what it comes
to (`flushes_flush`).  The handovers are those of all that waited, each once and the most recent
first; they tell the answer of the flush and what it notes (`accepted_sendAll`, `notices_sendAll`).

A bus takes nothing while its link is down, and as much as it has room for while its link is up.
-/

namespace HomeMesh

open Notice (warnings)

/-- An envelope that a transport was handed, and the answer of the transport. -/
structure Handover where
  envelope : Envelope
  answer : Except Fault Unit

namespace Handover

/-- Whether the transport took the envelope. -/
def isAccepted (h : Handover) : Bool := h.answer.isOk

/-- What is noted of a handover. -/
def notice (h : Handover) : Notice :=
  match h.answer with
  | .ok () => .sent h.envelope
  | .error fault => .rejected h.envelope fault

/-- A handover is warned of just if the transport refused. -/
theorem level_notice (h : Handover) : (h.notice.level == .warn) = !h.isAccepted := by
  obtain ⟨m, answer⟩ := h
  cases answer <;> rfl

end Handover

/-- The rounds of a flush: from a node and a state of the transport, through some handovers, to the
node and the state with which the loop ends. -/
inductive Node.Flushes {σ : Type} (send : Transport σ) :
    Node → σ → List Handover → Node → σ → Prop
  | done {n : Node} {state : σ} : n.popMessage? = none → Flushes send n state [] n state
  | round {n rest last : Node} {m : Envelope} {state later final : σ}
    {answer : Except Fault Unit} {calls : List Handover} :
    n.popMessage? = some (m, rest) → send state m = (later, answer) →
      Flushes send rest later calls last final →
      Flushes send n state (⟨m, answer⟩ :: calls) last final

/-! ## Any transport -/

namespace Transport

variable {σ : Type} (send : Transport σ) (state : σ) (ms : List Envelope)

/-- The handovers of some envelopes, one after the other. -/
def handovers (state : σ) : List Envelope → List Handover
  | [] => []
  | m :: ms => ⟨m, (send state m).2⟩ :: handovers (send state m).1 ms

theorem map_envelope_handovers : (send.handovers state ms).map Handover.envelope = ms := by
  induction ms generalizing state with
  | nil => rfl
  | cons m ms ih => rw [handovers, List.map_cons, ih]

/-- The first envelope is handed over in the present state, the others in the state that this leads
to. -/
theorem sendAll_cons (m : Envelope) :
    (send.sendAll state (m :: ms)).state = (send.sendAll (send state m).1 ms).state ∧
      (send.sendAll state (m :: ms)).accepted =
        (send.sendAll (send state m).1 ms).accepted + ((send state m).2.isOk).toNat ∧
      (send.sendAll state (m :: ms)).notices =
        Handover.notice ⟨m, (send state m).2⟩ :: (send.sendAll (send state m).1 ms).notices := by
  rw [sendAll]
  obtain ⟨later, answer⟩ := send state m
  cases answer <;> exact ⟨rfl, rfl, rfl⟩

theorem accepted_sendAll :
    (send.sendAll state ms).accepted = (send.handovers state ms).countP Handover.isAccepted := by
  induction ms generalizing state with
  | nil => rfl
  | cons m ms ih =>
    obtain ⟨-, haccepted, -⟩ := send.sendAll_cons state ms m
    rw [haccepted, ih, handovers, List.countP_cons, Handover.isAccepted]
    cases (send state m).2.isOk <;> rfl

theorem notices_sendAll :
    (send.sendAll state ms).notices = (send.handovers state ms).map Handover.notice := by
  induction ms generalizing state with
  | nil => rfl
  | cons m ms ih =>
    obtain ⟨-, -, hnotices⟩ := send.sendAll_cons state ms m
    rw [hnotices, ih, handovers, List.map_cons]

/-- There is one warning for each refusal, and no other. -/
theorem warnings_sendAll :
    warnings (send.sendAll state ms).notices =
      ((send.handovers state ms).filter fun h => !h.isAccepted).map Handover.notice := by
  rw [notices_sendAll, Notice.warnings, List.filter_map]
  exact congrArg _ (List.filter_congr fun h _ => h.level_notice)

end Transport

namespace Node

variable {σ : Type} (send : Transport σ)

/-- The loop of a flush ends after the handovers of all that waited, with an empty outbox and a node
that is otherwise unchanged. -/
theorem flushes_flush (n : Node) (state : σ) :
    Flushes send n state (send.handovers state n.outbox.items)
      { n with outbox := .empty } (send.sendAll state n.outbox.items).state := by
  obtain ⟨profile, mode, sensors, windows, warningEnabled, ⟨items, hlength⟩⟩ := n
  induction items generalizing state with
  | nil => exact .done rfl
  | cons m items ih =>
    obtain ⟨hstate, -⟩ := send.sendAll_cons state items m
    rw [hstate]
    exact .round rfl rfl (ih (send state m).1 (Nat.le_of_succ_le hlength))

end Node

/-! ## A bus -/

namespace Bus

variable (b : Bus) (ms : List Envelope)

/-- Sending leaves the link as it is, and every envelope that is taken adds a frame. -/
theorem sendAll_grows :
    (Bus.send.sendAll b ms).state.isUp = b.isUp ∧
      (Bus.send.sendAll b ms).state.pending = b.pending + (Bus.send.sendAll b ms).accepted := by
  induction ms generalizing b with
  | nil => exact ⟨rfl, rfl⟩
  | cons m ms ih =>
    obtain ⟨fault, hput⟩ | ⟨b', hput, hup, hcontents⟩ := put_cases b (.envelope m)
    · have hsend : Bus.send b m = (b, .error fault) := hput
      simp only [Transport.sendAll, hsend]
      exact ih b
    · have hsend : Bus.send b m = (b', .ok ()) := hput
      have hpending : b'.pending = b.pending + 1 := by
        rw [← length_contents, hcontents, List.length_append, length_contents]
        rfl
      obtain ⟨hlink, hsum⟩ := ih b'
      simp only [Transport.sendAll, hsend]
      exact ⟨hlink.trans hup, by omega⟩

theorem sendAll_of_down (hdown : b.isUp = false) :
    (Bus.send.sendAll b ms).state = b ∧ (Bus.send.sendAll b ms).accepted = 0 := by
  induction ms with
  | nil => exact ⟨rfl, rfl⟩
  | cons m ms ih =>
    simp only [Transport.sendAll, send_of_down m hdown]
    exact ih

/-- How many of some envelopes a bus takes: those for which it has free places while its link is up,
and none while it is down. -/
def room (count : Nat) : Nat := if b.isUp then min (busDepth - b.pending) count else 0

/-- A bus takes the first of some envelopes, as many as it has room for, and puts them behind what
it holds. -/
theorem sendAll_eq :
    (Bus.send.sendAll b ms).accepted = b.room ms.length ∧
      (Bus.send.sendAll b ms).state.contents =
        b.contents ++ (ms.take (b.room ms.length)).map Envelope.encode := by
  cases hlink : b.isUp with
  | false =>
    obtain ⟨hstate, haccepted⟩ := sendAll_of_down b ms hlink
    have hnone : b.room ms.length = 0 := by rw [room, hlink, if_neg Bool.false_ne_true]
    rw [hstate, haccepted, hnone, List.take_zero, List.map_nil, List.append_nil]
    exact ⟨rfl, rfl⟩
  | true =>
    have hcontents : (Bus.send.sendAll b ms).state.contents =
        b.contents ++ (ms.take (busDepth - b.pending)).map Envelope.encode :=
      contents_sendAll hlink
    have hroom : b.room ms.length = min (busDepth - b.pending) ms.length := by
      rw [room, hlink, if_pos rfl]
    have hlength := congrArg List.length hcontents
    rw [length_contents, List.length_append, length_contents, List.length_map, List.length_take]
      at hlength
    obtain ⟨-, hsum⟩ := sendAll_grows b ms
    refine ⟨by omega, ?_⟩
    rw [hcontents, hroom, ← List.take_eq_take_min]

end Bus

/-! ## The main result -/

/-- **A flush drains the outbox.**  In any state of a node and with any transport, the loop of the
flush ends.  It hands over each envelope that waits, once and the most recent first.  The answer is
the number of envelopes that the transport took; every handover is noted, and those that were
refused are all that is warned of.  The outbox is empty afterwards and the rest of the node is as it
was.

A bus takes nothing while its link is down.  While its link is up it takes the most recent envelopes
up to its free places, and these stand in this order behind what it held before. -/
theorem Node.flush_drains (n : Node) :
    (∀ {σ : Type} (send : Transport σ) (state : σ),
      let (last, transfer) := n.flush send state
      ∃ calls : List Handover,
        Flushes send n state calls last transfer.state ∧
          calls.map Handover.envelope = n.outbox.items ∧
          transfer.accepted = calls.countP Handover.isAccepted ∧
          transfer.notices = calls.map Handover.notice ∧
          warnings transfer.notices = (calls.filter fun h => !h.isAccepted).map Handover.notice ∧
          last = { n with outbox := .empty }) ∧
    ∀ b : Bus,
      let transfer := (n.flush Bus.send b).2
      let count := b.room n.outbox.items.length
      transfer.accepted = count ∧ transfer.state.isUp = b.isUp ∧
        transfer.state.contents =
          b.contents ++ (n.outbox.items.take count).map Envelope.encode := by
  refine ⟨fun send state => ?_, fun b => ?_⟩
  · exact ⟨send.handovers state n.outbox.items, flushes_flush send n state,
      send.map_envelope_handovers state _, send.accepted_sendAll state _,
      send.notices_sendAll state _, send.warnings_sendAll state _, rfl⟩
  · obtain ⟨haccepted, hcontents⟩ := b.sendAll_eq n.outbox.items
    exact ⟨haccepted, (b.sendAll_grows _).1, hcontents⟩

end HomeMesh
