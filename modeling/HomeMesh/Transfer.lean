import HomeMesh.Node

/-!
# Flushing the outbox

`Node.flush` hands every envelope of a node's outbox to a transport, the most recent first.  The
transport answers each one; what it refuses is noted and lost.
-/

namespace HomeMesh

/-- A transport with states `σ`: how it takes an envelope, or why it does not. -/
abbrev Transport (σ : Type) := σ → Envelope → σ × Except Fault Unit

/-- What handing envelopes to a transport leads to. -/
structure Transfer (σ : Type) where
  state : σ
  /-- How many envelopes it took. -/
  accepted : Nat
  notices : List Notice

/-- Hands envelopes to a transport, one after the other. -/
def Transport.sendAll {σ : Type} (send : Transport σ) (state : σ) : List Envelope → Transfer σ
  | [] => ⟨state, 0, []⟩
  | m :: rest =>
    match send state m with
    | (state, .ok ()) =>
      let later := sendAll send state rest
      ⟨later.state, later.accepted + 1, .sent m :: later.notices⟩
    | (state, .error fault) =>
      let later := sendAll send state rest
      ⟨later.state, later.accepted, .rejected m fault :: later.notices⟩

/-- Hands all that waits in the outbox to a transport; the outbox is empty afterwards. -/
def Node.flush {σ : Type} (n : Node) (send : Transport σ) (state : σ) : Node × Transfer σ :=
  ({ n with outbox := .empty }, send.sendAll state n.outbox.items)

end HomeMesh
