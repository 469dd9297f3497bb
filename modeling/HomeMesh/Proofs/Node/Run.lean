import HomeMesh.Node.Events
import HomeMesh.Transfer

/-!
# Runs of a node

Whoever owns a node hands it one `Call` after the other: an event at some time, the request for an
envelope, or a restart.  `Node.run` is what a sequence of calls leads to, together with every
answer on the way.

The time of a call is a parameter.  A node itself is called at ticks of its 32-bit counter; the same
calls at times of a clock that never wraps serve to say what the node should have done.

Besides calls the owner flushes the outbox into transports, whose states are outside of the node.
`Node.observe` is all that can be seen of a node while its owner goes on in some way (`Deed`): what
it answers, hands to the transports, notes, and wants of its outputs at any tick in between.

`Node.Lived` looks at a run from its end.  It says what a node has become and through which events
since its last start, however these were mixed with requests and flushes.
-/

namespace HomeMesh

/-- What a node is called to do, where events come at times of some clock. -/
inductive Call (τ : Type) where
  | event (e : Event) (now : τ)
  /-- The most recent envelope is taken out of the outbox. -/
  | pop
  | reset
deriving DecidableEq

/-- What a node answers to a call. -/
inductive Answer where
  /-- When the sensor that the event came from is to be polled next. -/
  | delay (d : Option Duration)
  /-- The envelope that was taken out of the outbox, if there was one. -/
  | envelope (m : Option Envelope)
  | started
deriving DecidableEq

namespace Call

variable {σ τ : Type}

/-- The same call on another clock. -/
def map (f : σ → τ) : Call σ → Call τ
  | event e now => event e (f now)
  | pop => pop
  | reset => reset

/-- The time of an event. -/
def time? : Call τ → Option τ
  | event _ now => some now
  | pop | reset => none

/-- The times of the events among some calls. -/
def times (calls : List (Call τ)) : List τ := calls.filterMap time?

theorem times_cons (c : Call τ) (calls : List (Call τ)) :
    times (c :: calls) = c.time?.toList ++ times calls := by
  cases c <;> rfl

theorem times_append (calls later : List (Call τ)) :
    times (calls ++ later) = times calls ++ times later := List.filterMap_append

section Order

variable [LE τ] {past t : τ} {c : Call τ} {calls : List (Call τ)}

/-- If the times of some calls are in order and none is before `past`, then the same is true of the
calls after the first one and its time. -/
theorem ordered_of_cons (hlate : ∀ t ∈ times (c :: calls), past ≤ t)
    (hordered : (times (c :: calls)).Pairwise (· ≤ ·)) :
    (∀ t, c.time? = some t → past ≤ t) ∧ (∀ t ∈ times calls, c.time?.getD past ≤ t) ∧
      (times calls).Pairwise (· ≤ ·) := by
  rw [times_cons] at hlate hordered
  refine ⟨fun t ht => hlate t (by simp [ht]), ?_, (List.pairwise_append.mp hordered).2.1⟩
  intro t ht
  cases hc : c.time? with
  | none => exact hlate t (List.mem_append_right _ ht)
  | some s =>
    rw [hc] at hordered
    exact (List.pairwise_append.mp hordered).2.2 s (List.mem_singleton_self s) t ht

/-- A time that no call is after is not before the first call. -/
theorem le_of_cons (ht : past ≤ t) (hall : ∀ s ∈ times (c :: calls), s ≤ t) :
    c.time?.getD past ≤ t ∧ ∀ s ∈ times calls, s ≤ t := by
  rw [times_cons] at hall
  refine ⟨?_, fun s hs => hall s (List.mem_append_right _ hs)⟩
  cases hc : c.time? with
  | none => exact ht
  | some s => exact hall s (by simp [hc])

end Order

end Call

namespace Node

/-- The node after a call, and its answer. -/
def call (n : Node) : Call Tick → Node × Answer
  | .event e now => ((n.react e now).node, .delay (n.react e now).delay)
  | .pop =>
    match n.popMessage? with
    | some (m, rest) => (rest, .envelope (some m))
    | none => (n, .envelope none)
  | .reset => (n.reset.node, .started)

/-- The node after some calls, and its answers in order. -/
def run (n : Node) : List (Call Tick) → Node × List Answer
  | [] => (n, [])
  | c :: calls => ((run (n.call c).1 calls).1, (n.call c).2 :: (run (n.call c).1 calls).2)

theorem run_append (n : Node) (calls later : List (Call Tick)) :
    (n.run (calls ++ later)).1 = ((n.run calls).1.run later).1 := by
  induction calls generalizing n with
  | nil => rfl
  | cons c calls ih => exact ih (n.call c).1

/-- Taking an envelope out changes nothing but the outbox. -/
theorem call_pop (n : Node) : ∃ outbox, (n.call .pop).1 = { n with outbox := outbox } := by
  simp only [call, popMessage?]
  cases Outbox.pop? n.outbox with
  | none => exact ⟨n.outbox, rfl⟩
  | some popped => exact ⟨popped.2, rfl⟩

end Node

/-! ## What has happened to a node -/

/-- What a node with the profile `p` may become through the events `past`, each at its tick,
whatever else is done to it in between.  When it is started anew, what was before is no longer its
past. -/
inductive Node.Lived (p : Profile) : List (Event × Tick) → Node → Prop
  | new : Lived p [] (new p)
  | event {past : List (Event × Tick)} {n : Node} (e : Event) (now : Tick) :
    Lived p past n → Lived p (past ++ [(e, now)]) (n.react e now).node
  | pop {past : List (Event × Tick)} {n rest : Node} {m : Envelope} :
    Lived p past n → n.popMessage? = some (m, rest) → Lived p past rest
  | flush {past : List (Event × Tick)} {n : Node} {σ : Type} (send : Transport σ) (state : σ) :
    Lived p past n → Lived p past (n.flush send state).1
  | reset {past : List (Event × Tick)} {n : Node} : Lived p past n → Lived p [] n.reset.node

/-! ## What can be seen of a node -/

/-- What the owner of a node does with it, where `σ` are the states of the transports. -/
inductive Deed (σ : Type) where
  | event (e : Event) (now : Tick)
  | pop
  /-- The outbox is flushed into a transport. -/
  | flush (send : Transport σ)

/-- What can be seen of a deed. -/
structure Sight where
  delay : Option Duration := none
  /-- The envelope that was taken out of the outbox. -/
  envelope : Option Envelope := none
  /-- How many envelopes a flush answers that the transport took. -/
  accepted : Nat := 0
  notices : List Notice := []
  /-- What the node wants of its outputs at each tick from then on. -/
  outputs : Tick → ActuatorState

namespace Node

variable {σ : Type}

/-- The node and the transports after a deed, and what can be seen of it. -/
def perform (n : Node) (outside : σ) : Deed σ → Node × σ × Sight
  | .event e now =>
    let r := n.react e now
    (r.node, outside,
      { delay := r.delay, notices := r.notices, outputs := r.node.actuators })
  | .pop =>
    match n.popMessage? with
    | some (m, rest) => (rest, outside, { envelope := some m, outputs := rest.actuators })
    | none => (n, outside, { outputs := n.actuators })
  | .flush send =>
    let (rest, transfer) := n.flush send outside
    (rest, transfer.state,
      { accepted := transfer.accepted, notices := transfer.notices, outputs := rest.actuators })

/-- The transports after some deeds, and what can be seen of each of them. -/
def observe (n : Node) (outside : σ) : List (Deed σ) → σ × List Sight
  | [] => (outside, [])
  | d :: deeds =>
    let (rest, later, sight) := n.perform outside d
    let seen := rest.observe later deeds
    (seen.1, sight :: seen.2)

/-- Nobody can tell two nodes apart, whatever is done with them: not by the outputs, and not by
anything that is answered, noted or handed to a transport from then on. -/
def Indistinguishable (n n' : Node) : Prop :=
  (∀ t, n.actuators t = n'.actuators t) ∧
    ∀ {σ : Type} (outside : σ) (deeds : List (Deed σ)),
      n.observe outside deeds = n'.observe outside deeds

theorem Indistinguishable.refl (n : Node) : n.Indistinguishable n :=
  ⟨fun _ => rfl, fun _ _ => rfl⟩

end Node

end HomeMesh
