import HomeMesh.Proofs.Node.Spacing
import Mathlib.Data.List.Forall2

/-!
# Sensors that do the same

All that a node knows of a movement sensor is what its profile binds it to, and of several bindings
of one sensor the first one counts.  So movements on two sensors for which this look-up gives the
same are alike (`Event.Alike`): whatever the mode and the windows, they make the same of every part
of the node and the same envelope (`after_eq_of_alike`).

No call changes the profile.  Hence two runs of which the calls are alike one by one never part
(`run_eq_of_alike`): they lead through the same states, and all answers are the same.  At the
veranda the door and the front sensor are such a pair (`alike_door_front`).
-/

namespace HomeMesh

/-- What a node with this profile takes for the same: an event and itself, and movements on sensors
that do the same. -/
inductive Event.Alike (p : Profile) : Event → Event → Prop
  | refl (e : Event) : Alike p e e
  | movement {a b : MovementInput} :
    p.movementAction? a = p.movementAction? b → Alike p (.movement a) (.movement b)

/-- The same calls at the same ticks, but that events may be exchanged for others that a node with
this profile takes for the same. -/
inductive Call.Alike (p : Profile) : Call Tick → Call Tick → Prop
  | event {e e' : Event} (now : Tick) : e.Alike p e' → Alike p (.event e now) (.event e' now)
  | pop : Alike p .pop .pop
  | reset : Alike p .reset .reset

/-- At the veranda a movement at the door does the same as one in front of the house. -/
theorem Profile.alike_door_front : (Event.movement .door).Alike .b02 (.movement .front) :=
  .movement (by decide)

namespace Node

variable {n : Node} {e e' : Event} {c c' : Call Tick} {calls calls' : List (Call Tick)}

/-- Alike events make the same of a node, and are answered by the same delay. -/
theorem after_eq_of_alike (h : e.Alike n.profile e') (now : Tick) :
    n.after e now = n.after e' now ∧ n.delayAfter e = n.delayAfter e' := by
  cases h with
  | refl => exact ⟨rfl, rfl⟩
  | @movement a b hsame =>
    have hfate : n.fate (.movement a) now = n.fate (.movement b) now := by
      funext k
      simp only [fate, hsame]
    have hreport : n.report? (.movement a) now = n.report? (.movement b) now := by
      simp only [report?, hsame]
    have hwindows : n.windowsAfter (.movement a) now = n.windowsAfter (.movement b) now := by
      rw [windowsAfter, windowsAfter, hfate]
    rw [after, after, hwindows, hreport]
    exact ⟨rfl, rfl⟩

theorem call_eq_of_alike (h : c.Alike n.profile c') : n.call c = n.call c' := by
  cases h with
  | event now halike =>
    obtain ⟨hnode, hdelay⟩ := after_eq_of_alike halike now
    rw [call, call, node_react, node_react, delay_react, delay_react, hnode, hdelay]
  | pop | reset => rfl

/-- Runs of alike calls lead to the same node through the same answers. -/
theorem run_eq_of_alike (h : List.Forall₂ (Call.Alike n.profile) calls calls') :
    n.run calls = n.run calls' := by
  induction calls generalizing n calls' with
  | nil =>
    cases h
    rfl
  | cons c calls ih =>
    obtain ⟨c', calls', hfirst, hlater, rfl⟩ := List.forall₂_cons_left_iff.mp h
    rw [← profile_call c] at hlater
    rw [run, run, ← call_eq_of_alike hfirst, ih hlater]

/-- **Sensors that do the same are interchangeable.**  In any state of a node, take two runs of
which the calls are alike one by one: any of the movements in the first run may be movements on
another sensor in the second, as long as the profile finds the same action for both.  Then after
every step both have led to the same node and have given the same answers, among them the envelopes
that were taken out; and so the outputs are the same at every tick. -/
theorem runs_agree_of_alike (n : Node) (h : List.Forall₂ (Call.Alike n.profile) calls calls')
    (k : ℕ) :
    n.run (calls.take k) = n.run (calls'.take k) ∧
      ∀ t, (n.run (calls.take k)).1.actuators t = (n.run (calls'.take k)).1.actuators t := by
  have hsame : n.run (calls.take k) = n.run (calls'.take k) :=
    run_eq_of_alike (List.forall₂_take k h)
  exact ⟨hsame, fun t => by rw [hsame]⟩

/-- Somebody comes to the dark veranda twice, and once more when it is on guard.  Which of the times
this is at the door and which of them in front of the house does not matter. -/
theorem runs_agree_of_alike_veranda :
    let visits (first second third : MovementInput) : List (Call Tick) :=
      [.event (.luminosity ⟨.zero, true⟩) 0, .event (.movement first) 50, .pop,
        .event (.movement second) 60051,
        .event (.message (Profile.b02.order .setMode Mode.guard.value)) 60100,
        .event (.movement third) 60200, .pop]
    List.Forall₂ (Call.Alike .b02) (visits .door .door .door) (visits .front .door .front) ∧
      (new .b02).run (visits .door .door .door) = (new .b02).run (visits .front .door .front) ∧
      ((new .b02).run (visits .front .door .front)).2 =
        [.delay (some 1000), .delay none, .envelope (some Profile.b02.lightRequest), .delay none,
          .delay none, .delay none, .envelope (some Profile.b02.intrusionReport)] := by
  intro visits
  have halike : List.Forall₂ (Call.Alike .b02) (visits .door .door .door)
      (visits .front .door .front) :=
    .cons (.event 0 (.refl _)) (.cons (.event 50 Profile.alike_door_front) (.cons .pop
      (.cons (.event 60051 (.refl _)) (.cons (.event 60100 (.refl _))
        (.cons (.event 60200 Profile.alike_door_front) (.cons .pop .nil))))))
  exact ⟨halike, (runs_agree_of_alike (new .b02) halike 7).1, by decide +kernel⟩

end Node

end HomeMesh
