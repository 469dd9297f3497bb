import HomeMesh.Proofs.Node.Reaction

/-!
# What a node warns of

Among all that a node notes there is one warning: that the outbox had no room for an envelope, which
is lost.  A reaction that hands an envelope to the outbox notes it just if there is no room, and a
reaction that hands over none does not note it (`Reaction.WarnsOfLoss`).  This holds of each handler
by itself, whatever decides which envelope it makes, and so of all events (`warnsOfLoss_react`).
-/

namespace HomeMesh

/-- The notices of a list that are warnings. -/
def Notice.warnings (notices : List Notice) : List Notice :=
  notices.filter fun notice => notice.level == .warn

theorem Notice.warnings_append (earlier later : List Notice) :
    warnings (earlier ++ later) = warnings earlier ++ warnings later :=
  List.filter_append earlier later

/-- The warning that there was no room for an envelope. -/
def Outbox.warnings (box : Outbox) (node : NodeId) (m : Envelope) : List Notice :=
  if box.items.length < outboxCapacity then [] else [.outboxFull node m.command]

open Notice (warnings)

namespace Reaction

variable {r : Reaction} {n : Node} {notice : Notice}

/-- A node warns of the envelope that it hands to its outbox, if there is no room for it, and of
nothing else. -/
def WarnsOfLoss (r : Reaction) (n : Node) : Prop :=
  warnings r.notices = r.offered.elim [] (n.outbox.warnings n.id)

theorem WarnsOfLoss.noting (h : r.WarnsOfLoss n) (hlevel : (notice.level == .warn) = false) :
    (r.noting notice).WarnsOfLoss n := by
  have hnoting : warnings (notice :: r.notices) = warnings r.notices :=
    List.filter_cons_of_neg (Bool.eq_false_iff.mp hlevel)
  exact hnoting.trans h

theorem WarnsOfLoss.of_room (h : r.WarnsOfLoss n)
    (hroom : n.outbox.items.length < outboxCapacity) : warnings r.notices = [] := by
  rw [h]
  rcases r.offered with _ | m
  · rfl
  · exact if_pos hroom

end Reaction

namespace Node

variable {n : Node} {now : Tick}

theorem warnsOfLoss_offer (m : Envelope) : (n.offer m).WarnsOfLoss n := by
  show warnings (n.offer m).notices = (n.offer m).offered.elim [] (n.outbox.warnings n.id)
  rw [offered_offer, Option.elim_some]
  unfold offer Outbox.push? Bounded.cons? Bounded.ofList? Outbox.warnings
  by_cases h : n.outbox.items.length < outboxCapacity
  · have hroom : (m :: n.outbox.items).length ≤ outboxCapacity := h
    rw [dif_pos hroom, if_pos h]
    rfl
  · have hfull : ¬ (m :: n.outbox.items).length ≤ outboxCapacity := h
    rw [dif_neg hfull, if_neg h]
    rfl

/-! ## Movements -/

theorem warnsOfLoss_requestLight (action : MovementAction) :
    (n.requestLight action).WarnsOfLoss n := by
  unfold requestLight
  split
  · exact (warnsOfLoss_offer _).noting rfl
  · rfl

theorem warnsOfLoss_moveInSilence (action : MovementAction) :
    (n.moveInSilence action now).WarnsOfLoss n := by
  unfold moveInSilence
  rw [reopenLight_eq]
  cases n.isLightRunning now with
  | true => rfl
  | false =>
    have hrequest := warnsOfLoss_requestLight action
      (n := { n with windows := { n.windows with light := .openedAt now } })
    cases action.wakeDisplay with
    | false => exact hrequest
    | true =>
      -- That the display is woken is no warning.
      have hwoken (notices : List Notice) :
          warnings (notices ++ [.displayWoken n.id now]) = warnings notices := by
        rw [Notice.warnings_append]
        exact List.append_nil _
      exact (hwoken _).trans hrequest

theorem warnsOfLoss_moveOnGuard : (n.moveOnGuard now).WarnsOfLoss n := by
  unfold moveOnGuard
  rw [reopenIntrusion_eq]
  cases n.isIntrusionRunning now with
  | true => rfl
  | false =>
    have hreport := warnsOfLoss_offer
      (.switch n.id n.profile.intrusionTargets.items .setIntrusion .on)
      (n := { n with
        windows := { n.windows with light := .openedAt now, intrusion := .openedAt now } })
    exact hreport.noting rfl

theorem warnsOfLoss_move (action : MovementAction) : (n.move action now).WarnsOfLoss n := by
  unfold move
  cases n.mode with
  | silence => exact warnsOfLoss_moveInSilence action
  | guard => exact warnsOfLoss_moveOnGuard
  | alarm => rfl

/-! ## Envelopes -/

theorem warnsOfLoss_obey (m : Envelope) : (n.obey m now).WarnsOfLoss n := by
  unfold obey
  cases m.command with
  | setMode =>
    simp only [obeyMode]
    cases Mode.ofValue? m.value0 <;> rfl
  | setIntrusion =>
    simp only [obeyIntrusion, reopenIntrusion_eq]
    cases m.switchValue <;> cases n.isIntrusionRunning now <;> rfl
  | setLight =>
    simp only [obeyLight]
    cases m.switchValue <;> rfl
  | setWarning =>
    simp only [obeyWarning]
    cases n.profile.comfort.isSome <;> rfl
  | updateTemperature | updateHumidity | updateDoorState => rfl

/-! ## Any event -/

/-- At any event a node warns of an envelope that it makes and has no room for, and of nothing
else. -/
theorem warnsOfLoss_react (e : Event) : (n.react e now).WarnsOfLoss n := by
  cases e with
  | luminosity reading => rfl
  | environment reading =>
    simp only [react, observeEnvironment]
    split
    · exact warnsOfLoss_offer _
    · rfl
  | door isOpen =>
    simp only [react, observeDoor]
    split
    · rfl
    · exact warnsOfLoss_offer _
  | movement input =>
    simp only [react, observeMovement]
    split
    · rfl
    · exact warnsOfLoss_move _
  | button key => rfl
  | message m =>
    simp only [react, receive]
    split
    · exact warnsOfLoss_obey m
    · rfl

end Node

end HomeMesh
