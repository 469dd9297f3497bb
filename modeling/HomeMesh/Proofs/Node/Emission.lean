import HomeMesh.Proofs.Bus
import HomeMesh.Proofs.Node.Run
import HomeMesh.Proofs.Node.Step
import HomeMesh.Proofs.Profile.Validation

/-!
# What leaves a node

A node sends reports of its sensors to the hub, requests for light to its light peer and reports of
intrusions to its intrusion targets, and nothing else (`Profile.Emits`).  So much holds of each
event (`emits_of_report?`), and therefore of everything that waits in the outbox at any time
(`emits_of_reachable`).

An accepted profile has an intrusion target, so that every envelope of the node names somebody.
Hence all of them come through the wire as they are (`survives_of_emits`).
-/

namespace HomeMesh

/-! ## The envelopes of a profile -/

/-- An envelope that a node with this profile may send. -/
structure Profile.Emits (p : Profile) (m : Envelope) : Prop where
  source : m.source = p.id
  /-- Whom it is for, and what it asks for. -/
  form : match m.command with
    | .updateTemperature | .updateHumidity | .updateDoorState => m.destinations.items = [p.hub]
    | .setLight => m.value0 = 1 ∧ m.destinations.items = [p.lightPeer]
    | .setIntrusion => m.value0 = 1 ∧ m.destinations = p.intrusionTargets
    | .setMode | .setWarning => False

namespace Profile

variable {p : Profile} {m : Envelope}

theorem emits_climateReport (reading : EnvironmentReading) : p.Emits (p.climateReport reading) := by
  refine ⟨rfl, ?_⟩
  unfold climateReport
  cases reading.humidity <;> rfl

theorem emits_doorReport (isOpen : Bool) : p.Emits (p.doorReport isOpen) := ⟨rfl, rfl⟩

theorem emits_lightRequest : p.Emits p.lightRequest := ⟨rfl, rfl, rfl⟩

theorem emits_intrusionReport : p.Emits p.intrusionReport := ⟨rfl, rfl, rfl⟩

theorem Emits.destinations_ne_nil (hp : p.validate = .ok ()) (h : p.Emits m) :
    m.destinations.items ≠ [] := by
  have hform := h.form
  cases hcommand : m.command <;> simp only [hcommand] at hform
  case setIntrusion => exact hform.2 ▸ intrusionTargets_ne_nil hp
  case setLight => simp [hform.2]
  case updateTemperature | updateHumidity | updateDoorState => simp [hform]

end Profile

/-- An envelope fits into a frame, and comes out of it as it was. -/
def Envelope.Survives (m : Envelope) : Prop :=
  ∃ bytes, m.encodeInto maxFrameLength = .ok bytes ∧ Envelope.decode bytes = .ok m

theorem Envelope.survives_of_ne_nil {m : Envelope} (h : m.destinations.items ≠ []) :
    m.Survives := by
  refine ⟨m.encode, encodeInto_frame m, ?_⟩
  rw [decode_encode, if_neg]
  rwa [Bounded.isEmpty, List.isEmpty_iff]

theorem Envelope.Survives.decode_encode {m : Envelope} (h : m.Survives) :
    Envelope.decode m.encode = .ok m := by
  obtain ⟨bytes, hencode, hdecode⟩ := h
  rw [encodeInto_frame] at hencode
  rwa [Except.ok.inj hencode]

theorem Profile.survives_of_emits {p : Profile} {m : Envelope} (hp : p.validate = .ok ())
    (h : p.Emits m) : m.Survives :=
  Envelope.survives_of_ne_nil (h.destinations_ne_nil hp)

namespace Node

variable {n : Node} {now : Tick} {e : Event} {m : Envelope}

/-! ## One event -/

/-- Whatever an event makes a node send is one of the envelopes of its profile. -/
theorem emits_of_report? (h : n.report? e now = some m) : n.profile.Emits m := by
  cases e with
  | luminosity reading => cases h
  | environment reading =>
    obtain ⟨-, hm⟩ := Option.ite_none_right_eq_some.mp h
    rw [← Option.some.inj hm]
    exact Profile.emits_climateReport reading
  | door isOpen =>
    obtain ⟨-, hm⟩ := Option.ite_none_right_eq_some.mp h
    rw [← Option.some.inj hm]
    exact Profile.emits_doorReport isOpen
  | movement input =>
    rw [report?] at h
    split at h
    · cases h
    · split at h
      · -- In silence the light peer may be asked for light.
        obtain ⟨-, hdark⟩ := Option.ite_none_left_eq_some.mp h
        obtain ⟨-, hm⟩ := Option.ite_none_right_eq_some.mp hdark
        rw [← Option.some.inj hm]
        exact Profile.emits_lightRequest
      · -- On guard the intrusion is reported.
        obtain ⟨-, hm⟩ := Option.ite_none_left_eq_some.mp h
        rw [← Option.some.inj hm]
        exact Profile.emits_intrusionReport
      · cases h
  | button key => cases h
  | message m => cases h

/-- Nothing that happens to a node makes it send a mode command. -/
theorem report?_ne_setMode (h : n.report? e now = some m) : m.command ≠ .setMode := by
  intro hcommand
  have hform := (emits_of_report? h).form
  rw [hcommand] at hform
  exact hform

theorem mem_outbox_after (h : m ∈ (n.after e now).outbox.items) :
    m ∈ n.outbox.items ∨ n.report? e now = some m := by
  cases hreport : n.report? e now with
  | none =>
    simp only [after, hreport, Option.elim_none] at h
    exact Or.inl h
  | some report =>
    simp only [after, hreport, Option.elim_some, Outbox.items_offering] at h
    split at h
    · rw [List.mem_cons] at h
      exact h.symm.imp_right fun heq => congrArg some heq.symm
    · exact Or.inl h

/-! ## Runs -/

/-- What a node with this profile may become, whatever happens to it and to whichever transport it
flushes its outbox. -/
inductive Reachable (p : Profile) : Node → Prop
  | new : Reachable p (new p)
  | event {n : Node} (e : Event) (now : Tick) : Reachable p n → Reachable p (n.react e now).node
  | pop {n rest : Node} {m : Envelope} :
    Reachable p n → n.popMessage? = some (m, rest) → Reachable p rest
  | flush {n : Node} {σ : Type} (send : Transport σ) (state : σ) :
    Reachable p n → Reachable p (n.flush send state).1

theorem popMessage?_eq_some {rest : Node} (h : n.popMessage? = some (m, rest)) :
    n.outbox.items = m :: rest.outbox.items ∧ rest = { n with outbox := rest.outbox } := by
  obtain ⟨⟨m', outbox⟩, huncons, hpair⟩ := Option.map_eq_some_iff.mp h
  obtain ⟨rfl, rfl⟩ := Prod.mk.inj hpair
  exact ⟨Bounded.uncons?_eq_some.mp huncons, rfl⟩

variable {p : Profile}

/-- All that waits in the outbox was sent under the profile of the node. -/
theorem Reachable.emits (h : Reachable p n) :
    n.profile = p ∧ ∀ m ∈ n.outbox.items, p.Emits m := by
  induction h with
  | new => exact ⟨rfl, List.forall_mem_nil _⟩
  | @event n e now _ ih =>
    obtain ⟨hprofile, hemits⟩ := ih
    rw [node_react]
    refine ⟨hprofile, fun m hm => ?_⟩
    rcases mem_outbox_after hm with hwaiting | hreport
    · exact hemits m hwaiting
    · exact hprofile ▸ emits_of_report? hreport
  | @pop n rest m _ hpop ih =>
    obtain ⟨hprofile, hemits⟩ := ih
    obtain ⟨hitems, hrest⟩ := popMessage?_eq_some hpop
    refine ⟨hrest ▸ hprofile, fun m' hm' => hemits m' ?_⟩
    rw [hitems]
    exact List.mem_cons_of_mem m hm'
  | flush send state _ ih => exact ⟨ih.1, List.forall_mem_nil _⟩

/-- A node is reachable through whatever has happened to it. -/
theorem Lived.reachable {past : List (Event × Tick)} (h : Lived p past n) : Reachable p n := by
  induction h with
  | new => exact .new
  | event e now _ ih => exact .event e now ih
  | pop _ hpop ih => exact .pop ih hpop
  | flush send state _ ih => exact .flush send state ih
  | reset _ ih =>
    rw [Node.reset, ih.emits.1]
    exact .new

end Node

/-! ## Transfers -/

/-- What a transport notes is about the envelopes that it was handed. -/
theorem Transport.mem_notices_sendAll {σ : Type} {send : Transport σ} {state : σ}
    {ms : List Envelope} {notice : Notice} (h : notice ∈ (send.sendAll state ms).notices) :
    ∃ m ∈ ms, notice = .sent m ∨ ∃ fault, notice = .rejected m fault := by
  induction ms generalizing state with
  | nil => cases h
  | cons m ms ih =>
    unfold sendAll at h
    split at h
    next later _ =>
      rcases List.mem_cons.mp h with rfl | hlater
      · exact ⟨m, List.mem_cons_self, Or.inl rfl⟩
      · obtain ⟨m', hm', hnotice⟩ := ih hlater
        exact ⟨m', List.mem_cons_of_mem m hm', hnotice⟩
    next later fault _ =>
      rcases List.mem_cons.mp h with rfl | hlater
      · exact ⟨m, List.mem_cons_self, Or.inr ⟨fault, rfl⟩⟩
      · obtain ⟨m', hm', hnotice⟩ := ih hlater
        exact ⟨m', List.mem_cons_of_mem m hm', hnotice⟩

namespace Node

/-- **What leaves a node.**  Let the profile be accepted, and let anything happen to the node.  Then
all that waits in its outbox is of the form that its profile allows and survives the wire; and what
it gives out on request or hands to a transport is what waits there. -/
theorem emits_of_reachable {p : Profile} (hp : p.validate = .ok ()) {n : Node}
    (h : Reachable p n) :
    (∀ m ∈ n.outbox.items, p.Emits m ∧ m.Survives) ∧
      (∀ m rest, n.popMessage? = some (m, rest) → p.Emits m ∧ m.Survives) ∧
      ∀ {σ : Type} (send : Transport σ) (state : σ), ∀ notice ∈ (n.flush send state).2.notices,
        ∃ m, (p.Emits m ∧ m.Survives) ∧
          (notice = .sent m ∨ ∃ fault, notice = .rejected m fault) := by
  have hwaiting : ∀ m ∈ n.outbox.items, p.Emits m ∧ m.Survives := fun m hm =>
    have hemits : p.Emits m := h.emits.2 m hm
    ⟨hemits, Profile.survives_of_emits hp hemits⟩
  refine ⟨hwaiting, fun m rest hpop => hwaiting m ?_, fun send state notice hnotice => ?_⟩
  · rw [(popMessage?_eq_some hpop).1]
    exact List.mem_cons_self
  · obtain ⟨m, hm, hnotice'⟩ := Transport.mem_notices_sendAll hnotice
    exact ⟨m, hwaiting m hm, hnotice'⟩

/-- In the dark a movement at the door makes the veranda node ask for light. -/
theorem emits_of_reachable_darkDoor :
    let dark := ((new .b02).react (.luminosity ⟨Single.zero, true⟩) 0).node
    let moved := (dark.react (.movement .door) 10).node
    Profile.b02.validate = .ok () ∧ Reachable .b02 moved ∧
      moved.outbox.items = [Profile.b02.lightRequest] ∧
      Profile.b02.Emits Profile.b02.lightRequest ∧ Profile.b02.lightRequest.Survives := by
  intro dark moved
  have hvalid : Profile.b02.validate = .ok () := by rfl
  have hreachable : Reachable .b02 moved := .event _ 10 (.event _ 0 .new)
  have hwaiting : moved.outbox.items = [Profile.b02.lightRequest] := by decide +kernel
  have hemits := (emits_of_reachable hvalid hreachable).1 Profile.b02.lightRequest
    (hwaiting ▸ List.mem_singleton_self _)
  exact ⟨hvalid, hreachable, hwaiting, hemits⟩

end Node

end HomeMesh
