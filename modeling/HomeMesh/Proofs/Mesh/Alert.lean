import HomeMesh.Proofs.Actuator
import HomeMesh.Proofs.Mesh.Round
import HomeMesh.Proofs.Node.Exchange

/-!
# A movement is answered by other nodes

In silence and in the dark a movement makes a node ask its light peer for light, and on guard it
makes the node report an intrusion.  The node flushes its outbox into the bus, and the bus is
delivered.

The outbox gives the latest envelope out first.  So the bus takes the new report if it has room for
one frame, and only envelopes that have waited longer in the same outbox come behind it
(`envelopes_flush_of_report`).  None of these closes a light window or an intrusion window, because
a node only ever switches them on (`Profile.Emits.spares`).  So a window that the report opens is
running at the end of the round, whatever came before the report (`isRunning_of_report`).  What the
other node makes of it follows from its mode and from what it has measured.
-/

namespace HomeMesh

/-- What a node sends closes no window of another one. -/
theorem Profile.Emits.spares {p : Profile} {m : Envelope} (h : p.Emits m) (k : WindowName) :
    m.Spares k := by
  have hform := h.form
  cases hcommand : m.command with
  | setMode | setWarning => simp only [hcommand] at hform
  | setLight | setIntrusion =>
    simp only [hcommand] at hform
    refine ⟨by simp [Envelope.mode?, hcommand], fun _ => ?_⟩
    rw [Node.switchValue_eq, hform.1]
    rfl
  | updateTemperature | updateHumidity | updateDoorState =>
    refine ⟨by simp [Envelope.mode?, hcommand], fun hk => ?_⟩
    cases k <;> simp [WindowName.command?, hcommand] at hk

namespace Node

variable {p : Profile} {a b : Node} {bus : Bus} {e : Event} {m : Envelope} {k : WindowName}
  {input : MovementInput} {action : MovementAction} {now : Tick}

/-! ## From the report to the bus -/

theorem report?_of_dark (hbound : a.profile.movementAction? input = some action)
    (hmode : a.mode = .silence) (hdark : a.sensors.isDark = true)
    (hexpired : a.isLightRunning now = false) (hnotify : action.notifyLightPeer = true) :
    a.report? (.movement input) now = some a.profile.lightRequest := by
  simp [report?, hbound, hmode, hdark, hexpired, hnotify]

theorem report?_of_guard (hbound : a.profile.movementAction? input = some action)
    (hmode : a.mode = .guard) (hexpired : a.isIntrusionRunning now = false) :
    a.report? (.movement input) now = some a.profile.intrusionReport := by
  simp [report?, hbound, hmode, hexpired]

/-- What a node has just reported is the first of its envelopes on the bus; the others have waited
longer. -/
theorem envelopes_flush_of_report (hp : p.validate = .ok ()) (ha : Reachable p a)
    (hroom : a.outbox.items.length < outboxCapacity) (hup : bus.isUp = true)
    (hfree : bus.pending < busDepth) (hreport : a.report? e now = some m) :
    ∃ older, (∀ m' ∈ older, p.Emits m') ∧
      ((a.react e now).node.flush Bus.send bus).2.state.envelopes =
        bus.envelopes ++ m :: older := by
  obtain ⟨hprofile, hemits⟩ := ha.emits
  have hitems : (a.react e now).node.outbox.items = m :: a.outbox.items := by
    rw [outbox_react_of_room e now hroom, offered_react, hreport]
    rfl
  have hsurvive : ∀ m' ∈ m :: a.outbox.items, m'.Survives :=
    List.forall_mem_cons.mpr ⟨Profile.survives_of_emits hp (hprofile ▸ emits_of_report? hreport),
      fun m' hm' => Profile.survives_of_emits hp (hemits m' hm')⟩
  -- The bus takes the report and as many of the others as there is room for.
  obtain ⟨room, htaken⟩ : ∃ room, busDepth - bus.pending = room + 1 :=
    Nat.exists_eq_succ_of_ne_zero (Nat.sub_ne_zero_of_lt hfree)
  refine ⟨a.outbox.items.take room, fun m' hm' => hemits m' (List.mem_of_mem_take hm'), ?_⟩
  rw [flush, hitems, Bus.envelopes_sendAll hup hsurvive, htaken, List.take_succ_cons]

/-! ## From the bus to the other node -/

/-- A window of which an envelope says that it is on is running when the envelope and what the same
node has sent before were heard, whatever was heard earlier. -/
theorem isRunning_of_report {earlier older : List Envelope} (haccepts : b.accepts m = true)
    (hcommand : k.command? = some m.command) (hon : m.value0 ≠ 0)
    (holder : ∀ m' ∈ older, p.Emits m') :
    (b.hearAll (earlier ++ m :: older) now).isRunning k now = true := by
  have haccepts' : (b.hearAll earlier now).accepts m = true := by
    rw [accepts, id, profile_hearAll]
    exact haccepts
  rw [hearAll_append, hearAll_cons]
  exact isRunning_hearAll (isRunning_after_of_switchedOn haccepts' hcommand hon)
    fun m' hm' => (holder m' hm').spares k

/-! ## Outputs -/

/-- In the dark the light of a node is on while its light window is running. -/
theorem isOn_primaryLight (hb : b.profile.validate = .ok ()) (hdark : b.sensors.isDark = true)
    (hrunning : b.isLightRunning now = true) :
    (b.actuators now).isOn b.profile.primaryLight = true := by
  refine (ModeOutputs.isOn_actuators_iff _ _ _ _).mpr
    ⟨(Profile.carries_outputs hb).1, .inl ⟨rfl, ?_⟩⟩
  rw [outputs]
  cases b.mode with
  | silence => simp only [outputsInSilence, hdark, hrunning, Bool.and_self]
  | guard => simp only [outputsOnGuard, hdark, hrunning, Bool.and_self]
  | alarm => exact hdark

/-- Out of silence the alert of a node is on while its intrusion window is running. -/
theorem isOn_alert (hb : b.profile.validate = .ok ()) (hmode : b.mode ≠ .silence)
    (hrunning : b.isIntrusionRunning now = true) :
    (b.actuators now).isOn b.profile.alert = true := by
  refine (ModeOutputs.isOn_actuators_iff _ _ _ _).mpr
    ⟨(Profile.carries_outputs hb).2, .inr (.inl ⟨rfl, ?_⟩)⟩
  rw [outputs]
  cases hm : b.mode with
  | silence => exact absurd hm hmode
  | guard => exact hrunning
  | alarm => rfl

/-! ## The two answers -/

/-- A node of which light is asked switches it on. -/
theorem lit_of_lightRequest {earlier older : List Envelope} (hpeer : p.lightPeer = b.id)
    (holder : ∀ m' ∈ older, p.Emits m') (hb : b.profile.validate = .ok ()) :
    let b' := b.hearAll (earlier ++ p.lightRequest :: older) now
    b'.isLightRunning now = true ∧
      (b.sensors.isDark = true → (b'.actuators now).isOn b.profile.primaryLight = true) := by
  intro b'
  have haccepts : b.accepts p.lightRequest = true := by
    simp [accepts, Envelope.isAddressedTo, Profile.lightRequest, Bounded.truncate, hpeer]
  have hon : p.lightRequest.value0 ≠ 0 := (by decide : (1 : Int32) ≠ 0)
  have hprofile : b'.profile = b.profile := profile_hearAll b _ now
  have hsensors : b'.sensors = b.sensors := sensors_hearAll b _ now
  have hrunning : b'.isLightRunning now = true :=
    isRunning_of_report (k := .light) haccepts rfl hon holder
  refine ⟨hrunning, fun hdark => ?_⟩
  rw [← hprofile] at hb ⊢
  exact isOn_primaryLight hb (hsensors ▸ hdark) hrunning

/-- A node to which an intrusion is reported begins its alert. -/
theorem alerted_of_intrusionReport {earlier older : List Envelope}
    (haddressed : b.id ∈ p.intrusionTargets.items ∨
      .broadcast ∈ p.intrusionTargets.items ∧ b.profile.acceptsBroadcast = true)
    (holder : ∀ m' ∈ older, p.Emits m') (hb : b.profile.validate = .ok ()) :
    let b' := b.hearAll (earlier ++ p.intrusionReport :: older) now
    b'.isIntrusionRunning now = true ∧
      (b'.mode ≠ .silence → (b'.actuators now).isOn b.profile.alert = true) := by
  intro b'
  have haccepts : b.accepts p.intrusionReport = true := by
    rw [accepts, Envelope.isAddressedTo, List.any_eq_true]
    obtain hid | ⟨hbroadcast, hopen⟩ := haddressed
    · exact ⟨b.id, hid, by simp⟩
    · exact ⟨.broadcast, hbroadcast, by simp [hopen]⟩
  have hon : p.intrusionReport.value0 ≠ 0 := (by decide : (1 : Int32) ≠ 0)
  have hprofile : b'.profile = b.profile := profile_hearAll b _ now
  have hrunning : b'.isIntrusionRunning now = true :=
    isRunning_of_report (k := .intrusion) haccepts rfl hon holder
  refine ⟨hrunning, fun hmode => ?_⟩
  rw [← hprofile] at hb ⊢
  exact isOn_alert hb hmode hrunning

end Node

/-! ## The main result -/

namespace Mesh

open Node (Reachable new)

/-- **A movement is answered.**  Let the profile `p` be accepted, and let anything have happened to
a node `a` with this profile, but let there be room in its outbox; and let the bus be up and have
room for a frame, whatever else is on it.  The node notices a movement on a sensor that it has, it
flushes its outbox, and the bus is delivered to nodes among which is `b`, whose profile is accepted
too.

If `a` asks `b` for light, then the light window of `b` is running after the round, and its light is
on if it takes it to be dark.  If `a` reports an intrusion and `b` is one of those for whom the
report is, then the intrusion window of `b` is running, and its alert is on unless it is silent. -/
theorem movement_is_answered {p : Profile} {a b : Node} {bus : Bus} {nodes : List Node} {i : Nat}
    {input : MovementInput} {action : MovementAction} (now t : Tick)
    (hp : p.validate = .ok ()) (ha : Reachable p a) (hb : b.profile.validate = .ok ())
    (hroom : a.outbox.items.length < outboxCapacity) (hup : bus.isUp = true)
    (hfree : bus.pending < busDepth) (hbound : p.movementAction? input = some action)
    (hmem : nodes[i]? = some b) :
    let flushed := (a.react (.movement input) now).node.flush Bus.send bus
    ∃ b', (deliver nodes flushed.2.state t).nodes[i]? = some b' ∧
      (a.mode = .silence → a.sensors.isDark = true → a.isLightRunning now = false →
        action.notifyLightPeer = true → p.lightPeer = b.id →
          b'.isLightRunning t = true ∧
            (b.sensors.isDark = true → (b'.actuators t).isOn b.profile.primaryLight = true)) ∧
      (a.mode = .guard → a.isIntrusionRunning now = false →
        (b.id ∈ p.intrusionTargets.items ∨
          .broadcast ∈ p.intrusionTargets.items ∧ b.profile.acceptsBroadcast = true) →
          b'.isIntrusionRunning t = true ∧
            (b'.mode ≠ .silence → (b'.actuators t).isOn b.profile.alert = true)) := by
  intro flushed
  obtain rfl : a.profile = p := ha.emits.1
  refine ⟨b.hearAll flushed.2.state.envelopes t, ?heard, ?light, ?alert⟩
  case heard => rw [nodes_deliver, List.getElem?_map, hmem, Option.map_some]
  case light =>
    intro hmode hdark hexpired hnotify hpeer
    obtain ⟨older, holder, henvelopes⟩ := Node.envelopes_flush_of_report hp ha hroom hup hfree
      (Node.report?_of_dark hbound hmode hdark hexpired hnotify)
    rw [henvelopes]
    exact Node.lit_of_lightRequest hpeer holder hb
  case alert =>
    intro hmode hexpired haddressed
    obtain ⟨older, holder, henvelopes⟩ := Node.envelopes_flush_of_report hp ha hroom hup hfree
      (Node.report?_of_guard hbound hmode hexpired)
    rw [henvelopes]
    exact Node.alerted_of_intrusionReport haddressed holder hb

/-- The veranda node in the dark.  A report on the climate waits in its outbox. -/
def darkVeranda : Node :=
  (((new .b02).react (.luminosity ⟨.zero, true⟩) 0).node.react
    (.environment ⟨.zero, none, none, true⟩) 5).node

/-- The hall node in the dark. -/
def darkHall : Node := ((new .t01).react (.luminosity ⟨.zero, true⟩) 0).node

/-- The hall node on guard.  A report on the door waits in its outbox. -/
def guardedHall : Node :=
  (((new .t01).react (.message (Profile.t01.order .setMode 1)) 0).node.react (.door true) 5).node

/-- A bus with noise, and with orders for the hall node to be on guard and to switch its light
off. -/
def ordersForHall : Bus :=
  (Bus.send.sendAll (Bus.new.inject [0xFF]).1
    [Profile.t01.order .setMode 1, Profile.t01.order .setLight 0]).state

/-- A bus with room for one frame; all it holds are orders for the veranda node to be on guard. -/
def crowdedBus : Bus :=
  (Bus.send.sendAll Bus.new (List.replicate 15 (Profile.b02.order .setMode 1))).state

/-- In the dark someone comes to the door of the veranda: the hall node ends up on guard, and with
its light on.  Someone comes into the hall that is on guard: the veranda node ends up on guard as
well, with its alert on; what the hall node has to say of its door finds no room. -/
theorem movement_is_answered_atDoor :
    let asked := (darkVeranda.react (.movement .door) 10).node.flush Bus.send ordersForHall
    let warned := (guardedHall.react (.movement .front) 10).node.flush Bus.send crowdedBus
    (asked.2.accepted = 2 ∧
      ∃ hall, (deliver [asked.1, darkHall] asked.2.state 20).nodes[1]? = some hall ∧
        hall.mode = .guard ∧ hall.isLightRunning 20 = true ∧
        (hall.actuators 20).isOn .frontLight = true) ∧
      warned.2.accepted = 1 ∧
        ∃ veranda, (deliver [darkVeranda, warned.1] warned.2.state 20).nodes[0]? = some veranda ∧
          veranda.mode = .guard ∧ veranda.isIntrusionRunning 20 = true ∧
          (veranda.actuators 20).isOn .buzzer = true := by
  intro asked warned
  constructor
  · have hveranda : Reachable .b02 darkVeranda := .event _ 5 (.event _ 0 .new)
    have hup : ordersForHall.isUp = true := by decide +kernel
    have hbound : Profile.b02.movementAction? .door = some ⟨true, false⟩ := by decide
    have hmem : [asked.1, darkHall][1]? = some darkHall := rfl
    have hmode : (deliver [asked.1, darkHall] asked.2.state 20).nodes[1]?.map Node.mode =
        some .guard := by decide +kernel
    obtain ⟨hall, hget, hlight, -⟩ := movement_is_answered 10 20 rfl hveranda rfl
      (by decide +kernel) hup (by decide +kernel) hbound hmem
    obtain ⟨hrunning, hon⟩ := hlight rfl (by decide +kernel) (by decide +kernel) rfl rfl
    rw [hget] at hmode
    exact ⟨by decide +kernel, hall, hget, Option.some.inj hmode, hrunning, hon (by decide +kernel)⟩
  · have hhall : Reachable .t01 guardedHall := .event _ 5 (.event _ 0 .new)
    have hup : crowdedBus.isUp = true := by decide +kernel
    have hbound : Profile.t01.movementAction? .front = some ⟨true, true⟩ := by decide
    have hmem : [darkVeranda, warned.1][0]? = some darkVeranda := rfl
    have hmode : (deliver [darkVeranda, warned.1] warned.2.state 20).nodes[0]?.map Node.mode =
        some .guard := by decide +kernel
    obtain ⟨veranda, hget, -, halert⟩ := movement_is_answered 10 20 rfl hhall rfl
      (by decide +kernel) hup (by decide +kernel) hbound hmem
    obtain ⟨hrunning, hon⟩ := halert (by decide +kernel) (by decide +kernel)
      (.inl (by decide : NodeId.b02 ∈ Profile.t01.intrusionTargets.items))
    rw [hget] at hmode
    have hguard : veranda.mode = .guard := Option.some.inj hmode
    exact ⟨by decide +kernel, veranda, hget, hguard, hrunning, hon (by simp [hguard])⟩

end Mesh

end HomeMesh
