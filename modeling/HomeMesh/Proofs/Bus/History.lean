import HomeMesh.Proofs.Bus
import Mathlib.Data.List.Induction

/-!
# The history of a bus

A bus is called upon in any order to take an envelope or some bytes (`Cargo`), to give out its oldest
frame, or to change its link.  `Bus.history` follows such calls from a new bus: beside the bus it
keeps what was accepted and what was received so far, both in order.

What is put onto the bus is added behind everything else, or refused (`put_cases`); what is received
is taken from the front (`contents_of_receive?`).  So at any time what was accepted is what has been
received, followed by what the bus holds (`History.InOrder`).  `history_fifo` draws the conclusions.
-/

namespace HomeMesh

/-- What can be put onto a bus. -/
inductive Cargo where
  /-- An envelope that is sent. -/
  | envelope (m : Envelope)
  /-- Bytes that are injected. -/
  | raw (bytes : Wire.Bytes)
deriving DecidableEq

/-- The bytes that travel. -/
def Cargo.bytes : Cargo → Wire.Bytes
  | envelope m => m.encode
  | raw bytes => bytes

namespace Bus

/-- Puts something onto the bus. -/
def put (b : Bus) : Cargo → Bus × Except Fault Unit
  | .envelope m => b.send m
  | .raw bytes => b.inject bytes

/-- What a bus is called upon to do. -/
inductive Call where
  | put (cargo : Cargo)
  | link (up : Bool)
  | receive

/-- The state into which a call brings the link. -/
def Call.link? : Call → Option Bool
  | link up => some up
  | put _ | receive => none

/-- A bus, and what has crossed it. -/
structure History where
  bus : Bus := Bus.new
  /-- What the bus has accepted, the earliest first. -/
  accepted : List Cargo := []
  /-- What has been received from the bus, the earliest first. -/
  received : List (Except CodecFault Envelope) := []

namespace History

/-- The history after one more call. -/
def step (h : History) : Call → History
  | .put cargo =>
    match h.bus.put cargo with
    | (bus, .ok ()) => { h with bus := bus, accepted := h.accepted ++ [cargo] }
    | (bus, .error _) => { h with bus := bus }
  | .link up => { h with bus := h.bus.setLink up }
  | .receive =>
    match h.bus.receive? with
    | some (answer, bus) => { h with bus := bus, received := h.received ++ [answer] }
    | none => h

end History

/-- The history of a new bus after some calls. -/
def history (calls : List Call) : History := calls.foldl History.step {}

variable {b : Bus} {h : History} {cargo : Cargo}

/-! ## Putting something onto a bus -/

/-- Bytes are accepted and stand behind everything else, or they are refused and the bus stays as it
is. -/
theorem inject_cases (b : Bus) (bytes : Wire.Bytes) :
    (∃ fault, b.inject bytes = (b, .error fault)) ∨
      ∃ b', b.inject bytes = (b', .ok ()) ∧ b'.isUp = b.isUp ∧
        b'.contents = b.contents ++ [bytes] := by
  by_cases hrefused : maxFrameLength < bytes.length ∨ b.pending = busDepth
  · exact Or.inl ⟨_, inject_of_refused hrefused⟩
  · obtain ⟨hlength, hroom⟩ := not_or.mp hrefused
    exact Or.inr (contents_inject_of_room (Nat.not_lt.mp hlength)
      (Nat.lt_of_le_of_ne b.pending_le hroom))

theorem put_cases (b : Bus) (cargo : Cargo) :
    (∃ fault, b.put cargo = (b, .error fault)) ∨
      ∃ b', b.put cargo = (b', .ok ()) ∧ b'.isUp = b.isUp ∧
        b'.contents = b.contents ++ [cargo.bytes] := by
  cases cargo with
  | raw bytes => exact inject_cases b bytes
  | envelope m =>
    cases hup : b.isUp with
    | false => exact Or.inl ⟨_, send_of_down m hup⟩
    | true =>
      have hsend : b.put (.envelope m) = b.inject m.encode := send_of_up m hup
      rw [hsend, ← hup]
      exact inject_cases b m.encode

/-- Whatever is refused leaves the bus as it is. -/
theorem put_of_error {fault : Fault} (h : (b.put cargo).2 = .error fault) :
    (b.put cargo).1 = b := by
  obtain ⟨_, hput⟩ | ⟨_, hput, -⟩ := put_cases b cargo
  · rw [hput]
  · rw [hput] at h
    cases h

/-- Injecting does not ask whether the link is up. -/
theorem answer_inject (b : Bus) (bytes : Wire.Bytes) :
    (b.inject bytes).2 =
      if maxFrameLength < bytes.length ∨ b.pending = busDepth then .error (.transport .busy)
      else .ok () := by
  split
  next hrefused => rw [inject_of_refused hrefused]
  next hroom =>
    obtain ⟨hlength, hfull⟩ := not_or.mp hroom
    obtain ⟨b', hinject, -⟩ := contents_inject_of_room (Nat.not_lt.mp hlength)
      (Nat.lt_of_le_of_ne b.pending_le hfull)
    rw [hinject]

/-- A link that is down is reported before a bus that is full.  No envelope is too long. -/
theorem answer_send (b : Bus) (m : Envelope) :
    (b.send m).2 =
      if b.isUp = false then .error (.transport .linkDown)
      else if b.pending = busDepth then .error (.transport .busy)
      else .ok () := by
  split
  next hdown => rw [send_of_down m hdown]
  next hup =>
    have hshort : ¬ maxFrameLength < m.encode.length :=
      Nat.not_lt.mpr (Envelope.length_encode_le_frame m)
    rw [send_of_up m (Bool.of_not_eq_false hup), answer_inject]
    simp only [hshort, false_or]

/-! ## What has crossed the bus -/

/-- What was accepted is what has been received, followed by what the bus holds. -/
def History.InOrder (h : History) : Prop :=
  ∃ taken, h.accepted.map Cargo.bytes = taken ++ h.bus.contents ∧
    h.received = taken.map Envelope.decode

theorem History.InOrder.step (hin : h.InOrder) (c : Call) : (h.step c).InOrder := by
  obtain ⟨taken, haccepted, hreceived⟩ := hin
  cases c with
  | put cargo =>
    obtain ⟨fault, hput⟩ | ⟨b', hput, -, hcontents⟩ := put_cases h.bus cargo
    · simp only [History.step, hput]
      exact ⟨taken, haccepted, hreceived⟩
    · simp only [History.step, hput]
      refine ⟨taken, ?_, hreceived⟩
      rw [List.map_append, haccepted, hcontents, List.append_assoc]
      rfl
  | link up => exact ⟨taken, haccepted, hreceived⟩
  | receive =>
    cases hreceive : h.bus.receive? with
    | none =>
      simp only [History.step, hreceive]
      exact ⟨taken, haccepted, hreceived⟩
    | some received =>
      obtain ⟨answer, b'⟩ := received
      obtain ⟨bytes, hcontents, rfl⟩ := contents_of_receive? hreceive
      simp only [History.step, hreceive]
      refine ⟨taken ++ [bytes], ?_, ?_⟩
      · rw [haccepted, hcontents, List.append_assoc]
        rfl
      · rw [hreceived, List.map_append]
        rfl

theorem isUp_step (h : History) (c : Call) :
    (h.step c).bus.isUp = c.link?.getD h.bus.isUp := by
  cases c with
  | put cargo =>
    obtain ⟨fault, hput⟩ | ⟨b', hput, hup, -⟩ := put_cases h.bus cargo
    · simp only [History.step, hput]
      rfl
    · simp only [History.step, hput, hup]
      rfl
  | link up => rfl
  | receive =>
    cases hreceive : h.bus.receive? with
    | none =>
      simp only [History.step, hreceive]
      rfl
    | some received =>
      obtain ⟨answer, b'⟩ := received
      obtain ⟨-, -, -, hup⟩ := receive?_eq_some hreceive
      simp only [History.step, hreceive, hup]
      rfl

theorem history_concat (calls : List Call) (c : Call) :
    history (calls ++ [c]) = (history calls).step c := by
  rw [history, List.foldl_append]
  rfl

theorem inOrder_history (calls : List Call) : (history calls).InOrder := by
  induction calls using List.reverseRecOn with
  | nil => exact ⟨[], rfl, rfl⟩
  | append_singleton calls c ih =>
    rw [history_concat]
    exact ih.step c

/-- The link is in the state into which it was brought last, and up at the beginning. -/
theorem isUp_history (calls : List Call) :
    (history calls).bus.isUp = (calls.filterMap Call.link?).getLast?.getD true := by
  induction calls using List.reverseRecOn with
  | nil => rfl
  | append_singleton calls c ih =>
    rw [history_concat, isUp_step, ih, List.filterMap_append]
    cases hlink : c.link? with
    | none => simp [hlink]
    | some up => simp [hlink]

/-! ## First in, first out -/

namespace History.InOrder

theorem length_accepted (hin : h.InOrder) :
    h.received.length + h.bus.pending = h.accepted.length := by
  obtain ⟨taken, haccepted, hreceived⟩ := hin
  have hlength := congrArg List.length haccepted
  rw [List.length_map, List.length_append, length_contents] at hlength
  rw [hreceived, List.length_map, hlength]

/-- What is received is what the cargo at the same place is decoded to. -/
theorem exists_cargo (hin : h.InOrder) {k : Nat} {answer : Except CodecFault Envelope}
    (hk : h.received[k]? = some answer) :
    ∃ cargo, h.accepted[k]? = some cargo ∧ answer = Envelope.decode cargo.bytes := by
  obtain ⟨taken, haccepted, hreceived⟩ := hin
  rw [hreceived, List.getElem?_map, Option.map_eq_some_iff] at hk
  obtain ⟨bytes, hbytes, rfl⟩ := hk
  have hplace : k < taken.length := (List.getElem?_eq_some_iff.mp hbytes).1
  have hcargo : (h.accepted.map Cargo.bytes)[k]? = some bytes := by
    rw [haccepted, List.getElem?_append_left hplace, hbytes]
  rw [List.getElem?_map, Option.map_eq_some_iff] at hcargo
  obtain ⟨cargo, hcargo, rfl⟩ := hcargo
  exact ⟨cargo, hcargo, rfl⟩

/-- The bus holds what was accepted and has not been received. -/
theorem contents_eq (hin : h.InOrder) :
    h.bus.contents = (h.accepted.drop h.received.length).map Cargo.bytes := by
  obtain ⟨taken, haccepted, hreceived⟩ := hin
  rw [List.map_drop, haccepted, hreceived, List.length_map, List.drop_left]

end History.InOrder

/-- **The bus is a bounded queue.**  After any calls upon a new bus:

* what was accepted has been received or is still on the bus, which never holds more than its depth;
* what was received at some place is what the cargo accepted at the same place is decoded to; an
  envelope comes out as it went in, or is refused because it names no destination;
* the bus holds the rest, in order, and gives out nothing only if it holds nothing;
* what is refused now leaves the bus as it is;
* bytes are refused just if they are too long for a frame or the bus is full, and an envelope just if
  the link is down or, with the link up, the bus is full;
* the link is in the state into which it was brought last. -/
theorem history_fifo (calls : List Call) :
    let h := history calls
    h.received.length + h.bus.pending = h.accepted.length ∧ h.bus.pending ≤ busDepth ∧
      (∀ (k : Nat) answer, h.received[k]? = some answer →
        ∃ cargo : Cargo, h.accepted[k]? = some cargo ∧ answer = Envelope.decode cargo.bytes ∧
          ∀ m, cargo = .envelope m →
            answer = if m.destinations.isEmpty then .error .badDestinations else .ok m) ∧
      h.bus.contents = (h.accepted.drop h.received.length).map Cargo.bytes ∧
      (h.bus.receive? = none ↔ h.bus.pending = 0) ∧
      (∀ cargo fault, (h.bus.put cargo).2 = .error fault → (h.bus.put cargo).1 = h.bus) ∧
      (∀ bytes, (h.bus.inject bytes).2 =
        if maxFrameLength < bytes.length ∨ h.bus.pending = busDepth then .error (.transport .busy)
        else .ok ()) ∧
      (∀ m, (h.bus.send m).2 =
        if h.bus.isUp = false then .error (.transport .linkDown)
        else if h.bus.pending = busDepth then .error (.transport .busy)
        else .ok ()) ∧
      h.bus.isUp = (calls.filterMap Call.link?).getLast?.getD true := by
  intro h
  have hin : h.InOrder := inOrder_history calls
  refine ⟨hin.length_accepted, h.bus.pending_le, ?_, hin.contents_eq, receive?_eq_none_iff,
    fun _ _ => put_of_error, answer_inject h.bus, answer_send h.bus, isUp_history calls⟩
  intro k answer hk
  obtain ⟨cargo, hcargo, hanswer⟩ := hin.exists_cargo hk
  refine ⟨cargo, hcargo, hanswer, ?_⟩
  rintro m rfl
  exact hanswer.trans (Envelope.decode_encode m)

/-- Noise and an envelope cross the bus; then it is filled beyond its depth, and the link goes
down. -/
def crowdedLine : List Call :=
  [.put (.raw [0xFF, 0xFF]), .put (.envelope (.switch .b02 [.t01] .setLight .on)), .receive,
    .receive] ++ List.replicate 17 (.put (.raw [0x07])) ++ [.link false]

theorem history_fifo_crowdedLine :
    let h := history crowdedLine
    let m : Envelope := .switch .b02 [.t01] .setLight .on
    h.received.length = 2 ∧ h.accepted.length = 18 ∧ h.bus.pending = 16 ∧
      h.received[1]? = some (.ok m) ∧ h.bus.isUp = false ∧
      (h.bus.send m).2 = .error (.transport .linkDown) ∧ (h.bus.put (.envelope m)).1 = h.bus := by
  intro h m
  obtain ⟨hcount, -, hcargo, -, -, hkept, -, hsend, hlink⟩ := history_fifo crowdedLine
  have hsum : h.received.length + h.bus.pending = h.accepted.length := hcount
  have hreceived : h.received.length = 2 := by decide +kernel
  have haccepted : h.accepted.length = 18 := by decide +kernel
  have hone : 1 < h.received.length := by omega
  have hsecond : h.received[1]? = some h.received[1] := List.getElem?_eq_getElem hone
  obtain ⟨cargo, hplace, -, henvelope⟩ := hcargo 1 _ hsecond
  have hm : h.accepted[1]? = some (.envelope m) := by decide +kernel
  have hanswer : h.received[1] = .ok m :=
    henvelope m (Option.some.inj (hplace.symm.trans hm))
  have hdown : h.bus.isUp = false := hlink
  have hrefused : (h.bus.send m).2 = .error (.transport .linkDown) :=
    (hsend m).trans (if_pos hdown)
  have hpending : h.bus.pending = 16 := by omega
  exact ⟨hreceived, haccepted, hpending, hsecond.trans (congrArg some hanswer), hdown, hrefused,
    hkept (.envelope m) _ hrefused⟩

end Bus

end HomeMesh
