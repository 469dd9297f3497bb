import HomeMesh.Proofs.Wire.Envelope

/-!
# What is on the bus

A frame is on the bus because it was injected, or because an envelope was sent (`mem_frames_inject`,
`mem_frames_send`); receiving takes the oldest frame off and leaves the others (`receive?_eq_some`).

What matters about the bus are the bytes of its frames (`Bus.contents`).  Sending with the link up
puts the encodings of the envelopes behind them, until there is no room left (`contents_sendAll`),
and receiving until the bus is empty decodes all of them in order (`receiveAll_eq`).
-/

namespace HomeMesh

namespace Bounded

variable {α : Type} {n : Nat} {xs : Bounded α n} {a : α}

theorem items_of_ofList? {items : List α} (h : ofList? items = some xs) : xs.items = items := by
  rw [ofList?] at h
  split at h
  · rw [← Option.some.inj h]
  · cases h

theorem items_of_concat? {ys : Bounded α n} (h : xs.concat? a = some ys) :
    ys.items = xs.items ++ [a] :=
  items_of_ofList? h

theorem uncons?_eq_some {ys : Bounded α n} :
    xs.uncons? = some (a, ys) ↔ xs.items = a :: ys.items := by
  obtain ⟨items, hlength⟩ := xs
  obtain ⟨others, hothers⟩ := ys
  cases items <;> simp [uncons?]

end Bounded

namespace Bus

variable {b b' : Bus} {frame : Frame}

/-! ## Putting frames onto the bus -/

/-- Whatever is on the bus after some bytes were injected was there before, or is these bytes. -/
theorem mem_frames_inject {bytes : Wire.Bytes} (h : frame ∈ (b.inject bytes).1.frames.items) :
    frame ∈ b.frames.items ∨ frame.items = bytes := by
  rw [inject] at h
  split at h
  next frames hadded =>
    obtain ⟨new, hnew, hconcat⟩ := Option.bind_eq_some_iff.mp hadded
    rw [Bounded.items_of_concat? hconcat, List.mem_append, List.mem_singleton] at h
    refine h.imp_right ?_
    rintro rfl
    exact Bounded.items_of_ofList? hnew
  next => exact Or.inl h

/-- Whatever is on the bus after an envelope was sent was there before, or is its encoding. -/
theorem mem_frames_send {m : Envelope} (h : frame ∈ (b.send m).1.frames.items) :
    frame ∈ b.frames.items ∨ frame.items = m.encode := by
  rw [send, Envelope.encodeInto_frame] at h
  split at h
  · exact mem_frames_inject h
  · exact Or.inl h

/-! ## Taking frames off the bus -/

theorem receive?_eq_some {answer : Except CodecFault Envelope}
    (h : b.receive? = some (answer, b')) :
    ∃ frame, b.frames.items = frame :: b'.frames.items ∧
      answer = Envelope.decode frame.items ∧ b'.isUp = b.isUp := by
  obtain ⟨⟨frame, frames⟩, huncons, hpair⟩ := Option.map_eq_some_iff.mp h
  obtain ⟨rfl, rfl⟩ := Prod.mk.inj hpair
  exact ⟨frame, Bounded.uncons?_eq_some.mp huncons, rfl, rfl⟩

/-! ## The bus as a queue of bytes -/

/-- The bytes of the frames, the oldest first. -/
def contents (b : Bus) : List Wire.Bytes := b.frames.items.map Bounded.items

theorem length_contents (b : Bus) : b.contents.length = b.pending := List.length_map _

theorem pending_le (b : Bus) : b.pending ≤ busDepth := b.frames.length_le

theorem contents_inject_of_room {bytes : Wire.Bytes} (hbytes : bytes.length ≤ maxFrameLength)
    (hroom : b.pending < busDepth) :
    ∃ b', b.inject bytes = (b', .ok ()) ∧ b'.isUp = b.isUp ∧
      b'.contents = b.contents ++ [bytes] := by
  have hlength : (b.frames.items ++ [(⟨bytes, hbytes⟩ : Frame)]).length ≤ busDepth := by
    rw [List.length_append]
    exact hroom
  refine ⟨{ b with frames := ⟨_, hlength⟩ }, ?_, rfl, List.map_append⟩
  simp only [inject, Bounded.ofList?, dif_pos hbytes, Option.bind_some, Bounded.concat?,
    dif_pos hlength]

/-- Bytes that are too long for a frame, and bytes for which there is no room, are refused, and the
bus stays as it is. -/
theorem inject_of_refused {bytes : Wire.Bytes}
    (h : maxFrameLength < bytes.length ∨ b.pending = busDepth) :
    b.inject bytes = (b, .error (.transport .busy)) := by
  have hnone : (Bounded.ofList? bytes).bind b.frames.concat? = none := by
    rw [Option.bind_eq_none_iff]
    intro frame hframe
    rw [Bounded.concat?, Bounded.ofList?, dif_neg]
    rcases h with hlong | hfull
    · have hbytes : frame.items = bytes := Bounded.items_of_ofList? hframe
      exact absurd (hbytes ▸ frame.length_le) (Nat.not_le.mpr hlong)
    · rw [List.length_append]
      exact Nat.not_le.mpr (Nat.lt_succ_of_le (Nat.le_of_eq hfull.symm))
  rw [inject, hnone]

/-- With the link up, sending an envelope is injecting its encoding. -/
theorem send_of_up (m : Envelope) (hup : b.isUp = true) : b.send m = b.inject m.encode := by
  rw [send, if_pos hup, Envelope.encodeInto_frame]

theorem send_of_down (m : Envelope) (hdown : b.isUp = false) :
    b.send m = (b, .error (.transport .linkDown)) := by
  rw [send, hdown, if_neg Bool.false_ne_true]

theorem contents_send_of_room (m : Envelope) (hup : b.isUp = true) (hroom : b.pending < busDepth) :
    ∃ b', b.send m = (b', .ok ()) ∧ b'.isUp = true ∧ b'.contents = b.contents ++ [m.encode] := by
  rw [send_of_up m hup, ← hup]
  exact contents_inject_of_room (Envelope.length_encode_le_frame m) hroom

/-- Envelopes for which there is room are all taken, one behind the other. -/
theorem sendAll_of_room {ms : List Envelope} (hup : b.isUp = true)
    (hroom : b.pending + ms.length ≤ busDepth) :
    (Bus.send.sendAll b ms).accepted = ms.length ∧
      (Bus.send.sendAll b ms).notices = ms.map .sent ∧
      (Bus.send.sendAll b ms).state.isUp = true ∧
      (Bus.send.sendAll b ms).state.contents = b.contents ++ ms.map Envelope.encode := by
  induction ms generalizing b with
  | nil => exact ⟨rfl, rfl, hup, by rw [List.map_nil, List.append_nil]; rfl⟩
  | cons m ms ih =>
    rw [List.length_cons] at hroom
    obtain ⟨b', hsend, hup', hcontents⟩ := contents_send_of_room m hup (by omega)
    have hpending : b'.pending = b.pending + 1 := by
      rw [← length_contents, hcontents, List.length_append, length_contents]
      rfl
    obtain ⟨haccepted, hnotices, hstill, hall⟩ := ih hup' (by omega)
    simp only [Transport.sendAll, hsend]
    refine ⟨congrArg (· + 1) haccepted, congrArg (_ :: ·) hnotices, hstill, ?_⟩
    rw [hall, hcontents, List.append_assoc]
    rfl

theorem send_of_full (m : Envelope) (hup : b.isUp = true) (hfull : b.pending = busDepth) :
    b.send m = (b, .error (.transport .busy)) := by
  rw [send_of_up m hup, inject_of_refused (Or.inr hfull)]

/-- Of some envelopes the first are taken, as many as there is room for. -/
theorem contents_sendAll {ms : List Envelope} (hup : b.isUp = true) :
    (Bus.send.sendAll b ms).state.contents =
      b.contents ++ (ms.take (busDepth - b.pending)).map Envelope.encode := by
  induction ms generalizing b with
  | nil => simp [Transport.sendAll]
  | cons m ms ih =>
    by_cases hroom : b.pending < busDepth
    · obtain ⟨b', hsend, hup', hcontents⟩ := contents_send_of_room m hup hroom
      have hpending : b'.pending = b.pending + 1 := by
        rw [← length_contents, hcontents, List.length_append, length_contents]
        rfl
      have hone : busDepth - b.pending = busDepth - b'.pending + 1 := by omega
      simp only [Transport.sendAll, hsend]
      rw [ih hup', hcontents, hone, List.take_succ_cons, List.map_cons, List.append_assoc,
        List.singleton_append]
    · have hfull : b.pending = busDepth := Nat.le_antisymm b.pending_le (Nat.not_lt.mp hroom)
      have hnone : busDepth - b.pending = 0 := by rw [hfull, Nat.sub_self]
      simp only [Transport.sendAll, send_of_full m hup hfull]
      rw [ih hup, hnone, List.take_zero, List.take_zero]

theorem receive?_eq_none_iff : b.receive? = none ↔ b.pending = 0 := by
  obtain ⟨⟨items, hlength⟩, up⟩ := b
  cases items <;> simp [receive?, Bounded.uncons?, pending, Bounded.length]

/-- Receiving decodes the oldest bytes. -/
theorem contents_of_receive? {answer : Except CodecFault Envelope}
    (h : b.receive? = some (answer, b')) :
    ∃ bytes, b.contents = bytes :: b'.contents ∧ answer = Envelope.decode bytes := by
  obtain ⟨frame, hframes, hanswer, -⟩ := receive?_eq_some h
  exact ⟨frame.items, by rw [contents, hframes]; rfl, hanswer⟩

/-- Receives until the bus is empty. -/
def receiveAll (b : Bus) : List (Except CodecFault Envelope) × Bus :=
  match _received : b.receive? with
  | none => ([], b)
  | some (answer, rest) => (answer :: rest.receiveAll.1, rest.receiveAll.2)
termination_by b.pending
decreasing_by all_goals exact pending_lt_of_receive? _received

theorem receiveAll_eq (b : Bus) :
    b.receiveAll = (b.contents.map Envelope.decode, { b with frames := .empty }) := by
  obtain ⟨⟨items, hlength⟩, up⟩ := b
  induction items with
  | nil =>
    unfold receiveAll
    rfl
  | cons frame items ih =>
    have hrest : items.length ≤ busDepth := Nat.le_of_succ_le hlength
    unfold receiveAll
    split
    next hnone => cases hnone
    next answer rest hsome =>
      obtain ⟨rfl, rfl⟩ := Prod.mk.inj (Option.some.inj hsome)
      simp only [ih hrest]
      rfl

end Bus

end HomeMesh
