import HomeMesh.Bus
import HomeMesh.Proofs.Wire.Primitive

/-!
# Envelopes on the wire come back

Every envelope is taken back by `Envelope.read` from the bytes of `Envelope.encode`, bit for bit
(`takes_encode`), and these bytes are at most nineteen (`length_encode_le`).  So each envelope has
one encoding that fits into a frame of the bus, and which `decode` gives back unless it names nobody
(`exists_encoding`).
-/

namespace HomeMesh.Envelope

open Wire

/-- The parts of an envelope are taken one after the other, whichever bytes they stand in. -/
theorem takes_read {m : Envelope} {source destinations command value0 value1 value2 : Bytes}
    (hsource : Takes readChoice source m.source)
    (hdestinations : Takes (readList maxDestinations readChoice) destinations m.destinations)
    (hcommand : Takes readChoice command m.command) (hvalue0 : Takes readInt32 value0 m.value0)
    (hvalue1 : Takes readInt32 value1 m.value1) (hvalue2 : Takes readSingle value2 m.value2) :
    Takes read (source ++ (destinations ++ (command ++ (value0 ++ (value1 ++ value2))))) m := by
  unfold read
  apply hsource.bind
  apply hdestinations.bind
  apply hcommand.bind
  apply hvalue0.bind
  apply hvalue1.bind
  exact hvalue2.bind_pure

theorem takes_encode (m : Envelope) : Takes read m.encode m := by
  have hdestinations : Takes (readList maxDestinations readChoice)
      (putList putChoice m.destinations) m.destinations :=
    takes_putList (takes_putChoice (by decide)) (by decide) _
  simp only [encode, List.append_assoc]
  exact takes_read (takes_putChoice (by decide) _) hdestinations (takes_putChoice (by decide) _)
    (takes_putInt32 _) (takes_putInt32 _) (takes_putSingle _)

/-- Source, command and each destination have one byte, the list of destinations has one byte more,
the two integers have at most five bytes each, and the third value has four. -/
theorem length_encode_le (m : Envelope) : m.encode.length ≤ 19 := by
  have hsource : (putChoice m.source).length = 1 := length_putChoice (by decide) _
  have hdestinations : (putList putChoice m.destinations).length = m.destinations.length + 1 :=
    length_putList (length_putChoice (by decide)) (by decide) _
  have hcount : m.destinations.length ≤ 2 := m.destinations.length_le
  have hcommand : (putChoice m.command).length = 1 := length_putChoice (by decide) _
  have hvalue0 : (putInt32 m.value0).length ≤ 5 := length_putInt32_le _
  have hvalue1 : (putInt32 m.value1).length ≤ 5 := length_putInt32_le _
  have hvalue2 : (putSingle m.value2).length = 4 := length_putSingle _
  rw [encode]
  simp only [List.length_append]
  omega

theorem length_encode_le_frame (m : Envelope) : m.encode.length ≤ maxFrameLength :=
  Nat.le_trans (length_encode_le m) (by decide)

theorem flatten_parts (m : Envelope) : m.parts.flatten = m.encode := by
  simp [parts, encode, putList, List.flatMap_def]

/-- A buffer takes the parts of an envelope just if it has room for the whole encoding. -/
theorem encodeInto_eq (m : Envelope) (size : Nat) :
    m.encodeInto size =
      if m.encode.length ≤ size then .ok m.encode else .error .bufferTooSmall := by
  rw [encodeInto, ← flatten_parts]
  by_cases hroom : m.parts.flatten.length ≤ size
  · have hwritten : m.parts.foldlM write (.empty : Bounded UInt8 size) =
        .ok ⟨m.parts.flatten, hroom⟩ := foldlM_write_of_room hroom
    rw [hwritten, if_pos hroom]
  · have hrefused : m.parts.foldlM write (.empty : Bounded UInt8 size) = .error .bufferFull :=
      foldlM_write_of_full hroom
    rw [hrefused, if_neg hroom]
    rfl

/-- A buffer of the size of a frame always suffices. -/
theorem encodeInto_frame (m : Envelope) : m.encodeInto maxFrameLength = .ok m.encode := by
  rw [encodeInto_eq, if_pos (length_encode_le_frame m)]

theorem decode_encode (m : Envelope) :
    decode m.encode = if m.destinations.isEmpty then .error .badDestinations else .ok m := by
  rw [decode, (takes_encode m).eq_some]

/-- **The round trip.**  An envelope has one encoding of at most nineteen bytes: every buffer that
is long enough gets these bytes, every other one is refused, and from the bytes the envelope comes
back as it was, or is refused because it names no destination. -/
theorem exists_encoding (m : Envelope) :
    ∃ bytes : Bytes, bytes.length ≤ 19 ∧ bytes.length ≤ maxFrameLength ∧
      (∀ size, m.encodeInto size =
        if bytes.length ≤ size then .ok bytes else .error .bufferTooSmall) ∧
      decode bytes = if m.destinations.isEmpty then .error .badDestinations else .ok m := by
  exact ⟨m.encode, length_encode_le m, length_encode_le_frame m, m.encodeInto_eq, decode_encode m⟩

end HomeMesh.Envelope
