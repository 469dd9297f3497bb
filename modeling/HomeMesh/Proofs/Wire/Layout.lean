import HomeMesh.Proofs.Wire.Envelope
import HomeMesh.Proofs.Wire.Format

/-!
# What the decoder accepts

`Layout` is the grammar of a frame: the groups of its numbers and the four bytes at its end, in the
order in which they stand there.  `Layout.Holds` says which envelope they describe.  Groups may be
needless, so an envelope has many layouts; but no bytes describe two envelopes.

`Envelope.read` reads this grammar (`reads_layout`), and `decode_iff_layout` concludes which bytes
are accepted, which of them describe an envelope that names nobody, and that all others are
malformed.  An accepted frame is at least as long as the encoding of its envelope, and is that
encoding just if none of its groups is needless (`encode_eq_bytes_iff`).
-/

namespace HomeMesh

open Wire Enumerated

/-- An envelope as it stands in a frame. -/
structure Layout where
  source : Groups
  /-- How many destinations follow. -/
  count : Groups
  destinations : List Groups
  command : Groups
  value0 : Groups
  value1 : Groups
  /-- The third value, from the lowest byte to the highest. -/
  value2 : Fin 4 → UInt8

namespace Layout

/-- The numbers of a frame, in order. -/
def numbers (l : Layout) : List Groups :=
  l.source :: l.count :: (l.destinations ++ [l.command, l.value0, l.value1])

def bytes (l : Layout) : Bytes := l.numbers.flatMap Groups.bytes ++ List.ofFn l.value2

/-- No number has a needless group. -/
def IsMinimal (l : Layout) : Prop := ∀ g ∈ l.numbers, g.IsMinimal

/-- The frame describes an envelope: source, destinations and command by their places, the length of
the list of destinations, the first two values folded, and the pattern of the third. -/
structure Holds (l : Layout) (m : Envelope) : Prop where
  source : l.source.Spells 32 (index m.source)
  count : l.count.Spells 64 m.destinations.length
  destinations : List.Forall₂ (fun g d => g.Spells 32 (index d)) l.destinations m.destinations.items
  command : l.command.Spells 32 (index m.command)
  value0 : l.value0.Spells 32 (foldInt m.value0.toInt)
  value1 : l.value1.Spells 32 (foldInt m.value1.toInt)
  value2 : IsPattern l.value2 m.value2

theorem bytes_eq (l : Layout) :
    l.bytes = l.source.bytes ++ ((l.count.bytes ++ l.destinations.flatMap Groups.bytes) ++
      (l.command.bytes ++ (l.value0.bytes ++ (l.value1.bytes ++ List.ofFn l.value2)))) := by
  simp [bytes, numbers]

end Layout

namespace Envelope

variable {m : Envelope} {l : Layout}

/-! ## The reader and the grammar -/

theorem reads_layout : Reads read Layout.bytes Layout.Holds where
  takes := by
    intro l m h
    have hdestinations : Takes (readList maxDestinations readChoice)
        (l.count.bytes ++ l.destinations.flatMap Groups.bytes) m.destinations :=
      (reads_list reads_choice maxDestinations).takes (s := ⟨l.count, l.destinations⟩)
        ⟨h.count, h.destinations⟩
    rw [l.bytes_eq]
    exact takes_read (reads_choice.takes h.source) hdestinations (reads_choice.takes h.command)
      (reads_int32.takes h.value0) (reads_int32.takes h.value1) (reads_single.takes h.value2)
  exists_spelling := by
    intro m bytes rest h
    obtain ⟨source, _, hsource, h⟩ := bind_eq_some.mp h
    obtain ⟨destinations, _, hdestinations, h⟩ := bind_eq_some.mp h
    obtain ⟨command, _, hcommand, h⟩ := bind_eq_some.mp h
    obtain ⟨value0, _, hvalue0, h⟩ := bind_eq_some.mp h
    obtain ⟨value1, _, hvalue1, h⟩ := bind_eq_some.mp h
    obtain ⟨value2, _, hvalue2, h⟩ := bind_eq_some.mp h
    obtain ⟨rfl, rfl⟩ := Prod.mk.inj (Option.some.inj h)
    obtain ⟨gsource, hgsource, rfl⟩ := reads_choice.exists_spelling hsource
    obtain ⟨⟨gcount, gdestinations⟩, ⟨hgcount, hgdestinations⟩, rfl⟩ :=
      (reads_list reads_choice maxDestinations).exists_spelling hdestinations
    obtain ⟨gcommand, hgcommand, rfl⟩ := reads_choice.exists_spelling hcommand
    obtain ⟨gvalue0, hgvalue0, rfl⟩ := reads_int32.exists_spelling hvalue0
    obtain ⟨gvalue1, hgvalue1, rfl⟩ := reads_int32.exists_spelling hvalue1
    obtain ⟨four, hfour, rfl⟩ := reads_single.exists_spelling hvalue2
    refine ⟨⟨gsource, gcount, gdestinations, gcommand, gvalue0, gvalue1, four⟩,
      ⟨hgsource, hgcount, hgdestinations, hgcommand, hgvalue0, hgvalue1, hfour⟩, ?_⟩
    simp only [Layout.bytes_eq, List.append_assoc]

/-- Bytes are laid out as one envelope at most. -/
theorem read_eq_some_iff {bytes : Bytes} :
    read bytes = some (m, []) ↔ ∃ l : Layout, l.Holds m ∧ l.bytes = bytes := by
  constructor
  · intro h
    obtain ⟨l, hl, hbytes⟩ := reads_layout.exists_spelling h
    exact ⟨l, hl, by rw [hbytes, List.append_nil]⟩
  · rintro ⟨l, hl, rfl⟩
    exact (reads_layout.takes hl).eq_some

/-! ## The encoding is the shortest layout -/

/-- The encoding of an envelope writes each number of a layout anew. -/
theorem encode_eq_of_holds (h : l.Holds m) :
    m.encode = (l.numbers.flatMap fun g => putNat g.value) ++ List.ofFn l.value2 := by
  have hdestinations : m.destinations.items.flatMap putChoice =
      l.destinations.flatMap fun g => putNat g.value := by
    have hall := h.destinations
    generalize m.destinations.items = ds at hall ⊢
    generalize l.destinations = gs at hall ⊢
    induction hall with
    | nil => rfl
    | cons hd _ ih => rw [List.flatMap_cons, List.flatMap_cons, ih, putChoice, hd.value_eq]
  rw [encode, putList, hdestinations, putSingle_of_isPattern h.value2]
  simp [Layout.numbers, putChoice, putInt32, h.source.value_eq, h.count.value_eq,
    h.command.value_eq, h.value0.value_eq, h.value1.value_eq]

theorem length_flatMap_putNat_le (gs : List Groups) :
    (gs.flatMap fun g => putNat g.value).length ≤ (gs.flatMap Groups.bytes).length := by
  induction gs with
  | nil => rfl
  | cons g gs ih =>
    have hg : (putNat g.value).length ≤ g.bytes.length := g.length_putNat_value_le
    simp only [List.flatMap_cons, List.length_append]
    omega

theorem flatMap_putNat_eq_iff (gs : List Groups) :
    (gs.flatMap fun g => putNat g.value) = gs.flatMap Groups.bytes ↔ ∀ g ∈ gs, g.IsMinimal := by
  induction gs with
  | nil => simp
  | cons g gs ih =>
    rw [List.forall_mem_cons, ← ih, ← Groups.putNat_value_eq_iff, List.flatMap_cons,
      List.flatMap_cons]
    constructor
    · intro h
      -- No part is shorter than what is written for it, so equal sums have equal parts.
      have hg : (putNat g.value).length ≤ g.bytes.length := g.length_putNat_value_le
      have hgs := length_flatMap_putNat_le gs
      have hsum := congrArg List.length h
      simp only [List.length_append] at hsum
      exact List.append_inj h (by omega)
    · rintro ⟨hg, hgs⟩
      rw [hg, hgs]

theorem length_encode_le_bytes (h : l.Holds m) : m.encode.length ≤ l.bytes.length := by
  have hnumbers := length_flatMap_putNat_le l.numbers
  simp only [encode_eq_of_holds h, Layout.bytes, List.length_append]
  omega

theorem encode_eq_bytes_iff (h : l.Holds m) : m.encode = l.bytes ↔ l.IsMinimal := by
  rw [encode_eq_of_holds h, Layout.bytes, List.append_left_inj]
  exact flatMap_putNat_eq_iff l.numbers

/-! ## Decoding -/

theorem decode_of_holds (h : l.Holds m) :
    decode l.bytes = if m.destinations.isEmpty then .error .badDestinations else .ok m := by
  rw [decode, (reads_layout.takes h).eq_some]

theorem exists_layout_of_decode {bytes : Bytes} (h : decode bytes ≠ .error .malformed) :
    ∃ (l : Layout) (m : Envelope), l.bytes = bytes ∧ l.Holds m := by
  rw [decode] at h
  split at h
  next m hread =>
    obtain ⟨l, hl, hbytes⟩ := read_eq_some_iff.mp hread
    exact ⟨l, m, hbytes, hl⟩
  next => exact absurd rfl h

theorem isEmpty_destinations_iff (h : l.Holds m) :
    m.destinations.isEmpty = true ↔ l.count.value = 0 := by
  rw [h.count.value_eq, Bounded.isEmpty, List.isEmpty_iff]
  exact List.length_eq_zero_iff.symm

theorem count_value_le (h : l.Holds m) : l.count.value ≤ 2 :=
  h.count.value_eq ▸ m.destinations.length_le

theorem decode_eq_ok_iff {bytes : Bytes} :
    decode bytes = .ok m ↔
      ∃ l : Layout, l.bytes = bytes ∧ l.Holds m ∧ (l.count.value = 1 ∨ l.count.value = 2) := by
  constructor
  · intro h
    have hmalformed : decode bytes ≠ .error .malformed := by simp [h]
    obtain ⟨l, m', rfl, hl⟩ := exists_layout_of_decode hmalformed
    rw [decode_of_holds hl] at h
    split at h
    next => cases h
    next hnonempty =>
      obtain rfl := Except.ok.inj h
      have hle : l.count.value ≤ 2 := count_value_le hl
      have hne : l.count.value ≠ 0 := mt (isEmpty_destinations_iff hl).mpr hnonempty
      exact ⟨l, rfl, hl, by omega⟩
  · rintro ⟨l, rfl, hl, hcount⟩
    have hnonempty : ¬ m.destinations.isEmpty = true := by
      rw [isEmpty_destinations_iff hl]
      omega
    rw [decode_of_holds hl, if_neg hnonempty]

theorem decode_eq_badDestinations_iff {bytes : Bytes} :
    decode bytes = .error .badDestinations ↔
      ∃ (l : Layout) (m : Envelope), l.bytes = bytes ∧ l.Holds m ∧ l.count.value = 0 := by
  constructor
  · intro h
    have hmalformed : decode bytes ≠ .error .malformed := by simp [h]
    obtain ⟨l, m, rfl, hl⟩ := exists_layout_of_decode hmalformed
    rw [decode_of_holds hl] at h
    split at h
    next hempty => exact ⟨l, m, rfl, hl, (isEmpty_destinations_iff hl).mp hempty⟩
    next => cases h
  · rintro ⟨l, m, rfl, hl, hcount⟩
    rw [decode_of_holds hl, if_pos ((isEmpty_destinations_iff hl).mpr hcount)]

theorem decode_eq_malformed_iff {bytes : Bytes} :
    decode bytes = .error .malformed ↔
      ¬ ∃ (l : Layout) (m : Envelope), l.bytes = bytes ∧ l.Holds m := by
  constructor
  · rintro h ⟨l, m, rfl, hl⟩
    rw [decode_of_holds hl] at h
    split at h <;> cases h
  · intro h
    by_contra hmalformed
    exact h (exists_layout_of_decode hmalformed)

/-- **The grammar of frames.**  Bytes are accepted just if they are laid out as an envelope with one
or two destinations, and that envelope is given.  They are refused for their destinations just if
they are laid out as an envelope without any, and all other bytes are malformed.  The encoding of an
envelope that was accepted fits into a frame, is not longer than what was received, gives the
envelope again, and is what was received just if no number there has a needless group. -/
theorem decode_iff_layout (bytes : Bytes) :
    (∀ m, decode bytes = .ok m ↔
      ∃ l : Layout, l.bytes = bytes ∧ l.Holds m ∧ (l.count.value = 1 ∨ l.count.value = 2)) ∧
    (decode bytes = .error .badDestinations ↔
      ∃ (l : Layout) (m : Envelope), l.bytes = bytes ∧ l.Holds m ∧ l.count.value = 0) ∧
    (decode bytes = .error .malformed ↔
      ¬ ∃ (l : Layout) (m : Envelope), l.bytes = bytes ∧ l.Holds m) ∧
    ∀ (l : Layout) (m : Envelope), l.bytes = bytes → l.Holds m → decode bytes = .ok m →
      m.encodeInto maxFrameLength = .ok m.encode ∧ m.encode.length ≤ bytes.length ∧
        decode m.encode = .ok m ∧ (m.encode = bytes ↔ l.IsMinimal) := by
  refine ⟨fun m => decode_eq_ok_iff, decode_eq_badDestinations_iff, decode_eq_malformed_iff, ?_⟩
  rintro l m rfl hl hdecode
  have hagain : decode m.encode = decode l.bytes := by rw [decode_encode, decode_of_holds hl]
  exact ⟨encodeInto_frame m, length_encode_le_bytes hl, hagain.trans hdecode,
    encode_eq_bytes_iff hl⟩

/-- A request for light whose source has a needless group. -/
def needlessLayout : Layout where
  source := ⟨[1], 0⟩
  count := ⟨[], 1⟩
  destinations := [⟨[], 2⟩]
  command := ⟨[], 2⟩
  value0 := ⟨[], 2⟩
  value1 := ⟨[], 0⟩
  value2 := ![0, 0, 0, 0]

theorem decode_iff_layout_needless :
    let bytes : Bytes := [0x81, 0x00, 0x01, 0x02, 0x02, 0x02, 0x00, 0x00, 0x00, 0x00, 0x00]
    let m : Envelope := .switch .b02 [.t01] .setLight .on
    needlessLayout.bytes = bytes ∧ needlessLayout.Holds m ∧ decode bytes = .ok m ∧
      m.encode.length ≤ bytes.length ∧ decode m.encode = .ok m ∧ m.encode ≠ bytes := by
  intro bytes m
  have hbytes : needlessLayout.bytes = bytes := by decide
  have hspells (d : Fin 128) (width : Nat) (hwidth : 8 ≤ width) :
      Groups.Spells ⟨[], d⟩ width d.val :=
    ⟨Groups.fits_nil.mpr ⟨by omega, fun hle => by omega⟩, Groups.value_nil⟩
  have hsource : Groups.Spells ⟨[1], 0⟩ 32 1 :=
    ⟨Groups.fits_cons.mpr ⟨by decide, (hspells 0 25 (by decide)).fits⟩, by decide⟩
  have hholds : needlessLayout.Holds m :=
    ⟨hsource, hspells 1 64 (by decide), .cons (hspells 2 32 (by decide)) .nil,
      hspells 2 32 (by decide), hspells 2 32 (by decide), hspells 0 32 (by decide),
      isPattern_iff.mpr (by decide)⟩
  have hneedless : ¬ needlessLayout.IsMinimal := by
    intro h
    have hfirst : needlessLayout.source.IsMinimal := h _ List.mem_cons_self
    exact hfirst.elim (List.cons_ne_nil _ _) (fun hne => hne rfl)
  obtain ⟨hok, -, -, hagain⟩ := decode_iff_layout bytes
  have hdecode : decode bytes = .ok m :=
    (hok m).mpr ⟨needlessLayout, hbytes, hholds, Or.inl (by decide)⟩
  obtain ⟨-, hlength, hencode, hminimal⟩ := hagain needlessLayout m hbytes hholds hdecode
  exact ⟨hbytes, hholds, hdecode, hlength, hencode, fun heq => hneedless (hminimal.mp heq)⟩

end Envelope

end HomeMesh
