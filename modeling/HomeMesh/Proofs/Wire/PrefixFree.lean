import HomeMesh.Proofs.Wire.Front
import HomeMesh.Proofs.Wire.Layout

/-!
# Frames are prefix-free

The reader of envelopes takes from the front, so it gives the same however the bytes go on.  Let some
bytes be laid out as an envelope, needless groups or not.  Then a proper beginning of them is not,
wherever they are cut (`TakesFront.eq_none_of_prefix`): in the list of destinations, say, or within
the groups of a number.  And if more bytes follow, these are left over.

So a frame that was cut short, or to which bytes were added, is never taken for any envelope, nor for
one that names nobody (`malformed_of_comparable`).
-/

namespace HomeMesh.Envelope

open Wire

variable {bytes other : Bytes} {m : Envelope}

/-- Bytes that are not malformed are laid out as an envelope. -/
theorem exists_takes_of_decode (h : decode bytes ≠ .error .malformed) :
    ∃ m, Takes read bytes m := by
  obtain ⟨l, m, rfl, hl⟩ := exists_layout_of_decode h
  exact ⟨m, reads_layout.takes hl⟩

theorem decode_of_read_eq_none (h : read bytes = none) : decode bytes = .error .malformed := by
  rw [decode, h]

/-- What is left over after an envelope makes the bytes malformed. -/
theorem decode_append (h : Takes read bytes m) {more : Bytes} (hmore : more ≠ []) :
    decode (bytes ++ more) = .error .malformed := by
  have hread : read (bytes ++ more) = some (m, more) := h more
  rw [decode, hread]
  obtain ⟨b, rest, rfl⟩ := List.exists_cons_of_ne_nil hmore
  rfl

/-- **No frame begins another one.**  Let some bytes be accepted, or refused only because their
envelope names nobody.  Then all bytes that are a proper beginning of them, or of which they are a
proper beginning, are malformed; so of two such frames neither begins the other. -/
theorem malformed_of_comparable (h : decode bytes ≠ .error .malformed) :
    (∀ other, other <+: bytes → other ≠ bytes → decode other = .error .malformed) ∧
      (∀ other, bytes <+: other → other ≠ bytes → decode other = .error .malformed) ∧
      ∀ other, decode other ≠ .error .malformed → (other <+: bytes ∨ bytes <+: other) →
        other = bytes := by
  obtain ⟨m, hm⟩ := exists_takes_of_decode h
  have hcut : ∀ other, other <+: bytes → other ≠ bytes → decode other = .error .malformed := by
    intro other hprefix hne
    exact decode_of_read_eq_none (reads_layout.takesFront.eq_none_of_prefix hm hprefix hne)
  have hextended : ∀ other, bytes <+: other → other ≠ bytes →
      decode other = .error .malformed := by
    rintro _ ⟨more, rfl⟩ hne
    refine decode_append hm fun hnone => hne ?_
    rw [hnone, List.append_nil]
  refine ⟨hcut, hextended, fun other hother hcomparable => ?_⟩
  by_contra hne
  obtain hprefix | hprefix := hcomparable
  · exact hother (hcut other hprefix hne)
  · exact hother (hextended other hprefix hne)

/-- A request for light whose source has a needless group: cut within that group, cut in its list of
destinations, or followed by a byte, it is malformed. -/
theorem malformed_of_comparable_needless :
    let bytes := needlessLayout.bytes
    let m : Envelope := .switch .b02 [.t01] .setLight .on
    decode bytes = .ok m ∧
      decode (bytes.take 1) = .error .malformed ∧ decode (bytes.take 3) = .error .malformed ∧
      decode (bytes ++ [0x00]) = .error .malformed := by
  intro bytes m
  have hread : read bytes = some (m, []) := by decide +kernel
  have hdecode : decode bytes = .ok m := by
    rw [decode, hread]
    rfl
  have hframe : decode bytes ≠ .error .malformed := by simp [hdecode]
  obtain ⟨hcut, hextended, -⟩ := malformed_of_comparable hframe
  exact ⟨hdecode, hcut _ (List.take_prefix 1 bytes) (by decide),
    hcut _ (List.take_prefix 3 bytes) (by decide),
    hextended _ (List.prefix_append bytes [0x00]) (by decide)⟩

end HomeMesh.Envelope
