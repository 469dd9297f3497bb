import HomeMesh.Proofs.Wire.Groups
import Mathlib.Data.Fin.VecNotation

/-!
# Readers read their formats

A format says how values stand on the wire: its *spellings* are what may stand there, each spelling
has its bytes, and a relation says which value a spelling holds.  A reader reads a format (`Reads`)
if it takes the value of each spelling off the bytes of that spelling, and if whatever it takes is
some spelling of the value that it gives.  The first half says that the reader refuses nothing that
the format allows, the second that it accepts nothing else.

The parts of the wire format are read in this sense: finite domains (`reads_choice`), integers
(`reads_int32`), lists (`reads_list`) and numbers of the 32-bit binary format (`reads_single`).
-/

namespace HomeMesh.Wire

open Enumerated

variable {α σ : Type}

/-- The reader takes what the format allows, and nothing else. -/
structure Reads (read : Reader α) (spell : σ → Bytes) (Holds : σ → α → Prop) : Prop where
  /-- Every spelling is taken for the value that it holds. -/
  takes : ∀ {s a}, Holds s a → Takes read (spell s) a
  /-- Whatever is taken is a spelling. -/
  exists_spelling : ∀ {a bytes rest}, read bytes = some (a, rest) →
    ∃ s, Holds s a ∧ bytes = spell s ++ rest

/-! ## Finite domains -/

theorem reads_choice [Enumerated α] [DecidableEq α] :
    Reads (readChoice : Reader α) Groups.bytes fun g a => g.Spells 32 (index a) where
  takes h := takes_readChoice h.takes
  exists_spelling := by
    intro a bytes rest h
    obtain ⟨i, middle, hnat, hnext⟩ := bind_eq_some.mp h
    obtain ⟨g, hg, rfl⟩ := Groups.exists_groups_of_readNat (by decide) hnat
    cases hplace : (ofIndex? i : Option α) with
    | none =>
      rw [hplace] at hnext
      cases hnext
    | some a' =>
      rw [hplace] at hnext
      obtain ⟨rfl, rfl⟩ := Prod.mk.inj (Option.some.inj hnext)
      rw [← ofIndex?_eq_some.mp hplace] at hg
      exact ⟨g, hg, rfl⟩

/-! ## Integers -/

theorem foldInt_unfoldInt (n : Nat) : foldInt (unfoldInt n) = n := by
  unfold unfoldInt
  split
  · show 2 * (n / 2) = n
    omega
  · show 2 * (n / 2) + 1 = n
    omega

theorem toInt_ofInt_unfoldInt {n : Nat} (h : n < 2 ^ 32) :
    (Int32.ofInt (unfoldInt n)).toInt = unfoldInt n := by
  have hrange : -2 ^ 31 ≤ unfoldInt n ∧ unfoldInt n < 2 ^ 31 := by
    unfold unfoldInt
    split
    · rw [Int.ofNat_eq_natCast]
      omega
    · omega
  exact Int32.toInt_ofInt_of_le hrange.1 hrange.2

theorem reads_int32 :
    Reads readInt32 Groups.bytes fun g v => g.Spells 32 (foldInt v.toInt) where
  takes h := takes_readInt32 h.takes
  exists_spelling := by
    intro v bytes rest h
    obtain ⟨n, middle, hnat, hpure⟩ := bind_eq_some.mp h
    obtain ⟨rfl, rfl⟩ := Prod.mk.inj (Option.some.inj hpure)
    obtain ⟨g, hg, rfl⟩ := Groups.exists_groups_of_readNat (by decide) hnat
    have hn : n < 2 ^ 32 := hg.value_eq ▸ hg.fits.value_lt
    refine ⟨g, ?_, rfl⟩
    rwa [toInt_ofInt_unfoldInt hn, foldInt_unfoldInt]

/-! ## Lists -/

section Lists

variable {read : Reader α} {spell : σ → Bytes} {Holds : σ → α → Prop}

theorem reads_many (h : Reads read spell Holds) (n : Nat) :
    Reads (readMany read n) (fun ss : List σ => ss.flatMap spell)
      fun ss as => as.length = n ∧ List.Forall₂ Holds ss as where
  takes := by
    rintro ss as ⟨rfl, hall⟩
    exact takes_readMany (hall.imp fun _ _ => h.takes)
  exists_spelling := by
    intro as bytes rest hread
    induction n generalizing as bytes with
    | zero =>
      obtain ⟨rfl, rfl⟩ := Prod.mk.inj (Option.some.inj hread)
      exact ⟨[], ⟨rfl, List.Forall₂.nil⟩, rfl⟩
    | succ n ih =>
      obtain ⟨a, middle, hfirst, hnext⟩ := bind_eq_some.mp hread
      obtain ⟨others, rest', hothers, hpure⟩ := bind_eq_some.mp hnext
      obtain ⟨rfl, rfl⟩ := Prod.mk.inj (Option.some.inj hpure)
      obtain ⟨s, hs, rfl⟩ := h.exists_spelling hfirst
      obtain ⟨ss, ⟨rfl, hss⟩, rfl⟩ := ih hothers
      refine ⟨s :: ss, ⟨rfl, List.Forall₂.cons hs hss⟩, ?_⟩
      rw [List.flatMap_cons, List.append_assoc]

/-- A list is spelled as the groups of its length and the spellings of its items. -/
theorem reads_list (h : Reads read spell Holds) (capacity : Nat) :
    Reads (readList capacity read) (fun s : Groups × List σ => s.1.bytes ++ s.2.flatMap spell)
      fun s xs => s.1.Spells 64 xs.length ∧ List.Forall₂ Holds s.2 xs.items where
  takes := by
    rintro ⟨count, ss⟩ xs ⟨hcount, hall⟩
    exact takes_readList hcount.takes (hall.imp fun _ _ => h.takes)
  exists_spelling := by
    intro xs bytes rest hread
    obtain ⟨n, middle, hnat, hnext⟩ := bind_eq_some.mp hread
    obtain ⟨count, hcount, rfl⟩ := Groups.exists_groups_of_readNat (by decide) hnat
    by_cases hn : n ≤ capacity
    · rw [if_pos hn] at hnext
      obtain ⟨items, rest', hmany, hbounded⟩ := bind_eq_some.mp hnext
      obtain ⟨ss, ⟨rfl, hall⟩, rfl⟩ := (reads_many h n).exists_spelling hmany
      rw [Bounded.ofList?, dif_pos hn] at hbounded
      obtain ⟨rfl, rfl⟩ := Prod.mk.inj (Option.some.inj hbounded)
      exact ⟨⟨count, ss⟩, ⟨hcount, hall⟩, by rw [List.append_assoc]⟩
    · rw [if_neg hn] at hnext
      cases hnext

end Lists

/-! ## Numbers of the 32-bit binary format -/

/-- Four bytes stand for the pattern whose lowest byte is the first of them. -/
def IsPattern (four : Fin 4 → UInt8) (x : Single) : Prop :=
  x.bits.toNat = Nat.ofDigits 256 ((List.ofFn four).map UInt8.toNat)

theorem isPattern_iff {four : Fin 4 → UInt8} {x : Single} :
    IsPattern four x ↔ x.bits.toNat = (four 0).toNat + 0x100 * (four 1).toNat +
      0x10000 * (four 2).toNat + 0x1000000 * (four 3).toNat := by
  have hdigits : Nat.ofDigits 256 ((List.ofFn four).map UInt8.toNat) =
      (four 0).toNat + 256 * ((four 1).toNat + 256 * ((four 2).toNat + 256 * (four 3).toNat)) := by
    simp [List.ofFn, Fin.foldr_succ, Nat.ofDigits_cons, Nat.ofDigits_nil]
  rw [IsPattern, hdigits]
  constructor <;> intro h <;> omega

theorem reads_single : Reads readSingle (fun four : Fin 4 → UInt8 => List.ofFn four) IsPattern where
  takes h := takes_readSingle (isPattern_iff.mp h)
  exists_spelling := by
    intro x bytes rest h
    obtain ⟨b0, _, h0, h⟩ := bind_eq_some.mp h
    obtain ⟨b1, _, h1, h⟩ := bind_eq_some.mp h
    obtain ⟨b2, _, h2, h⟩ := bind_eq_some.mp h
    obtain ⟨b3, _, h3, h⟩ := bind_eq_some.mp h
    obtain ⟨rfl, rfl⟩ := Prod.mk.inj (Option.some.inj h)
    rw [readByte_eq_some] at h0 h1 h2 h3
    subst h0 h1 h2 h3
    have hb0 := b0.toNat_lt
    have hb1 := b1.toNat_lt
    have hb2 := b2.toNat_lt
    have hb3 := b3.toNat_lt
    refine ⟨![b0, b1, b2, b3], ?_, rfl⟩
    rw [isPattern_iff]
    exact UInt32.toNat_ofNat_of_lt' (show _ < 4294967296 by omega)

/-- The four bytes of a pattern are those that are written for it. -/
theorem putSingle_of_isPattern {four : Fin 4 → UInt8} {x : Single} (h : IsPattern four x) :
    putSingle x = List.ofFn four := by
  have hbits := isPattern_iff.mp h
  have hbyte {n : Nat} {b : UInt8} (hn : n % 2 ^ 8 = b.toNat) : UInt8.ofNat n = b := by
    rw [← UInt8.toNat_inj, UInt8.toNat_ofNat', hn]
  have hb0 := (four 0).toNat_lt
  have hb1 := (four 1).toNat_lt
  have hb2 := (four 2).toNat_lt
  have hb3 := (four 3).toNat_lt
  have h0 : UInt8.ofNat x.bits.toNat = four 0 := hbyte (by omega)
  have h1 : UInt8.ofNat (x.bits.toNat / 0x100) = four 1 := hbyte (by omega)
  have h2 : UInt8.ofNat (x.bits.toNat / 0x10000) = four 2 := hbyte (by omega)
  have h3 : UInt8.ofNat (x.bits.toNat / 0x1000000) = four 3 := hbyte (by omega)
  show [_, _, _, _] = List.ofFn four
  rw [h0, h1, h2, h3]
  rfl

end HomeMesh.Wire
