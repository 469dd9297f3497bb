import HomeMesh.Proofs.Wire.Primitive
import Mathlib.Data.Nat.Digits.Defs

/-!
# Numbers as they stand on the wire

A writer puts a number on the wire in one way only, but a reader accepts it with needless groups at
its end as well.  `Groups` holds the groups as they stand there, whether they are needed or not:
what their bytes are, which number they stand for, whether a width has room for them (`Fits`), and
whether all of them are needed (`IsMinimal`).

The main results are that `readNat` takes the groups which fit, and nothing else (`takes_bytes`,
`exists_groups_of_readNat`), and that `putNat` gives the shortest groups of their number, those
which are minimal (`putNat_value_eq_iff`).
-/

namespace HomeMesh.Wire

/-- Groups of seven bits that stand for a number, the lowest first. -/
structure Groups where
  /-- The groups that another one follows. -/
  front : List (Fin 128)
  last : Fin 128

namespace Groups

/-- The groups in front carry the high bit. -/
def bytes (g : Groups) : Bytes :=
  g.front.map (fun d => UInt8.ofNat (d.val + 128)) ++ [UInt8.ofNat g.last.val]

def value (g : Groups) : Nat := Nat.ofDigits 128 ((g.front ++ [g.last]).map Fin.val)

/-- How many groups a number of `width` bits may have: five for 32 bits and ten for 64. -/
def maxCount (width : Nat) : Nat := (width + 6) / 7

/-- A width has room for the groups: there are no more of them than it allows, and if there are that
many, the last one has no bit beyond the width. -/
structure Fits (g : Groups) (width : Nat) : Prop where
  count_le : g.front.length + 1 ≤ maxCount width
  last_lt : g.front.length + 1 = maxCount width → g.last.val < 2 ^ (width - 7 * g.front.length)

/-- The last group is needed, as it is the only one or has a bit set. -/
def IsMinimal (g : Groups) : Prop := g.front = [] ∨ g.last.val ≠ 0

/-- The groups stand for `n` and have room in `width` bits. -/
structure Spells (g : Groups) (width n : Nat) : Prop where
  fits : g.Fits width
  value_eq : g.value = n

variable {d last : Fin 128} {front : List (Fin 128)} {width : Nat} {g : Groups}

theorem bytes_nil : bytes ⟨[], last⟩ = [UInt8.ofNat last.val] := rfl

theorem bytes_cons :
    bytes ⟨d :: front, last⟩ = UInt8.ofNat (d.val + 128) :: bytes ⟨front, last⟩ := rfl

theorem value_nil : value ⟨[], last⟩ = last.val := Nat.ofDigits_singleton

theorem value_cons : value ⟨d :: front, last⟩ = d.val + 128 * value ⟨front, last⟩ :=
  Nat.ofDigits_cons

theorem length_bytes (g : Groups) : g.bytes.length = g.front.length + 1 := by
  simp [bytes]

/-! ## Room for groups -/

theorem fits_nil : Fits ⟨[], last⟩ width ↔ 0 < width ∧ (width ≤ 7 → last.val < 2 ^ width) := by
  have hcount : 0 + 1 = maxCount width ↔ 0 < width ∧ width ≤ 7 := by
    unfold maxCount
    omega
  constructor
  · rintro ⟨hle, hlast⟩
    have hpos : 0 < width := by
      simp only [maxCount, List.length_nil] at hle
      omega
    exact ⟨hpos, fun hwidth => hlast (hcount.mpr ⟨hpos, hwidth⟩)⟩
  · rintro ⟨hpos, hlast⟩
    refine ⟨?_, fun h => hlast (hcount.mp h).2⟩
    simp only [maxCount, List.length_nil]
    omega

/-- A group in front takes seven bits of the room. -/
theorem fits_cons : Fits ⟨d :: front, last⟩ width ↔ 7 < width ∧ Fits ⟨front, last⟩ (width - 7) := by
  have hbits : width - 7 * (front.length + 1) = width - 7 - 7 * front.length := by omega
  have hcount (hwidth : 7 < width) : maxCount width = maxCount (width - 7) + 1 := by
    unfold maxCount
    omega
  constructor
  · rintro ⟨hle, hlast⟩
    have hwidth : 7 < width := by
      simp only [maxCount, List.length_cons] at hle
      omega
    simp only [List.length_cons, hcount hwidth, hbits] at hle hlast
    refine ⟨hwidth, ?_, ?_⟩
    · show front.length + 1 ≤ maxCount (width - 7)
      omega
    · show front.length + 1 = maxCount (width - 7) → last.val < 2 ^ (width - 7 - 7 * front.length)
      exact fun h => hlast (congrArg (· + 1) h)
  · rintro ⟨hwidth, hle, hlast⟩
    refine ⟨?_, ?_⟩
    · rw [hcount hwidth]
      exact Nat.succ_le_succ hle
    · rw [hcount hwidth, List.length_cons, hbits]
      exact fun h => hlast (Nat.succ_injective h)

/-- Groups for which a width has room stand for a number that has room in it as well. -/
theorem Fits.value_lt (h : g.Fits width) : g.value < 2 ^ width := by
  obtain ⟨front, last⟩ := g
  induction front generalizing width with
  | nil =>
    obtain ⟨-, hlast⟩ := fits_nil.mp h
    rw [value_nil]
    by_cases hwidth : width ≤ 7
    · exact hlast hwidth
    · have hmono : (2 : Nat) ^ 7 ≤ 2 ^ width := Nat.pow_le_pow_right (by decide) (by omega)
      exact Nat.lt_of_lt_of_le last.isLt hmono
  | cons d front ih =>
    obtain ⟨hwidth, hrest⟩ := fits_cons.mp h
    have hhigh : value ⟨front, last⟩ < 2 ^ (width - 7) := ih hrest
    have hsplit : (2 : Nat) ^ width = 128 * 2 ^ (width - 7) := by
      rw [show (128 : Nat) = 2 ^ 7 from rfl, ← Nat.pow_add, Nat.add_sub_cancel' (by omega)]
    rw [value_cons, hsplit]
    omega

/-! ## Reading groups -/

theorem toNat_front (d : Fin 128) : (UInt8.ofNat (d.val + 128)).toNat = d.val + 128 :=
  toNat_ofNat_byte (by omega)

theorem toNat_last (d : Fin 128) : (UInt8.ofNat d.val).toNat = d.val := toNat_ofNat_byte (by omega)

/-- Groups that fit are read, needless ones included. -/
theorem takes_bytes (h : g.Fits width) : Takes (readNat width) g.bytes g.value := by
  obtain ⟨front, last⟩ := g
  induction front generalizing width with
  | nil =>
    obtain ⟨-, hlast⟩ := fits_nil.mp h
    rw [bytes_nil, value_nil, readNat]
    apply (takes_readByte _).bind_nil
    rw [toNat_last]
    by_cases hwidth : width ≤ 7
    · rw [if_pos hwidth, if_pos (by rw [Nat.one_shiftLeft]; exact hlast hwidth)]
      exact takes_pure last.val
    · rw [if_neg hwidth, if_pos last.isLt]
      exact takes_pure last.val
  | cons d front ih =>
    obtain ⟨hwidth, hrest⟩ := fits_cons.mp h
    have hgroup : (d.val + 128) % 128 = d.val := by omega
    have hhigh : Takes (readNat (width - 7)) (bytes ⟨front, last⟩) (value ⟨front, last⟩) := ih hrest
    rw [bytes_cons, value_cons, readNat]
    apply (takes_readByte _).bind
    rw [if_neg (by omega), toNat_front, if_neg (by omega), hgroup]
    exact hhigh.bind_pure (f := fun high => d.val + 128 * high)

theorem Spells.takes {n : Nat} (h : g.Spells width n) : Takes (readNat width) g.bytes n :=
  h.value_eq ▸ takes_bytes h.fits

/-- What is read are groups that fit. -/
theorem exists_groups_of_readNat {bytes rest : Bytes} {n : Nat} (hwidth : 0 < width)
    (h : readNat width bytes = some (n, rest)) :
    ∃ g : Groups, g.Spells width n ∧ bytes = g.bytes ++ rest := by
  induction width using Nat.strongRecOn generalizing bytes n with
  | ind width ih =>
    rw [readNat] at h
    obtain ⟨b, tail, hbyte, hnext⟩ := bind_eq_some.mp h
    obtain rfl := readByte_eq_some.mp hbyte
    have hb : b.toNat < 256 := b.toNat_lt
    -- A byte without the high bit is the only group.
    have hlast (hlt : b.toNat < 128) (hroom : width ≤ 7 → b.toNat < 2 ^ width)
        (hrest : some (b.toNat, tail) = some (n, rest)) :
        ∃ g : Groups, g.Spells width n ∧ b :: tail = g.bytes ++ rest := by
      obtain ⟨rfl, rfl⟩ := Prod.mk.inj (Option.some.inj hrest)
      refine ⟨⟨[], ⟨b.toNat, hlt⟩⟩, ⟨fits_nil.mpr ⟨hwidth, hroom⟩, value_nil⟩, ?_⟩
      rw [bytes_nil, UInt8.ofNat_toNat, List.singleton_append]
    by_cases hsmall : width ≤ 7
    · rw [if_pos hsmall] at hnext
      by_cases hroom : b.toNat < 1 <<< width
      · rw [if_pos hroom] at hnext
        rw [Nat.one_shiftLeft] at hroom
        have hmono : (2 : Nat) ^ width ≤ 2 ^ 7 := Nat.pow_le_pow_right (by decide) hsmall
        exact hlast (Nat.lt_of_lt_of_le hroom hmono) (fun _ => hroom) hnext
      · rw [if_neg hroom] at hnext
        cases hnext
    · rw [if_neg hsmall] at hnext
      by_cases hlt : b.toNat < 128
      · rw [if_pos hlt] at hnext
        exact hlast hlt (fun hle => absurd hle hsmall) hnext
      · rw [if_neg hlt] at hnext
        obtain ⟨high, rest', hhigh, hpure⟩ := bind_eq_some.mp hnext
        obtain ⟨rfl, rfl⟩ := Prod.mk.inj (Option.some.inj hpure)
        obtain ⟨⟨front, last⟩, hspells, rfl⟩ := ih (width - 7) (by omega) (by omega) hhigh
        have hgroup : UInt8.ofNat (b.toNat % 128 + 128) = b := by
          rw [show b.toNat % 128 + 128 = b.toNat from by omega, UInt8.ofNat_toNat]
        refine ⟨⟨⟨b.toNat % 128, by omega⟩ :: front, last⟩, ⟨?_, ?_⟩, ?_⟩
        · exact fits_cons.mpr ⟨by omega, hspells.fits⟩
        · rw [value_cons, hspells.value_eq]
        · rw [bytes_cons, hgroup, List.cons_append]

/-! ## Needless groups -/

theorem value_pos (h : last.val ≠ 0) : 0 < value ⟨front, last⟩ := by
  induction front with
  | nil =>
    rw [value_nil]
    omega
  | cons d front ih =>
    rw [value_cons]
    omega

/-- Minimal groups are what is written for their number. -/
theorem putNat_value_of_isMinimal (h : g.IsMinimal) : putNat g.value = g.bytes := by
  obtain ⟨front, last⟩ := g
  induction front with
  | nil => rw [value_nil, bytes_nil, putNat_of_lt last.isLt]
  | cons d front ih =>
    have hlast : last.val ≠ 0 := h.resolve_left (List.cons_ne_nil d front)
    have hpos : 0 < value ⟨front, last⟩ := value_pos hlast
    have hlow : (d.val + 128 * value ⟨front, last⟩) % 128 = d.val := by omega
    have hhigh : (d.val + 128 * value ⟨front, last⟩) / 128 = value ⟨front, last⟩ := by omega
    rw [value_cons, bytes_cons, putNat_of_le (by omega), hlow, hhigh, ih (Or.inr hlast)]

/-- With a needless group there are more bytes than are written for the number. -/
theorem length_putNat_value_lt (h : ¬ g.IsMinimal) : (putNat g.value).length < g.bytes.length := by
  obtain ⟨front, last⟩ := g
  obtain ⟨hfront, hlast⟩ := not_or.mp h
  have hzero : last.val = 0 := not_not.mp hlast
  clear h hlast
  induction front with
  | nil => exact absurd rfl hfront
  | cons d front ih =>
    rw [value_cons, length_bytes, List.length_cons]
    by_cases hvalue : value ⟨front, last⟩ = 0
    · rw [hvalue, putNat_of_lt (by omega), List.length_singleton]
      omega
    · have hne : front ≠ [] := by
        rintro rfl
        rw [value_nil] at hvalue
        exact hvalue hzero
      have hshorter := ih hne
      have hhigh : (d.val + 128 * value ⟨front, last⟩) / 128 = value ⟨front, last⟩ := by omega
      rw [length_bytes] at hshorter
      rw [putNat_of_le (by omega), List.length_cons, hhigh]
      exact Nat.succ_lt_succ hshorter

theorem length_putNat_value_le (g : Groups) : (putNat g.value).length ≤ g.bytes.length := by
  by_cases h : g.IsMinimal
  · rw [putNat_value_of_isMinimal h]
  · exact Nat.le_of_lt (length_putNat_value_lt h)

theorem putNat_value_eq_iff : putNat g.value = g.bytes ↔ g.IsMinimal := by
  constructor
  · intro heq
    by_contra hneedless
    exact absurd (congrArg List.length heq) (Nat.ne_of_lt (length_putNat_value_lt hneedless))
  · exact putNat_value_of_isMinimal

end Groups

end HomeMesh.Wire
