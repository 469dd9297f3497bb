import HomeMesh.Proofs.Single.Order
import Mathlib.Algebra.Order.Field.Rat
import Mathlib.Algebra.Order.Field.Power
import Mathlib.Tactic.Linarith
import Mathlib.Tactic.NormNum
import Mathlib.Tactic.Ring

/-!
# The nearest integer

`Single.value` is the rational number that a pattern of the binary format stands for, as the format
defines it.  `IsNearest` says which integer is nearest to a rational number, where a tie goes away
from zero.  Both are independent of how a value is converted: the conversion works on a quotient of
natural numbers, and adds half a unit before it divides.

Half a unit is enough (`isNearest_halfUp`): what is cut off by the division lies in the half-open
interval below one unit, so that a quotient just below a half goes down and a half goes up.  For
negative values the picture is mirrored (`IsNearest.neg`), since the sign is put aside first.

The main result `rounds_iff` says what becomes of each of the 2³² patterns: finite values go to the
nearest integer, as far as it fits 32 bits, and the others to the bounds and to zero.
-/

namespace HomeMesh

/-! ## Integers nearest to a rational number -/

/-- The integer `k` is nearest to `q`, and no other one that is as near is further from zero. -/
structure IsNearest (q : ℚ) (k : ℤ) : Prop where
  near : ∀ j : ℤ, |q - k| ≤ |q - j|
  tie : ∀ j : ℤ, |q - j| = |q - k| → |j| ≤ |k|

namespace IsNearest

variable {q : ℚ} {j k : ℤ}

theorem neg (h : IsNearest q k) : IsNearest (-q) (-k) := by
  have hmirror (j : ℤ) : |-q - j| = |q - (-j : ℤ)| := by
    rw [← abs_neg]
    push_cast
    ring_nf
  constructor
  · intro j
    rw [hmirror, hmirror, neg_neg]
    exact h.near (-j)
  · intro j htie
    rw [hmirror, hmirror, neg_neg] at htie
    rw [abs_neg, ← abs_neg j]
    exact h.tie (-j) htie

/-- There is only one such integer. -/
theorem unique (hj : IsNearest q j) (hk : IsNearest q k) : j = k := by
  have hdist : |q - j| = |q - k| := le_antisymm (hj.near k) (hk.near j)
  have habs : |j| = |k| := le_antisymm (hk.tie j hdist) (hj.tie k hdist.symm)
  obtain hsame | hopposite := abs_eq_abs.mp habs
  · exact hsame
  · -- Only zero is equally far from an integer and its opposite, and zero is an integer itself.
    have hq : q = 0 ∨ k = 0 := by
      rw [hopposite] at hdist
      push_cast at hdist
      obtain hcase | hcase := abs_eq_abs.mp hdist
      · right
        have : (k : ℚ) = 0 := by linarith
        exact_mod_cast this
      · left
        linarith
    obtain rfl | rfl := hq
    · have hzero := hk.near 0
      simp only [Int.cast_zero, sub_zero, abs_zero, zero_sub, abs_neg, abs_nonpos_iff] at hzero
      have hk0 : k = 0 := by exact_mod_cast hzero
      rw [hopposite, hk0, neg_zero]
    · rw [hopposite, neg_zero]

/-- An integer at most half a unit above a number that is not negative, or less than half a unit
below it, is nearest to the number. -/
theorem of_bounds (hq : 0 ≤ q) (hlow : (k : ℚ) - 1 / 2 ≤ q) (hhigh : q < k + 1 / 2) :
    IsNearest q k := by
  have hself : |q - k| ≤ 1 / 2 := abs_le.mpr ⟨by linarith, by linarith⟩
  have hbelow {j : ℤ} (hj : j < k) : 1 / 2 ≤ q - j := by
    have hstep : (j : ℚ) + 1 ≤ k := by exact_mod_cast hj
    linarith
  have habove {j : ℤ} (hj : k < j) : 1 / 2 < j - q := by
    have hstep : (k : ℚ) + 1 ≤ j := by exact_mod_cast hj
    linarith
  constructor
  · intro j
    obtain hj | rfl | hj := lt_trichotomy j k
    · exact hself.trans ((hbelow hj).trans (le_abs_self _))
    · exact le_refl _
    · rw [abs_sub_comm q j]
      exact hself.trans ((habove hj).le.trans (le_abs_self _))
  · intro j htie
    obtain hj | rfl | hj := lt_trichotomy j k
    · -- Then the number is just half a unit below `k`, and `j` is the integer below it.
      have hdist : q - j ≤ 1 / 2 := (le_abs_self _).trans (htie.le.trans hself)
      have hpos : (-1 : ℚ) < j := by linarith
      have hnonneg : 0 ≤ j := by
        have : (-1 : ℤ) < j := by exact_mod_cast hpos
        omega
      rw [abs_of_nonneg hnonneg, abs_of_nonneg (hnonneg.trans hj.le)]
      exact hj.le
    · exact le_refl _
    · rw [abs_sub_comm q j] at htie
      exact absurd ((habove hj).trans_le ((le_abs_self _).trans htie.le)) (not_lt.mpr hself)

end IsNearest

/-- Half a unit added before the division takes a quotient to the nearest integer. -/
theorem isNearest_halfUp (num : ℕ) {den : ℕ} (hden : 0 < den) :
    IsNearest ((num : ℚ) / den) (Rounding.halfUp num den : ℕ) := by
  have hpos : (0 : ℚ) < den := by exact_mod_cast hden
  have hlow : Rounding.halfUp num den * (2 * den) ≤ 2 * num + den := Nat.div_mul_le_self _ _
  have hhigh : 2 * num + den < (Rounding.halfUp num den + 1) * (2 * den) :=
    Nat.lt_mul_of_div_lt (Nat.lt_succ_self _) (by omega)
  have hlow' : (Rounding.halfUp num den : ℚ) * (2 * den) ≤ 2 * num + den := by exact_mod_cast hlow
  have hhigh' : (2 * num + den : ℚ) < (Rounding.halfUp num den + 1) * (2 * den) := by
    exact_mod_cast hhigh
  refine .of_bounds (div_nonneg (Nat.cast_nonneg num) hpos.le) ?_ ?_
  · rw [Int.cast_natCast, le_div_iff₀ hpos]
    linarith
  · rw [Int.cast_natCast, div_lt_iff₀ hpos]
    linarith

namespace Single

variable {x : Single} {v : Int32}

/-! ## The value of a pattern -/

/-- The real number that a finite pattern stands for.  The fraction counts 2²³rds, to which one is
added; with the least exponent nothing is added. -/
def value (x : Single) : ℚ :=
  let sign : ℚ := if x.isNegative then -1 else 1
  let fraction : ℚ := x.fractionField / 2 ^ 23
  if x.exponentField = 0 then sign * 2 ^ (-126 : ℤ) * fraction
  else sign * 2 ^ ((x.exponentField : ℤ) - 127) * (1 + fraction)

theorem two_zpow_eq (e : ℤ) : (2 : ℚ) ^ e = 2 ^ e.toNat / 2 ^ (-e).toNat := by
  cases e with
  | ofNat n => simp
  | negSucc n => simp [zpow_negSucc]

theorem absNum_div_absDen : (x.absNum : ℚ) / x.absDen = x.significand * 2 ^ x.exponent := by
  rw [two_zpow_eq, absNum, absDen, Nat.pow_eq, Nat.pow_eq]
  push_cast
  exact mul_div_assoc _ _ _

/-- The absolute value is the quotient that the conversion works on. -/
theorem value_eq :
    x.value = (if x.isNegative then -1 else 1) * ((x.absNum : ℚ) / x.absDen) := by
  rw [absNum_div_absDen, value, significand, exponent]
  by_cases hleast : x.exponentField = 0
  · have hsplit : (2 : ℚ) ^ (-126 : ℤ) = 2 ^ (-149 : ℤ) * 2 ^ 23 := by norm_num
    simp only [hleast, if_true, hsplit]
    ring
  · have hsum : (x.exponentField : ℤ) - 127 = x.exponentField - 150 + (23 : ℕ) := by omega
    have hsplit : (2 : ℚ) ^ ((x.exponentField : ℤ) - 127) =
        2 ^ ((x.exponentField : ℤ) - 150) * 2 ^ 23 := by
      rw [hsum, zpow_add₀ two_ne_zero, zpow_natCast]
    simp only [hleast, if_false, hsplit]
    push_cast
    ring

theorem isNearest_nearestInt : IsNearest x.value x.nearestInt := by
  have hden : 0 < x.absDen := Nat.two_pow_pos _
  have hnearest := isNearest_halfUp x.absNum hden
  rw [value_eq, nearestInt]
  cases x.isNegative with
  | false => simpa using hnearest
  | true => simpa using hnearest.neg

/-! ## Integers of 32 bits -/

theorem toInt_clampInt32 (k : ℤ) :
    (clampInt32 k).toInt = max (-2 ^ 31) (min (2 ^ 31 - 1) k) := by
  unfold clampInt32
  split
  next hlow =>
    rw [Int32.toInt_minValue]
    omega
  next hlow =>
    split
    next hhigh =>
      rw [Int32.toInt_maxValue]
      omega
    next hhigh =>
      rw [Int32.toInt_ofInt_of_le (by omega) (by omega)]
      omega

/-- The integer of 32 bits for a value: the nearest integer to a finite value, or the bound that it
is beyond; the bounds for the infinite values; and zero for what is not a number. -/
structure Rounds (x : Single) (v : Int32) : Prop where
  finite : x.isFinite = true →
    ∃ k, IsNearest x.value k ∧ v.toInt = max (-2 ^ 31) (min (2 ^ 31 - 1) k)
  highest : x = highest → v.toInt = 2 ^ 31 - 1
  lowest : x = lowest → v.toInt = -2 ^ 31
  nan : x.isNaN = true → v.toInt = 0

/-- A pattern is finite, one of the two infinite ones, or not a number. -/
theorem finite_or_infinite_or_nan :
    x.isFinite = true ∨ x = highest ∨ x = lowest ∨ x.isNaN = true := by
  by_cases hfield : x.exponentField = 0xFF
  · by_cases hfraction : x.fractionField = 0
    · have hbits : x.unsignedBits = 0x7F800000 := by
        simp only [exponentField, fractionField] at hfield hfraction
        omega
      cases hsign : x.isNegative with
      | false => exact .inr (.inl (eq_highest_of_rank (by simp [rank, hsign, hbits])))
      | true => exact .inr (.inr (.inl (eq_lowest_of_rank (by simp [rank, hsign, hbits]))))
    · exact .inr (.inr (.inr (by simp [isNaN, hfield, hfraction])))
  · exact .inl (by simp [isFinite, hfield])

theorem Rounds.unique {v' : Int32} (h : x.Rounds v) (h' : x.Rounds v') : v = v' := by
  refine Int32.toInt_inj.mp ?_
  obtain hfinite | hhighest | hlowest | hnan := x.finite_or_infinite_or_nan
  · obtain ⟨k, hk, hv⟩ := h.finite hfinite
    obtain ⟨k', hk', hv'⟩ := h'.finite hfinite
    rw [hv, hv', hk.unique hk']
  · rw [h.highest hhighest, h'.highest hhighest]
  · rw [h.lowest hlowest, h'.lowest hlowest]
  · rw [h.nan hnan, h'.nan hnan]

theorem rounds_toInt32 : x.Rounds x.toInt32 where
  finite hfinite := by
    have hnan : x.isNaN = false := by
      have hfield : x.exponentField ≠ 0xFF := bne_iff_ne.mp hfinite
      simp [isNaN, hfield]
    refine ⟨x.nearestInt, isNearest_nearestInt, ?_⟩
    rw [toInt32, hnan, hfinite, ← toInt_clampInt32]
    rfl
  highest h := by
    rw [h]
    decide
  lowest h := by
    rw [h]
    decide
  nan h := by
    rw [toInt32, if_pos h]
    decide

/-- **Conversion is exact.**  The conversion gives the integer that belongs to a value, and no other
integer does. -/
theorem rounds_iff : x.Rounds v ↔ v = x.toInt32 :=
  ⟨fun h => h.unique rounds_toInt32, fun h => h ▸ rounds_toInt32⟩

/-- The greatest value below a half goes down, a half goes up, and a negative half goes down. -/
example : (⟨0x3EFFFFFF⟩ : Single).toInt32 = 0 ∧ (⟨0x3F000000⟩ : Single).toInt32 = 1 ∧
    (⟨0xBF000000⟩ : Single).toInt32 = -1 := by decide

end Single

end HomeMesh
