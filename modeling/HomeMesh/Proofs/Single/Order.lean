import HomeMesh.Single

/-!
# The order of singles

Values that are numbers are ordered by their place on the number line, from the lowest to the
highest value, which are the infinite ones.  Both are places of one pattern only, so every other
number is above the lowest (`lowest_lt_iff`) and below the highest (`lt_highest_iff`).
-/

namespace HomeMesh.Single

variable {x y : Single}

/-- The lowest value that can be measured. -/
def lowest : Single := ⟨0xFF800000⟩

/-- The highest value that can be measured. -/
def highest : Single := ⟨0x7F800000⟩

theorem lt_iff : x.lt y = true ↔ x.isNaN = false ∧ y.isNaN = false ∧ x.rank < y.rank := by
  simp [lt, and_assoc]

theorem unsignedBits_le (h : x.isNaN = false) : x.unsignedBits ≤ 0x7F800000 := by
  have hbits : x.unsignedBits < 0x80000000 := Nat.mod_lt _ (by decide)
  simp only [isNaN, exponentField, fractionField, Bool.and_eq_false_iff, beq_eq_false_iff_ne,
    bne_eq_false_iff_eq] at h
  omega

/-! ## The places of the infinite values -/

theorem rank_lowest : lowest.rank = -0x7F800000 := by rfl

theorem rank_highest : highest.rank = 0x7F800000 := by rfl

theorem rank_le (h : x.isNaN = false) : -0x7F800000 ≤ x.rank ∧ x.rank ≤ 0x7F800000 := by
  have hbits : x.unsignedBits ≤ 0x7F800000 := unsignedBits_le h
  unfold rank
  split <;> omega

theorem eq_of_toNat_bits (h : x.bits.toNat = y.bits.toNat) : x = y :=
  congrArg Single.mk (UInt32.toNat_inj.mp h)

theorem eq_highest_of_rank (h : x.rank = 0x7F800000) : x = highest := by
  have hbits : x.bits.toNat < 4294967296 := x.bits.toNat_lt
  have htop : highest.bits.toNat = 0x7F800000 := by rfl
  apply eq_of_toNat_bits
  simp only [rank, isNegative, unsignedBits, decide_eq_true_eq] at h
  split at h <;> omega

theorem eq_lowest_of_rank (h : x.rank = -0x7F800000) : x = lowest := by
  have hbits : x.bits.toNat < 4294967296 := x.bits.toNat_lt
  have hbottom : lowest.bits.toNat = 0xFF800000 := by rfl
  apply eq_of_toNat_bits
  simp only [rank, isNegative, unsignedBits, decide_eq_true_eq] at h
  split at h <;> omega

/-! ## Below the highest and above the lowest value -/

/-- The highest value is above all other numbers, and nothing is above it. -/
theorem lt_highest_iff : x.lt highest = true ↔ x.isNaN = false ∧ x ≠ highest := by
  rw [lt_iff, rank_highest]
  constructor
  · rintro ⟨hnumber, -, hbelow⟩
    refine ⟨hnumber, ?_⟩
    rintro rfl
    exact absurd hbelow (by decide)
  · rintro ⟨hnumber, hne⟩
    have hle : x.rank ≤ 0x7F800000 := (rank_le hnumber).2
    exact ⟨hnumber, rfl, Int.lt_iff_le_and_ne.mpr ⟨hle, fun h => hne (eq_highest_of_rank h)⟩⟩

/-- The lowest value is below all other numbers, and nothing is below it. -/
theorem lowest_lt_iff : lowest.lt x = true ↔ x.isNaN = false ∧ x ≠ lowest := by
  rw [lt_iff, rank_lowest]
  constructor
  · rintro ⟨-, hnumber, hbelow⟩
    refine ⟨hnumber, ?_⟩
    rintro rfl
    exact absurd hbelow (by decide)
  · rintro ⟨hnumber, hne⟩
    have hle : -0x7F800000 ≤ x.rank := (rank_le hnumber).1
    exact ⟨rfl, hnumber, Int.lt_iff_le_and_ne.mpr ⟨hle, fun h => hne (eq_lowest_of_rank h.symm)⟩⟩

theorem not_highest_lt : ¬ highest.lt x = true := by
  rw [lt_iff, rank_highest]
  rintro ⟨-, hnumber, habove⟩
  exact absurd (rank_le hnumber).2 (Int.not_le.mpr habove)

theorem not_lt_lowest : ¬ x.lt lowest = true := by
  rw [lt_iff, rank_lowest]
  rintro ⟨hnumber, -, hbelow⟩
  exact absurd (rank_le hnumber).1 (Int.not_le.mpr hbelow)

/-- Every finite value is above the lowest. -/
theorem lowest_lt (h : x.isFinite = true) : lowest.lt x = true := by
  have hfield : x.exponentField ≠ 0xFF := bne_iff_ne.mp h
  refine lowest_lt_iff.mpr ⟨by simp [isNaN, hfield], ?_⟩
  rintro rfl
  exact hfield rfl

end HomeMesh.Single
