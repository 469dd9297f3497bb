import HomeMesh.Proofs.Json.Numeral
import HomeMesh.Single.Numeral

/-!
# How values are spelled

Only finite values are spelled, and every spelling is a well-formed numeral
(`isWellFormed_of_toNumeral?`).  The digits come from a decimal number that is rounded to the value;
for a value other than zero that number is not zero, so its first digit is not zero either, and it
stays when the zeros at the end are cut off.

Reading is another matter: it goes through the 64-bit format and rounds more than once.  What a
value becomes by being spelled and read again is `reread?`, and `ReadsBack` says that it comes out as
it was.
-/

namespace HomeMesh

open Json (Numeral IsWhole)

namespace Single

variable {x : Single}

/-! ## Digits of a spelling -/

/-- The digits begin with one that is not zero. -/
def LeadsNonzero (ds : List Digit) : Prop := ∃ d rest, ds = d :: rest ∧ d ≠ Digit.zero

/-- Cutting zeros off at the end keeps the first digit. -/
theorem LeadsNonzero.dropZeros {ds : List Digit} (h : LeadsNonzero ds) :
    LeadsNonzero ((ds.reverse.dropWhile (· == Digit.zero)).reverse) := by
  obtain ⟨d, rest, rfl, hd⟩ := h
  have hkeep : [d].dropWhile (· == Digit.zero) = [d] := by simp [hd]
  rw [List.reverse_cons, List.dropWhile_append, hkeep]
  split
  · exact ⟨d, [], rfl, hd⟩
  · exact ⟨d, (rest.reverse.dropWhile (· == Digit.zero)).reverse, by simp, hd⟩

theorem leadsNonzero_layoutDigits {d : Scientific} (h : d.digits ≠ 0) :
    LeadsNonzero (layoutDigits d).1 :=
  LeadsNonzero.dropZeros (Decimal.exists_cons_ofNat h)

/-- However the digits are laid out around the point, the numeral is well formed. -/
theorem isWellFormed_spell (negative : Bool) {ds : List Digit} (h : LeadsNonzero ds) (k : Int) :
    (spell negative ds k).IsWellFormed := by
  obtain ⟨d, rest, rfl, hd⟩ := h
  unfold spell
  split
  · split
    · exact ⟨fun hzero => absurd hzero hd, fun _ he => nomatch he⟩
    · exact ⟨fun _ => rfl, fun _ he => nomatch he⟩
  · refine ⟨fun hzero => absurd hzero hd, fun e he => ?_⟩
    rw [← Option.some.inj he]
    exact Decimal.ofNat_ne_nil k.natAbs

/-! ## Spelled values -/

/-- A decimal number that is rounded to a value other than zero is not zero. -/
theorem digits_ne_zero_of_reads {d : Scientific} (hx : x.unsignedBits ≠ 0)
    (h : x.reads d = true) : d.digits ≠ 0 := by
  intro hzero
  have hnum : d.num = 0 := by rw [Scientific.num, hzero, Nat.zero_mul]
  have hbits : (ofQuotient false d.num d.den).unsignedBits = 0 := by
    rw [hnum]
    rfl
  rw [reads, hbits, beq_iff_eq] at h
  exact hx h.symm

theorem toNumeral?_eq_none (h : x.isFinite = false) : x.toNumeral? = none := by
  simp [toNumeral?, h]

/-- Only finite values are spelled. -/
theorem isFinite_of_toNumeral? {n : Numeral} (h : x.toNumeral? = some n) : x.isFinite = true := by
  cases hx : x.isFinite with
  | true => rfl
  | false =>
    rw [toNumeral?_eq_none hx] at h
    cases h

/-- Every spelling is a well-formed numeral. -/
theorem isWellFormed_of_toNumeral? {n : Numeral} (h : x.toNumeral? = some n) :
    n.IsWellFormed := by
  have hfinite : x.isFinite = true := isFinite_of_toNumeral? h
  rw [toNumeral?, hfinite] at h
  by_cases hzero : x.unsignedBits = 0
  · simp only [Bool.not_true, Bool.false_eq_true, if_false, hzero, if_true] at h
    rw [← Option.some.inj h]
    exact ⟨fun _ => rfl, fun _ he => nomatch he⟩
  · simp only [Bool.not_true, Bool.false_eq_true, if_false, hzero] at h
    obtain ⟨d, hshortest, rfl⟩ := Option.map_eq_some_iff.mp h
    have hreads : x.reads d = true := List.find?_some hshortest
    exact isWellFormed_spell _ (leadsNonzero_layoutDigits (digits_ne_zero_of_reads hzero hreads)) _

/-! ## Spelled and read again -/

/-- The value that is read from the spelling of `x`; none if `x` is not spelled, or its spelling has
no value. -/
def reread? (x : Single) : Option Single := x.toNumeral?.bind ofNumeral?

/-- The value is spelled, and the spelling is read as this value. -/
def ReadsBack (x : Single) : Prop := x.reread? = some x

instance (x : Single) : Decidable x.ReadsBack := inferInstanceAs (Decidable (x.reread? = some x))

theorem reread?_eq_none (h : x.isFinite = false) : x.reread? = none := by
  rw [reread?, toNumeral?_eq_none h, Option.bind_none]

end Single

end HomeMesh
