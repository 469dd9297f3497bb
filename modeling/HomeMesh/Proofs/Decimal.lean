import HomeMesh.Json.Numeral

/-!
# Digits and numbers

The digits of a number denote it (`toNat_ofNat`), and begin with zero for zero only
(`exists_cons_ofNat`).  In a text, digits are told apart from what follows them by the first
character that is none (`spanDigits_toChars`).
-/

namespace HomeMesh

@[simp] theorem Digit.ofChar?_toChar (d : Digit) : Digit.ofChar? d.toChar = some d := by
  revert d
  decide

theorem Digit.toChar_ne_minus (d : Digit) : d.toChar ≠ '-' := by
  revert d
  decide

theorem Digit.toChar_ne_plus (d : Digit) : d.toChar ≠ '+' := by
  revert d
  decide

/-- A digit begins none of the words `null`, `true` and `false`. -/
theorem Digit.toChar_ne_word (d : Digit) : d.toChar ≠ 'n' ∧ d.toChar ≠ 't' ∧ d.toChar ≠ 'f' := by
  revert d
  decide

namespace Decimal

theorem toNat_concat (ds : List Digit) (d : Digit) : toNat (ds ++ [d]) = toNat ds * 10 + d.val := by
  rw [toNat, List.foldl_append]
  rfl

/-- The digits of a number denote it. -/
@[simp] theorem toNat_ofNat (n : Nat) : toNat (ofNat n) = n := by
  fun_induction ofNat n with
  | case1 n hsmall => simp [toNat]
  | case2 n hsmall ih =>
    rw [toNat_concat, ih]
    exact Nat.div_add_mod' n 10

theorem ofNat_ne_nil (n : Nat) : ofNat n ≠ [] := by
  fun_induction ofNat n <;> simp

/-- A number that is not zero has a leading digit that is not zero. -/
theorem exists_cons_ofNat {n : Nat} (hn : n ≠ 0) :
    ∃ d ds, ofNat n = d :: ds ∧ d ≠ Digit.zero := by
  fun_induction ofNat n with
  | case1 n hsmall =>
    refine ⟨⟨n, hsmall⟩, [], rfl, fun hzero => hn ?_⟩
    exact congrArg Fin.val hzero
  | case2 n hsmall ih =>
    obtain ⟨d, ds, hds, hd⟩ := ih (by omega)
    exact ⟨d, ds ++ [⟨n % 10, Nat.mod_lt n (by decide)⟩], by rw [hds]; rfl, hd⟩

end Decimal

namespace Json

open Decimal

/-- The text does not begin with a digit. -/
def NoDigitFirst (s : List Char) : Prop := ∀ c ∈ s.head?, Digit.ofChar? c = none

theorem noDigitFirst_nil : NoDigitFirst [] := by
  intro c hc
  cases hc

theorem noDigitFirst_cons {c : Char} {s : List Char} (hc : Digit.ofChar? c = none) :
    NoDigitFirst (c :: s) := by
  intro c' hc'
  rwa [← Option.some.inj hc']

theorem spanDigits_cons (c : Char) (s : List Char) :
    spanDigits (c :: s) =
      match Digit.ofChar? c with
      | none => ([], c :: s)
      | some d => (d :: (spanDigits s).1, (spanDigits s).2) := by
  rfl

theorem spanDigits_of_noDigitFirst {s : List Char} (hs : NoDigitFirst s) :
    spanDigits s = ([], s) := by
  cases s with
  | nil => rfl
  | cons c s => rw [spanDigits_cons, hs c (Option.mem_some_self c)]

/-- Digits end where the text goes on with something else. -/
theorem spanDigits_toChars (ds : List Digit) {s : List Char} (hs : NoDigitFirst s) :
    spanDigits (toChars ds ++ s) = (ds, s) := by
  induction ds with
  | nil => exact spanDigits_of_noDigitFirst hs
  | cons d ds ih =>
    change spanDigits (d.toChar :: (toChars ds ++ s)) = (d :: ds, s)
    rw [spanDigits_cons, Digit.ofChar?_toChar, ih]

end Json

end HomeMesh
