import HomeMesh.Proofs.Decimal

/-!
# Numerals and their spelling

A numeral is well formed (`Numeral.IsWellFormed`) if it has digits before the point, of which the
first is zero only if it is the only one, and if its exponent has digits.  Such a numeral has several
texts (`Numeral.SpelledBy`), since an exponent is marked by a letter of either case and need not have
a plus sign; its characters are one of them (`spelledBy_toChars`).  A numeral is what each of its
texts spells (`ofChars?_of_spelledBy`).
-/

namespace HomeMesh.Json

/-- Digits that may stand before the point: a lone zero, or digits that do not begin with zero. -/
def IsWhole : List Digit → Prop
  | [] => False
  | d :: ds => d = Digit.zero → ds = []

theorem isWhole_ofNat (n : Nat) : IsWhole (Decimal.ofNat n) := by
  by_cases hn : n = 0
  · rw [hn, Decimal.ofNat]
    exact fun _ => rfl
  · obtain ⟨d, ds, hds, hd⟩ := Decimal.exists_cons_ofNat hn
    rw [hds]
    exact fun hzero => absurd hzero hd

namespace Numeral

/-- A numeral that a text can spell. -/
structure IsWellFormed (n : Numeral) : Prop where
  whole : IsWhole n.whole
  exponent : ∀ e, n.exponent = some e → e.digits ≠ []

theorem isWellFormed_ofNat (k : Nat) : (ofNat k).IsWellFormed :=
  ⟨isWhole_ofNat k, fun _ he => nomatch he⟩

@[simp] theorem toNat?_ofNat (k : Nat) : (ofNat k).toNat? = some k := by
  simp [toNat?, ofNat]

/-! ## The texts of a numeral -/

/-- The sign of a number; there is none for a number that is not negative. -/
def signChars (negative : Bool) : List Char := if negative then ['-'] else []

/-- The characters from the point on. -/
def fractionChars (ds : List Digit) : List Char := if ds = [] then [] else '.' :: Decimal.toChars ds

/-- The texts of an exponent.  The mark may be of either case, and a plus sign may be left out. -/
inductive ExponentSpelledBy : Option Exponent → List Char → Prop
  | none : ExponentSpelledBy none []
  | signed {mark : Char} {negative : Bool} {ds : List Digit} :
    mark = 'e' ∨ mark = 'E' → ds ≠ [] →
      ExponentSpelledBy (some ⟨negative, ds⟩)
        (mark :: (if negative then '-' else '+') :: Decimal.toChars ds)
  | unsigned {mark : Char} {ds : List Digit} :
    mark = 'e' ∨ mark = 'E' → ds ≠ [] →
      ExponentSpelledBy (some ⟨false, ds⟩) (mark :: Decimal.toChars ds)

/-- The texts of a numeral. -/
inductive SpelledBy (n : Numeral) : List Char → Prop
  | intro {exponent : List Char} : IsWhole n.whole → ExponentSpelledBy n.exponent exponent →
    SpelledBy n
      (signChars n.negative ++ (Decimal.toChars n.whole ++ (fractionChars n.fraction ++ exponent)))

variable {n : Numeral} {exponent text : List Char}

/-- A well-formed numeral has its characters for one of its texts. -/
theorem spelledBy_toChars (h : n.IsWellFormed) : n.SpelledBy n.toChars := by
  obtain ⟨negative, whole, fraction, exponent⟩ := n
  cases exponent with
  | none => simpa [toChars, signChars, fractionChars] using SpelledBy.intro h.whole .none
  | some e =>
    obtain ⟨enegative, ds⟩ := e
    have hexponent : ExponentSpelledBy (some ⟨enegative, ds⟩) _ :=
      .signed (.inl rfl) (h.exponent _ rfl)
    simpa [toChars, signChars, fractionChars] using SpelledBy.intro h.whole hexponent

theorem noDigitFirst_exponent {e : Option Exponent} (h : ExponentSpelledBy e text) :
    NoDigitFirst text := by
  cases h with
  | none => exact noDigitFirst_nil
  | signed hmark _ | unsigned hmark _ =>
    obtain rfl | rfl := hmark <;> exact noDigitFirst_cons rfl

theorem noDigitFirst_fraction (ds : List Digit) (h : NoDigitFirst text) :
    NoDigitFirst (fractionChars ds ++ text) := by
  unfold fractionChars
  split
  · exact h
  · exact noDigitFirst_cons rfl

theorem whole?_toChars {ds : List Digit} (hds : IsWhole ds) {s : List Char}
    (hs : NoDigitFirst s) : whole? (Decimal.toChars ds ++ s) = some (ds, s) := by
  rw [whole?, spanDigits_toChars ds hs]
  cases ds with
  | nil => cases hds
  | cons d ds =>
    have hzero : ¬ (d = Digit.zero ∧ ds ≠ []) := fun h => h.2 (hds h.1)
    exact if_neg hzero

theorem fraction?_fractionChars {e : Option Exponent} (ds : List Digit)
    (h : ExponentSpelledBy e text) : fraction? (fractionChars ds ++ text) = some (ds, text) := by
  cases ds with
  | nil =>
    cases h with
    | none => rfl
    | signed hmark _ | unsigned hmark _ => obtain rfl | rfl := hmark <;> rfl
  | cons d ds =>
    have hspan := spanDigits_toChars (d :: ds) (noDigitFirst_exponent h)
    simp [fractionChars, fraction?, hspan]

theorem exponentDigits?_toChars (negative : Bool) {ds : List Digit} (hds : ds ≠ []) :
    exponentDigits? negative (Decimal.toChars ds) = some ⟨negative, ds⟩ := by
  have hspan := spanDigits_toChars ds noDigitFirst_nil
  rw [List.append_nil] at hspan
  rw [exponentDigits?, hspan]
  cases ds with
  | nil => exact absurd rfl hds
  | cons d ds => rfl

/-- Digits do not begin with a sign. -/
theorem toChars_ne_cons {ds : List Digit} {c : Char} (hc : ∀ d : Digit, d.toChar ≠ c)
    {s : List Char} : Decimal.toChars ds ≠ c :: s := by
  cases ds with
  | nil => exact (List.cons_ne_nil _ _).symm
  | cons d ds => exact fun h => hc d (List.cons.inj h).1

theorem exponent?_of_spelledBy {e : Option Exponent} (h : ExponentSpelledBy e text) :
    exponent? text = some e := by
  cases h with
  | none => rfl
  | @signed mark negative ds hmark hds =>
    cases negative <;> simp [exponent?, hmark, exponentDigits?_toChars _ hds]
  | @unsigned mark ds hmark hds =>
    unfold exponent?
    simp only [hmark, if_true]
    split
    next s hs => exact absurd hs (toChars_ne_cons Digit.toChar_ne_minus)
    next s hs => exact absurd hs (toChars_ne_cons Digit.toChar_ne_plus)
    next => rw [exponentDigits?_toChars false hds]; rfl

/-- The digits, fraction and exponent of a numeral, without its sign. -/
theorem unsigned?_eq (hwhole : IsWhole n.whole) (hexponent : ExponentSpelledBy n.exponent exponent) :
    unsigned? n.negative (Decimal.toChars n.whole ++ (fractionChars n.fraction ++ exponent)) =
      some n := by
  have hfraction := noDigitFirst_fraction n.fraction (noDigitFirst_exponent hexponent)
  simp [unsigned?, whole?_toChars hwhole hfraction, fraction?_fractionChars _ hexponent,
    exponent?_of_spelledBy hexponent]

/-! ## The first character -/

/-- Digits that may stand before the point begin with a digit. -/
theorem exists_digit_of_isWhole {ds : List Digit} (hds : IsWhole ds) (s : List Char) :
    ∃ (d : Digit) (rest : List Char), Decimal.toChars ds ++ s = d.toChar :: rest := by
  cases ds with
  | nil => cases hds
  | cons d ds => exact ⟨d, Decimal.toChars ds ++ s, rfl⟩

/-- The text of a numeral begins with a minus sign or with a digit. -/
theorem exists_cons_of_spelledBy (h : n.SpelledBy text) :
    ∃ c rest, text = c :: rest ∧ (c = '-' ∨ ∃ d : Digit, c = d.toChar) := by
  obtain ⟨hwhole, _⟩ := h
  cases n.negative with
  | true => exact ⟨'-', _, rfl, .inl rfl⟩
  | false =>
    obtain ⟨d, rest, hd⟩ := exists_digit_of_isWhole hwhole _
    exact ⟨d.toChar, rest, hd, .inr ⟨d, rfl⟩⟩

/-! ## The main result -/

/-- A numeral is what its texts spell. -/
theorem ofChars?_of_spelledBy (h : n.SpelledBy text) : ofChars? text = some n := by
  obtain ⟨hwhole, hexponent⟩ := h
  have hunsigned := unsigned?_eq hwhole hexponent
  cases hsign : n.negative with
  | true =>
    rw [hsign] at hunsigned
    exact hunsigned
  | false =>
    rw [hsign] at hunsigned
    obtain ⟨d, rest, hd⟩ := exists_digit_of_isWhole hwhole _
    rw [hd] at hunsigned
    simp only [signChars, Bool.false_eq_true, if_false, List.nil_append, hd]
    unfold ofChars?
    split
    next s hs => exact absurd (List.cons.inj hs).1 d.toChar_ne_minus
    next => exact hunsigned

end Numeral

end HomeMesh.Json
