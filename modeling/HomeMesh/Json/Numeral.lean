import HomeMesh.Decimal

/-!
# Numbers as they are written in JSON

A `Numeral` is a number as a text spells it: its digits before and after the point and its
exponent, without a value yet.  What a numeral means depends on the field that it stands in, and
some numerals are too great for any field; where nobody asks for the value, the spelling is enough.
-/

namespace HomeMesh.Json

structure Exponent where
  negative : Bool
  /-- The digits; at least one in a well-formed numeral. -/
  digits : List Digit
deriving DecidableEq

/-- A number as it is spelled. -/
structure Numeral where
  negative : Bool
  whole : List Digit
  /-- The digits after the point; none if there is no point. -/
  fraction : List Digit
  exponent : Option Exponent
deriving DecidableEq

/-- Splits a text after its leading digits. -/
def spanDigits : List Char → List Digit × List Char
  | [] => ([], [])
  | c :: rest =>
    match Digit.ofChar? c with
    | none => ([], c :: rest)
    | some d => let (ds, after) := spanDigits rest; (d :: ds, after)

namespace Numeral

/-- The digits before the point: a lone zero, or digits that do not begin with zero. -/
def whole? (s : List Char) : Option (List Digit × List Char) :=
  match spanDigits s with
  | ([], _) => none
  | (d :: ds, rest) => if d = Digit.zero ∧ ds ≠ [] then none else some (d :: ds, rest)

/-- The digits after the point, at least one if there is a point. -/
def fraction? : List Char → Option (List Digit × List Char)
  | '.' :: s =>
    match spanDigits s with
    | ([], _) => none
    | (ds, rest) => some (ds, rest)
  | s => some ([], s)

/-- The digits of an exponent, at least one, up to the end of the text. -/
def exponentDigits? (negative : Bool) (s : List Char) : Option Exponent :=
  match spanDigits s with
  | (d :: ds, []) => some ⟨negative, d :: ds⟩
  | _ => none

/-- The exponent that a text consists of; the empty text has none. -/
def exponent? : List Char → Option (Option Exponent)
  | [] => some none
  | c :: s =>
    if c = 'e' ∨ c = 'E' then
      some <$>
        match s with
        | '-' :: s => exponentDigits? true s
        | '+' :: s => exponentDigits? false s
        | s => exponentDigits? false s
    else none

/-- The numeral without its sign that a text consists of. -/
def unsigned? (negative : Bool) (s : List Char) : Option Numeral := do
  let (whole, s) ← whole? s
  let (fraction, s) ← fraction? s
  let exponent ← exponent? s
  pure { negative, whole, fraction, exponent }

/-- The numeral that a text consists of. -/
def ofChars? : List Char → Option Numeral
  | '-' :: s => unsigned? true s
  | s => unsigned? false s

def toChars (n : Numeral) : List Char :=
  (if n.negative then ['-'] else []) ++ Decimal.toChars n.whole ++
    (if n.fraction = [] then [] else '.' :: Decimal.toChars n.fraction) ++
    match n.exponent with
    | none => []
    | some e => 'e' :: (if e.negative then '-' else '+') :: Decimal.toChars e.digits

def ofNat (n : Nat) : Numeral :=
  { negative := false, whole := Decimal.ofNat n, fraction := [], exponent := none }

/-- The natural number that a numeral spells without sign, point and exponent. -/
def toNat? (n : Numeral) : Option Nat :=
  if n.negative = false ∧ n.fraction = [] ∧ n.exponent = none then some (Decimal.toNat n.whole)
  else none

end Numeral

end HomeMesh.Json
