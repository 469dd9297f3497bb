import HomeMesh.Json.Numeral
import HomeMesh.Single

/-!
# Numerals of the 32-bit binary format

`Single.ofNumeral?` gives a numeral its value, and `Single.toNumeral?` spells a value.

**Reading.**  A numeral without point and exponent whose value fits 64 bits is rounded once.  Any
other goes through the 64-bit binary format: its leading digits, as many as fit 64 bits, are
rounded to that format, scaled by a rounded power of ten, and the outcome is rounded again.  A
numeral whose value is too great for the 64-bit format has no value; one that is too great for the
32-bit format only is infinite.

**Writing.**  A finite value is spelled with the fewest digits that are rounded back to it; of two
such spellings with equally many digits the nearer one is taken, and the even one if both are
equally near.
-/

namespace HomeMesh

open Json (Numeral Exponent)

namespace Single

/-! ## Reading -/

def maxWord : Nat := 0xFFFFFFFFFFFFFFFF

/-- The greatest exponent that is taken at its word. -/
def maxExponentText : Nat := 0x7FFFFFFF

/-- Appends digits to a number while it fits 64 bits; gives the number and the digits left over. -/
def absorb (n : Nat) : List Digit → Nat × List Digit
  | [] => (n, [])
  | d :: ds => if n * 10 + d.val ≤ maxWord then absorb (n * 10 + d.val) ds else (n, d :: ds)

/-- The power of ten in the 64-bit format. -/
def powerOfTen (k : Nat) : Magnitude := BinaryFormat.double.round (Nat.pow 10 k) 1

/-- The greatest power of ten that is taken in one step. -/
def maxScale : Nat := 308

/-- A quantity divided by `10 ^ k`, in the 64-bit format and at most 308 places at a time. -/
def scaleDown (m : Magnitude) (k : Nat) : Magnitude :=
  if k ≤ maxScale ∨ m.isZero then BinaryFormat.double.div m (powerOfTen (min k maxScale))
  else scaleDown (BinaryFormat.double.div m (powerOfTen maxScale)) (k - maxScale)
termination_by k
decreasing_by simp only [maxScale] at *; omega

/-- A quantity times `10 ^ k`, in the 64-bit format; none if it is too great. -/
def scaleUp (m : Magnitude) (k : Nat) : Option Magnitude :=
  if k ≤ maxScale then
    match BinaryFormat.double.mul m (powerOfTen k) with
    | .infinite => none
    | product => some product
  else if m.isZero then some m
  else none

/-- A quantity times a power of ten. -/
def scale (m : Magnitude) (e : Int) : Option Magnitude :=
  if e < 0 then some (scaleDown m (-e).toNat) else scaleUp m e.toNat

/-- The leading digits of a numeral, as many as fit 64 bits, as a number, and the place of the last
of them.  A digit before the point that does not fit still counts as a place; so the digits after
the point get a chance of their own, and the first of them that does not fit ends the number. -/
def significandAndExponent (n : Numeral) : Nat × Int :=
  let (s, dropped) := absorb 0 n.whole
  let (s, rest) := absorb s n.fraction
  (s, (dropped.length : Int) - ((n.fraction.length : Int) - rest.length))

/-- The value of a numeral in the 64-bit format, without its sign. -/
def doubleOfNumeral? (n : Numeral) : Option Magnitude :=
  let (s, shift) := significandAndExponent n
  let m := BinaryFormat.double.round s 1
  match n.exponent with
  | none => scale m shift
  | some e =>
    let written := Decimal.toNat e.digits
    if maxExponentText < written then
      if e.negative || s == 0 then some (.finite 0 0) else none
    else scale m (if e.negative then shift - written else shift + written)

/-- Whether a numeral is an integer of 64 bits: one without sign up to `2 ^ 64 - 1`, or a negative
one down to `-2 ^ 63`. -/
def isWord (n : Numeral) : Bool :=
  let value := Decimal.toNat n.whole
  n.fraction.isEmpty && n.exponent.isNone &&
    if n.negative then 0 < value && value ≤ 0x8000000000000000 else value ≤ maxWord

def ofNumeral? (n : Numeral) : Option Single :=
  if isWord n then some (ofQuotient n.negative (Decimal.toNat n.whole) 1)
  else
    (doubleOfNumeral? n).map fun m => ofMagnitude n.negative (BinaryFormat.single.convert m)

/-! ## Writing -/

/-- A positive number in decimal notation: `digits * 10 ^ exponent`. -/
structure Scientific where
  digits : Nat
  /-- The place of the last digit. -/
  exponent : Int
deriving DecidableEq

namespace Scientific

def num (d : Scientific) : Nat := d.digits * Nat.pow 10 d.exponent.toNat

def den (d : Scientific) : Nat := Nat.pow 10 (-d.exponent).toNat

end Scientific

/-- Whether a decimal number is rounded to the absolute value of `x`. -/
def reads (x : Single) (d : Scientific) : Bool :=
  (ofQuotient false d.num d.den).unsignedBits == x.unsignedBits

/-- The neighbours of the absolute value of `x` among the multiples of `10 ^ e`, the nearer one
first; of two that are equally near the even one is first. -/
def neighbours (x : Single) (e : Int) : List Scientific :=
  let num := x.absNum * Nat.pow 10 (-e).toNat
  let den := x.absDen * Nat.pow 10 e.toNat
  let below := num / den
  if Rounding.halfEven num den = below then [⟨below, e⟩, ⟨below + 1, e⟩]
  else [⟨below + 1, e⟩, ⟨below, e⟩]

/-- The first of the candidates that is rounded to the absolute value of `x`, where grids are tried
from one digit to `n` digits; `k` is the place of the first digit. -/
def shortest? (x : Single) (k : Int) (n : Nat) : Option Scientific :=
  ((List.range n).flatMap fun (i : Nat) => neighbours x (k - i)).find? (reads x)

/-- Nine digits always suffice. -/
def maxDigits : Nat := 9

/-- The digits of a decimal number without zeros at its end, and the place of the first one. -/
def layoutDigits (d : Scientific) : List Digit × Int :=
  let ds := Decimal.ofNat d.digits
  ((ds.reverse.dropWhile (· == Digit.zero)).reverse, d.exponent + (ds.length - 1 : Nat))

/-- The places of a first digit for which a number is written without exponent: from the sixth
after the point to the thirteenth before it. -/
def isPlainPlace (k : Int) : Bool := -6 ≤ k && k ≤ 12

/-- Spells digits of which the first one stands at the place `k`.  A plain spelling has at least one
digit on either side of the point. -/
def spell (negative : Bool) (ds : List Digit) (k : Int) : Numeral :=
  if isPlainPlace k then
    if 0 ≤ k then
      let count := k.toNat + 1
      let whole := ds.take count ++ List.replicate (count - ds.length) Digit.zero
      let fraction := if ds.length ≤ count then [Digit.zero] else ds.drop count
      { negative, whole, fraction, exponent := none }
    else
      { negative, whole := [Digit.zero],
        fraction := List.replicate ((-k).toNat - 1) Digit.zero ++ ds, exponent := none }
  else
    { negative, whole := ds.take 1, fraction := ds.drop 1,
      exponent := some ⟨decide (k < 0), Decimal.ofNat k.natAbs⟩ }

/-- The spelling of a finite value. -/
def toNumeral? (x : Single) : Option Numeral :=
  if !x.isFinite then none
  else if x.unsignedBits = 0 then
    some
      { negative := x.isNegative, whole := [Digit.zero], fraction := [Digit.zero],
        exponent := none }
  else
    (shortest? x (Rounding.decimalExponent x.absNum x.absDen) maxDigits).map fun d =>
      let (ds, k) := layoutDigits d
      spell x.isNegative ds k

end Single

end HomeMesh
