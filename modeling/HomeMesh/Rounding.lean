/-!
# Rounding exact quotients

A real quantity that a program holds exactly is a quotient of natural numbers.  This module rounds
such quotients: to a natural number, with either rule for a tie, and to the grid of a binary
floating-point format.
-/

namespace HomeMesh

namespace Rounding

/-- The natural number nearest to `num / den`; a tie goes to the even neighbour. -/
def halfEven (num den : Nat) : Nat :=
  let whole := num / den
  let twiceRest := 2 * (num % den)
  if twiceRest < den then whole
  else if den < twiceRest then whole + 1
  else if whole % 2 = 0 then whole else whole + 1

/-- The natural number nearest to `num / den`; a tie goes upwards. -/
def halfUp (num den : Nat) : Nat := (2 * num + den) / (2 * den)

/-- The exponent `k` for which `2 ^ k ≤ num / den < 2 ^ (k + 1)`, if `num` is not zero. -/
def binaryExponent (num den : Nat) : Int :=
  let k : Int := (num.log2 : Int) - den.log2
  if num * Nat.pow 2 (-k).toNat < den * Nat.pow 2 k.toNat then k - 1 else k

/-- The exponent of the greatest power of ten that is at most `n`, if `n` is not zero. -/
def decimalLog (n : Nat) : Nat := if n < 10 then 0 else decimalLog (n / 10) + 1
termination_by n
decreasing_by omega

/-- The exponent `k` for which `10 ^ k ≤ num / den < 10 ^ (k + 1)`, if `num` is not zero. -/
def decimalExponent (num den : Nat) : Int :=
  if den ≤ num then (decimalLog (num / den) : Int) else -(decimalLog ((den - 1) / num) : Int) - 1

end Rounding

/-- A quantity on the grid of a binary format: a natural number of units, each a power of two. -/
inductive Magnitude where
  /-- The quantity `significand * 2 ^ exponent`. -/
  | finite (significand : Nat) (exponent : Int)
  /-- A quantity too great for the format. -/
  | infinite
deriving DecidableEq

def Magnitude.isZero : Magnitude → Bool
  | .finite significand _ => significand == 0
  | .infinite => false

/-- A binary floating-point format. -/
structure BinaryFormat where
  precision : Nat
  /-- The exponent of the smallest unit. -/
  minExponent : Int
  /-- The exponent of the greatest unit. -/
  maxExponent : Int
deriving DecidableEq

namespace BinaryFormat

def single : BinaryFormat := ⟨24, -149, 104⟩

def double : BinaryFormat := ⟨53, -1074, 971⟩

/-- The exponent of the unit in which the format measures `num / den`. -/
def unitExponent (f : BinaryFormat) (num den : Nat) : Int :=
  let k := Rounding.binaryExponent num den - ((f.precision : Int) - 1)
  if k < f.minExponent then f.minExponent else k

/-- The quantity of the format nearest to `num / den`; a tie goes to the even neighbour.  What
rounds to the first power of two beyond the greatest unit is infinite. -/
def round (f : BinaryFormat) (num den : Nat) : Magnitude :=
  if num = 0 then .finite 0 f.minExponent
  else
    let e := f.unitExponent num den
    let m := Rounding.halfEven (num * Nat.pow 2 (-e).toNat) (den * Nat.pow 2 e.toNat)
    if f.maxExponent < e ∨ (e = f.maxExponent ∧ m = Nat.pow 2 f.precision) then .infinite
    else .finite m e

/-- The product of two quantities, rounded. -/
def mul (f : BinaryFormat) : Magnitude → Magnitude → Magnitude
  | .finite m d, .finite n e =>
    f.round (m * n * Nat.pow 2 (d + e).toNat) (Nat.pow 2 (-(d + e)).toNat)
  | _, _ => .infinite

/-- The quotient of a quantity by one that is neither zero nor infinite, rounded. -/
def div (f : BinaryFormat) : Magnitude → Magnitude → Magnitude
  | .finite m d, .finite n e =>
    f.round (m * Nat.pow 2 (d - e).toNat) (n * Nat.pow 2 (e - d).toNat)
  | .infinite, _ => .infinite
  | _, .infinite => .finite 0 f.minExponent

/-- A quantity of another format, rounded to this one. -/
def convert (f : BinaryFormat) : Magnitude → Magnitude
  | .finite m e => f.round (m * Nat.pow 2 e.toNat) (Nat.pow 2 (-e).toNat)
  | .infinite => .infinite

end BinaryFormat

end HomeMesh
