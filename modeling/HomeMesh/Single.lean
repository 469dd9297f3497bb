import HomeMesh.Rounding

/-!
# Numbers in the 32-bit binary format

Readings, thresholds and the third slot of an envelope are `Single`s: patterns of 32 bits in the
binary interchange format.  A value *is* its pattern, so two values are equal exactly if they
agree in every bit, also where they are not numbers.  The order used by thresholds is `lt`, which
no value that is not a number takes part in.
-/

namespace HomeMesh

/-- A pattern of the 32-bit binary format. -/
structure Single where
  /-- Sign, exponent and fraction, from the highest bit to the lowest. -/
  bits : UInt32
deriving DecidableEq

namespace Single

/-- The pattern with all bits clear. -/
def zero : Single := ⟨0⟩

instance : Inhabited Single := ⟨zero⟩

/-- Whether the sign bit is set. -/
def isNegative (x : Single) : Bool := 0x80000000 ≤ x.bits.toNat

/-- The pattern without its sign bit, as a number.  Among patterns of one sign it grows with the
value. -/
def unsignedBits (x : Single) : Nat := x.bits.toNat % 0x80000000

/-- The eight bits of the exponent. -/
def exponentField (x : Single) : Nat := x.unsignedBits / 0x800000

/-- The twenty-three bits of the fraction. -/
def fractionField (x : Single) : Nat := x.unsignedBits % 0x800000

/-- Whether the pattern stands for a real number. -/
def isFinite (x : Single) : Bool := x.exponentField != 0xFF

/-- Whether the pattern stands for no number at all. -/
def isNaN (x : Single) : Bool := x.exponentField == 0xFF && x.fractionField != 0

/-- How many units a finite value counts. -/
def significand (x : Single) : Nat :=
  if x.exponentField = 0 then x.fractionField else x.fractionField + 0x800000

/-- The exponent of the power of two that is the unit of a finite value. -/
def exponent (x : Single) : Int :=
  if x.exponentField = 0 then -149 else (x.exponentField : Int) - 150

/-- The numerator of the absolute value, over `absDen`. -/
def absNum (x : Single) : Nat := x.significand * Nat.pow 2 x.exponent.toNat

/-- The denominator of the absolute value: a power of two. -/
def absDen (x : Single) : Nat := Nat.pow 2 (-x.exponent).toNat

/-- The place of a pattern on the number line; both zeros have place zero. -/
def rank (x : Single) : Int := if x.isNegative then -(x.unsignedBits : Int) else x.unsignedBits

/-- Whether `x` is below `y`: never if either is not a number. -/
def lt (x y : Single) : Bool := !x.isNaN && !y.isNaN && decide (x.rank < y.rank)

/-- The value with a given sign and absolute value. -/
def ofMagnitude (negative : Bool) (m : Magnitude) : Single :=
  let magnitude : Nat :=
    match m with
    | .finite significand exponent => (exponent + 149).toNat * 0x800000 + significand
    | .infinite => 0x7F800000
  ⟨UInt32.ofNat (if negative then magnitude + 0x80000000 else magnitude)⟩

/-- The value nearest to `num / den`, with a sign. -/
def ofQuotient (negative : Bool) (num den : Nat) : Single :=
  ofMagnitude negative (BinaryFormat.single.round num den)

/-- The integer nearest to a finite value; a tie goes away from zero. -/
def nearestInt (x : Single) : Int :=
  let n := Rounding.halfUp x.absNum x.absDen
  if x.isNegative then -(n : Int) else n

/-- The 32-bit integer nearest to an integer. -/
def clampInt32 (n : Int) : Int32 :=
  if n < -2147483648 then Int32.minValue
  else if 2147483647 < n then Int32.maxValue
  else Int32.ofInt n

/-- The 32-bit integer nearest to a value.  What is not a number becomes zero, and an infinite value
the bound on its side. -/
def toInt32 (x : Single) : Int32 :=
  if x.isNaN then 0
  else if x.isFinite then clampInt32 x.nearestInt
  else if x.isNegative then Int32.minValue else Int32.maxValue

end Single

end HomeMesh
