/-!
# Decimal digits

Numbers are read and written as lists of decimal digits, the most significant first.
-/

namespace HomeMesh

/-- A decimal digit. -/
abbrev Digit := Fin 10

namespace Digit

/-- The digit zero. -/
def zero : Digit := ⟨0, by decide⟩

/-- The character of a digit. -/
def toChar (d : Digit) : Char := Char.ofNat ('0'.toNat + d.val)

/-- The digit that a character stands for, if it is one. -/
def ofChar? (c : Char) : Option Digit :=
  if h : c.toNat - '0'.toNat < 10 then
    if '0'.toNat ≤ c.toNat then some ⟨c.toNat - '0'.toNat, h⟩ else none
  else none

end Digit

namespace Decimal

/-- The number that a list of digits denotes; none denote zero. -/
def toNat (ds : List Digit) : Nat := ds.foldl (fun n d => n * 10 + d.val) 0

/-- The digits of a number, without leading zeros; zero has the one digit `0`. -/
def ofNat (n : Nat) : List Digit :=
  if h : n < 10 then [⟨n, h⟩]
  else ofNat (n / 10) ++ [⟨n % 10, Nat.mod_lt n (by decide)⟩]
termination_by n
decreasing_by omega

/-- The characters of a list of digits. -/
def toChars (ds : List Digit) : List Char := ds.map Digit.toChar

/-- A number in decimal notation. -/
def text (n : Nat) : String := String.ofList (toChars (ofNat n))

/-- An integer in decimal notation, with a minus sign if it is negative. -/
def intText : Int → String
  | .ofNat n => text n
  | .negSucc n => "-" ++ text (n + 1)

end Decimal

end HomeMesh
