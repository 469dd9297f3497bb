import HomeMesh.Decimal
import HomeMesh.Single

/-!
# Readings in log lines

A reading in a log line has one decimal place.  The exact value is rounded, a tie to the even
neighbour, and the sign of zero is kept.
-/

namespace HomeMesh.Single

/-- The value to one decimal place. -/
def tenthsText (x : Single) : String :=
  if x.isNaN then "NaN"
  else
    let sign := if x.isNegative then "-" else ""
    if x.isFinite then
      let tenths := Rounding.halfEven (10 * x.absNum) x.absDen
      sign ++ Decimal.text (tenths / 10) ++ "." ++ Decimal.text (tenths % 10)
    else sign ++ "inf"

end HomeMesh.Single
