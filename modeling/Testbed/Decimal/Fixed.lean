-- A binary64 number written with a fixed number of decimal places: the exact
-- value is rounded to the nearest multiple of the last place, and a value
-- half way between two of them goes to the even one.
import Testbed.Decimal.Binary64

namespace Testbed.Decimal.Fixed

/-- The quotient rounded to the nearest whole number, a half to the even one. -/
def roundDiv (num den : Nat) : Nat :=
  let q := num / den
  let twice := 2 * (num % den)
  if twice < den then q
  else if den < twice then q + 1
  else q + q % 2

/-- A magnitude with `places` digits behind the point. -/
def ofMagnitude (places : Nat) (m : Magnitude) : String :=
  let (num, den) := m.toFraction
  let units := roundDiv (num * Nat.pow 10 places) den
  let digits := padded (places + 1) units
  let whole := digits.take (digits.length - places)
  let part := digits.drop (digits.length - places)
  String.ofList (if places = 0 then whole else whole ++ '.' :: part)

/-- A number with `places` digits behind the point. -/
def text (places : Nat) (x : Float) : String :=
  match Binary64.ofFloat x with
  | .nan => "NaN"
  | .infinite negative => if negative then "-inf" else "inf"
  | .finite negative m => (if negative then "-" else "") ++ ofMagnitude places m

end Testbed.Decimal.Fixed
