-- A binary64 number written with the fewest decimal digits that read back as
-- the same number, always in positional notation. Of the texts with that many
-- digits the nearest to the exact value is taken, and the larger of two that
-- are equally near.
import Testbed.Decimal.Binary64

namespace Testbed.Decimal.Shortest

/-! ## The interval that reads back -/

/-- The reals that round to a magnitude, in units of `2 ^ -1076`: the value and the two
ends of the interval, which belong to it when the mantissa is even. -/
structure Interval where
  low : Nat
  value : Nat
  high : Nat
  closed : Bool

/-- A neighbour below a power of two is only half as far away as the one above. -/
def Interval.ofMagnitude (m : Magnitude) : Interval :=
  let unit := Nat.pow 2 m.power
  let below := if m.mantissa = Nat.pow 2 52 ∧ 0 < m.power then unit else 2 * unit
  { low := 4 * m.mantissa * unit - below
    value := 4 * m.mantissa * unit
    high := 4 * m.mantissa * unit + 2 * unit
    closed := m.mantissa % 2 = 0 }

/-- A decimal `digits * 10 ^ (shift - 400)`. -/
structure Digits where
  digits : Nat
  shift : Nat

/-- The scale that turns units of `2 ^ -1076` and tenths into whole numbers. -/
def scale : Nat := Nat.pow 10 400

def Digits.scaled (d : Digits) : Nat := d.digits * Nat.pow 10 d.shift * Nat.pow 2 1076

/-- Reading the decimal gives the number back. -/
def Interval.holds (i : Interval) (d : Digits) : Bool :=
  if i.closed then i.low * scale ≤ d.scaled && d.scaled ≤ i.high * scale
  else i.low * scale < d.scaled && d.scaled < i.high * scale

/-! ## The search -/

/-- The two decimals around the value that are whole multiples of `10 ^ (shift - 400)`. -/
def neighbours (i : Interval) (shift : Nat) : Digits × Digits :=
  let below := i.value * scale / (Nat.pow 10 shift * Nat.pow 2 1076)
  (⟨below, shift⟩, ⟨below + 1, shift⟩)

/-- The nearer of the two neighbours that read back, the upper one where they are equally
near. -/
def pick (i : Interval) (shift : Nat) : Option Digits :=
  let (d, u) := neighbours i shift
  let target := i.value * scale
  match i.holds d, i.holds u with
  | true, true => if target - d.scaled < u.scaled - target then some d else some u
  | true, false => some d
  | false, true => some u
  | false, false => none

/-- Tries coarser to finer grids, from `shift` down. -/
def search (i : Interval) : Nat → Option Digits
  | 0 => pick i 0
  | shift + 1 => pick i (shift + 1) <|> search i shift

/-- The shortest decimal of a magnitude that is not zero. Every binary64 magnitude lies
below `10 ^ 309`. -/
def ofMagnitude (m : Magnitude) : Digits :=
  (search (.ofMagnitude m) 709).getD ⟨0, 0⟩

/-! ## Positional text -/

def dropTrailingZeros (ds : List Char) : List Char := (ds.reverse.dropWhile (· = '0')).reverse

/-- The positional text of a decimal: no point where nothing stands behind it. -/
def Digits.text (d : Digits) : String :=
  if 400 ≤ d.shift then
    String.ofList (Nat.toDigits 10 (d.digits * Nat.pow 10 (d.shift - 400)))
  else
    let places := 400 - d.shift
    let ds := padded (places + 1) d.digits
    let whole := ds.take (ds.length - places)
    let part := dropTrailingZeros (ds.drop (ds.length - places))
    String.ofList (if part.isEmpty then whole else whole ++ '.' :: part)

def text (x : Float) : String :=
  match Binary64.ofFloat x with
  | .nan => "NaN"
  | .infinite negative => if negative then "-inf" else "inf"
  | .finite negative m =>
    (if negative then "-" else "") ++ (if m.mantissa = 0 then "0" else (ofMagnitude m).text)

end Testbed.Decimal.Shortest
