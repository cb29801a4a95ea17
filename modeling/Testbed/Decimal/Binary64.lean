-- The exact value of a binary64 number: a sign and a whole number times a
-- power of two, taken apart from its bits.

namespace Testbed.Decimal

/-- A finite magnitude `mantissa * 2 ^ (power - 1074)`, so that every power is a natural
number. -/
structure Magnitude where
  mantissa : Nat
  power : Nat
deriving DecidableEq, Repr

/-- What a binary64 number stands for. -/
inductive Binary64 where
  | nan
  | infinite (negative : Bool)
  | finite (negative : Bool) (magnitude : Magnitude)
deriving DecidableEq, Repr

namespace Binary64

/-- Sixty-four bits read as sign, eleven bits of exponent and fifty-two of fraction. -/
def ofBits (bits : UInt64) : Binary64 :=
  let b := bits.toNat
  let negative := b / Nat.pow 2 63 = 1
  let exponent := b / Nat.pow 2 52 % Nat.pow 2 11
  let fraction := b % Nat.pow 2 52
  if exponent = 2047 then
    if fraction = 0 then .infinite negative else .nan
  else if exponent = 0 then .finite negative ⟨fraction, 0⟩
  else .finite negative ⟨Nat.pow 2 52 + fraction, exponent - 1⟩

def ofFloat (x : Float) : Binary64 := ofBits x.toBits

end Binary64

namespace Magnitude

def toFraction (m : Magnitude) : Nat × Nat := (m.mantissa * Nat.pow 2 m.power, Nat.pow 2 1074)

end Magnitude

/-- The decimal digits of a number, at least `width` of them, with zeros in front. -/
def padded (width n : Nat) : List Char :=
  let ds := Nat.toDigits 10 n
  List.replicate (width - ds.length) '0' ++ ds

end Testbed.Decimal
