-- TOML integers and floats, read from their whole text. The shape of a number
-- is told by the characters behind its first digits, and only a text of no
-- such shape is refused. Whether the digits have a value is settled later, by
-- those who want the value: an integer has one if it fits into 128 bits with
-- or without a sign, and a float if it does not round to infinity.
import Testbed.Toml.Lexical

namespace Testbed.Toml.Number

/-- A number as far as it is kept. -/
inductive Kind where
  | integer (n : Int)
  | float
  /-- It has the shape of a number but no value: it is out of range, or not all digits. -/
  | unreadable
deriving DecidableEq, Repr

/-! ## Digits -/

/-- A digit of a number system with at most sixteen digits. -/
def isDigitBelow (base : Nat) (c : Char) : Bool := (hexDigit? c).any (· < base)

/-- A text without its underscores. Each must have a digit on either side; what else the text
holds is not looked at. The flag tells that the character before was a digit. -/
def ungroup (isDigit : Char → Bool) : Bool → List Char → Option (List Char)
  | _, [] => some []
  | afterDigit, c :: r =>
    if c = '_' then
      if afterDigit && r.head?.any isDigit then ungroup isDigit false r else none
    else (ungroup isDigit (isDigit c) r).map (c :: ·)

def ofDigits (base : Nat) (ds : List Char) : Nat :=
  ds.foldl (fun n c => n * base + (hexDigit? c).getD 0) 0

/-- The characters that digits are grouped with. -/
def isGroupChar (c : Char) : Bool := c.isDigit || c = '_'

/-- The text starts with a zero that another digit follows. -/
def hasNeedlessZero (cs : List Char) : Bool :=
  cs.head? = some '0' && 1 < ((cs.takeWhile isGroupChar).filter Char.isDigit).length

/-- A text as its sign and the rest. -/
def splitSign : List Char → Bool × List Char
  | '-' :: r => (true, r)
  | '+' :: r => (false, r)
  | cs => (false, cs)

/-! ## Range -/

/-- The integer fits into 128 bits, with a sign or without one. -/
def fits128 (n : Int) : Bool := -Int.ofNat (Nat.pow 2 127) ≤ n && n < Int.ofNat (Nat.pow 2 128)

/-- The magnitudes from here on round to infinity: half a step above the largest float. -/
def overflowBound : Nat := Nat.pow 2 1024 - Nat.pow 2 970

/-- `n * 10 ^ e` is too large for a float. The number of digits decides where it can, so that
no power of an absurd exponent is formed. -/
def overflows (n : Nat) (digits : Nat) (e : Int) : Bool :=
  if n = 0 then false
  else
    let magnitude := (digits : Int) + e
    if magnitude < 300 then false
    else if 700 + digits < magnitude then true
    else if 0 ≤ e then overflowBound ≤ n * Nat.pow 10 e.toNat
    else overflowBound * Nat.pow 10 (-e).toNat ≤ n

/-! ## Whole texts -/

/-- An integer of the digits that a text should be. -/
def integerOf (base : Nat) (negative : Bool) (ds : List Char) : Kind :=
  let n : Int := if negative then -(ofDigits base ds : Int) else ofDigits base ds
  if !ds.isEmpty && ds.all (isDigitBelow base) && fits128 n then .integer n else .unreadable

def exponent (cs : List Char) : Option Int :=
  let (negative, ds) := splitSign cs
  if ds.isEmpty || !ds.all Char.isDigit then none
  else some (if negative then -(ofDigits 10 ds : Int) else ofDigits 10 ds)

/-- A float from its whole part, its places, and its exponent. -/
def floatOf (whole places : List Char) (e : Int) : Option Kind :=
  let ds := whole ++ places
  if whole.isEmpty then none
  else if overflows (ofDigits 10 ds) ds.length (e - places.length) then some .unreadable
  else some .float

/-- A float without sign and underscores. -/
def float? (cs : List Char) : Option Kind :=
  let whole := cs.takeWhile Char.isDigit
  match cs.dropWhile Char.isDigit with
  | [] => floatOf whole [] 0
  | '.' :: r =>
    let places := r.takeWhile Char.isDigit
    if places.isEmpty then none
    else
      match r.dropWhile Char.isDigit with
      | [] => floatOf whole places 0
      | e :: r =>
        if e = 'e' || e = 'E' then (exponent r).bind (floatOf whole places ·) else none
  | e :: r => if e = 'e' || e = 'E' then (exponent r).bind (floatOf whole [] ·) else none

/-- A decimal number whose sign has been taken off. A point or an `e` behind the first digits
makes a float; otherwise the digits must end there or go on behind an underscore. Spaces are
refused, but tabs are not. -/
def decimal (negative : Bool) (cs : List Char) : Option Kind :=
  let rest := cs.dropWhile Char.isDigit
  if cs.isEmpty || rest.contains ' ' then none
  else if rest.any (fun c => c = '.' || c = 'e' || c = 'E') then
    if hasNeedlessZero cs then none else (ungroup Char.isDigit false cs).bind float?
  else if rest.head?.all (· = '_') then
    if cs.head? = some '0' && 1 < cs.length then none
    else (ungroup (isDigitBelow 16) false cs).map (integerOf 10 negative)
  else none

/-- An integer in another number system, which takes no sign. -/
def prefixed (base : Nat) (cs : List Char) : Option Kind :=
  if cs.all fun c => isDigitBelow base c || c = '_' then
    (ungroup (isDigitBelow base) false cs).map (integerOf base false)
  else none

def parse (cs : List Char) : Option Kind :=
  match cs with
  | '0' :: 'x' :: r => prefixed 16 r
  | '0' :: 'o' :: r => prefixed 8 r
  | '0' :: 'b' :: r => prefixed 2 r
  | _ =>
    let (negative, r) := splitSign cs
    if r = ['i', 'n', 'f'] || r = ['n', 'a', 'n'] then some .float
    else decimal negative r

end Testbed.Toml.Number
