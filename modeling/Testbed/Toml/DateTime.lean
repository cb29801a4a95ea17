-- TOML dates and times: which texts are one. A `T` or one space stands between
-- a date and a time, and seconds may be left out.
import Testbed.Toml.Lexical

namespace Testbed.Toml.DateTime

/-- A number of exactly `n` decimal digits. -/
def digits : Nat → Reader Nat
  | 0, cs => some (0, cs)
  | n + 1, cs => do
    let (high, r) ← digits n cs
    match r with
    | c :: r => if c.isDigit then some (high * 10 + (c.toNat - '0'.toNat), r) else none
    | [] => none

/-- A character that must stand here. -/
def expect (p : Char → Bool) : List Char → Option (List Char)
  | c :: r => if p c then some r else none
  | [] => none

/-- Years with a twenty-ninth of February. -/
def isLeap (year : Nat) : Bool := year % 4 = 0 && (year % 100 ≠ 0 || year % 400 = 0)

def daysIn (year month : Nat) : Nat :=
  if month = 2 then (if isLeap year then 29 else 28)
  else if month = 4 ∨ month = 6 ∨ month = 9 ∨ month = 11 then 30
  else 31

/-- The text after a date that the calendar knows. -/
def date (cs : List Char) : Option (List Char) := do
  let (year, r) ← digits 4 cs
  let r ← expect (· = '-') r
  let (month, r) ← digits 2 r
  let r ← expect (· = '-') r
  let (day, r) ← digits 2 r
  if 1 ≤ month ∧ month ≤ 12 ∧ 1 ≤ day ∧ day ≤ daysIn year month then some r else none

/-- The text after a fraction of a second, where one stands here. -/
def fraction : List Char → Option (List Char)
  | '.' :: r => if (r.head?.any Char.isDigit) then some (r.dropWhile Char.isDigit) else none
  | r => some r

/-- The text after a time of day. Sixty seconds are allowed for leap seconds. -/
def time (cs : List Char) : Option (List Char) := do
  let (hour, r) ← digits 2 cs
  let r ← expect (· = ':') r
  let (minute, r) ← digits 2 r
  if 23 < hour ∨ 59 < minute then none
  else
    match r with
    | ':' :: r => do
      let (second, r) ← digits 2 r
      if 60 < second then none else fraction r
    | r => some r

/-- The text after a time zone, where one stands here. -/
def offset : List Char → Option (List Char)
  | [] => some []
  | c :: r =>
    if c = 'Z' ∨ c = 'z' then some r
    else if c = '+' ∨ c = '-' then do
      let (hour, r) ← digits 2 r
      let r ← expect (· = ':') r
      let (minute, r) ← digits 2 r
      if 23 < hour ∨ 59 < minute then none else some r
    else none

/-- The text is a date, a time, or both with or without a time zone. -/
def accepts (cs : List Char) : Bool :=
  let whole : Option (List Char) :=
    match date cs with
    | some [] => some []
    | some r => do
      let r ← expect (fun c => c = 'T' || c = 't' || c = ' ') r
      offset (← time r)
    | none => time cs
  whole = some []

end Testbed.Toml.DateTime
