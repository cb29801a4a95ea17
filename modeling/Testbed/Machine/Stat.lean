-- The status line of a process: its number, its command in parentheses, a
-- letter for its state, the number of its parent, and more fields. A command
-- may hold blanks and parentheses, so the fields are counted after the last
-- closing parenthesis.
import Testbed.Substrate

namespace Testbed.Machine.Stat

/-! ## Reading -/

/-- The characters after the last closing parenthesis. -/
def afterCommand? : List Char → Option (List Char)
  | [] => none
  | c :: cs =>
    match afterCommand? cs with
    | some rest => some rest
    | none => if c = ')' then some cs else none

def fields? (line : String) : Option (List String) :=
  (afterCommand? line.toList).map fun rest => Text.words (String.ofList rest)

/-- The number that decimal digits stand for. -/
def ofDigits (digits : List Char) : Nat :=
  digits.foldl (fun n c => 10 * n + (c.toNat - '0'.toNat)) 0

/-- Reads the number of a process: decimal digits, with a plus sign before them or not. -/
def pid? (s : String) : Option Pid :=
  let digits := match s.toList with
    | '+' :: rest => rest
    | cs => cs
  if digits.isEmpty || !digits.all Char.isDigit then none
  else if ofDigits digits < UInt32.size then some (UInt32.ofNat (ofDigits digits))
  else none

def state? (line : String) : Option Char := do
  let fields ← fields? line
  let first ← fields.head?
  first.toList.head?

def parent? (line : String) : Option Pid := do
  let fields ← fields? line
  let second ← fields[1]?
  pid? second

/-! ## Writing -/

/-- The status line of a process. -/
def line (pid : Pid) (command : String) (state : Char) (parent : Pid) (rest : String) : String :=
  s!"{pid} ({command}) {state} {parent}{rest}"

example : parent? "4242 (mip daemon (x)) S 17 4242" = some 17 := by decide
example : state? "7 (sleep)" = none ∧ parent? "no parenthesis S 1" = none := by decide

end Testbed.Machine.Stat
