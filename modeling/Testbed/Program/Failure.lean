-- The report of a failure: what was being done, and below it what went wrong,
-- from the whole to its innermost cause.
import Testbed.Command
import Testbed.Config

namespace Testbed

/-! ## Causes -/

/-- The error in words, and then the one it comes from, down to the innermost. -/
def SubstrateError.causes (e : SubstrateError) : List String :=
  match e with
  | .io _ cause => [e.message, cause.message]
  | _ => [e.message]

def TestbedError.causes (e : TestbedError) : List String :=
  match e with
  | .substrate cause | .spawn _ _ cause => e.message :: cause.causes
  | _ => [e.message]

def CommandError.causes (e : CommandError) : List String :=
  match e with
  | .testbed cause => cause.causes
  | _ => [e.message]

def ConfigError.causes (e : ConfigError) : List String :=
  match e with
  | .malformed => [e.message, malformedText]
  | .unreadable _ cause => [e.message, cause.message]
  | _ => [e.message]

namespace Program

/-- What went wrong, from the outside in. -/
structure Failure where
  head : String
  causes : List String := []
deriving DecidableEq, Repr

/-! ## The report -/

/-- A text with an indentation before every line but the first. -/
def hang (indent : String) (s : String) : String :=
  String.ofList (s.toList.flatMap fun c => if c = '\n' then '\n' :: indent.toList else [c])

/-- A number with blanks before it, five characters wide. -/
def number (n : Nat) : String :=
  let digits := toString n
  String.ofList (List.replicate (5 - digits.length) ' ') ++ digits

/-- Several causes are numbered. -/
def numbered : Nat → List String → List String
  | _, [] => []
  | n, cause :: rest => (number n ++ ": " ++ hang "       " cause) :: numbered (n + 1) rest

/-- The lines for the causes: a single one is only indented. -/
def causeLines : List String → List String
  | [cause] => ["    " ++ hang "    " cause]
  | causes => numbered 0 causes

def Failure.text (f : Failure) : String :=
  let below := if f.causes.isEmpty then [] else ["", "Caused by:"] ++ causeLines f.causes
  Text.join "\n" (("Error: " ++ f.head) :: below) ++ "\n"

end Program

end Testbed
