-- The options of the program: what is asked of a run.

namespace Testbed.Program

/-- Where the network comes from. -/
inductive Backend where
  | namespaces
  | simulator
deriving DecidableEq, Repr, Inhabited

def Backend.text : Backend → String
  | namespaces => "netns"
  | simulator => "sim"

def Backend.parse (word : String) : Option Backend :=
  [namespaces, simulator].find? (·.text = word)

structure Options where
  config : Option String := none
  topology : Option String := none
  binDir : Option String := none
  backend : Backend := .namespaces
  run : Option String := none
  verbose : Bool := false
deriving DecidableEq, Repr, Inhabited

end Testbed.Program
