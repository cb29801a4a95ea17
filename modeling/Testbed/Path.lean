-- Paths as texts: their parts, joining, and the paths that mean the current
-- directory.
import Testbed.Text.Blank

namespace Testbed.Path

/-- The parts of a path between its slashes. Slashes in a row leave empty parts. -/
def split (cs : List Char) : List (List Char) :=
  match cs with
  | [] => [[]]
  | c :: r =>
    if c = '/' then [] :: split r
    else
      match split r with
      | [] => [[c]]
      | part :: parts => (c :: part) :: parts

def parts (path : String) : List String := (split path.toList).map String.ofList

def isAbsolute (path : String) : Bool := path.toList.head? = some '/'

/-- A path below another one. An absolute path stands for itself. -/
def join (base path : String) : String :=
  if isAbsolute path || base.isEmpty then path
  else if base.toList.getLast? = some '/' then base ++ path
  else base ++ "/" ++ path

/-- The path is a point, apart from slashes and further points behind it. -/
def isCurrent (path : String) : Bool :=
  match parts path with
  | [] => false
  | first :: rest => first = "." && rest.all fun part => part.isEmpty || part = "."

example : isCurrent ".//." = true ∧ isCurrent "" = false ∧ isCurrent "./.." = false := by decide
example : join "bin/" "daemon" = "bin/daemon" ∧ join "bin" "/daemon" = "/daemon" := by decide

end Testbed.Path
