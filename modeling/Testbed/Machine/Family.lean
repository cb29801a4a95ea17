-- Processes and their parents: how to find all descendants of a process in a
-- list of processes with their parents.
import Testbed.Substrate

namespace Testbed.Machine.Family

/-- Processes, each with its parent. -/
abbrev Ancestry := List (Pid × Pid)

def children (table : Ancestry) (parent : Pid) : List Pid :=
  (table.filter fun row => row.2 = parent).map (·.1)

/-- Takes processes from a stack, at most `n`, and puts their children on it. All children are
collected in the order in which they come up. -/
def walk (table : Ancestry) : Nat → List Pid → List Pid → Option (List Pid)
  | _, [], found => some found
  | 0, _ :: _, _ => none
  | n + 1, p :: stack, found =>
    let next := children table p
    walk table n (next.reverse ++ stack) (found ++ next)

/-- All descendants of a process, parents before their children. There is no answer for a
process that descends from itself. -/
def descendants (table : Ancestry) (root : Pid) : Option (List Pid) :=
  walk table (table.length + 1) [root] []

/-- A process and its descendants, children before their parents, the process itself last. -/
def subtree (table : Ancestry) (root : Pid) : Option (List Pid) :=
  (descendants table root).map fun found => found.reverse ++ [root]

example : descendants [(2, 1), (3, 1), (4, 2), (9, 8), (8, 9)] 1 = some [2, 3, 4] := by decide
example : descendants [(2, 1), (1, 2)] 1 = none := by decide

end Testbed.Machine.Family
