-- A logical clock. Its time is a count of nanoseconds in sixty-four bits that
-- moves only when it is told to.
import Testbed.Duration

namespace Testbed

/-- A clock and the nanoseconds it has counted. -/
structure Clock where
  count : UInt64 := 0
deriving DecidableEq, Repr, Inhabited

namespace Clock

def now (c : Clock) : Duration := ⟨c.count.toNat⟩

/-- The count that stands for a length of time: the largest one where it does not fit. -/
def ticks (d : Duration) : UInt64 := UInt64.ofNat (min d.nanos (UInt64.size - 1))

/-- Moves the clock on. The count starts again at zero after its largest value. -/
def advance (c : Clock) (d : Duration) : Clock := ⟨c.count + ticks d⟩

theorem now_advance (c : Clock) (d : Duration) :
    (c.advance d).now.nanos = (c.now.nanos + min d.nanos (UInt64.size - 1)) % UInt64.size := by
  simp only [advance, now, ticks, UInt64.toNat_add, UInt64.toNat_ofNat', UInt64.size]
  omega

end Clock

/-! ## Clocks that share a count -/

/-- Clocks as positions in a list of counts. Two clocks with the same position show the
same time. -/
structure Clocks where
  counts : List Clock := [{}]
  places : List Nat := [0]
deriving Repr

namespace Clocks

def count? (cs : Clocks) (i : Nat) : Option Clock := cs.places[i]?.bind (cs.counts[·]?)

def now (cs : Clocks) (i : Nat) : Duration := ((cs.count? i).getD {}).now

/-- Moves a clock, and with it every clock that shares its count. -/
def advance (cs : Clocks) (i : Nat) (d : Duration) : Clocks :=
  match cs.places[i]? with
  | some p => { cs with counts := cs.counts.modify p (·.advance d) }
  | none => cs

/-- Adds a clock that shares the count of another one. -/
def share (cs : Clocks) (i : Nat) : Clocks :=
  match cs.places[i]? with
  | some p => { cs with places := cs.places ++ [p] }
  | none => cs

/-- Adds a clock with a count of its own. -/
def start (cs : Clocks) : Clocks :=
  { counts := cs.counts ++ [{}], places := cs.places ++ [cs.counts.length] }

end Clocks

end Testbed
