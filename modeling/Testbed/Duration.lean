-- Lengths of time in nanoseconds. Time points are written as the length of
-- time since a clock began.

namespace Testbed

structure Duration where
  nanos : Nat
deriving DecidableEq, Repr, Inhabited

namespace Duration

def zero : Duration := ⟨0⟩

def ofMillis (n : Nat) : Duration := ⟨n * 1000000⟩
def ofSeconds (n : Nat) : Duration := ⟨n * 1000000000⟩

def micros (d : Duration) : Nat := d.nanos / 1000

/-- The longest time that can be written down: seconds are counted in sixty-four bits. -/
def longest : Duration := ⟨(UInt64.size - 1) * 1000000000 + 999999999⟩

/-- The sum of two lengths, unless it passes the longest one. -/
def add? (a b : Duration) : Option Duration :=
  if a.nanos + b.nanos ≤ longest.nanos then some ⟨a.nanos + b.nanos⟩ else none

/-- The sum of many lengths, unless it passes the longest one. -/
def sum? (ds : List Duration) : Option Duration :=
  ds.foldl (fun total d => total.bind (·.add? d)) (some zero)

/-- The time from `a` to `b`, and none at all where `b` comes first. -/
def between (a b : Duration) : Duration := ⟨b.nanos - a.nanos⟩

end Duration

end Testbed
