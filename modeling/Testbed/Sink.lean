-- Where output goes: bytes in order, up to a limit where there is one. A text
-- that does not fit is written as far as it does.
import Testbed.Text.Utf8

namespace Testbed

/-- The bytes written so far, and the room that is left unless it is unlimited. -/
structure Sink where
  written : List UInt8 := []
  room : Option Nat := none
deriving DecidableEq, Repr, Inhabited

/-- The sink has no room for a text. -/
inductive SinkError where
  | full
deriving DecidableEq, Repr

def SinkError.message : SinkError → String
  | full => "sink full"

namespace Sink

/-- The part of some bytes that still fits. -/
def fitting (s : Sink) (bytes : List UInt8) : List UInt8 :=
  match s.room with
  | none => bytes
  | some n => bytes.take n

/-- Writes as many bytes as fit; the answer is whether all did. -/
def write (s : Sink) (bytes : List UInt8) : Bool × Sink :=
  let taken := s.fitting bytes
  (taken.length = bytes.length,
    { written := s.written ++ taken, room := s.room.map (· - taken.length) })

theorem write_unlimited (s : Sink) (bytes : List UInt8) (h : s.room = none) :
    s.write bytes = (true, { s with written := s.written ++ bytes }) := by
  cases s; subst h; simp [write, fitting]

theorem write_limited (s : Sink) (bytes : List UInt8) {n : Nat} (h : s.room = some n) :
    s.write bytes = (decide (bytes.length ≤ n),
      { written := s.written ++ bytes.take n, room := some (n - bytes.length) }) := by
  have hall : (bytes.take n).length = bytes.length ↔ bytes.length ≤ n := by
    rw [List.length_take]
    omega
  have hroom : n - (bytes.take n).length = n - bytes.length := by
    rw [List.length_take]
    omega
  simp only [write, fitting, h, hall, Option.map_some, hroom]

end Sink

end Testbed
