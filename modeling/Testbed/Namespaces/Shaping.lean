-- How traffic on an interface is shaped to the parameters of its link: the
-- rate in kbit/s, the length of the queue, and the arguments that set them.
import Testbed.Decimal.Fixed
import Testbed.Network.Link

namespace Testbed.Namespaces.Shaping

/-- The bytes of a full packet. -/
def packetBytes : UInt64 := 1500

/-- The shortest queue, in packets. -/
def shortestQueue : UInt64 := 20

/-- The larger of two numbers; a value that is no number gives way. -/
def atLeast (low x : Float) : Float := if low ≤ x then x else low

/-- The rate in kbit/s, a half rounded up, and never less than one. -/
def rate (p : LinkParams) : UInt64 := (atLeast 1 (p.bandwidth * 1000).round).toUInt64

/-- The time to the other end and back, in microseconds. -/
def roundTrip (p : LinkParams) : UInt64 := UInt64.ofNat p.delay.micros * 2

/-- The bytes that are under way at a rate in kbit/s for a round trip in microseconds. -/
def bytesUnderWay (rate roundTrip : UInt64) : UInt64 := rate * 1000 / 8 * roundTrip / 1000000

/-- The length of the queue in packets: twice what is under way. -/
def queueLength (rate roundTrip : UInt64) : UInt64 :=
  max (bytesUnderWay rate roundTrip / packetBytes * 2) shortestQueue

def lossArgs (p : LinkParams) : List String :=
  if 0 < p.loss then ["loss", Decimal.Fixed.text 3 (p.loss * 100) ++ "%"] else []

def args (interfaceName : String) (p : LinkParams) : List String :=
  ["qdisc", "replace", "dev", interfaceName, "root", "netem",
    "limit", toString (queueLength (rate p) (roundTrip p)).toNat,
    "delay", s!"{p.delay.micros}us"] ++
  lossArgs p ++ ["rate", s!"{(rate p).toNat}kbit"]

end Testbed.Namespaces.Shaping
