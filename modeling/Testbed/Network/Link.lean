-- Links between two hosts: whether they carry traffic, their physical
-- parameters, and what makes a link description unacceptable.
import Testbed.Decimal.Shortest
import Testbed.Duration
import Testbed.Network.Host
import Testbed.Text.Blank

namespace Testbed

/-! ## Link states -/

/-- Whether a link carries traffic. -/
inductive LinkState where
  | up
  | down
deriving DecidableEq, Repr, Inhabited

namespace LinkState

def text : LinkState → String
  | up => "up"
  | down => "down"

/-- The word that is looked at: without blanks around it, and with small letters for the
letters A to Z. -/
def normalize (s : String) : String :=
  String.ofList ((Text.trim s).toList.map Char.toLower)

/-- Reads a state; a text that is neither word comes back as it was looked at. -/
def parse (s : String) : Except String LinkState :=
  let word := normalize s
  if word = "up" then .ok up
  else if word = "down" then .ok down
  else .error word

/-- The text for a word that is no link state. -/
def parseErrorText (word : String) : String :=
  s!"invalid link state '{word}' (expected up or down)"

end LinkState

/-! ## Parameters -/

/-- What a link does to traffic in both directions: bandwidth in Mbit/s, one-way delay,
and the share of packets that is lost. -/
structure LinkParams where
  bandwidth : Float := 10
  delay : Duration := .ofMillis 10
  loss : Float := 0
deriving Repr, Inhabited

/-- Why a link description is refused. -/
inductive LinkFlaw where
  | oneHost
  | loss (value : Float)
  | bandwidth (value : Float)
deriving Repr

namespace LinkFlaw

def text : LinkFlaw → String
  | oneHost => "a link needs two distinct hosts"
  | loss x => s!"loss {Decimal.Shortest.text x} is outside 0.0..=1.0"
  | bandwidth x => s!"bandwidth {Decimal.Shortest.text x} Mbit/s must be positive"

end LinkFlaw

namespace LinkParams

/-- A share between nothing and everything. -/
def lossInRange (p : LinkParams) : Bool := 0 ≤ p.loss && p.loss ≤ 1

/-- A bandwidth that is a number above zero. -/
def bandwidthPositive (p : LinkParams) : Bool := p.bandwidth.isFinite && 0 < p.bandwidth

/-- The first thing wrong with a link between two hosts. -/
def flaw? (p : LinkParams) (a b : HostId) : Option LinkFlaw :=
  if a = b then some .oneHost
  else if !p.lossInRange then some (.loss p.loss)
  else if !p.bandwidthPositive then some (.bandwidth p.bandwidth)
  else none

end LinkParams

/-! ## Links -/

/-- A link that works the same in both directions. -/
structure Link where
  a : HostId
  b : HostId
  params : LinkParams
  state : LinkState := .up
deriving Repr, Inhabited

namespace Link

/-- The link joins the two hosts, named in either order. -/
def connects (l : Link) (x y : HostId) : Bool :=
  (l.a = x && l.b = y) || (l.a = y && l.b = x)

def pair (l : Link) : HostPair := .of l.a l.b

theorem connects_iff (l : Link) (x y : HostId) : l.connects x y = true ↔ l.pair = .of x y := by
  simp [connects, pair, HostPair.of_eq_of_iff]

end Link

end Testbed
