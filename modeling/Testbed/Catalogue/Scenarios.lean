-- The scenarios that come with the test bed: a ping over a chain, routing
-- around a link that fails and recovers, and a file transfer over lossy
-- links.
import Testbed.Config
import Testbed.Scenario

namespace Testbed.Catalogue

/-! ## Commands of the daemons -/

/-- The socket through which a host's programs talk to its daemons. -/
def socketOf (host : String) : String := "usock" ++ host

def debugOption (c : Config) : List String := if c.debug then ["-d"] else []

def mipDaemon (c : Config) (host : String) (address : Nat) : List String :=
  [c.binary "mip_daemon"] ++ debugOption c ++ [socketOf host, toString address]

def routingDaemon (c : Config) (host : String) : List String :=
  [c.binary "routing_daemon"] ++ debugOption c ++ [socketOf host]

def pingServer (c : Config) (host : String) : List String :=
  [c.binary "ping_server", socketOf host]

def pingClient (c : Config) (host : String) (destination : Nat) (message : String) :
    List String :=
  [c.binary "ping_client", toString destination, message, socketOf host]

def transportDaemon (c : Config) (host : String) : List String :=
  [c.binary "transport_daemon", socketOf host, "host" ++ host ++ "_app"]

/-! ## Steps -/

def start (host title : String) (argv : List String) (geometry : String) : Step :=
  .spawn ⟨host⟩ { argv, title, geometry := some geometry }

/-- A host of a routed network: its name and address, and the places of the windows of its
two daemons. -/
structure RoutedHost where
  name : String
  address : Nat
  mipGeometry : String
  routingGeometry : String

/-- Starts the daemons of a routed network, with the waits after each kind. -/
def routedNetwork (c : Config) (t : Timings) (hosts : List RoutedHost) : List Step :=
  hosts.map (fun h =>
    start h.name ("MIP " ++ h.name) (mipDaemon c h.name h.address) h.mipGeometry) ++
  [.wait t.daemonReady] ++
  hosts.map (fun h =>
    start h.name ("ROUTING " ++ h.name) (routingDaemon c h.name) h.routingGeometry) ++
  [.wait t.convergence]

/-! ## Scenarios -/

def pingOverChain (c : Config) (t : Timings) : Scenario where
  name := "init_oblig"
  description := "MIP ping over the 3-host chain A-B-C"
  steps := [
    start "A" "Host A" (mipDaemon c "A" 1) "80x20+0+0",
    start "B" "Host B" (mipDaemon c "B" 2) "80x20+550+0",
    start "C" "Host C" (mipDaemon c "C" 3) "80x20+1100+0",
    .wait t.daemonReady,
    start "B" "Server [B]" (pingServer c "B") "80x20+550+300",
    .wait t.stagger,
    start "A" "Client [A]" (pingClient c "A" 2 "Hello IN3230") "80x20+0+300",
    start "C" "Client [C]" (pingClient c "C" 2 "Hello IN4230") "80x20+0+600"]

def reroutingHosts : List RoutedHost := [
  ⟨"A", 10, "80x14+0+0", "80x14+0+210"⟩,
  ⟨"B", 20, "80x14+0+450", "80x14+0+660"⟩,
  ⟨"C", 30, "80x14+555+0", "80x14+555+210"⟩,
  ⟨"D", 40, "80x14+1110+450", "80x14+1110+660"⟩,
  ⟨"E", 50, "80x14+1110+0", "80x14+1110+210"⟩]

def reroutingAroundFault (c : Config) (t : Timings) : Scenario where
  name := "init_h1"
  description := "Distance-vector convergence on 5 hosts with link B-C failing and recovering"
  steps := routedNetwork c t reroutingHosts ++ [
    start "E" "SERVER [E]" (pingServer c "E") "38x20+807+583",
    .wait t.stagger,
    start "A" "CLIENT [A]" (pingClient c "A" 50 "Hello from A") "38x20+555+583",
    .wait t.stagger,
    start "C" "CLIENT [C]" (pingClient c "C" 50 "Hello from C") "38x20+555+583",
    .wait t.faultAfter,
    .setLink ⟨"B"⟩ ⟨"C"⟩ .down,
    .wait t.faultDuration,
    .setLink ⟨"B"⟩ ⟨"C"⟩ .up]

def transferHosts : List RoutedHost := [
  ⟨"A", 10, "80x14+0+0", "80x14+0+210"⟩,
  ⟨"B", 20, "80x14+555+0", "80x14+555+210"⟩,
  ⟨"C", 30, "80x14+1110+0", "80x14+1110+210"⟩]

def fileTransfer (c : Config) (t : Timings) : Scenario where
  name := "init"
  description := "Reliable file transfer from A to C over routed, lossy links"
  steps := routedNetwork c t transferHosts ++ [
    start "A" "TRANSPORT [A]" (transportDaemon c "A") "80x14+0+420",
    start "C" "TRANSPORT [C]" (transportDaemon c "C") "80x14+1110+420",
    .wait t.stagger,
    start "C" "SERVER [C]" [c.binary "transport_server", "hostC_app", "12"] "38x20+555+300",
    .wait t.stagger,
    start "A" "CLIENT [A]"
      [c.binary "transport_client", "30", "12", "hostA_app", "file.txt"] "38x20+555+583"]

/-- The scenario with a name, with the programs and the waits of a configuration. -/
def scenario? (name : String) (c : Config) : Option Scenario :=
  if name = "init_oblig" then some (pingOverChain c (c.timingsFor name))
  else if name = "init_h1" then some (reroutingAroundFault c (c.timingsFor name))
  else if name = "init" then some (fileTransfer c (c.timingsFor name))
  else none

end Testbed.Catalogue
