-- Whether a machine lets the test bed manage namespaces, and short names that
-- keep two test beds on one machine apart.
import Testbed.Machine

namespace Testbed.Namespaces

/-- The tool can be started and succeeds. -/
def succeeds (argv : List String) (m : Machine) : Bool × Machine :=
  match Machine.run argv m with
  | (.ok reply, m) => (reply.succeeded, m)
  | (.error _, m) => (false, m)

/-- Namespaces can be listed, and they can be managed: by a user who may do everything, or with
privileges that are given without asking back. -/
def hasPrivileges (m : Machine) : Bool × Machine :=
  let (listed, m) := succeeds ["ip", "netns"] m
  if !listed then (false, m)
  else if m.euid = 0 then (true, m)
  else succeeds ["sudo", "-n", "ip", "netns", "list"] m

/-- Two lower-case hexadecimal digits for a number below 256. -/
def hexPair (n : Nat) : String := String.ofList [Nat.digitChar (n / 16), Nat.digitChar (n % 16)]

/-- A prefix made different by the number of the test bed's process and by a running number,
both modulo 256. -/
def uniquePrefix (stem : String) (pid : Pid) (sequence : Nat) : String :=
  stem ++ hexPair (pid.toNat % 256) ++ hexPair (sequence % 256)

end Testbed.Namespaces
