import Testbed.Main
import Testbed.Namespaces.Privileges
import Testbed.Proofs.Simulator.Log
import Testbed.Proofs.Command.Standard
import Testbed.Proofs.Scenario.Step
import Testbed.Proofs.Session.History
import Testbed.Proofs.Action
import Testbed.Proofs.Machine.Running
import Testbed.Proofs.Namespaces.Keeping
import Testbed.Proofs.Topology.Built
import Testbed.Proofs.Topology.Shape
import Testbed.Proofs.Session.Processes
import Testbed.Proofs.Session.Links
import Testbed.Proofs.Session.Teardown
import Testbed.Proofs.Scenario.Standing
import Testbed.Proofs.Scenario.Fold
import Testbed.Proofs.Namespaces.Tools
import Testbed.Proofs.Scenario.Time
import Testbed.Proofs.Scenario.Clocks
import Testbed.Proofs.Namespaces.Interfaces
import Testbed.Proofs.Namespaces.Switching
import Testbed.Proofs.Namespaces.Numbers
import Testbed.Proofs.Text.Words
import Testbed.Proofs.Shell.Transcript
import Testbed.Proofs.Simulator.Chronicle
import Testbed.Proofs.Namespaces.Spaces
import Testbed.Proofs.Scenario.Alike
import Testbed.Proofs.Session.DryRun
import Testbed.Proofs.Simulator.Serving
import Testbed.Proofs.Namespaces.Release
import Testbed.Proofs.Namespaces.Room
import Testbed.Proofs.Topology.Catalogue
import Testbed.Proofs.Scenario.Steady
import Testbed.Proofs.Session.Catalogue
import Testbed.Proofs.Shell.Ending
import Testbed.Proofs.Session.Composition
import Testbed.Proofs.Session.Outline
import Testbed.Proofs.Shell.Truncation
import Testbed.Proofs.Supervisor.Killing
import Testbed.Proofs.Topology.Contexts
import Testbed.Proofs.Namespaces.Leftovers
import Testbed.Proofs.Command.Dispatch
import Testbed.Proofs.Session.Refusals
import Testbed.Proofs.Command.Links
import Testbed.Proofs.Scenario.Unbuilt
import Testbed.Proofs.Program.SingleLine
import Testbed.Proofs.Config.Resolution
import Testbed.Proofs.Machine.Family
import Testbed.Proofs.Namespaces.Signals
import Testbed.Proofs.Namespaces.Queue
import Testbed.Proofs.Namespaces.Starting
import Testbed.Proofs.Machine.Outputs
import Testbed.Proofs.Machine.Ways
import Testbed.Proofs.Namespaces.Logs
import Testbed.Proofs.Session.Logs
import Testbed.Proofs.Cuts
import Testbed.Proofs.Text.Quoting
import Testbed.Proofs.Machine.Stat
import Testbed.Proofs.Namespaces.InterfaceNames
