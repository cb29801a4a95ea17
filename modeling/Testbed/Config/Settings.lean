-- The settings that a configuration document may hold, each of them optional.
-- Keys that mean nothing here are passed over, but the numbers under them must
-- have a value. A group of settings may also be written as an array with the
-- values in their usual order, where items past the last one are not looked at.
import Testbed.Toml.Document

namespace Testbed.Config

/-- The waits of one scenario, in milliseconds. -/
structure TimingSettings where
  daemonReady : Option Nat := none
  convergence : Option Nat := none
  stagger : Option Nat := none
  faultAfter : Option Nat := none
  faultDuration : Option Nat := none
deriving DecidableEq, Repr, Inhabited

/-- Everything that a document may set. -/
structure Settings where
  version : Nat := 0
  topology : Option String := none
  debug : Option Bool := none
  binDir : Option String := none
  terminal : Option String := none
  namePrefix : Option String := none
  useSudo : Option Bool := none
  logDir : Option String := none
  timings : List (String × TimingSettings) := []
deriving DecidableEq, Repr, Inhabited

namespace Settings

open Toml (Value Entries)

/-! ## Single values -/

def text? : Value → Option String
  | .string s => some s
  | _ => none

def flag? : Value → Option Bool
  | .boolean b => some b
  | _ => none

/-- A whole number from zero up to, but without, a bound. -/
def natBelow? (bound : Nat) : Value → Option Nat
  | .integer n => if 0 ≤ n ∧ n < bound then some n.toNat else none
  | _ => none

/-- Milliseconds are counted in sixty-four bits. -/
def millis? : Value → Option Nat := natBelow? UInt64.size

/-! ## Groups of values -/

/-- The entries of a group with the given keys. It is a table, in which every number must have
a value, under known keys or not. An array stands for the table that has its items under the
keys in their order; items past the last key are not looked at. A date-time counts as a table
without any of the keys. -/
def group? (keys : List String) : Value → Option Entries
  | .table _ entries => if entries.values.all (·.isReadable) then some entries else none
  | .array _ items => some ⟨keys.zip items⟩
  | .dateTime => some ∅
  | _ => none

/-- An optional value of a group: absent, read, or of the wrong kind. -/
def field {α : Type} (entries : Entries) (key : String) (read : Value → Option α) :
    Option (Option α) :=
  match entries.get? key with
  | none => some none
  | some v => (read v).map some

/-- A group under a key; an absent one is empty. -/
def groupAt (root : Entries) (key : String) (keys : List String) : Option Entries :=
  match root.get? key with
  | none => some ∅
  | some v => group? keys v

def waitKeys : List String :=
  ["daemon_ready_ms", "convergence_ms", "stagger_ms", "fault_after_ms", "fault_duration_ms"]

def timingSettings? (v : Value) : Option TimingSettings := do
  let waits ← group? waitKeys v
  some {
    daemonReady := ← field waits "daemon_ready_ms" millis?
    convergence := ← field waits "convergence_ms" millis?
    stagger := ← field waits "stagger_ms" millis?
    faultAfter := ← field waits "fault_after_ms" millis?
    faultDuration := ← field waits "fault_duration_ms" millis? }

/-- The waits of all scenarios, which must stand in a table. -/
def timings? (root : Entries) : Option (List (String × TimingSettings)) :=
  match root.get? "timings" with
  | none => some []
  | some (.table _ entries) =>
    entries.rows.mapM fun row => (timingSettings? row.2).map (row.1, ·)
  | some _ => none

/-! ## Documents -/

/-- The keys of a document that hold groups. -/
def groupKeys : List String := ["daemons", "terminal", "netns", "timings"]

/-- Outside of the groups, every number of a document has a value. -/
def restIsReadable (root : Entries) : Bool :=
  root.rows.all fun row => groupKeys.contains row.1 || row.2.isReadable

def ofEntries? (root : Entries) : Option Settings := do
  let daemons ← groupAt root "daemons" ["bin_dir"]
  let terminal ← groupAt root "terminal" ["program"]
  let netns ← groupAt root "netns" ["prefix", "sudo", "log_dir"]
  if !restIsReadable root then none
  some {
    version := (← field root "version" (natBelow? UInt32.size)).getD 0
    topology := ← field root "topology" text?
    debug := ← field root "debug" flag?
    binDir := ← field daemons "bin_dir" text?
    terminal := ← field terminal "program" text?
    namePrefix := ← field netns "prefix" text?
    useSudo := ← field netns "sudo" flag?
    logDir := ← field netns "log_dir" text?
    timings := ← timings? root }

def parse (text : String) : Option Settings := (Toml.parse text).bind ofEntries?

end Settings

end Testbed.Config
