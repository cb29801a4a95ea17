-- The configuration of the test bed: settings filled up with defaults and
-- checked against the catalogue. Versions are checked first, then the
-- topology, the prefix, and the scenarios that waits are given for.
import Testbed.Catalogue.Topologies
import Testbed.Config.Settings
import Testbed.Path

namespace Testbed

/-! ## What can be wrong -/

/-- What makes a prefix for namespace names unusable. -/
inductive PrefixFlaw where
  | empty
  | tooLong
  | badCharacter
deriving DecidableEq, Repr

def PrefixFlaw.text : PrefixFlaw → String
  | empty => "must not be empty"
  | tooLong => "must be at most 8 characters"
  | badCharacter => "must be ASCII letters and digits"

inductive ConfigError where
  | malformed
  | unsupportedVersion (version : Nat)
  | unknownTopology (name : String)
  | unknownScenario (name : String)
  | invalidPrefix (flaw : PrefixFlaw)
  | unreadable (path : String) (cause : OsError)
deriving DecidableEq, Repr

namespace ConfigError

def malformedText : String := "this is not a document of settings"

def message : ConfigError → String
  | malformed => s!"invalid config TOML: {malformedText}"
  | unsupportedVersion version => s!"unsupported config version {version}"
  | unknownTopology name => s!"unknown topology '{name}'"
  | unknownScenario name => s!"timings given for unknown scenario '{name}'"
  | invalidPrefix flaw => s!"invalid netns.prefix: {flaw.text}"
  | unreadable path cause => s!"failed to read {path}: {cause.message}"

end ConfigError

/-! ## The parts of a configuration -/

structure Timings where
  daemonReady : Duration := .ofSeconds 1
  convergence : Duration := .ofSeconds 10
  stagger : Duration := .ofSeconds 1
  faultAfter : Duration := .ofSeconds 30
  faultDuration : Duration := .ofSeconds 20
deriving DecidableEq, Repr, Inhabited

/-- How namespaces are named and how commands are run in them. -/
structure NamespaceConfig where
  namePrefix : String := "mip"
  /-- Ask for privileges before every tool run, unless they are there already. -/
  useSudo : Bool := true
  /-- A terminal program to show every command in. -/
  terminal : Option String := none
  /-- Where the output of commands goes when there is no terminal. -/
  logDir : Option String := none
deriving DecidableEq, Repr, Inhabited

structure Config where
  version : Nat := 1
  topology : String := Catalogue.defaultTopology
  binDir : String := "."
  /-- Start the daemons with their debug option. -/
  debug : Bool := true
  namespaces : NamespaceConfig := {}
  timings : Table String Timings := ∅
deriving Repr, Inhabited

namespace Config

/-- The waits of a scenario, which are the defaults unless some are given. -/
def timingsFor (c : Config) (scenario : String) : Timings := (c.timings.get? scenario).getD {}

def binary (c : Config) (name : String) : String :=
  if Path.isCurrent c.binDir then "./" ++ name else Path.join c.binDir name

def setTopology (c : Config) (name : String) : Except ConfigError Config :=
  if (Catalogue.topology? name).isSome then .ok { c with topology := name }
  else .error (.unknownTopology name)

/-! ## From settings -/

def currentVersion : Nat := 1

/-- A version of zero means that none was given. -/
def checkVersion (version : Nat) : Except ConfigError Nat :=
  if version = 0 ∨ version = currentVersion then .ok currentVersion
  else .error (.unsupportedVersion version)

/-- A topology is named as in the catalogue, with blanks around the name or without. -/
def checkTopology : Option String → Except ConfigError String
  | none => .ok Catalogue.defaultTopology
  | some name =>
    let name := Text.trim name
    if (Catalogue.topology? name).isSome then .ok name else .error (.unknownTopology name)

/-- The longest prefix, in bytes, that leaves room for the rest of an interface name. -/
def maxPrefixBytes : Nat := 8

def prefixFlaw? (text : String) : Option PrefixFlaw :=
  if text.isEmpty then some .empty
  else if maxPrefixBytes < text.utf8ByteSize then some .tooLong
  else if !text.toList.all Char.isAlphanum then some .badCharacter
  else none

/-- A prefix of a few letters and digits, with blanks around it or without. -/
def checkPrefix (given : Option String) : Except ConfigError String :=
  let name := (given.map Text.trim).getD "mip"
  match prefixFlaw? name with
  | some flaw => .error (.invalidPrefix flaw)
  | none => .ok name

/-- A trimmed text that is not empty. -/
def nonBlank? (given : Option String) : Option String :=
  match given.map Text.trim with
  | some s => if s.isEmpty then none else some s
  | none => none

def waitOr (default : Duration) : Option Nat → Duration
  | some ms => .ofMillis ms
  | none => default

def fillTimings (t : TimingSettings) : Timings :=
  let d : Timings := {}
  { daemonReady := waitOr d.daemonReady t.daemonReady
    convergence := waitOr d.convergence t.convergence
    stagger := waitOr d.stagger t.stagger
    faultAfter := waitOr d.faultAfter t.faultAfter
    faultDuration := waitOr d.faultDuration t.faultDuration }

/-- The waits of all scenarios; the first name that is not in the catalogue is the error. -/
def checkTimings : List (String × TimingSettings) → Except ConfigError (Table String Timings)
  | rows => rows.foldlM (fun table row =>
      if row.1 ∈ Catalogue.scenarioNames then .ok (table.insert row.1 (fillTimings row.2))
      else .error (.unknownScenario row.1)) ∅

def resolve (s : Settings) : Except ConfigError Config := do
  let version ← checkVersion s.version
  let topology ← checkTopology s.topology
  let namePrefix ← checkPrefix s.namePrefix
  let timings ← checkTimings s.timings
  .ok {
    version, topology, timings
    binDir := (nonBlank? s.binDir).getD "."
    debug := s.debug.getD true
    namespaces := {
      namePrefix
      useSudo := s.useSudo.getD true
      terminal := nonBlank? s.terminal
      logDir := s.logDir } }

/-- The configuration that a document describes. One that holds blanks only is the default. -/
def parse (text : String) : Except ConfigError Config :=
  if (Text.trim text).isEmpty then .ok {}
  else
    match Settings.parse text with
    | some s => resolve s
    | none => .error .malformed

end Config

end Testbed
