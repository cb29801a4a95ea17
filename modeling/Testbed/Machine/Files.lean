-- A tree of directories and files with a current directory: how a path finds
-- its way through it, and what creating and reading answer.
import Testbed.Action
import Testbed.OsError
import Testbed.Path
import Testbed.Table
import Testbed.Text.Utf8

namespace Testbed.Machine

/-- A place in the tree: the names on the way from the root. -/
abbrev Place := List String

/-- Directories, files with their bytes, and the current directory. -/
structure Files where
  directories : List Place := [[], ["work"]]
  contents : Table Place (List UInt8) := ∅
  current : Place := ["work"]
deriving Repr, Inhabited

inductive Entry where
  | directory
  | file (bytes : List UInt8)
deriving DecidableEq, Repr

namespace Files

/-- The most bytes in a name, and in a path with the byte that ends it. -/
def maxName : Nat := 255
def maxPath : Nat := 4096

def entry? (fs : Files) (p : Place) : Option Entry :=
  if p ∈ fs.directories then some .directory
  else (fs.contents.get? p).map .file

/-! ## Ways -/

/-- Goes down the parts of a path from a directory. A file ends the way; a part that follows
it, even an empty one, is an error. -/
def walk (fs : Files) : Place → List String → Except OsError Place
  | p, [] => .ok p
  | p, part :: rest =>
    if part.isEmpty || part = "." then walk fs p rest
    else if part = ".." then walk fs p.dropLast rest
    else if maxName < part.utf8ByteSize then .error .nameTooLong
    else
      match fs.entry? (p ++ [part]) with
      | none => .error .noSuchFile
      | some .directory => walk fs (p ++ [part]) rest
      | some (.file _) => if rest.isEmpty then .ok (p ++ [part]) else .error .notADirectory

/-- A path that can be passed to the system at all. -/
def accept (path : String) : Except OsError Unit :=
  if '\x00' ∈ path.toList then .error .nulInPath
  else if path.isEmpty then .error .noSuchFile
  else if maxPath ≤ path.utf8ByteSize then .error .nameTooLong
  else .ok ()

/-- Where a path begins. -/
def origin (fs : Files) (path : String) : Place :=
  if Path.isAbsolute path then [] else fs.current

def resolve (fs : Files) (path : String) : Except OsError Place := do
  accept path
  fs.walk (fs.origin path) (Path.parts path)

def isDirectory (fs : Files) (path : String) : Bool :=
  match fs.resolve path with
  | .ok p => p ∈ fs.directories
  | .error _ => false

/-! ## Reading -/

def read (fs : Files) (path : String) : Except OsError (List UInt8) := do
  let p ← fs.resolve path
  match fs.entry? p with
  | some (.file bytes) => .ok bytes
  | some .directory => .error .isADirectory
  | none => .error .noSuchFile

/-- The text of a file, which must be UTF-8. -/
def readText (fs : Files) (path : String) : Except OsError String := do
  let bytes ← fs.read path
  match Text.Utf8.decode? bytes with
  | some s => .ok s
  | none => .error .notUtf8

/-! ## Creating -/

/-- The parts of a path without empty ones at its end. -/
def trimmedParts (path : String) : List String :=
  ((Path.parts path).reverse.dropWhile String.isEmpty).reverse

/-- The directory in which the last part of a path stands, and that part. -/
def parentOf (fs : Files) (path : String) : Except OsError (Place × String) := do
  accept path
  let parts := trimmedParts path
  let p ← fs.walk (fs.origin path) parts.dropLast
  if fs.entry? p ≠ some .directory then .error .notADirectory
  else .ok (p, parts.getLastD "")

/-- A part of a path that names something, and does not only lead to it. -/
def isName (part : String) : Bool := !part.isEmpty && part ≠ "." && part ≠ ".."

def makeDirectory (path : String) : Action Files OsError Unit := do
  let fs ← Action.get
  let (p, name) ← Action.ofExcept (fs.parentOf path)
  Action.require (isName name) .fileExists
  Action.require (name.utf8ByteSize ≤ maxName) .nameTooLong
  Action.require (fs.entry? (p ++ [name])).isNone .fileExists
  Action.modify fun fs => { fs with directories := fs.directories ++ [p ++ [name]] }

/-- The paths above a path, nearest first, without parts that mean nothing. -/
def above (path : String) : List String :=
  let root := if Path.isAbsolute path then "/" else ""
  let meaningful (first : Bool) (part : String) : Bool :=
    !part.isEmpty && (part ≠ "." || first)
  let parts := match Path.parts path with
    | [] => []
    | part :: rest =>
      (if meaningful true part then [part] else []) ++ rest.filter (meaningful false)
  ((List.range parts.length).map fun n => root ++ Text.join "/" (parts.take n)).reverse

/-- Lets an error pass if the path leads to a directory all the same. -/
def excuse (path : String) (e : OsError) : Action Files OsError Unit := do
  Action.require (← Action.reads (·.isDirectory path)) e

/-- Creates a directory and those above it that are missing, given as the path and the paths
above it. A directory that exists is no error. Directories that were created before an error
stay. -/
def makeDirectories : List String → Action Files OsError Unit
  | [] => pure ()
  | path :: up => do
    if path.isEmpty then pure ()
    else
      match ← (makeDirectory path).attempt with
      | .ok () => pure ()
      | .error .noSuchFile =>
        makeDirectories up
        match ← (makeDirectory path).attempt with
        | .ok () => pure ()
        | .error e => excuse path e
      | .error e => excuse path e

/-- Creates an empty file, or empties the one that is there, and gives its place. A path that
ends with a slash does not lead to a file. -/
def createFile (path : String) : Action Files OsError Place := do
  let fs ← Action.get
  let (p, name) ← Action.ofExcept (fs.parentOf path)
  let place := p ++ [name]
  Action.require (isName name && path.toList.getLast? ≠ some '/') .isADirectory
  Action.require (name.utf8ByteSize ≤ maxName) .nameTooLong
  Action.require (place ∉ fs.directories) .isADirectory
  Action.modify fun fs => { fs with contents := fs.contents.insert place [] }
  pure place

def append (fs : Files) (p : Place) (bytes : List UInt8) : Files :=
  { fs with contents := fs.contents.modify p (· ++ bytes) }

/-- A place comes before another one, or is the same: names on the way are compared in order. -/
def notAfter : Place → Place → Bool
  | [], _ => true
  | _ :: _, [] => false
  | a :: p, b :: q => if a = b then notAfter p q else a < b

/-- The files below the current directory: paths from there and bytes, in the order of the
names on the way. -/
def listing (fs : Files) : List (String × List UInt8) :=
  let here := fs.contents.rows.filterMap fun row =>
    if fs.current.isPrefixOf row.1 then some (row.1.drop fs.current.length, row.2) else none
  (here.mergeSort fun a b => notAfter a.1 b.1).map fun row => (Text.join "/" row.1, row.2)

end Files

end Testbed.Machine
