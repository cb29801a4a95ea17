-- Whole TOML documents: values, lines, and the table that the lines build.
import Testbed.Toml.DateTime
import Testbed.Toml.Number
import Testbed.Toml.Value

namespace Testbed.Toml

/-! ## Values -/

/-- The characters of a word in a value without quotes or brackets: all but blanks, line ends,
and the marks that end a value. -/
def isBareChar (c : Char) : Bool :=
  !" \t\r\n=,[]\x7b\x7d#".toList.contains c

/-- A word starts here. Quotes may stand inside of it, but not at its start. -/
def startsWord (cs : List Char) : Bool :=
  cs.head?.any fun c => isBareChar c && c ≠ '"' && c ≠ '\''

/-- The text of a value without quotes or brackets, and the rest after it: words with blanks
between them. -/
def bareText (cs : List Char) : List Char × List Char :=
  let word := cs.takeWhile isBareChar
  let rest := cs.dropWhile isBareChar
  let next := rest.dropWhile isGap
  if _h : startsWord next ∧ next.length < cs.length then
    let (text, r) := bareText next
    (word ++ rest.takeWhile isGap ++ text, r)
  else (word, rest)
termination_by cs.length
decreasing_by exact _h.2

/-- The value that a text without quotes or brackets is. -/
def bareValue? (cs : List Char) : Option Value :=
  if cs = "true".toList then some (.boolean true)
  else if cs = "false".toList then some (.boolean false)
  else
    match Number.parse cs with
    | some (.integer n) => some (.integer n)
    | some .float => some .float
    | some .unreadable => some .unreadable
    | none => if DateTime.accepts cs then some .dateTime else none

def bareValue : Reader Value := fun cs =>
  let (text, r) := bareText cs
  (bareValue? text).map (·, r)

/-- The rest of an array. A comma may follow the last item. -/
def arrayRest (item : Reader Value) (cs : List Char) : Option (List Value × List Char) :=
  match skipSpace false cs with
  | none => none
  | some (']' :: r) => some ([], r)
  | some start =>
    match item start with
    | none => none
    | some (v, r) =>
      match skipSpace false r with
      | some (']' :: r) => some ([v], r)
      | some (',' :: r) =>
        if _h : r.length < cs.length then (arrayRest item r).map fun p => (v :: p.1, p.2)
        else none
      | _ => none
termination_by cs.length

/-- A key, an equals sign, and a value. What may stand on either side of the sign is told by
`skip`, which gives the text after it. -/
def keyValue (skip : List Char → Option (List Char)) (value : Reader Value) :
    Reader (List String × String × Value) := fun cs => do
  let ((path, key), r) ← dottedKey cs
  match ← skip r with
  | '=' :: r =>
    let (v, r) ← value (← skip r)
    some ((path, key, v), r)
  | _ => none

/-- The rest of a table in braces. Comments and line ends may stand between any two of its
parts, and a comma may follow the last entry. -/
def inlineRest (value : Reader Value) (cs : List Char) :
    Option (List (List String × String × Value) × List Char) :=
  match skipSpace false cs with
  | none => none
  | some ('\x7d' :: r) => some ([], r)
  | some start =>
    match keyValue (skipSpace false) value start with
    | none => none
    | some (entry, r) =>
      match skipSpace false r with
      | some ('\x7d' :: r) => some ([entry], r)
      | some (',' :: r) =>
        if _h : r.length < cs.length then (inlineRest value r).map fun p => (entry :: p.1, p.2)
        else none
      | _ => none
termination_by cs.length

/-- A value with at most `depth` arrays and tables open around one another. -/
def value : Nat → Reader Value
  | depth, cs =>
    match cs with
    | '"' :: _ => (quotedString cs).map fun p => (.string p.1, p.2)
    | '\'' :: _ => (quotedString cs).map fun p => (.string p.1, p.2)
    | '[' :: r =>
      match depth with
      | 0 => none
      | depth + 1 => (arrayRest (value depth) r).map fun p => (.array false p.1, p.2)
    | '\x7b' :: r =>
      match depth with
      | 0 => none
      | depth + 1 => do
        let (entries, r) ← inlineRest (value depth) r
        let table ← Entries.ofInline entries
        some (.table .inline table, r)
    | _ => bareValue cs

/-! ## Lines -/

inductive Line where
  | blank
  | entry (path : List String) (key : String) (v : Value)
  | header (path : List String) (key : String)
  | element (path : List String) (key : String)

/-- A key between brackets that have been opened. -/
def bracketed (closing : List Char) (cs : List Char) :
    Option ((List String × String) × List Char) := do
  let (key, r) ← dottedKey (skipBlanks cs)
  let r := skipBlanks r
  if closing.isPrefixOf r then some (key, r.drop closing.length) else none

/-- What stands on a line before its comment. -/
def lineContent : Reader Line := fun cs =>
  match cs with
  | '[' :: '[' :: r => (bracketed [']', ']'] r).map fun p => (.element p.1.1 p.1.2, p.2)
  | '[' :: r => (bracketed [']'] r).map fun p => (.header p.1.1 p.1.2, p.2)
  | [] => some (.blank, [])
  | '#' :: _ => some (.blank, cs)
  | '\n' :: _ => some (.blank, cs)
  | '\r' :: _ => some (.blank, cs)
  | _ =>
    (keyValue (some ∘ skipBlanks) (value maxNesting) cs).map fun p =>
      (.entry p.1.1 p.1.2.1 p.1.2.2, p.2)

def line : Reader Line := fun cs => do
  let (content, r) ← lineContent (skipBlanks cs)
  let r ← skipComment (skipBlanks r)
  let r ← lineEnd r
  some (content, r)

def lines (cs : List Char) : Option (List Line) :=
  if cs.isEmpty then some []
  else
    match line cs with
    | none => none
    | some (content, r) =>
      if _h : r.length < cs.length then (lines r).map (content :: ·) else none
termination_by cs.length

/-! ## Documents -/

/-- The table that has been built, and the path of the table that entries go to. -/
structure Building where
  root : Entries := ∅
  current : List String := []

def Building.add (b : Building) : Line → Option Building
  | .blank => some b
  | .entry path key v =>
    (Entries.alterAt false (fun origin es => Entries.addValue path key v origin es) b.current
      .header b.root).map ({ b with root := · })
  | .header path key =>
    (Entries.openTable path key b.root).map fun root => { root, current := path ++ [key] }
  | .element path key =>
    (Entries.openElement path key b.root).map fun root => { root, current := path ++ [key] }

/-- The table of a document. A byte order mark at its start is passed over. Numbers need not
have a value here; `Value.isReadable` tells whether they do. -/
def parse (s : String) : Option Entries := do
  let cs := s.toList
  let content ← lines (if cs.head? = some '\uFEFF' then cs.tail else cs)
  let built ← content.foldlM Building.add {}
  some built.root

end Testbed.Toml
