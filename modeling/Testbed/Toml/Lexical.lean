-- The small parts of a TOML document: blanks, comments and line ends, strings
-- in their four forms, and keys. A reader takes the rest of the text and gives
-- what it has read and the rest after it, or nothing.
import Testbed.Text.Blank

namespace Testbed.Toml

/-- Reads something off the front of a text. -/
abbrev Reader (α : Type) := List Char → Option (α × List Char)

/-! ## Blanks, comments, line ends -/

/-- Characters that no comment and no string may hold as they are. -/
def isControl (c : Char) : Bool := (c.toNat < 0x20 && c ≠ '\t') || c.toNat = 0x7F

/-- The characters that may stand between the parts of a line. -/
def isGap (c : Char) : Bool := c = ' ' || c = '\t'

/-- The text after spaces and tabs. -/
def skipBlanks (cs : List Char) : List Char := cs.dropWhile isGap

/-- The text after a comment, where one begins here. -/
def skipComment : List Char → Option (List Char)
  | '#' :: r =>
    match r.dropWhile (!isControl ·) with
    | [] => some []
    | '\n' :: r => some ('\n' :: r)
    | '\r' :: '\n' :: r => some ('\r' :: '\n' :: r)
    | _ => none
  | cs => some cs

/-- The text after the end of a line, or of the document. -/
def lineEnd : List Char → Option (List Char)
  | [] => some []
  | '\n' :: r => some r
  | '\r' :: '\n' :: r => some r
  | _ => none

/-- The text after blanks, comments and line ends. The flag tells that a comment is open. -/
def skipSpace : Bool → List Char → Option (List Char)
  | _, [] => some []
  | _, '\n' :: r => skipSpace false r
  | _, '\r' :: '\n' :: r => skipSpace false r
  | true, c :: r => if isControl c then none else skipSpace true r
  | false, ' ' :: r => skipSpace false r
  | false, '\t' :: r => skipSpace false r
  | false, '#' :: r => skipSpace true r
  | false, cs => some cs

/-! ## Escapes -/

def escapeLetter? : Char → Option Char
  | 'b' => some '\x08'
  | 't' => some '\t'
  | 'n' => some '\n'
  | 'f' => some '\x0C'
  | 'r' => some '\r'
  | 'e' => some '\x1B'
  | '"' => some '"'
  | '\\' => some '\\'
  | _ => none

/-- The number of hexadecimal digits after a letter that announces some. -/
def escapeWidth? : Char → Option Nat
  | 'x' => some 2
  | 'u' => some 4
  | 'U' => some 8
  | _ => none

def hexDigit? (c : Char) : Option Nat :=
  if '0' ≤ c ∧ c ≤ '9' then some (c.toNat - '0'.toNat)
  else if 'a' ≤ c ∧ c ≤ 'f' then some (c.toNat - 'a'.toNat + 10)
  else if 'A' ≤ c ∧ c ≤ 'F' then some (c.toNat - 'A'.toNat + 10)
  else none

/-- The character with a code point, unless it is a surrogate or too large. -/
def charOf? (n : Nat) : Option Char := if n.isValidChar then some (Char.ofNat n) else none

/-- Where a reader stands inside a string in double quotes. -/
inductive Escaping where
  | plain
  /-- Behind a backslash. -/
  | begun
  /-- Inside a numeric escape: digits to come, value so far. -/
  | numeric (left value : Nat)
  /-- Behind a backslash and blanks, where only a line end may follow. -/
  | lineFolding
  /-- Behind a folded line end, where blanks and line ends are left out. -/
  | folded
deriving DecidableEq

/-! ## Strings -/

/-- Puts a character in front of what a reader has read. -/
def consChar (c : Char) (r : Option (List Char × List Char)) : Option (List Char × List Char) :=
  r.map fun p => (c :: p.1, p.2)

/-- The rest of a one-line string in double quotes. -/
def basicBody : Escaping → Reader (List Char)
  | _, [] => none
  | .plain, '"' :: r => some ([], r)
  | .plain, '\\' :: r => basicBody .begun r
  | .begun, c :: r =>
    match escapeLetter? c, escapeWidth? c with
    | some d, _ => consChar d (basicBody .plain r)
    | none, some n => basicBody (.numeric n 0) r
    | none, none => none
  | .numeric left value, c :: r =>
    match hexDigit? c with
    | none => none
    | some d =>
      let value := value * 16 + d
      if left ≤ 1 then
        match charOf? value with
        | some c => consChar c (basicBody .plain r)
        | none => none
      else basicBody (.numeric (left - 1) value) r
  | _, c :: r => if isControl c then none else consChar c (basicBody .plain r)

/-- The rest of a string in three double quotes. Up to two quotes may stand right before the
three that end it. -/
def foldableBody (mode : Escaping) (cs : List Char) : Option (List Char × List Char) :=
  match mode, cs with
  | .plain, '"' :: '"' :: '"' :: r =>
    match r with
    | '"' :: '"' :: '"' :: _ => none
    | '"' :: '"' :: r => some (['"', '"'], r)
    | '"' :: r => some (['"'], r)
    | r => some ([], r)
  | .plain, '\\' :: r => foldableBody .begun r
  | .plain, '\n' :: r => consChar '\n' (foldableBody .plain r)
  | .plain, '\r' :: '\n' :: r => consChar '\r' (consChar '\n' (foldableBody .plain r))
  | .plain, c :: r => if isControl c then none else consChar c (foldableBody .plain r)
  | .begun, c :: r =>
    match escapeLetter? c, escapeWidth? c with
    | some d, _ => consChar d (foldableBody .plain r)
    | none, some n => foldableBody (.numeric n 0) r
    | none, none => foldableBody .lineFolding (c :: r)
  | .numeric left value, c :: r =>
    match hexDigit? c with
    | none => none
    | some d =>
      let value := value * 16 + d
      if left ≤ 1 then
        match charOf? value with
        | some c => consChar c (foldableBody .plain r)
        | none => none
      else foldableBody (.numeric (left - 1) value) r
  | .lineFolding, c :: r =>
    if c = ' ' || c = '\t' then foldableBody .lineFolding r
    else if c = '\n' then foldableBody .folded r
    else if c = '\r' && r.head? = some '\n' then foldableBody .folded r
    else none
  | .folded, c :: r =>
    if c = ' ' || c = '\t' || c = '\n' then foldableBody .folded r
    else if c = '\r' && r.head? = some '\n' then foldableBody .folded r
    else foldableBody .plain (c :: r)
  | _, [] => none
termination_by (cs.length, match mode with | .begun | .folded => 1 | _ => 0)

/-- The rest of a one-line string in single quotes, where no character is special. -/
def literalBody : Reader (List Char)
  | [] => none
  | '\'' :: r => some ([], r)
  | c :: r => if isControl c then none else consChar c (literalBody r)

/-- The rest of a string in three single quotes. -/
def rawBody : Reader (List Char)
  | [] => none
  | '\'' :: '\'' :: '\'' :: r =>
    match r with
    | '\'' :: '\'' :: '\'' :: _ => none
    | '\'' :: '\'' :: r => some (['\'', '\''], r)
    | '\'' :: r => some (['\''], r)
    | r => some ([], r)
  | '\n' :: r => consChar '\n' (rawBody r)
  | '\r' :: '\n' :: r => consChar '\r' (consChar '\n' (rawBody r))
  | c :: r => if isControl c then none else consChar c (rawBody r)

/-- The text after a line end that opens a string in triple quotes. -/
def skipFirstLineEnd : List Char → List Char
  | '\n' :: r => r
  | '\r' :: '\n' :: r => r
  | cs => cs

/-- A string of any form; nothing where none begins here. -/
def quotedString : Reader String := fun cs =>
  let body := match cs with
    | '"' :: '"' :: '"' :: r => foldableBody .plain (skipFirstLineEnd r)
    | '"' :: r => basicBody .plain r
    | '\'' :: '\'' :: '\'' :: r => rawBody (skipFirstLineEnd r)
    | '\'' :: r => literalBody r
    | _ => none
  body.map fun p => (String.ofList p.1, p.2)

/-! ## Keys -/

/-- The characters of a key without quotes. -/
def isKeyChar (c : Char) : Bool := c.isAlphanum || c = '_' || c = '-'

def simpleKey : Reader String := fun cs =>
  match cs with
  | '"' :: r => (basicBody .plain r).map fun p => (String.ofList p.1, p.2)
  | '\'' :: r => (literalBody r).map fun p => (String.ofList p.1, p.2)
  | _ =>
    let key := cs.takeWhile isKeyChar
    if key.isEmpty then none else some (String.ofList key, cs.dropWhile isKeyChar)

/-- The parts of a key with points between them. -/
def keyParts (cs : List Char) : Option (List String × List Char) :=
  match simpleKey cs with
  | none => none
  | some (k, r) =>
    match skipBlanks r with
    | '.' :: r =>
      let next := skipBlanks r
      if _h : next.length < cs.length then (keyParts next).map fun p => (k :: p.1, p.2) else none
    | r => some ([k], r)
termination_by cs.length

/-- The most values that may be open around one another, and the most tables that a key may
pass through. -/
def maxNesting : Nat := 80

/-- A key as the tables it passes through and its last part. -/
def dottedKey : Reader (List String × String) := fun cs => do
  let (parts, r) ← keyParts cs
  let key ← parts.getLast?
  let path := parts.dropLast
  if path.length < maxNesting then some ((path, key), r) else none

end Testbed.Toml
