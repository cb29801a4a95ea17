-- TOML values, and how a document adds to a table. A table remembers how it
-- came to be, because that decides whether later lines may still add to it.
import Testbed.Table

namespace Testbed.Toml

/-- How a table came to be. -/
inductive Origin where
  /-- It has a header line of its own, or is an element of an array of tables, or the root. -/
  | header
  /-- A header line of a table inside it named it. -/
  | implied
  /-- A dotted key named it. -/
  | dotted
  /-- It was written in braces. -/
  | inline
deriving DecidableEq, Repr

/-- A TOML value. Floats and date-times are only known to be well formed. -/
inductive Value where
  | string (text : String)
  | integer (n : Int)
  | float
  /-- Something in the shape of a number that has no value. -/
  | unreadable
  | boolean (b : Bool)
  | dateTime
  /-- An array; the flag tells the arrays of tables, which grow with each header line. -/
  | array (ofTables : Bool) (items : List Value)
  | table (origin : Origin) (entries : Table String Value)

abbrev Entries := Table String Value

/-! ## Values that can be read -/

mutual

/-- Every number in the value has a value. -/
def Value.isReadable : Value → Bool
  | .unreadable => false
  | .array _ items => Value.areReadable items
  | .table _ ⟨rows⟩ => Value.rowsAreReadable rows
  | _ => true

def Value.areReadable : List Value → Bool
  | [] => true
  | v :: vs => v.isReadable && Value.areReadable vs

def Value.rowsAreReadable : List (String × Value) → Bool
  | [] => true
  | (_, v) :: rows => v.isReadable && Value.rowsAreReadable rows

end

namespace Entries

/-! ## Going down a path -/

/-- The origin of a table that a path creates on its way. -/
def onTheWay (viaDots : Bool) : Origin := if viaDots then .dotted else .implied

/-- Changes the table at the end of a path. Tables that are missing on the way are created;
an array of tables stands for its last element. Tables in braces take nothing, and a
dotted key does not pass through a table with a header of its own. -/
def alterAt (viaDots : Bool) (change : Origin → Entries → Option Entries) :
    List String → Origin → Entries → Option Entries
  | [], origin, es => change origin es
  | k :: path, _, es =>
    match es.get? k with
    | none =>
      (alterAt viaDots change path (onTheWay viaDots) ∅).map fun sub =>
        es.insert k (.table (onTheWay viaDots) sub)
    | some (.table origin sub) =>
      if origin = .inline || (viaDots && origin = .header) then none
      else
        (alterAt viaDots change path origin sub).map fun sub => es.insert k (.table origin sub)
    | some (.array true items) =>
      match items.getLast? with
      | some (.table origin sub) =>
        (alterAt viaDots change path origin sub).map fun sub =>
          es.insert k (.array true (items.dropLast ++ [.table origin sub]))
      | _ => none
    | some _ => none

/-! ## What lines do -/

/-- Adds a value under a dotted key. Only tables that dotted keys have made take values from
dotted keys, and no key gets a second value. -/
def addValue (path : List String) (key : String) (v : Value) (origin : Origin) (es : Entries) :
    Option Entries :=
  let add (origin : Origin) (es : Entries) : Option Entries :=
    if (origin = .dotted) = path.isEmpty then none
    else if es.contains key then none
    else some (es.insert key v)
  alterAt true add path origin es

/-- Gives a table its header line, once. -/
def openTable (path : List String) (key : String) (es : Entries) : Option Entries :=
  let opened (_ : Origin) (es : Entries) : Option Entries :=
    match es.get? key with
    | none => some (es.insert key (.table .header ∅))
    | some (.table .implied sub) => some (es.insert key (.table .header sub))
    | some _ => none
  alterAt false opened path .header es

/-- Adds an empty table to an array of tables. -/
def openElement (path : List String) (key : String) (es : Entries) : Option Entries :=
  let opened (_ : Origin) (es : Entries) : Option Entries :=
    match es.get? key with
    | none => some (es.insert key (.array true [.table .header ∅]))
    | some (.array true items) => some (es.insert key (.array true (items ++ [.table .header ∅])))
    | some _ => none
  alterAt false opened path .header es

/-- Adds values under dotted keys to a table in braces, first to last. -/
def ofInline : List (List String × String × Value) → Option Entries :=
  List.foldlM (fun es entry => addValue entry.1 entry.2.1 entry.2.2 .inline es) ∅

end Entries

end Testbed.Toml
