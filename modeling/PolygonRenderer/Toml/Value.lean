import PolygonRenderer.Decimal.Shortest

/-!
# TOML values

A document is a table of values, some of which are tables again. How a table was
opened decides where it may still grow: `Entries.insertDotted` and `Entries.open`
are the two ways in which a document adds to its tables.
-/

namespace PolygonRenderer.Toml

/-- A value without parts. -/
inductive Scalar where
  | string (text : String)
  | integer (value : Int)
  | float (value : ExtendedDecimal)
  | boolean (value : Bool)
  /-- A date, a time of day or both, as it is written. -/
  | datetime (text : String)
  /-- A word in the shape of an integer that stands for none, as it is written.
  A document may have it where nothing reads it. -/
  | unreadable (text : String)
deriving DecidableEq, Repr

/-- How a table was opened. -/
inductive TableKind where
  /-- By a header of its own. -/
  | headed
  /-- By the header of a table inside it. -/
  | implied
  /-- By a dotted key. -/
  | dotted
  /-- In braces, which closes it for good. -/
  | inline
deriving DecidableEq, Repr

inductive Value where
  | scalar (value : Scalar)
  /-- An array in brackets, or one whose elements are tables with headers. -/
  | array (headed : Bool) (elements : List Value)
  | table (kind : TableKind) (entries : List (String × Value))

/-- The entries of a table, in the order of their first mention. -/
abbrev Entries := List (String × Value)

namespace Entries

/-- Replace the value of a key that is present. -/
def replace (entries : Entries) (key : String) (value : Value) : Entries :=
  entries.map fun e => if e.1 = key then (key, value) else e

/-- Add a key that is not present yet. -/
def insertNew (entries : Entries) (key : String) (value : Value) : Option Entries :=
  match entries.lookup key with
  | none => some (entries ++ [(key, value)])
  | some _ => none

/-- Change the entries of the table at the end of a path. Tables that are missing
on the way are opened. A dotted key does not pass through a table that has a
header, and nothing passes through a table in braces. A path that meets an array
of tables goes on in its last table. -/
def update (dotted : Bool) (change : TableKind → Entries → Option Entries) :
    List String → TableKind → Entries → Option Entries
  | [], kind, entries => change kind entries
  | key :: path, _, entries =>
    match entries.lookup key with
    | none => do
      let kind := if dotted then .dotted else .implied
      return entries ++ [(key, .table kind (← update dotted change path kind []))]
    | some (.table kind inner) =>
      if kind = .inline ∨ (dotted ∧ kind = .headed) then none
      else do return entries.replace key (.table kind (← update dotted change path kind inner))
    | some (.array true elements) =>
      match elements.getLast? with
      | some (.table kind inner) => do
        let last ← update dotted change path kind inner
        return entries.replace key (.array true (elements.dropLast ++ [.table kind last]))
      | _ => none
    | some _ => none

/-- Add a value under a dotted key. A key with dots ends in a table that dotted
keys have opened, and a key without dots does not. -/
def insertDotted (path : List String) (key : String) (value : Value) (kind : TableKind)
    (entries : Entries) : Option Entries :=
  update true
    (fun kind entries =>
      if (kind == .dotted) == path.isEmpty then none else entries.insertNew key value)
    path kind entries

/-- Open the table of a header. A table that was only implied so far is opened
as well, and keeps its entries. -/
def openTable (path : List String) (key : String) (entries : Entries) : Option Entries :=
  update false
    (fun _ entries =>
      match entries.lookup key with
      | none => some (entries ++ [(key, .table .headed [])])
      | some (.table .implied inner) => some (entries.replace key (.table .headed inner))
      | some _ => none)
    path .headed entries

/-- Open one more table of an array of tables. -/
def openElement (path : List String) (key : String) (entries : Entries) : Option Entries :=
  update false
    (fun _ entries =>
      match entries.lookup key with
      | none => some (entries ++ [(key, .array true [.table .headed []])])
      | some (.array true elements) =>
        some (entries.replace key (.array true (elements ++ [.table .headed []])))
      | some _ => none)
    path .headed entries

end Entries

end PolygonRenderer.Toml
