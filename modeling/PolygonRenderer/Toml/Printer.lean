import PolygonRenderer.Toml.Parser

/-!
# Writing documents

A flat document has values without parts, and tables of them. Its text has one
entry a line; an empty line and a header come before the entries of a table.
Integers of more than 64 bits are not written.
-/

namespace PolygonRenderer.Toml

/-- A character of a string in double quotes. -/
def escapeChar (c : Char) : List Char :=
  if c = '"' then ['\\', '"']
  else if c = '\\' then ['\\', '\\']
  else if isControl c then
    let digits := Nat.toDigits 16 c.toNat
    '\\' :: 'u' :: (List.replicate (4 - digits.length) '0' ++ digits)
  else [c]

def quote (text : String) : String :=
  String.ofList ('"' :: text.toList.flatMap escapeChar ++ ['"'])

namespace Scalar

/-- The text of a float, which has no sign if it is undefined. -/
def floatText : ExtendedDecimal → String
  | .undefined => "nan"
  | .infinite negative => if negative then "-inf" else "inf"
  | .finite d => d.text

def text : Scalar → String
  | string s => quote s
  | integer n => toString n
  | float x => floatText x
  | boolean b => if b then "true" else "false"
  | datetime s | unreadable s => s

/-- Whether a value can be written. Integers have 64 bits, with a sign or without. -/
def fits : Scalar → Bool
  | integer n => -(twoPow 63 : Int) ≤ n && n < twoPow 64
  | _ => true

end Scalar

/-- The text of a key, in quotes where it needs them. -/
def keyText (key : String) : String :=
  if key.toList.all isBare && !key.isEmpty then key else quote key

/-- A document whose tables have no tables inside. -/
structure FlatDocument where
  entries : List (String × Scalar)
  tables : List (String × List (String × Scalar))
deriving DecidableEq, Repr

namespace FlatDocument

def entryText (e : String × Scalar) : String :=
  keyText e.1 ++ " = " ++ e.2.text ++ "\n"

def tableText (t : String × List (String × Scalar)) : String :=
  "\n[" ++ keyText t.1 ++ "]\n" ++ String.join (t.2.map entryText)

def render (d : FlatDocument) : String :=
  String.join (d.entries.map entryText) ++ String.join (d.tables.map tableText)

/-- Whether all values of a document can be written. -/
def fits (d : FlatDocument) : Bool :=
  d.entries.all (·.2.fits) && d.tables.all fun t => t.2.all (·.2.fits)

/-- The entries that the text stands for. -/
def toEntries (d : FlatDocument) : Entries :=
  let values (l : List (String × Scalar)) : Entries := l.map fun e => (e.1, .scalar e.2)
  values d.entries ++ d.tables.map fun t => (t.1, .table .headed (values t.2))

end FlatDocument

end PolygonRenderer.Toml
