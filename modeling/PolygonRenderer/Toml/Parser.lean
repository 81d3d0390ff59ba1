import PolygonRenderer.Toml.DateTime
import PolygonRenderer.Toml.Number
import PolygonRenderer.Toml.Value

/-!
# Reading documents

A document is a sequence of statements, one a line: a key with its value, the
header of a table, or the header of one more table of an array. `Document.run`
carries them out in order.

The readers of values take as a parameter how deep arrays and tables in braces
may still be nested.
-/

namespace PolygonRenderer.Toml

/-- A key with dots: the path, and the last part. -/
structure DottedKey where
  path : List String
  last : String
deriving DecidableEq, Repr

/-- A character of a key without quotes. -/
def isBare (c : Char) : Bool :=
  c.isAlphanum || c == '_' || c == '-'

def simpleKey? (chars : List Char) : Option (String × List Char) :=
  match chars with
  | '"' :: rest => do
    let (text, rest) ← basic? rest.length rest
    return (String.ofList text, rest)
  | '\'' :: rest => do
    let (text, rest) ← literal? rest
    return (String.ofList text, rest)
  | _ =>
    let text := chars.takeWhile isBare
    if text.isEmpty then none else some (String.ofList text, chars.drop text.length)

/-- Read a key of at most `fuel` parts, and the blanks after it. -/
def dottedKey? : Nat → List Char → Option (DottedKey × List Char)
  | 0, _ => none
  | fuel + 1, chars => do
    let (part, rest) ← simpleKey? (skipBlanks chars)
    match skipBlanks rest with
    | '.' :: rest => do
      let (key, rest) ← dottedKey? fuel rest
      return (⟨part :: key.path, key.last⟩, rest)
    | rest => return (⟨[], part⟩, rest)

/-- How many parts a key may have. -/
def maxParts : Nat :=
  80

def key? (chars : List Char) : Option (DottedKey × List Char) :=
  dottedKey? maxParts chars

/-- A character, other than a blank, that ends a value without quotes or
brackets. -/
def endsWord (c : Char) : Bool :=
  c ∈ ['\n', '\r', '#', ',', '=', '[', ']', '{', '}']

/-- Whether a value without quotes or brackets goes on: with a character of its
own, or with blanks and then such a character. A quote behind blanks starts a
string. -/
def wordGoesOn : List Char → Bool
  | [] => false
  | c :: rest =>
    if isBlank c then
      (skipBlanks rest).head?.any fun d => !endsWord d && d != '"' && d != '\''
    else !endsWord c

/-- The characters of a value without quotes or brackets. -/
def word : List Char → List Char
  | [] => []
  | c :: rest => if wordGoesOn (c :: rest) then c :: word rest else []

/-- The value that is written as a word. -/
def Scalar.ofWord? (text : List Char) : Option Scalar :=
  if text = ['t', 'r', 'u', 'e'] then some (.boolean true)
  else if text = ['f', 'a', 'l', 's', 'e'] then some (.boolean false)
  else
    (integer? text).map .integer
      <|> (float? text).map .float
      <|> if isDateTime text then some (.datetime (String.ofList text))
        else if isIntegerShape text then some (.unreadable (String.ofList text))
        else none

/-- Read a value without parts. -/
def scalar? (chars : List Char) : Option (Scalar × List Char) :=
  match chars with
  | '"' :: _ | '\'' :: _ => do
    let (text, rest) ← string? chars
    return (.string text, rest)
  | _ => do
    let text := word chars
    return (← Scalar.ofWord? text, chars.drop text.length)

/-- Read the elements of an array, after its opening bracket or a comma. -/
def elements? (value : List Char → Option (Value × List Char)) :
    Nat → List Char → Option (List Value × List Char)
  | 0, _ => none
  | fuel + 1, chars =>
    match skipTrivia chars with
    | ']' :: rest => some ([], rest)
    | chars => do
      let (first, rest) ← value chars
      match skipTrivia rest with
      | ',' :: rest => do
        let (others, rest) ← elements? value fuel rest
        return (first :: others, rest)
      | ']' :: rest => return ([first], rest)
      | _ => none

/-- Read a key, an equality sign and a value. What may stand on either side of
the sign is skipped by `skip`. -/
def keyValue? (skip : List Char → List Char) (value : List Char → Option (Value × List Char))
    (chars : List Char) : Option (DottedKey × Value × List Char) := do
  let (key, rest) ← key? chars
  let (v, rest) ← value (skip (← char? '=' (skip rest)))
  return (key, v, rest)

/-- Read the entries of a table in braces, after the opening brace or a comma,
and add them to those before. Within braces an entry may go over several lines,
but its key may not. -/
def fields? (value : List Char → Option (Value × List Char)) :
    Nat → Entries → List Char → Option (Entries × List Char)
  | 0, _, _ => none
  | fuel + 1, entries, chars =>
    match skipTrivia chars with
    | '}' :: rest => some (entries, rest)
    | chars => do
      let (key, v, rest) ← keyValue? skipTrivia value chars
      let entries ← entries.insertDotted key.path key.last v .inline
      match skipTrivia rest with
      | ',' :: rest => fields? value fuel entries rest
      | '}' :: rest => return (entries, rest)
      | _ => none

/-- Read a value with at most `depth` levels of brackets and braces. -/
def value? : Nat → List Char → Option (Value × List Char)
  | 0, chars => do
    let (s, rest) ← scalar? chars
    return (.scalar s, rest)
  | depth + 1, chars =>
    match chars with
    | '[' :: rest => do
      let (vs, rest) ← elements? (value? depth) chars.length rest
      return (.array false vs, rest)
    | '{' :: rest => do
      let (es, rest) ← fields? (value? depth) chars.length [] rest
      return (.table .inline es, rest)
    | _ => do
      let (s, rest) ← scalar? chars
      return (.scalar s, rest)

/-- How deep arrays and tables in braces may be nested. -/
def maxDepth : Nat :=
  80

/-- A statement of a document. -/
inductive Statement where
  | entry (key : DottedKey) (value : Value)
  | table (key : DottedKey)
  | element (key : DottedKey)

/-- Read a statement, if the line has one. -/
def statement? (chars : List Char) : Option (Option Statement × List Char) :=
  match skipBlanks chars with
  | [] => some (none, [])
  | '#' :: _ | '\n' :: _ | '\r' :: _ => some (none, chars)
  | '[' :: '[' :: rest => do
    let (key, rest) ← key? rest
    let rest ← char? ']' (← char? ']' rest)
    return (some (.element key), rest)
  | '[' :: rest => do
    let (key, rest) ← key? rest
    return (some (.table key), ← char? ']' rest)
  | rest => do
    let (key, value, rest) ← keyValue? skipBlanks (value? maxDepth) rest
    return (some (.entry key value), rest)

/-- Read at most `fuel` lines. -/
def statements? : Nat → List Char → Option (List Statement)
  | _, [] => some []
  | 0, _ => none
  | fuel + 1, chars => do
    let (first, rest) ← statement? chars
    let others ← statements? fuel (← endOfLine? rest)
    return first.toList ++ others

namespace Document

/-- Carry out statements. `header` is the path of the table that keys belong to. -/
def run (header : List String) (entries : Entries) : List Statement → Option Entries
  | [] => some entries
  | .entry key value :: rest => do
    let entries ← entries.update false
      (fun kind inner => inner.insertDotted key.path key.last value kind) header .headed
    run header entries rest
  | .table key :: rest => do
    run (key.path ++ [key.last]) (← entries.openTable key.path key.last) rest
  | .element key :: rest => do
    run (key.path ++ [key.last]) (← entries.openElement key.path key.last) rest

/-- The statements of a text, which may start with a byte order mark. -/
def statements (text : String) : Option (List Statement) :=
  let chars :=
    match text.toList with
    | '\uFEFF' :: rest => rest
    | chars => chars
  statements? (chars.length + 1) chars

/-- The entries of a document, if it is well formed. -/
def parse? (text : String) : Option Entries := do
  run [] [] (← statements text)

end Document

end PolygonRenderer.Toml
