import PolygonRenderer.Dump.Environment
import PolygonRenderer.Text.Alphanumeric
import PolygonRenderer.Text.Space

/-!
# Environment files

An environment file gives values to variables that have none yet. A line names a
variable and its value; quotes keep blanks and signs, and in double quotes a
value may go over several lines. A dollar sign stands for the value of another
variable. Reading ends at the first line that is malformed.

`EnvironmentFile.assignments` reads a file without knowing any variable;
`EnvironmentFile.apply` then carries the assignments out.
-/

namespace PolygonRenderer.Dump

namespace EnvironmentFile

/-- Split bytes behind every line feed. -/
def splitLines : List UInt8 → List (List UInt8)
  | [] => []
  | b :: bytes =>
    if b = 10 then [b] :: splitLines bytes
    else
      match splitLines bytes with
      | [] => [[b]]
      | line :: lines => (b :: line) :: lines

/-- The characters of bytes in UTF-8, if they are well formed. -/
def decode? (bytes : List UInt8) : Option (List Char) :=
  (String.fromUTF8? ⟨bytes.toArray⟩).map String.toList

/-! ## Lines -/

/-- Where in a line a reader is. -/
inductive LineState where
  | plain
  | space
  | escape
  | single
  | singleEscape
  | double
  | doubleEscape
deriving DecidableEq, Repr

namespace LineState

/-- The state after a character. There is none where a comment begins, which is
behind a space only. -/
def next? (s : LineState) (c : Char) : Option LineState :=
  let start : LineState :=
    if c = '\\' then escape else if c = '"' then double else if c = '\'' then single else plain
  match s with
  | plain => some (if isSpace c && c != '\n' && c != '\r' then space else start)
  | space => if c = '#' then none else some start
  | escape => some plain
  | single => some (if c = '\\' then singleEscape else if c = '\'' then plain else single)
  | singleEscape => some single
  | double => some (if c = '\\' then doubleEscape else if c = '"' then plain else double)
  | doubleEscape => some double

end LineState

/-- Read a line up to a comment. The answer is the characters before it, and the
state at the end of a line without a comment. -/
def scan : LineState → List Char → List Char × Option LineState
  | s, [] => ([], some s)
  | s, c :: cs =>
    match s.next? c with
    | none => ([], none)
    | some s =>
      let (before, last) := scan s cs
      (c :: before, last)

/-- Whether a line is a comment from its first sign on. -/
def isComment (line : List Char) : Bool :=
  (line.dropWhile isSpace).head? == some '#'

/-- Join lines that belong together. A line goes on where quotes are open or
where the file ends in a space. The answer ends in `none` where a line is
malformed. -/
def joinLines (s : LineState) (before : List Char) :
    List (Option (List Char)) → List (Option (List Char))
  | [] => if s = .plain then [] else [none]
  | none :: _ => [none]
  | some line :: rest =>
    if isComment (before ++ line) then joinLines .plain [] rest
    else
      match scan s line with
      | (kept, none) => some (before ++ kept) :: joinLines .plain [] rest
      | (_, some .plain) => some (before ++ line) :: joinLines .plain [] rest
      | (_, some s) => joinLines s (before ++ line) rest

/-! ## Values -/

/-- A part of a value. -/
inductive Part where
  | char (c : Char)
  /-- The value of a variable. -/
  | reference (name : String)
deriving DecidableEq, Repr

inductive ValueState where
  | plain
  | single
  | double
  | escape (quoted : Bool)
  /-- In the name of a variable. -/
  | name (quoted : Bool) (name : List Char)
  /-- In the name of a variable in braces. -/
  | braced (quoted : Bool) (name : List Char)
  /-- Behind the value. -/
  | finished
deriving DecidableEq, Repr

namespace ValueState

/-- The state outside escapes and names. -/
def outer (quoted : Bool) : ValueState :=
  if quoted then double else plain

end ValueState

/-- The value of the variable with a name. -/
def reference (name : List Char) : Part :=
  .reference (String.ofList name)

/-- The character that an escape stands for. -/
def unescape? (c : Char) : Option Char :=
  if c ∈ ['\\', '\'', '"', '$', ' '] then some c
  else if c = 'n' then some '\n'
  else none

/-- Read a value. The name of a variable without braces is made of letters and
digits of any script, and the character that ends it is taken as it is, even a
quote. -/
def value? : ValueState → List Char → Option (List Part)
  | .plain, [] | .finished, [] | .escape false, [] => some []
  | .name false name, [] => some [reference name]
  | _, [] => none
  | .finished, c :: cs =>
    if c = ' ' ∨ c = '\t' then value? .finished cs else if c = '#' then some [] else none
  | .escape quoted, c :: cs => do
    return .char (← unescape? c) :: (← value? (.outer quoted) cs)
  | .single, c :: cs =>
    if c = '\'' then value? .plain cs else do return .char c :: (← value? .single cs)
  | .name quoted name, c :: cs =>
    if isAlphanumeric c then value? (.name quoted (name ++ [c])) cs
    else if c = '\x7b' ∧ name = [] then value? (.braced quoted []) cs
    else if c = '$' then do return reference name :: (← value? (.name quoted []) cs)
    else do return reference name :: .char c :: (← value? (.outer quoted) cs)
  | .braced quoted name, c :: cs =>
    if c = '\x7d' then do return reference name :: (← value? (.outer quoted) cs)
    else value? (.braced quoted (name ++ [c])) cs
  | .double, c :: cs =>
    if c = '$' then value? (.name true []) cs
    else if c = '"' then value? .plain cs
    else if c = '\\' then value? (.escape true) cs
    else do return .char c :: (← value? .double cs)
  | .plain, c :: cs =>
    if c = '$' then value? (.name false []) cs
    else if c = '\'' then value? .single cs
    else if c = '"' then value? .double cs
    else if c = '\\' then value? (.escape false) cs
    else if c = ' ' ∨ c = '\t' then value? .finished cs
    else do return .char c :: (← value? .plain cs)

/-! ## Assignments -/

structure Assignment where
  key : String
  value : List Part
deriving DecidableEq, Repr

def trimEnd (chars : List Char) : List Char :=
  (chars.reverse.dropWhile isSpace).reverse

/-- Read a key and the white space behind it. -/
def key? (chars : List Char) : Option (List Char × List Char) :=
  let isKeyChar (c : Char) : Bool := c.isAlphanum || c == '_' || c == '.'
  match chars with
  | [] => none
  | c :: _ =>
    if c.isAlpha || c == '_' then
      let key := chars.takeWhile isKeyChar
      some (key, (chars.drop key.length).dropWhile isSpace)
    else none

/-- Read the key of an assignment up to the equality sign. The word `export` may
stand in front of it. -/
def assignedKey? (chars : List Char) : Option (List Char × List Char) := do
  let (key, rest) ← key? chars
  match rest with
  | '=' :: rest => return (key, rest)
  | rest =>
    if key = "export".toList then
      let (key, rest) ← key? rest
      match rest with
      | '=' :: rest => return (key, rest)
      | _ => none
    else none

/-- Read the assignment of a line, if the line has one. -/
def assignment? (line : List Char) : Option (Option Assignment) :=
  match (trimEnd line).dropWhile isSpace with
  | [] | '#' :: _ => some none
  | chars => do
    let (key, rest) ← assignedKey? chars
    let key := String.ofList key
    match rest.dropWhile isSpace with
    | [] | '#' :: _ => return some ⟨key, []⟩
    | rest => return some ⟨key, ← value? .plain rest⟩

/-- The assignments of lines, up to the first that is malformed. -/
def readLines : List (Option (List Char)) → List Assignment
  | some line :: rest =>
    match assignment? line with
    | some assignment => assignment.toList ++ readLines rest
    | none => []
  | _ => []

/-- The assignments of a file, which may start with a byte order mark. -/
def assignments (contents : ByteArray) : List Assignment :=
  let bytes :=
    match contents.toList with
    | 0xEF :: 0xBB :: 0xBF :: rest => rest
    | bytes => bytes
  readLines (joinLines .plain [] ((splitLines bytes).map decode?))

namespace Assignment

/-- The variables that matter to an assignment. -/
def mentions (a : Assignment) : List String :=
  a.key :: a.value.filterMap fun
    | .reference name => some name
    | .char _ => none

/-- The value where variables have the values of an environment. -/
def resolve (a : Assignment) (environment : Environment) : String :=
  String.join (a.value.map fun
    | .reference name => (environment.value? name).getD ""
    | .char c => c.toString)

end Assignment

/-- Carry out assignments in order. A variable that has a value keeps it. There
is no environment where a variable would take a value that none admits. -/
def apply (environment : Environment) (assignments : List Assignment) : Option Environment :=
  assignments.foldlM (fun e a => e.define? a.key (a.resolve e)) environment

end EnvironmentFile

end PolygonRenderer.Dump
