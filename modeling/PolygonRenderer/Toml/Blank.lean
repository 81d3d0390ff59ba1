/-!
# Blanks, comments and line ends

A reader of a part of a document takes the characters from its position on. It
answers what it has read and the characters after it, or nothing if the document
is not well formed there.
-/

namespace PolygonRenderer.Toml

/-- A space or a tab. -/
def isBlank (c : Char) : Bool :=
  c == ' ' || c == '\t'

/-- A control character other than a tab, which a document may not contain
within a line. -/
def isControl (c : Char) : Bool :=
  (c.val < 0x20 && c != '\t') || c.val == 0x7F

def skipBlanks (chars : List Char) : List Char :=
  chars.dropWhile isBlank

def newline? : List Char → Option (List Char)
  | '\n' :: rest => some rest
  | '\r' :: '\n' :: rest => some rest
  | _ => none

/-- Skip a comment up to the end of its line, if there is one. -/
def skipComment (chars : List Char) : List Char :=
  match chars with
  | '#' :: rest => rest.dropWhile fun c => !isControl c
  | _ => chars

/-- Read what may follow a statement: blanks, a comment, and the end of the line
or of the document. -/
def endOfLine? (chars : List Char) : Option (List Char) :=
  match skipComment (skipBlanks chars) with
  | [] => some []
  | rest => newline? rest

/-- Skip blanks, line ends and, on request, comments, for at most `fuel` lines. A
comment that runs into a control character is left standing there. -/
def skipLines (comments : Bool) : Nat → List Char → List Char
  | 0, chars => chars
  | fuel + 1, chars =>
    let rest := if comments then skipComment (skipBlanks chars) else skipBlanks chars
    match newline? rest with
    | some rest => skipLines comments fuel rest
    | none => rest

/-- Skip all blanks, comments and line ends. -/
def skipTrivia (chars : List Char) : List Char :=
  skipLines true (chars.length + 1) chars

/-- Skip all blanks and line ends. -/
def skipSpace (chars : List Char) : List Char :=
  skipLines false (chars.length + 1) chars

end PolygonRenderer.Toml
