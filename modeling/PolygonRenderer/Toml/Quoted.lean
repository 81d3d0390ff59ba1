import PolygonRenderer.Toml.Blank

/-!
# Quoted strings

There are four kinds of strings: in double quotes with escapes, in single quotes
without, and either of them in three quotes, with line ends. All readers here
start after the opening quotes. The fuel of a reader bounds the number of its
steps, each of which takes a character at least.
-/

namespace PolygonRenderer.Toml

/-- The value of a hexadecimal digit. -/
def hexDigit? (c : Char) : Option Nat :=
  if '0' ≤ c ∧ c ≤ '9' then some (c.toNat - '0'.toNat)
  else if 'a' ≤ c ∧ c ≤ 'f' then some (c.toNat - 'a'.toNat + 10)
  else if 'A' ≤ c ∧ c ≤ 'F' then some (c.toNat - 'A'.toNat + 10)
  else none

/-- Read the character whose number is given by `count` hexadecimal digits. -/
def codePoint? (count : Nat) (chars : List Char) : Option (Char × List Char) := do
  let digits ← (chars.take count).mapM hexDigit?
  let n := digits.foldl (fun n d => 16 * n + d) 0
  if digits.length = count ∧ n.isValidChar then some (Char.ofNat n, chars.drop count) else none

/-- Read what follows the backslash of an escape. -/
def escape? : List Char → Option (Char × List Char)
  | 'b' :: rest => some ('\x08', rest)
  | 't' :: rest => some ('\t', rest)
  | 'n' :: rest => some ('\n', rest)
  | 'f' :: rest => some ('\x0c', rest)
  | 'r' :: rest => some ('\r', rest)
  | 'e' :: rest => some ('\x1b', rest)
  | '"' :: rest => some ('"', rest)
  | '\\' :: rest => some ('\\', rest)
  | 'x' :: rest => codePoint? 2 rest
  | 'u' :: rest => codePoint? 4 rest
  | 'U' :: rest => codePoint? 8 rest
  | _ => none

/-- Read a string in double quotes. -/
def basic? : Nat → List Char → Option (List Char × List Char)
  | _ + 1, '"' :: rest => some ([], rest)
  | fuel + 1, '\\' :: rest => do
    let (c, rest) ← escape? rest
    let (cs, rest) ← basic? fuel rest
    return (c :: cs, rest)
  | fuel + 1, c :: rest =>
    if isControl c then none
    else do
      let (cs, rest) ← basic? fuel rest
      return (c :: cs, rest)
  | _, _ => none

/-- Read a string in single quotes. -/
def literal? (chars : List Char) : Option (List Char × List Char) :=
  let text := chars.takeWhile fun c => c != '\'' && !isControl c
  match chars.drop text.length with
  | '\'' :: rest => some (text, rest)
  | _ => none

/-- Read a run of quotes in a string in three quotes. Up to two of them may be
text; three end the string, and up to two before them are still text. The answer
is the text, and whether the string ends. -/
def quoteRun? (quote : Char) (chars : List Char) : Option (List Char × Bool × List Char) :=
  let run := chars.takeWhile (· == quote)
  let rest := chars.drop run.length
  if run.length < 3 then some (run, false, rest)
  else if run.length ≤ 5 then some (run.drop 3, true, rest)
  else none

/-- Skip the rest of a line that ends in a backslash, and all blanks and line
ends after it. -/
def continuation? (chars : List Char) : Option (List Char) := do
  let rest ← newline? (skipBlanks chars)
  return skipSpace rest

/-- Read a string in three quotes, with escapes or without. -/
def multiLine? (quote : Char) (escapes : Bool) : Nat → List Char → Option (List Char × List Char)
  | 0, _ => none
  | _ + 1, [] => none
  | fuel + 1, c :: rest =>
    if c == quote then do
      let (text, ends, rest) ← quoteRun? quote (c :: rest)
      if ends then return (text, rest)
      let (cs, rest) ← multiLine? quote escapes fuel rest
      return (text ++ cs, rest)
    else if c == '\\' && escapes then
      match continuation? rest with
      | some rest => multiLine? quote escapes fuel rest
      | none => do
        let (e, rest) ← escape? rest
        let (cs, rest) ← multiLine? quote escapes fuel rest
        return (e :: cs, rest)
    else
      match newline? (c :: rest) with
      | some rest => do
        let (cs, rest) ← multiLine? quote escapes fuel rest
        return ('\n' :: cs, rest)
      | none =>
        if isControl c then none
        else do
          let (cs, rest) ← multiLine? quote escapes fuel rest
          return (c :: cs, rest)

/-- Read a string of any kind, from its opening quotes on. A line end right after
three quotes does not belong to the string. -/
def string? (chars : List Char) : Option (String × List Char) := do
  let fuel := chars.length
  let skipFirst (rest : List Char) : List Char := (newline? rest).getD rest
  let (text, rest) ←
    match chars with
    | '"' :: '"' :: '"' :: rest => multiLine? '"' true fuel (skipFirst rest)
    | '\'' :: '\'' :: '\'' :: rest => multiLine? '\'' false fuel (skipFirst rest)
    | '"' :: rest => basic? fuel rest
    | '\'' :: rest => literal? rest
    | _ => none
  return (String.ofList text, rest)

end PolygonRenderer.Toml
