import PolygonRenderer.Decimal.Shortest
import PolygonRenderer.Toml.Quoted

/-!
# Numbers

Integers are decimal with an optional sign, or hexadecimal, octal or binary
without. A decimal number has no leading zeros, and a float has a fraction, an
exponent or both. Single underscores may stand between digits.

A document asks less of an integer than that it has a value: `isIntegerShape`.
-/

namespace PolygonRenderer.Toml

/-- Read the value of digits below `base` with underscores between them. -/
def digitGroups? (base : Nat) (chars : List Char) : Option (List Nat) :=
  match chars with
  | [] => none
  | [c] => digit c
  | c :: '_' :: rest => return (← digit c) ++ (← digitGroups? base rest)
  | c :: rest => return (← digit c) ++ (← digitGroups? base rest)
where
  digit (c : Char) : Option (List Nat) := do
    let d ← hexDigit? c
    if d < base then some [d] else none

def ofDigits (base : Nat) (digits : List Nat) : Nat :=
  digits.foldl (fun n d => base * n + d) 0

/-- The value of a number without sign in a base. -/
def natural? (base : Nat) (chars : List Char) : Option Nat :=
  (digitGroups? base chars).map (ofDigits base)

/-- The digits of a whole number without leading zeros. -/
def wholeNumber? (chars : List Char) : Option (List Nat) :=
  match chars with
  | '0' :: _ :: _ => none
  | _ => digitGroups? 10 chars

/-- Split a sign off; the answer is whether the number is negative. -/
def splitSign : List Char → Bool × List Char
  | '-' :: rest => (true, rest)
  | '+' :: rest => (false, rest)
  | chars => (false, chars)

/-- The number with a sign. -/
def signed (negative : Bool) (n : Nat) : Int :=
  if negative then -n else n

def integer? : List Char → Option Int
  | '0' :: 'x' :: rest => (natural? 16 rest).map Int.ofNat
  | '0' :: 'o' :: rest => (natural? 8 rest).map Int.ofNat
  | '0' :: 'b' :: rest => (natural? 2 rest).map Int.ofNat
  | chars =>
    let (negative, rest) := splitSign chars
    (wholeNumber? rest).map fun digits => signed negative (ofDigits 10 digits)

/-- Whether every underscore stands between two hexadecimal digits. -/
def hasInnerUnderscores (chars : List Char) : Bool :=
  let isHex (c : Char) : Bool := (hexDigit? c).isSome
  chars.head? != some '_' && chars.getLast? != some '_' &&
    (chars.zip chars.tail).all fun (c, d) => (c != '_' || isHex d) && (d != '_' || isHex c)

/-- Whether a word has the shape of an integer. One with a base may lack its
digits. A decimal one without leading zero may go on with anything after its
first underscore, as long as there is no space and that makes no float of it. -/
def isIntegerShape (chars : List Char) : Bool :=
  let (_, digits) := splitSign chars
  let rest := digits.dropWhile Char.isDigit
  chars ∈ [['0', 'x'], ['0', 'o'], ['0', 'b']] ||
    digits.head?.any (fun c => c.isDigit && c != '0') && rest.head? == some '_' &&
      rest.all (· ∉ [' ', '.', 'e', 'E']) && hasInnerUnderscores digits

/-- Read an exponent, if there is one. -/
def exponent? : List Char → Option Int
  | [] => some 0
  | e :: rest =>
    if e = 'e' ∨ e = 'E' then
      let (negative, rest) := splitSign rest
      (natural? 10 rest).map (signed negative)
    else none

/-- Read a fraction, if there is one. -/
def fraction? : List Char → Option (List Nat)
  | [] => some []
  | _ :: rest => digitGroups? 10 rest

def float? (chars : List Char) : Option ExtendedDecimal := do
  let (negative, chars) := splitSign chars
  if chars = ['i', 'n', 'f'] then return .infinite negative
  if chars = ['n', 'a', 'n'] then return .undefined
  let isExponent (c : Char) : Bool := c == 'e' || c == 'E'
  let mantissa := chars.takeWhile fun c => !isExponent c
  let whole := mantissa.takeWhile (· != '.')
  if whole.length = chars.length then none
  let digits ← wholeNumber? whole
  let fraction ← fraction? (mantissa.drop whole.length)
  let exponent ← exponent? (chars.drop mantissa.length)
  return .finite ⟨negative, ofDigits 10 (digits ++ fraction), exponent - fraction.length⟩

end PolygonRenderer.Toml
