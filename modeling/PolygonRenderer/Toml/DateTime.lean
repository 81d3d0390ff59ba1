/-!
# Dates and times

A date and time of day may stand alone or together, the time with an offset or
without. Seconds may be left out.
-/

namespace PolygonRenderer.Toml

/-- Read exactly `count` decimal digits. -/
def digits? (count : Nat) (chars : List Char) : Option (Nat × List Char) :=
  let digits := chars.take count
  if digits.length = count ∧ digits.all Char.isDigit then
    some (digits.foldl (fun n c => 10 * n + (c.toNat - '0'.toNat)) 0, chars.drop count)
  else none

def char? (c : Char) : List Char → Option (List Char)
  | d :: rest => if d = c then some rest else none
  | [] => none

/-- Whether a year has a 29th of February. -/
def isLeapYear (year : Nat) : Bool :=
  year % 4 == 0 && (year % 100 != 0 || year % 400 == 0)

def daysIn (year month : Nat) : Nat :=
  if month = 2 then if isLeapYear year then 29 else 28
  else if month ∈ [4, 6, 9, 11] then 30
  else 31

def date? (chars : List Char) : Option (List Char) := do
  let (year, rest) ← digits? 4 chars
  let (month, rest) ← digits? 2 (← char? '-' rest)
  let (day, rest) ← digits? 2 (← char? '-' rest)
  if 1 ≤ month ∧ month ≤ 12 ∧ 1 ≤ day ∧ day ≤ daysIn year month then some rest else none

def hoursAndMinutes? (chars : List Char) : Option (List Char) := do
  let (hour, rest) ← digits? 2 chars
  let (minute, rest) ← digits? 2 (← char? ':' rest)
  if hour ≤ 23 ∧ minute ≤ 59 then some rest else none

/-- Read seconds and a fraction of them, if there are any. -/
def seconds? (chars : List Char) : Option (List Char) :=
  match chars with
  | ':' :: rest => do
    let (second, rest) ← digits? 2 rest
    if 60 < second then none
    match rest with
    | '.' :: rest =>
      let fraction := rest.takeWhile Char.isDigit
      if fraction.isEmpty then none else some (rest.drop fraction.length)
    | _ => some rest
  | _ => some chars

def time? (chars : List Char) : Option (List Char) := do
  seconds? (← hoursAndMinutes? chars)

/-- Read an offset, if there is one. -/
def offset? (chars : List Char) : Option (List Char) :=
  match chars with
  | 'Z' :: rest | 'z' :: rest => some rest
  | '+' :: rest | '-' :: rest => hoursAndMinutes? rest
  | _ => some chars

/-- Whether characters are a date, a time, or both as a whole. -/
def isDateTime (chars : List Char) : Bool :=
  match date? chars with
  | some [] => true
  | some (separator :: rest) =>
    separator ∈ ['T', 't', ' '] && (time? rest >>= offset?) == some []
  | none => time? chars == some []

end PolygonRenderer.Toml
