/-!
# Command lines

The command line names a model file and options. It is read from left to right
and the first thing that counts decides: a mistake, or the wish for help or for
the version. An argument that begins with a hyphen is an option unless it is a
single hyphen; after two hyphens alone there are no more options.
-/

namespace PolygonRenderer.Dump

structure Options where
  modelFile : String
  dynamic : Bool
  bigEndian : Bool
  lut : UInt32
  textureOffset : UInt16
  configFile : Option String
  json : Bool
deriving DecidableEq, Repr

/-- What a command line asks for. -/
inductive Request where
  | report (options : Options)
  | help
  | version
  | malformed
deriving DecidableEq, Repr

/-- What has been read of a command line. -/
structure Draft where
  modelFile : Option String
  dynamic : Bool
  bigEndian : Bool
  lut : Option UInt32
  textureOffset : Option UInt16
  configFile : Option String
  json : Bool

namespace Draft

/-- Nothing has been read yet. -/
def empty : Draft :=
  ⟨none, false, false, none, none, none, false⟩

/-- The request at the end of a command line. -/
def finish (d : Draft) : Request :=
  match d.modelFile with
  | none => .malformed
  | some file =>
    .report {
      modelFile := file
      dynamic := d.dynamic
      bigEndian := d.bigEndian
      lut := d.lut.getD 0
      textureOffset := d.textureOffset.getD 0
      configFile := d.configFile
      json := d.json }

/-- Set what may be set only once. -/
def once {α : Type} (old : Option α) (new : Option α) : Option (Option α) :=
  match old, new with
  | none, some a => some (some a)
  | _, _ => none

/-- Turn a flag on, which may be done only once. -/
def flag? (d : Draft) (name : String) : Option Draft :=
  match name with
  | "dynamic" => if d.dynamic then none else some { d with dynamic := true }
  | "big-endian" => if d.bigEndian then none else some { d with bigEndian := true }
  | "json" => if d.json then none else some { d with json := true }
  | _ => none

/-- The number below `bound` that a text stands for. It may have a sign. -/
def number? (bound : Nat) (text : String) : Option Nat :=
  let (negative, digits) : Bool × List Char :=
    match text.toList with
    | '-' :: rest => (true, rest)
    | '+' :: rest => (false, rest)
    | chars => (false, chars)
  if digits ≠ [] ∧ digits.all Char.isDigit then
    let n := digits.foldl (fun n c => 10 * n + (c.toNat - '0'.toNat)) 0
    if n < bound ∧ (negative → n = 0) then some n else none
  else none

/-- A path that is not empty. -/
def path? (text : String) : Option String :=
  if text.isEmpty then none else some text

def option? (d : Draft) (name value : String) : Option Draft :=
  match name with
  | "lut" => do
    return { d with lut := ← once d.lut ((number? UInt32.size value).map UInt32.ofNat) }
  | "tex-offset" => do
    let offset := (number? UInt16.size value).map UInt16.ofNat
    return { d with textureOffset := ← once d.textureOffset offset }
  | "config" => do
    return { d with configFile := ← once d.configFile (path? value) }
  | _ => none

/-- Take an argument that is not an option. -/
def argument? (d : Draft) (text : String) : Option Draft := do
  return { d with modelFile := ← once d.modelFile (path? text) }

end Draft

/-- An argument of a command line. -/
inductive Argument where
  /-- Two hyphens alone. -/
  | endOfOptions
  /-- A name behind two hyphens, and what follows an equality sign. -/
  | long (name : String) (value : Option String)
  /-- Letters behind a hyphen. -/
  | short (letters : List Char)
  | plain (text : String)
deriving DecidableEq, Repr

namespace Argument

def ofString (text : String) : Argument :=
  match text.toList with
  | ['-', '-'] => endOfOptions
  | '-' :: '-' :: chars =>
    let name := chars.takeWhile (· != '=')
    match chars.drop name.length with
    | _ :: value => long (String.ofList name) (some (String.ofList value))
    | [] => long (String.ofList name) none
  | '-' :: c :: letters => short (c :: letters)
  | _ => plain text

end Argument

namespace Request

/-- The names of the options that have a value. -/
def valued : List String :=
  ["lut", "tex-offset", "config"]

/-- Read the arguments behind the end of options. -/
def readPlain (d : Draft) : List String → Request
  | [] => d.finish
  | text :: rest =>
    match d.argument? text with
    | some d => readPlain d rest
    | none => malformed

def read (d : Draft) : List String → Request
  | [] => d.finish
  | text :: rest =>
    match Argument.ofString text with
    | .endOfOptions => readPlain d rest
    | .short ('h' :: _) => help
    | .short ('V' :: _) => version
    | .short _ => malformed
    | .long "help" none => help
    | .long "version" none => version
    | .long name (some value) =>
      match d.option? name value with
      | some d => read d rest
      | none => malformed
    | .long name none =>
      if name ∈ valued then
        match rest with
        | [] => malformed
        | value :: rest =>
          match Argument.ofString value with
          | .plain value =>
            match d.option? name value with
            | some d => read d rest
            | none => malformed
          | _ => malformed
      else
        match d.flag? name with
        | some d => read d rest
        | none => malformed
    | .plain text =>
      match d.argument? text with
      | some d => read d rest
      | none => malformed

def ofArguments (arguments : List String) : Request :=
  read .empty arguments

end Request

end PolygonRenderer.Dump
