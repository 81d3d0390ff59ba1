import PolygonRenderer.Config
import PolygonRenderer.Error
import PolygonRenderer.Toml.Printer

/-!
# Configuration files

A configuration file is a TOML document. Whatever it leaves out keeps its
standard value, each limit that of its own cache; keys that are not known are
passed over. A cache may also be given as an array of all its limits in order,
and what comes after them in the array is not even read.
-/

namespace PolygonRenderer

open Toml

namespace Toml

mutual

/-- Whether all numbers in a value can be read: integers of at most 128 bits,
and floats that are finite unless written as infinite. The values of keys that
are passed over have to be readable as well. -/
def Value.isReadable : Value → Bool
  | .scalar (.integer n) => -(twoPow 127 : Int) ≤ n && n < twoPow 128
  | .scalar (.float x) => x.toFloat32.isSome
  | .scalar (.unreadable _) => false
  | .scalar _ => true
  | .array _ elements => allReadable elements
  | .table _ entries => entriesReadable entries

/-- Whether all numbers in the elements of an array can be read. -/
def allReadable : List Value → Bool
  | [] => true
  | v :: vs => v.isReadable && allReadable vs

/-- Whether all numbers in the entries of a table can be read. -/
def entriesReadable : List (String × Value) → Bool
  | [] => true
  | (_, v) :: es => v.isReadable && entriesReadable es

end

/-- Whether the values of all keys that are not known can be read. -/
def othersReadable (known : List String) (entries : Entries) : Bool :=
  entriesReadable (entries.filter fun e => e.1 ∉ known)

/-- Read the value of a key, if the key is present. -/
def field {α : Type} (entries : Entries) (key : String) (standard : α)
    (read : Value → Option α) : Option α :=
  match entries.lookup key with
  | none => some standard
  | some v => read v

end Toml

namespace Modulation

def name : Modulation → String
  | unlessWord4 => "word4_bit7"
  | ifWord3 => "word3_bit7"

def ofName? (name : String) : Option Modulation :=
  [unlessWord4, ifWord3].find? fun m => m.name == name

@[simp] theorem ofName?_name (m : Modulation) : ofName? m.name = some m := by
  cases m <;> decide

/-- Read a modulation: its name, or a table with the name as its only key and
nothing in it. -/
def ofValue? : Value → Option Modulation
  | .scalar (.string s) => ofName? s
  | .table _ [(s, .array _ [])] => ofName? s
  | .table _ [(s, .table _ [])] => ofName? s
  | _ => none

end Modulation

namespace CacheLimits

def keys : List String :=
  ["vbo_vertices", "staging_vertices", "max_models", "lut_entries", "display_list_entries"]

def limit? : Value → Option Nat
  | .scalar (.integer n) => if 0 ≤ n ∧ n < twoPow 64 then some n.toNat else none
  | _ => none

/-- Read limits, with standard values for those that are left out. -/
def ofEntries? (standard : CacheLimits) (entries : Entries) : Option CacheLimits :=
  if othersReadable keys entries then do
    return {
      bufferVertices := ← field entries "vbo_vertices" standard.bufferVertices limit?
      stagingVertices := ← field entries "staging_vertices" standard.stagingVertices limit?
      maxModels := ← field entries "max_models" standard.maxModels limit?
      lutEntries := ← field entries "lut_entries" standard.lutEntries limit?
      displayListEntries :=
        ← field entries "display_list_entries" standard.displayListEntries limit? }
  else none

/-- Read the limits of a cache. A date counts as a table without any of the
keys. -/
def ofValue? (standard : CacheLimits) : Value → Option CacheLimits
  | .table _ entries => ofEntries? standard entries
  | .array _ (buffer :: staging :: models :: lut :: list :: _) => do
    return {
      bufferVertices := ← limit? buffer
      stagingVertices := ← limit? staging
      maxModels := ← limit? models
      lutEntries := ← limit? lut
      displayListEntries := ← limit? list }
  | .scalar (.datetime _) => some standard
  | _ => none

def toEntries (l : CacheLimits) : List (String × Toml.Scalar) :=
  keys.zip ([l.bufferVertices, l.stagingVertices, l.maxModels, l.lutEntries,
    l.displayListEntries].map fun n : Nat => .integer n)

end CacheLimits

namespace Config

def keys : List String :=
  ["static_cache", "dynamic_cache", "modulation", "vertex_factor"]

def factor? : Value → Option Float32
  | .scalar (.float x) => x.toFloat32
  | .scalar (.integer n) =>
    if -(twoPow 63 : Int) ≤ n ∧ n < twoPow 64 then
      some (nearest32 (decide (n < 0)) n.natAbs 1)
    else none
  | _ => none

def ofEntries? (entries : Entries) : Option Config :=
  if othersReadable keys entries then do
    return {
      staticCache := ← field entries "static_cache" .static (CacheLimits.ofValue? .static)
      dynamicCache := ← field entries "dynamic_cache" .dynamic (CacheLimits.ofValue? .dynamic)
      modulation := ← field entries "modulation" standard.modulation Modulation.ofValue?
      vertexFactor := ← field entries "vertex_factor" standard.vertexFactor factor? }
  else none

def toDocument (c : Config) : FlatDocument :=
  { entries :=
      [("modulation", .string c.modulation.name),
       ("vertex_factor", .float (.ofFloat32 c.vertexFactor))]
    tables :=
      [("static_cache", c.staticCache.toEntries), ("dynamic_cache", c.dynamicCache.toEntries)] }

def render (c : Config) : String :=
  c.toDocument.render

/-- The text that a configuration is saved as. Limits of up to 64 bits can be saved, also
those beyond the largest integer with a sign. -/
def save (c : Config) : Except RenderError String :=
  if c.toDocument.fits then .ok c.render else .error .configSerialize

def parse (text : String) : Except RenderError Config :=
  match Document.parse? text >>= ofEntries? with
  | some c => .ok c
  | none => .error .configParse

/-- Load a configuration from the contents of a file, if there is a file. -/
def load (contents : Option ByteArray) : Except RenderError Config :=
  match contents >>= String.fromUTF8? with
  | some text => parse text
  | none => .error .io

/-- Load a configuration, or take the standard one where that fails. -/
def loadOrStandard (contents : Option ByteArray) : Config :=
  match load contents with
  | .ok c => c
  | .error _ => standard

end Config

end PolygonRenderer
