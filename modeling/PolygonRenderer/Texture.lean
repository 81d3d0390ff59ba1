/-!
# Texture references

Textures are decoded elsewhere. While a model is cached, each textured polygon
asks a `TextureManager` for its texture: the manager may take note of a
reference to be resolved later, or decode it at once. `TextureLog` is a manager
that only keeps track of what it was asked for.
-/

namespace PolygonRenderer

/-- A rectangle of the texture memory, of 2048 by 2048 texels, in a format. -/
structure TextureRef where
  format : UInt8
  x : UInt32
  y : UInt32
  width : UInt32
  height : UInt32
deriving DecidableEq, Repr

/-- Where the texels of a format are found once they are decoded. -/
structure TextureSheet where
  map : UInt32
  /-- Left edge of the sheet in the map. -/
  left : UInt32
  /-- Top edge of the sheet in the map. -/
  top : UInt32
deriving DecidableEq, Repr, Inhabited

namespace TextureSheet

/-- The sheet at the origin of map 0. -/
def origin : TextureSheet :=
  ⟨0, 0, 0⟩

end TextureSheet

/-- A sheet for each of the eight texture formats. -/
abbrev SheetTable := Vector TextureSheet 8

namespace SheetTable

/-- Every format at the origin of map 0. -/
def origin : SheetTable :=
  Vector.replicate 8 TextureSheet.origin

/-- The sheet of a format, of which the lowest three bits count. -/
def sheet (t : SheetTable) (format : UInt8) : TextureSheet :=
  t[format.toNat % 8]

end SheetTable

/-- The texture services that caching a model calls for. -/
class TextureManager (τ : Type) where
  /-- Take note of a reference. The answer `false` means that it was not taken,
  and the texture has to be decoded at once. -/
  addRef : τ → TextureRef → Bool × τ
  decode : τ → TextureRef → τ
  /-- Where textures of a format are placed. -/
  sheet : τ → UInt8 → TextureSheet

/-- A texture manager that records requests. -/
structure TextureLog where
  /-- References taken so far, without repetition. -/
  refs : List TextureRef
  /-- Textures decoded so far, in order. -/
  decoded : List TextureRef
  /-- How many references are taken at most. -/
  maxRefs : Nat
  sheets : SheetTable
deriving Repr

namespace TextureLog

/-- A log that takes at most `maxRefs` references. -/
def empty (maxRefs : Nat) (sheets : SheetTable) : TextureLog :=
  ⟨[], [], maxRefs, sheets⟩

/-- A reference that is known already is taken again without a new entry. -/
def addRef (log : TextureLog) (texture : TextureRef) : Bool × TextureLog :=
  if texture ∈ log.refs then (true, log)
  else if log.maxRefs ≤ log.refs.length then (false, log)
  else (true, { log with refs := log.refs ++ [texture] })

def decode (log : TextureLog) (texture : TextureRef) : TextureLog :=
  { log with decoded := log.decoded ++ [texture] }

instance : TextureManager TextureLog where
  addRef := addRef
  decode := decode
  sheet log := log.sheets.sheet

@[simp] theorem maxRefs_addRef (log : TextureLog) (texture : TextureRef) :
    (log.addRef texture).2.maxRefs = log.maxRefs := by
  unfold addRef
  split
  · rfl
  · split <;> rfl

@[simp] theorem sheets_addRef (log : TextureLog) (texture : TextureRef) :
    (log.addRef texture).2.sheets = log.sheets := by
  unfold addRef
  split
  · rfl
  · split <;> rfl

/-- Whether a reference is taken depends on those that were. -/
theorem addRef_congr {log log' : TextureLog} (hrefs : log'.refs = log.refs)
    (hmax : log'.maxRefs = log.maxRefs) (texture : TextureRef) :
    (log'.addRef texture).1 = (log.addRef texture).1 ∧
      (log'.addRef texture).2.refs = (log.addRef texture).2.refs := by
  unfold addRef
  rw [hrefs, hmax]
  split
  · exact ⟨rfl, hrefs⟩
  · split
    · exact ⟨rfl, hrefs⟩
    · exact ⟨rfl, rfl⟩

@[simp] theorem decoded_addRef (log : TextureLog) (texture : TextureRef) :
    (log.addRef texture).2.decoded = log.decoded := by
  unfold addRef
  split
  · rfl
  · split <;> rfl

end TextureLog

end PolygonRenderer
