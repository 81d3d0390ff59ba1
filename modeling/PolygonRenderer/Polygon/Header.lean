import PolygonRenderer.Geometry.Vector
import PolygonRenderer.Pass
import PolygonRenderer.Texture

/-!
# Polygon headers

A polygon starts with seven words of bit fields, from the highest bit:

* word 0: shininess 31-26, invalid marker 9-8, specular enable 7, quad 6, reuse mask 3-0;
* word 1: normal X 31-8, full texture scale 6, double sided 4, last polygon 2, RGB colour 1;
* word 2: normal Y 31-8, mirrored U 1, mirrored V 0;
* word 3: normal Z 31-8, alternate modulation 7, width code 5-3, height code 2-0;
* word 4: RGB colour 31-8, of which 18-8 double as colour index, modulation disable 7,
  texture page 6, texture X high 4-0;
* word 5: texture X low 7, texture Y 4-0;
* word 6: contour 31, texture enable 26, solid 23, translucency 22-18, luminous 16, fog 15-11,
  texture format 9-7, interleave selectors 2 and 1.

A header whose word 6 is zero describes no polygon and ends the model.
-/

namespace PolygonRenderer

/-- The value of a signed fixed-point number in the upper 24 bits of a word. -/
def signedUpper24 (word : UInt32) : Float32 :=
  .ofInt (word.toInt32 >>> 8).toInt

structure Header where
  w0 : UInt32
  w1 : UInt32
  w2 : UInt32
  w3 : UInt32
  w4 : UInt32
  w5 : UInt32
  w6 : UInt32
deriving DecidableEq, Repr

namespace Header

def toList (h : Header) : List UInt32 :=
  [h.w0, h.w1, h.w2, h.w3, h.w4, h.w5, h.w6]

@[simp] theorem length_toList (h : Header) : h.toList.length = 7 := rfl

/-- Read a header off the front of a list of words. -/
def read : List UInt32 → Option (Header × List UInt32)
  | w0 :: w1 :: w2 :: w3 :: w4 :: w5 :: w6 :: rest => some (⟨w0, w1, w2, w3, w4, w5, w6⟩, rest)
  | _ => none

@[simp] theorem read_toList_append (h : Header) (rest : List UInt32) :
    read (h.toList ++ rest) = some (h, rest) := rfl

theorem eq_of_read {words rest : List UInt32} {h : Header} (e : read words = some (h, rest)) :
    words = h.toList ++ rest := by
  unfold read at e
  split at e
  · cases e
    rfl
  · cases e

theorem length_lt_of_read {words : List UInt32} (h : read words = none) : words.length < 7 := by
  match words with
  | [] | [_] | [_, _] | [_, _, _] | [_, _, _, _] | [_, _, _, _, _] | [_, _, _, _, _, _] => simp
  | _ :: _ :: _ :: _ :: _ :: _ :: _ :: _ => cases h

/-- Any seven words are those of a header. -/
theorem exists_toList_eq {words : List UInt32} (h : words.length = 7) :
    ∃ t : Header, words = t.toList := by
  match words, h with
  | [w0, w1, w2, w3, w4, w5, w6], _ => exact ⟨⟨w0, w1, w2, w3, w4, w5, w6⟩, rfl⟩

/-! ## Shape -/

/-- The known flags of word 1. -/
def shapeFlags (h : Header) : UInt32 :=
  h.w1 &&& 0x56

/-- The header ends the model without describing a polygon. -/
def isTerminator (h : Header) : Bool :=
  h.w6 == 0

/-- Which vertices of the previous polygon are used again, as four bits. -/
def reuseMask (h : Header) : UInt32 :=
  h.w0 &&& 0xF

/-- Four vertices rather than three. -/
def isQuad (h : Header) : Bool :=
  h.w0 &&& 0x40 != 0

def vertexCount (h : Header) : Nat :=
  if h.isQuad then 4 else 3

/-- Whether the polygon is to be drawn. Polygons that carry both bits of the
invalid marker take part in the stream but are left out. -/
def isValid (h : Header) : Bool :=
  h.w0 &&& 0x300 != 0x300

def isLast (h : Header) : Bool :=
  h.w1 &&& 0x04 != 0

def isDoubleSided (h : Header) : Bool :=
  h.w1 &&& 0x10 != 0

/-- The normal of the polygon, a sign and 22 fraction bits a component. -/
def normal (h : Header) : Vec3 Float32 :=
  (⟨h.w1, h.w2, h.w3⟩ : Vec3 UInt32).map fun w => signedUpper24 w * (1 / 4194304)

/-! ## Texture -/

/-- The scale of texture coordinates: whole texels, or eighths of a texel. -/
def textureScale (h : Header) : Float32 :=
  if h.w1 &&& 0x40 != 0 then 1 else 1 / 8

def isTextured (h : Header) : Bool :=
  h.w6 &&& 0x04000000 != 0

/-- The texture format code, from 0 to 7. -/
def textureFormat (h : Header) : UInt8 :=
  ((h.w6 >>> 7) &&& 7).toUInt8

def textureWidth (h : Header) : UInt32 :=
  (32 : UInt32) <<< ((h.w3 >>> 3) &&& 7)

def textureHeight (h : Header) : UInt32 :=
  (32 : UInt32) <<< (h.w3 &&& 7)

def texturePage (h : Header) : UInt32 :=
  if h.w4 &&& 0x40 != 0 then 1024 else 0

/-- The left edge of the texture before it is displaced. -/
def textureBaseX (h : Header) : UInt32 :=
  (32 : UInt32) * (((h.w4 &&& 0x1F) <<< 1) ||| ((h.w5 >>> 7) &&& 1))

/-- The top edge of the texture before it is displaced, page included. -/
def textureBaseY (h : Header) : UInt32 :=
  (32 : UInt32) * (h.w5 &&& 0x1F) + h.texturePage

/-- A texture coordinate displaced by a signed number of texels. Texture memory
wraps around after 2048 texels. -/
def displace (base : UInt32) (offset : Int32) : UInt32 :=
  (base.toInt32 + offset).toUInt32 &&& 2047

/-- The texture of the polygon, displaced by `dx` and `dy` texels. -/
def textureRef (h : Header) (dx dy : Int32) : TextureRef :=
  { format := h.textureFormat
    x := displace h.textureBaseX dx
    y := displace h.textureBaseY dy
    width := h.textureWidth
    height := h.textureHeight }

def isMirroredU (h : Header) : Bool :=
  h.w2 &&& 0x02 != 0

def isMirroredV (h : Header) : Bool :=
  h.w2 &&& 0x01 != 0

/-! ## Material -/

/-- The known flags of word 6. -/
def materialFlags (h : Header) : UInt32 :=
  h.w6 &&& 0x84810006

/-- Whether the colour is given in the header rather than by index. -/
def hasRgb (h : Header) : Bool :=
  h.w1 &&& 0x02 != 0

def rgb (h : Header) : Vec3 UInt8 :=
  ⟨(h.w4 >>> 24).toUInt8, (h.w4 >>> 16).toUInt8, (h.w4 >>> 8).toUInt8⟩

def colorIndex (h : Header) : Nat :=
  ((h.w4 >>> 8) &&& 0x7FF).toNat

/-- The bit of word 4 that stops texels from being modulated. -/
def modulationDisabled (h : Header) : Bool :=
  h.w4 &&& 0x80 != 0

/-- The bit of word 3 that asks for texels to be modulated. -/
def alternateModulation (h : Header) : Bool :=
  h.w3 &&& 0x80 != 0

/-- The translucency level, from 0 for transparent to 31. -/
def translucency (h : Header) : UInt32 :=
  (h.w6 >>> 18) &&& 0x1F

/-- Whether the polygon is solid whatever its translucency level. -/
def isSolid (h : Header) : Bool :=
  h.w6 &&& 0x00800000 != 0

/-- Whether the polygon is luminous, that is, not lit. -/
def isLuminous (h : Header) : Bool :=
  h.w6 &&& 0x00010000 != 0

/-- The fog level of a luminous polygon, from 0 to 31. -/
def fogLevel (h : Header) : UInt32 :=
  (h.w6 >>> 11) &&& 0x1F

/-- The shininess, if the polygon has specular lighting. -/
def shininess? (h : Header) : Option UInt32 :=
  let s := (h.w0 >>> 26) &&& 0x3F
  if h.w0 &&& 0x80 == 0 || s == 0 then none else some s

/-- The selector bit that turns texture format 1 into an alpha format. -/
def selectsLow (h : Header) : Bool :=
  h.w6 &&& 0x2 != 0

/-- The selector bit that turns texture format 3 into an alpha format. -/
def selectsHigh (h : Header) : Bool :=
  h.w6 &&& 0x4 != 0

/-- Whether contours are processed, that is, fully transparent texels dropped:
on request, for format 7, and for formats 1 and 3 where their selector is on. -/
def hasContour (h : Header) : Bool :=
  h.w6 &&& 0x80000000 != 0
    || h.textureFormat == 7
    || (h.textureFormat == 1 && h.selectsLow)
    || (h.textureFormat == 3 && h.selectsHigh)

/-- Whether the polygon is blended. Formats 1 and 3 go by their selector alone,
formats 4 and 7 always carry alpha, all others go by the solid bit. -/
def isBlended (h : Header) : Bool :=
  if h.textureFormat == 1 then h.selectsLow
  else if h.textureFormat == 3 then h.selectsHigh
  else if h.textureFormat == 4 || h.textureFormat == 7 then true
  else !h.isSolid

def pass (h : Header) : Pass :=
  if h.isBlended then .blended else .solid

end Header

end PolygonRenderer
