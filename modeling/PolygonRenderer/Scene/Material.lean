import PolygonRenderer.Polygon.Header

/-!
# Materials

The colour of a polygon is given in its header, or by an index into the colour
table of the polygon memory. `DecodeContext` is all that decoding a model needs
besides its words.
-/

namespace PolygonRenderer

/-- Which header bit decides whether texels are multiplied by the colour of the
polygon. Scenes differ in the bit that suits them. -/
inductive Modulation where
  /-- Modulated unless bit 7 of word 4 is set. -/
  | unlessWord4
  /-- Modulated if bit 7 of word 3 is set. -/
  | ifWord3
deriving DecidableEq, Repr

namespace Modulation

/-- Whether the texels of a polygon are modulated. -/
def applies : Modulation → Header → Bool
  | unlessWord4, h => !h.modulationDisabled
  | ifWord3, h => h.alternateModulation

end Modulation

/-- What is needed to decode one model. -/
structure DecodeContext where
  /-- The scale of vertex positions. -/
  vertexFactor : Float32
  /-- The direction of the Z axis, -1 where it points into the screen. -/
  zSign : Float32
  /-- How far the textures of the model are displaced, in texels. -/
  texelsX : Int32
  texelsY : Int32
  /-- The polygon memory, which holds the colour table. -/
  memory : Array UInt32
  modulation : Modulation
  /-- Where each texture format is placed. -/
  sheets : SheetTable

namespace DecodeContext

/-- Where the colour table starts in the polygon memory. -/
def colorTable : Nat :=
  0x400

/-- Take the sheets from a texture manager. -/
def withSheetsFrom {τ : Type} [TextureManager τ] (ctx : DecodeContext) (textures : τ) :
    DecodeContext :=
  { ctx with sheets := Vector.ofFn fun i => TextureManager.sheet textures (UInt8.ofNat i) }

/-- The texture of a polygon. -/
def textureRef (ctx : DecodeContext) (h : Header) : TextureRef :=
  h.textureRef ctx.texelsX ctx.texelsY

/-- The colour of a polygon before modulation. An index past the end of the
memory reads as white. -/
def baseColor (ctx : DecodeContext) (h : Header) : Vec3 UInt8 :=
  if h.hasRgb then h.rgb
  else
    match ctx.memory[colorTable + h.colorIndex]? with
    | some c => ⟨(c >>> 16).toUInt8, (c >>> 8).toUInt8, c.toUInt8⟩
    | none => ⟨255, 255, 255⟩

/-- The colour that the texels of a polygon are multiplied by, from 0 to 1. A
textured polygon that is not modulated is white. -/
def materialColor (ctx : DecodeContext) (h : Header) : Vec3 Float32 :=
  if h.isTextured && !ctx.modulation.applies h then ⟨1, 1, 1⟩
  else (ctx.baseColor h).map fun c => c.toFloat32 * (1 / 255)

end DecodeContext

end PolygonRenderer
