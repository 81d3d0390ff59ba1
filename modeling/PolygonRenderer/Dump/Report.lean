import PolygonRenderer.Dump.Words
import PolygonRenderer.Dump.CommandLine
import PolygonRenderer.Graphics.Recorder
import PolygonRenderer.Renderer.Draw

/-!
# Reports

A report tells how a model is cached, and what is drawn in a frame that has only
this model.
-/

namespace PolygonRenderer.Dump

/-- What is told about a model. -/
structure Report where
  source : ModelSource
  wordCount : Nat
  ranges : PerPass VertexRange
  bufferCapacity : Nat
  /-- First vertex and number of vertices of each draw. -/
  draws : List (Nat × Nat)
  texturesDecoded : Nat
  texturesDeferred : Nat
  stats : FrameStats
deriving DecidableEq, Repr

namespace Report

/-- How many textures may be decoded later. -/
def maxTextureRefs : Nat :=
  256

/-- The request to draw a model of a file. -/
def request (options : Options) (words : List UInt32) : ModelRequest :=
  { source := if options.dynamic then .dynamic else .static
    lutIndex := options.lut
    textureOffset := options.textureOffset
    texelsX := 0
    texelsY := 0
    words := words
    memory := #[] }

/-- The words of a model file. -/
def words (options : Options) (file : List UInt8) : List UInt32 :=
  (if options.bigEndian then ByteOrder.highestFirst else .lowestFirst).words file

/-- Draw a model in a frame of its own, on a recorder that has room for all
buffers. -/
def make (config : Config) (options : Options) (file : List UInt8) : Except RenderError Report := do
  let words := words options file
  let q := request options words
  let (created, backend) := (Renderer.create config (Recorder.empty none)).value
  let renderer ← created
  let (accepted, renderer) := (renderer.beginFrame.value.setViewport .screen).value
  accepted
  let host : Host Recorder TextureLog := ⟨backend, .empty maxTextureRefs .origin⟩
  let (drawn, renderer, host) := (renderer.drawModel host q .identity).value
  let id ← drawn
  let backend := renderer.render host.backend.clearCalls
  let cache := renderer.cache q.source
  match cache.model? id with
  | none => throw (.unknownModel id.index)
  | some model =>
    return {
      source := q.source
      wordCount := words.length
      ranges := model.ranges
      bufferCapacity := cache.bufferCapacity
      draws := backend.draws
      texturesDecoded := host.textures.decoded.length
      texturesDeferred := model.textures.length
      stats := renderer.stats }

/-! ## Text -/

def unlines (lines : List String) : String :=
  String.join (lines.map (· ++ "\n"))

def text (r : Report) (file : String) : String :=
  let range (v : VertexRange) : String :=
    toString v.count ++ " vertices at " ++ toString v.first
  unlines ([
    "Model:       " ++ file ++ " (" ++ toString r.wordCount ++ " words)",
    "Cache:       " ++ r.source.title ++ ", " ++ toString r.bufferCapacity ++ " vertices",
    "Opaque:      " ++ range r.ranges.solid,
    "Alpha:       " ++ range r.ranges.blended,
    "Polygons:    " ++ toString r.stats.polygonsInserted,
    "Textures:    " ++ toString r.texturesDecoded ++ " decoded, " ++
      toString r.texturesDeferred ++ " deferred"] ++
    r.draws.map fun (first, count) =>
      "Draw:        " ++ toString count ++ " vertices from " ++ toString first)

/-! ## JSON -/

/-- Put a comma behind every block of lines but the last. -/
def commas : List (List String) → List String
  | [] => []
  | [block] => block
  | block :: blocks =>
    (match block.getLast? with
    | some last => block.dropLast ++ [last ++ ","]
    | none => []) ++ commas blocks

/-- Blocks of lines between brackets, indented. -/
def bracket (left right : String) (blocks : List (List String)) : List String :=
  if blocks.isEmpty then [left ++ right]
  else [left] ++ (commas blocks).map ("  " ++ ·) ++ [right]

def number (n : Nat) : List String :=
  [toString n]

def array (blocks : List (List String)) : List String :=
  bracket "[" "]" blocks

/-- A block under a key. -/
def keyed (key : String) : List String → List String
  | [] => []
  | first :: rest => ("\"" ++ key ++ "\": " ++ first) :: rest

def object (fields : List (String × List String)) : List String :=
  bracket "\x7b" "\x7d" (fields.map fun (key, block) => keyed key block)

def json (r : Report) : String :=
  let range (v : VertexRange) : List String :=
    object [("first_vertex", number v.first), ("vertices", number v.count)]
  unlines (object [
    ("source", ["\"" ++ r.source.name ++ "\""]),
    ("words", number r.wordCount),
    ("opaque", range r.ranges.solid),
    ("alpha", range r.ranges.blended),
    ("vbo_capacity", number r.bufferCapacity),
    ("draws", array (r.draws.map fun (first, count) => array [number first, number count])),
    ("textures_decoded", number r.texturesDecoded),
    ("textures_deferred", number r.texturesDeferred),
    ("stats", object [
      ("models_cached", number r.stats.modelsCached),
      ("cache_hits", number r.stats.cacheHits),
      ("polygons_inserted", number r.stats.polygonsInserted),
      ("static_clears", number r.stats.staticClears),
      ("dynamic_clears", number r.stats.dynamicClears)])])

end Report

end PolygonRenderer.Dump
