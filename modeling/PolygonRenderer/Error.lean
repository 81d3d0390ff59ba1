import PolygonRenderer.ModelSource
import PolygonRenderer.Pass

/-!
# Errors

Three of the errors tell that a store of fixed capacity has run out. They are
recoverable: the answer to them is to clear the store and to try again.
-/

namespace PolygonRenderer

/-- A stream of words that ends too early. -/
structure Truncation where
  /-- The position at which words were needed. -/
  offset : Nat
  needed : Nat
  available : Nat
deriving DecidableEq, Repr

/-- What can go wrong while models are cached, drawn or configured. -/
inductive RenderError where
  /-- Every slot for a model is taken. -/
  | modelCacheFull
  /-- Too few nodes are left for what is to be appended. -/
  | displayListFull
  /-- The vertex buffer has no room for another polygon. -/
  | vertexBufferOverflow
  /-- The staging buffer of a pass has no room for another polygon. -/
  | stagingBufferOverflow (pass : Pass) (needed capacity : Nat)
  /-- No size of vertex buffer was granted. -/
  | bufferAllocation (source : ModelSource) (bytes : Nat)
  /-- A model was to be entered outside the lookup table. -/
  | lutIndexOutOfRange (index : UInt32) (size : Nat)
  /-- The stream of a model ends before the model does. -/
  | truncatedModel (truncation : Truncation)
  /-- A model was begun while another one is staged. -/
  | stagingInProgress
  /-- The handle does not belong to the model being staged. -/
  | noModelInProgress
  /-- No model in the cache has this number. -/
  | unknownModel (id : Nat)
  /-- A file could not be read or written. -/
  | io
  /-- A configuration file is not well formed. -/
  | configParse
  /-- A configuration cannot be written. -/
  | configSerialize
deriving DecidableEq, Repr

/-- A number in upper case hexadecimal digits. -/
def upperHex (n : Nat) : String :=
  String.ofList ((Nat.toDigits 16 n).map Char.toUpper)

/-- A number in four upper case hexadecimal digits. -/
def upperHexWord (n : UInt16) : String :=
  let digits := upperHex n.toNat
  String.ofList (List.replicate (4 - digits.length) '0') ++ digits

namespace RenderError

/-- Whether clearing the store and trying again is the answer. -/
def isRecoverable : RenderError → Bool
  | modelCacheFull | displayListFull | vertexBufferOverflow => true
  | _ => false

def name : RenderError → String
  | modelCacheFull => "ModelCacheFull"
  | displayListFull => "DisplayListFull"
  | vertexBufferOverflow => "VertexBufferOverflow"
  | stagingBufferOverflow .. => "StagingBufferOverflow"
  | bufferAllocation .. => "BufferAllocation"
  | lutIndexOutOfRange .. => "LutIndexOutOfRange"
  | truncatedModel .. => "TruncatedModel"
  | stagingInProgress => "StagingInProgress"
  | noModelInProgress => "NoModelInProgress"
  | unknownModel .. => "UnknownModel"
  | io => "Io"
  | configParse => "ConfigParse"
  | configSerialize => "ConfigSerialize"

def message : RenderError → String
  | modelCacheFull => "model cache is full"
  | displayListFull => "display list is full"
  | vertexBufferOverflow => "vertex buffer overflow"
  | stagingBufferOverflow pass needed capacity =>
    pass.name ++ " staging buffer overflow: " ++ toString needed ++
      " vertices needed, capacity is " ++ toString capacity
  | bufferAllocation source bytes =>
    "unable to allocate a " ++ source.name ++ " vertex buffer (" ++ toString bytes ++
      " bytes was the last attempt)"
  | lutIndexOutOfRange index size =>
    "LUT index 0x" ++ upperHex index.toNat ++ " out of range (table has 0x" ++ upperHex size ++
      " entries)"
  | truncatedModel t =>
    "model data truncated at word " ++ toString t.offset ++ ": " ++ toString t.needed ++
      " words needed, " ++ toString t.available ++ " available"
  | stagingInProgress => "a model is already being staged"
  | noModelInProgress => "no model is being staged"
  | unknownModel id => "unknown model id " ++ toString id
  | io => "I/O error"
  | configParse => "failed to parse config"
  | configSerialize => "failed to serialize config"

end RenderError

end PolygonRenderer
