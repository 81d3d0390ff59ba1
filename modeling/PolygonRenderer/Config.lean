import PolygonRenderer.ModelCache.Limits
import PolygonRenderer.ModelSource
import PolygonRenderer.Scene.Material

/-!
# Configuration
-/

namespace PolygonRenderer

structure Config where
  staticCache : CacheLimits
  dynamicCache : CacheLimits
  modulation : Modulation
  /-- The scale of vertex positions. -/
  vertexFactor : Float32
deriving DecidableEq, Repr

namespace Config

/-- The configuration that is used where nothing else is asked for. -/
def standard : Config :=
  ⟨.static, .dynamic, .unlessWord4, 1 / 128⟩

def limits (c : Config) : ModelSource → CacheLimits
  | .static => c.staticCache
  | .dynamic => c.dynamicCache

/-- Whether the stores of both caches can be addressed. -/
def isAddressable (c : Config) : Bool :=
  c.staticCache.isAddressable && c.dynamicCache.isAddressable

end Config

end PolygonRenderer
