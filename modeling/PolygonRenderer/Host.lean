import PolygonRenderer.Graphics.Backend
import PolygonRenderer.Texture

/-!
# Hosts

A host is what a renderer works with: a graphics backend, and a texture manager.
-/

namespace PolygonRenderer

/-- A graphics backend and a texture manager. -/
structure Host (β τ : Type) where
  backend : β
  textures : τ

end PolygonRenderer
