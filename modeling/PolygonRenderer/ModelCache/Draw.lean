import PolygonRenderer.DisplayList.Replay
import PolygonRenderer.ModelCache.Basic

/-!
# Drawing of cached models
-/

namespace PolygonRenderer

namespace ModelCache

/-- The commands that draw one pass of the display list. -/
def commands (c : ModelCache) (p : Pass) : List Command :=
  c.displayList.replay c.buffer p

/-- Draw one pass of the display list. -/
def draw {β : Type} [Backend β] (c : ModelCache) (backend : β) (p : Pass) : β :=
  Backend.submitAll backend (c.commands p)

end ModelCache

end PolygonRenderer
