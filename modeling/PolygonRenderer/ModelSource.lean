/-!
# Sources of models
-/

namespace PolygonRenderer

/-- Where the words of a model are stored. -/
inductive ModelSource where
  /-- In memory that never changes, so that a model is decoded once. -/
  | static
  /-- In memory that may change with every frame. -/
  | dynamic
deriving DecidableEq, Repr

namespace ModelSource

def name : ModelSource → String
  | static => "static"
  | dynamic => "dynamic"

/-- The name of a source at the start of a line. -/
def title : ModelSource → String
  | static => "Static"
  | dynamic => "Dynamic"

end ModelSource

end PolygonRenderer
