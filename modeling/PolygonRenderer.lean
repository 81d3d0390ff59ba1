import PolygonRenderer.Config
import PolygonRenderer.Config.File
import PolygonRenderer.Decimal.Basic
import PolygonRenderer.Decimal.Binary
import PolygonRenderer.Decimal.Rounding
import PolygonRenderer.Decimal.Shortest
import PolygonRenderer.DisplayList
import PolygonRenderer.DisplayList.Replay
import PolygonRenderer.Dump.CommandLine
import PolygonRenderer.Dump.Environment
import PolygonRenderer.Dump.EnvironmentFile
import PolygonRenderer.Dump.Report
import PolygonRenderer.Dump.Run
import PolygonRenderer.Dump.Words
import PolygonRenderer.Error
import PolygonRenderer.Geometry.Matrix
import PolygonRenderer.Geometry.Scalar
import PolygonRenderer.Geometry.Vector
import PolygonRenderer.Geometry.Winding
import PolygonRenderer.Graphics.Backend
import PolygonRenderer.Graphics.Memory
import PolygonRenderer.Graphics.Recorder
import PolygonRenderer.Host
import PolygonRenderer.Main
import PolygonRenderer.Message
import PolygonRenderer.ModelCache.Allocation
import PolygonRenderer.ModelCache.Basic
import PolygonRenderer.ModelCache.Caching
import PolygonRenderer.ModelCache.Draw
import PolygonRenderer.ModelCache.Limits
import PolygonRenderer.ModelCache.LookupTable
import PolygonRenderer.ModelCache.Staging
import PolygonRenderer.ModelSource
import PolygonRenderer.Pass
import PolygonRenderer.Polygon.Basic
import PolygonRenderer.Polygon.Decoder
import PolygonRenderer.Polygon.Header
import PolygonRenderer.Polygon.Record
import PolygonRenderer.Polygon.Vertex
import PolygonRenderer.Proofs.Config.RoundTrip
import PolygonRenderer.Proofs.Decimal.Bits
import PolygonRenderer.Proofs.Decimal.Formats
import PolygonRenderer.Proofs.Decimal.Nearest
import PolygonRenderer.Proofs.Decimal.Neighbours
import PolygonRenderer.Proofs.Decimal.RoundTrip
import PolygonRenderer.Proofs.Decimal.Shortest
import PolygonRenderer.Proofs.DisplayList.Draws
import PolygonRenderer.Proofs.DisplayList.PlainReplay
import PolygonRenderer.Proofs.DisplayList.Session
import PolygonRenderer.Proofs.DisplayList.Threads
import PolygonRenderer.Proofs.DisplayList.Viewports
import PolygonRenderer.Proofs.Dump.Report
import PolygonRenderer.Proofs.Dump.Words
import PolygonRenderer.Proofs.Graphics.Observed
import PolygonRenderer.Proofs.Graphics.Pictures
import PolygonRenderer.Proofs.ModelCache.Accounting
import PolygonRenderer.Proofs.ModelCache.Caching
import PolygonRenderer.Proofs.ModelCache.Clearing
import PolygonRenderer.Proofs.ModelCache.Contents
import PolygonRenderer.Proofs.ModelCache.FirstFailure
import PolygonRenderer.Proofs.ModelCache.Geometry
import PolygonRenderer.Proofs.ModelCache.Hosts
import PolygonRenderer.Proofs.ModelCache.Outcomes
import PolygonRenderer.Proofs.ModelCache.PolygonCount
import PolygonRenderer.Proofs.ModelCache.Reissue
import PolygonRenderer.Proofs.ModelCache.Rejection
import PolygonRenderer.Proofs.ModelCache.Session
import PolygonRenderer.Proofs.ModelCache.Variants
import PolygonRenderer.Proofs.Polygon.Grammar
import PolygonRenderer.Proofs.Polygon.Items
import PolygonRenderer.Proofs.Polygon.StoredModel
import PolygonRenderer.Proofs.Renderer.Facing
import PolygonRenderer.Proofs.Renderer.FirstDraw
import PolygonRenderer.Proofs.Renderer.Frame
import PolygonRenderer.Proofs.Renderer.Independence
import PolygonRenderer.Proofs.Renderer.Lifetime
import PolygonRenderer.Proofs.Renderer.Outcomes
import PolygonRenderer.Proofs.Renderer.Retry
import PolygonRenderer.Proofs.Renderer.Reuse
import PolygonRenderer.Proofs.Renderer.Serving
import PolygonRenderer.Proofs.Renderer.Session
import PolygonRenderer.Proofs.Renderer.Viewports
import PolygonRenderer.Proofs.Renderer.Widths
import PolygonRenderer.Proofs.Toml.Documents
import PolygonRenderer.Proofs.Toml.Lines
import PolygonRenderer.Proofs.Toml.Numbers
import PolygonRenderer.Proofs.Toml.Quotes
import PolygonRenderer.Renderer.Basic
import PolygonRenderer.Renderer.Draw
import PolygonRenderer.Scene.Material
import PolygonRenderer.Scene.Snapshot
import PolygonRenderer.Text.Alphanumeric
import PolygonRenderer.Text.CodePointRanges
import PolygonRenderer.Text.Space
import PolygonRenderer.Texture
import PolygonRenderer.Toml.Blank
import PolygonRenderer.Toml.DateTime
import PolygonRenderer.Toml.Number
import PolygonRenderer.Toml.Parser
import PolygonRenderer.Toml.Printer
import PolygonRenderer.Toml.Quoted
import PolygonRenderer.Toml.Value
import PolygonRenderer.VertexBuffer.Vertex
import PolygonRenderer.Proofs.Renderer.Endings
import PolygonRenderer.Proofs.Renderer.Acceptance
import PolygonRenderer.Proofs.Geometry.Rational
import PolygonRenderer.Proofs.Geometry.Winding
import PolygonRenderer.Proofs.ModelCache.Ladder
import PolygonRenderer.Proofs.ModelCache.Triangulation
import PolygonRenderer.Proofs.Polygon.Orientation
import PolygonRenderer.Proofs.Polygon.Triangles
import PolygonRenderer.Proofs.ModelCache.Textures
import PolygonRenderer.Proofs.Renderer.Textures
import PolygonRenderer.Proofs.ModelCache.Instances
import PolygonRenderer.Proofs.Renderer.Exchanges
import PolygonRenderer.Proofs.Renderer.Statistics
import PolygonRenderer.Proofs.Config.Partial
import PolygonRenderer.Proofs.Graphics.History
import PolygonRenderer.Proofs.Geometry.InverseTranspose
import PolygonRenderer.Proofs.Polygon.Displacement
import PolygonRenderer.Proofs.Polygon.Layout
