import BlockSketch.Text.Blank
import BlockSketch.Text.Digit
import BlockSketch.Text.CodePoint
import BlockSketch.Text.Quoted
import BlockSketch.Number.Shortest
import BlockSketch.Number.Literal
import BlockSketch.Json.Reader
import BlockSketch.Json.Writer
import BlockSketch.Block.Catalog
import BlockSketch.Block.Params
import BlockSketch.Graph.Load
import BlockSketch.Program.Build
import BlockSketch.Sketch.Render
import BlockSketch.Sketch.Import
import BlockSketch.Editor.Edit
import BlockSketch.Main
import BlockSketch.Proofs.Outline
import BlockSketch.Proofs.Walks
import BlockSketch.Proofs.Unfolding
import BlockSketch.Proofs.Reachable
import BlockSketch.Proofs.Scopes
import BlockSketch.Proofs.Upgrade
import BlockSketch.Proofs.Numerals
import BlockSketch.Proofs.Scanning
import BlockSketch.Proofs.LinearGraph
import BlockSketch.Proofs.Recognition
import BlockSketch.Proofs.Encoding
import BlockSketch.Proofs.Importable
import BlockSketch.Proofs.Sorting
import BlockSketch.Proofs.PlainText
import BlockSketch.Proofs.Layout
import BlockSketch.Proofs.RoundTrip
import BlockSketch.Proofs.Rendering
import BlockSketch.Proofs.Depths
import BlockSketch.Proofs.EmptyContainers
import BlockSketch.Proofs.RootIds
import BlockSketch.Proofs.LinkIds
import BlockSketch.Proofs.NormalForm
import BlockSketch.Proofs.BareGraph
import BlockSketch.Proofs.StoredForm
import BlockSketch.Proofs.SlotTargets
import BlockSketch.Proofs.Checked
import BlockSketch.Proofs.LeadingEnds
import BlockSketch.Proofs.Totality
import BlockSketch.Proofs.TwinGraphs
import BlockSketch.Proofs.Renaming
import BlockSketch.Proofs.Appearance
import BlockSketch.Proofs.SortedTables
import BlockSketch.Proofs.StorageOrder
import BlockSketch.Proofs.ImportOrder
import BlockSketch.Proofs.Conflicts
import BlockSketch.Proofs.PinTable
import BlockSketch.Proofs.Declarations
import BlockSketch.Proofs.Identifiers
import BlockSketch.Proofs.UpgradeShape
import BlockSketch.Proofs.Completion
import BlockSketch.Proofs.Literals
import BlockSketch.Proofs.Nesting
import BlockSketch.Proofs.EndRings
import BlockSketch.Proofs.NestingCap
import BlockSketch.Proofs.Braces
import BlockSketch.Proofs.CodePoints
import BlockSketch.Proofs.FileFrames
import BlockSketch.Proofs.Preparing
import BlockSketch.Proofs.SlotReports
import BlockSketch.Proofs.Refusals
