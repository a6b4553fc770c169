import WidgetStage.Text.Blank
import WidgetStage.Text.Quoted
import WidgetStage.Decimal.Notation
import WidgetStage.Color
import WidgetStage.Geometry
import WidgetStage.Input.Staleness
import WidgetStage.LogFilter
import WidgetStage.Image.Options
import WidgetStage.Image.Snapshot
import WidgetStage.Scene.Graph
import WidgetStage.Buffer
import WidgetStage.SyntheticId
import WidgetStage.Document.Json
import WidgetStage.Document.Toml.Reader
import WidgetStage.Config.Reading
import WidgetStage.Files
import WidgetStage.Session
import WidgetStage.Stage.Diagnostic
import WidgetStage.Proofs.Scene.Runs
import WidgetStage.Proofs.Scene.Generations
import WidgetStage.Proofs.SyntheticId.Search
import WidgetStage.Proofs.Stage.Notices
import WidgetStage.Proofs.Stage.Failures
import WidgetStage.Proofs.Stage.Order
import WidgetStage.Proofs.Image.Segments
import WidgetStage.Proofs.Stage.Isolation
import WidgetStage.Proofs.Stage.Ids
import WidgetStage.Proofs.Scene.Attaching
import WidgetStage.Proofs.Scene.Reports
import WidgetStage.Proofs.Scene.Accounts
import WidgetStage.Proofs.Stage.Attachments
import WidgetStage.Proofs.Stage.Buffers
import WidgetStage.Proofs.Stage.Replacing
import WidgetStage.Proofs.Image.Flags
import WidgetStage.Proofs.Image.Writing
import WidgetStage.Proofs.Image.Baking
import WidgetStage.Proofs.Image.Fitting
import WidgetStage.Proofs.Input.Words
import WidgetStage.Proofs.Stage.Presses
import WidgetStage.Proofs.Stage.Repeating
import WidgetStage.Proofs.Image.ScaledSizes
import WidgetStage.Proofs.Color
import WidgetStage.Proofs.Image.Bytes
import WidgetStage.Proofs.Stage.Lifetimes
