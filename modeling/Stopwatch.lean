import Stopwatch.Main
import Stopwatch.Decimal.Shortest
import Stopwatch.Decimal.Fixed
import Stopwatch.Decimal.Reading
import Stopwatch.Text.Blank
import Stopwatch.Json.Codec
import Stopwatch.Results.Process
import Stopwatch.Results.Reported
import Stopwatch.Regression
import Stopwatch.Tally
import Stopwatch.Report.Page
import Stopwatch.Report.Plain
import Stopwatch.Report.Record
import Stopwatch.Suite
import Stopwatch.CommandLine.Program
import Stopwatch.System.World
import Stopwatch.Shell.Reader
import Stopwatch.Shell.Pattern
import Stopwatch.Shell.Format
import Stopwatch.Shell.Field
import Stopwatch.Shell.Condition
import Stopwatch.Shell.Arithmetic
import Stopwatch.Gate
import Stopwatch.Discovery
import Stopwatch.Builtin.Catalogue
import Stopwatch.Fingerprint
import Stopwatch.Text.Utf8
import Stopwatch.Proofs.Session.Runs
import Stopwatch.Proofs.Comparison.Pairing
import Stopwatch.Proofs.Page.Outline
import Stopwatch.Proofs.Report.RoundTrip
import Stopwatch.Proofs.Comparison.Join
import Stopwatch.Proofs.Report.Agreement
import Stopwatch.Proofs.System.Following
import Stopwatch.Proofs.System.Disk
import Stopwatch.Proofs.System.World
import Stopwatch.Proofs.Json.Carried
import Stopwatch.Proofs.Results.Reread
import Stopwatch.Proofs.Gate.Calls
import Stopwatch.Proofs.Gate.Baseline
import Stopwatch.Proofs.Decimal.Packing
import Stopwatch.Proofs.Decimal.Rounding
import Stopwatch.Proofs.Regression.Detection
import Stopwatch.Proofs.Gate.OwnBaseline
import Stopwatch.Proofs.System.Naming
import Stopwatch.Proofs.Artifact.Persistence
import Stopwatch.Proofs.CommandLine.Scanning
import Stopwatch.Proofs.CommandLine.WithoutCommand
import Stopwatch.Proofs.Host.Alike
import Stopwatch.Proofs.Host.Deeds
import Stopwatch.Proofs.Engine.Turns
import Stopwatch.Proofs.CommandLine.Comparing
import Stopwatch.Proofs.Session.Contest
import Stopwatch.Proofs.Session.Halves
import Stopwatch.Proofs.Text.Lines
import Stopwatch.Proofs.Json.Alone
import Stopwatch.Proofs.Results.LastLine
import Stopwatch.Proofs.Regression.Exactness
import Stopwatch.Proofs.Decimal.Nearest
import Stopwatch.Proofs.Decimal.Operations
import Stopwatch.Proofs.Decimal.Relative
import Stopwatch.Proofs.Decimal.Unsigned
import Stopwatch.Proofs.Comparison.Consistency
import Stopwatch.Proofs.Tally.Accounting
import Stopwatch.Proofs.Decimal.Ranking
import Stopwatch.Proofs.Statistics.Order
import Stopwatch.Proofs.Decimal.Magnitude
import Stopwatch.Proofs.Statistics.Range
import Stopwatch.Proofs.Clock.Milliseconds
import Stopwatch.Proofs.Engine.Records
import Stopwatch.Proofs.Decimal.Monotone
import Stopwatch.Proofs.Clock.Readings
import Stopwatch.Proofs.Sampler.TimedCalls
import Stopwatch.Proofs.Suite.Layout
import Stopwatch.Proofs.Decimal.Extent
import Stopwatch.Proofs.Regression.Monotone
import Stopwatch.Proofs.Json.Edits
import Stopwatch.Proofs.Results.Tolerance
import Stopwatch.Proofs.Artifact.Names
import Stopwatch.Proofs.System.Joined
import Stopwatch.Proofs.System.OwnFiles
import Stopwatch.Proofs.Artifact.Runs
import Stopwatch.Proofs.Memory.Figures
import Stopwatch.Proofs.Report.ChartIds
import Stopwatch.Proofs.Page.Charts
import Stopwatch.Proofs.Path.Order
import Stopwatch.Proofs.Discovery.Trees
import Stopwatch.Proofs.Sampler.Steps
import Stopwatch.Proofs.Sampler.Entrances
import Stopwatch.Proofs.Markup.Entities
import Stopwatch.Proofs.Page.Payload
