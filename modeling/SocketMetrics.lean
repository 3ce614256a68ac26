import SocketMetrics.Files.Directory
import SocketMetrics.Main
import SocketMetrics.Proofs.Netstat.History
import SocketMetrics.Proofs.Netstat.Reading
import SocketMetrics.Proofs.Channel.Delivery
import SocketMetrics.Proofs.Pass.Isolation
import SocketMetrics.Proofs.Netstat.Columns
import SocketMetrics.Proofs.Netstat.Format
import SocketMetrics.Proofs.Text.Cut
import SocketMetrics.Proofs.Netstat.PartialRead
import SocketMetrics.Proofs.Number.Rounding
import SocketMetrics.Proofs.Collector.Laps
import SocketMetrics.Proofs.Collector.Liveness
import SocketMetrics.Proofs.Collector.LifeCycle
import SocketMetrics.Proofs.Collector.Flushing
import SocketMetrics.Proofs.Collector.Repetition
import SocketMetrics.Proofs.Config.Interval
import SocketMetrics.Proofs.Config.Precedence
import SocketMetrics.Proofs.Sample
import SocketMetrics.Proofs.Text.Quoted
import SocketMetrics.Proofs.Sockstat.Metrics
import SocketMetrics.Proofs.Sockstat.Fields
import SocketMetrics.Proofs.Sockstat.Layout
import SocketMetrics.Proofs.Sockstat.Reading
import SocketMetrics.Proofs.Sockstat.RoundTrip
import SocketMetrics.Proofs.Netstat.Metrics
import SocketMetrics.Proofs.Channel.Failure
import SocketMetrics.Proofs.Channel.Limits
import SocketMetrics.Proofs.Pass.Entries
import SocketMetrics.Proofs.Channel.Lines
import SocketMetrics.Proofs.Pass.Counting
import SocketMetrics.Proofs.Pass.Series
import SocketMetrics.Proofs.Pass.Truncation
import SocketMetrics.Proofs.Netstat.Diagnosis
import SocketMetrics.Proofs.Text.Spacing
import SocketMetrics.Proofs.Netstat.Layout
import SocketMetrics.Proofs.Startup.Inspection
import SocketMetrics.Proofs.Program.Exit
import SocketMetrics.Proofs.Config.Environment
import SocketMetrics.Proofs.Text.Encoding
import SocketMetrics.Proofs.Pass.Vocabulary
import SocketMetrics.Proofs.Program.LogLevel
import SocketMetrics.Proofs.Program.FullOutput
import SocketMetrics.Proofs.Number.Precision
import SocketMetrics.Proofs.Number.Shortest
import SocketMetrics.Proofs.Json.Strings
import SocketMetrics.Proofs.Json.Literal
import SocketMetrics.Proofs.Json.Scaling
import SocketMetrics.Proofs.Json.Object
import SocketMetrics.Proofs.Program.ShownJson
import SocketMetrics.Proofs.Channel.Points
import SocketMetrics.Proofs.Sockstat.Emission
import SocketMetrics.Proofs.Netstat.Published
import SocketMetrics.Proofs.Pass.ListenQueues
import SocketMetrics.Proofs.Channel.Lookalikes
import SocketMetrics.Proofs.Netstat.ColumnOrder
import SocketMetrics.Proofs.Pass.ColumnOrder
import SocketMetrics.Proofs.Netstat.RepeatedCorrection
import SocketMetrics.Proofs.Text.Delimited
import SocketMetrics.Proofs.Pass.Messages
import SocketMetrics.Proofs.Channel.Bookkeeping
import SocketMetrics.Proofs.Collector.Slices
import SocketMetrics.Proofs.Collector.Turns
import SocketMetrics.Proofs.Sample.Reading
