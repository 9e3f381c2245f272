import MetricsScript.Command.Arguments
import MetricsScript.Directives
import MetricsScript.Host.Standard
import MetricsScript.Main
import MetricsScript.Proofs.Command.Accounting
import MetricsScript.Proofs.Command.Concatenation
import MetricsScript.Proofs.Command.ExpansionBodies
import MetricsScript.Proofs.Command.Rendering
import MetricsScript.Proofs.Command.Tiling
import MetricsScript.Proofs.Program.Publication
import MetricsScript.Proofs.Run.Consecutive
import MetricsScript.Proofs.Run.PassingOver
import MetricsScript.Proofs.Run.TrimmedLine
import MetricsScript.Proofs.Tool.Draining
import MetricsScript.Run.Report
import MetricsScript.Tool.Scripted
import MetricsScript.Proofs.Command.Slices
import MetricsScript.Proofs.Publish.Entries
import MetricsScript.Proofs.Publish.JsonReader
import MetricsScript.Proofs.Text.Decimal
import MetricsScript.Proofs.Publish.JsonRoundTrip
import MetricsScript.Proofs.Tool.Branches
import MetricsScript.Proofs.Tool.Interleaving
import MetricsScript.Proofs.Command.BodyEnd
import MetricsScript.Proofs.Command.Descriptors
import MetricsScript.Proofs.Command.Comments
import MetricsScript.Proofs.Tool.Echoing
import MetricsScript.Proofs.Command.Provenance
import MetricsScript.Proofs.Command.Display
import MetricsScript.Proofs.Input.Validation
import MetricsScript.Proofs.Input.RequiredScript
import MetricsScript.Proofs.Publish.Escaping
import MetricsScript.Proofs.Publish.SummaryReader
import MetricsScript.Proofs.Run.Trace
import MetricsScript.Proofs.Script.CleanLines
import MetricsScript.Proofs.Command.Continuations
import MetricsScript.Proofs.Command.TokenForms
import MetricsScript.Proofs.Input.Channels
