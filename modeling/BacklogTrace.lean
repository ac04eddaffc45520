import BacklogTrace.Main
import BacklogTrace.Proofs.Scan.Position
import BacklogTrace.Proofs.Scan.Attribution
import BacklogTrace.Proofs.Scan.MarkerReach
import BacklogTrace.Proofs.Dialect.BraceSignature
import BacklogTrace.Proofs.Scan.MethodItems
import BacklogTrace.Proofs.Backlog.Item
import BacklogTrace.Proofs.Backlog.Pattern
import BacklogTrace.Proofs.Dialect.Abap
import BacklogTrace.Proofs.Scan.AbapUnit
import BacklogTrace.Proofs.Text.Utf8
import BacklogTrace.Proofs.Scan.Content
import BacklogTrace.Proofs.Scan.Input
import BacklogTrace.Proofs.Scan.Fault
import BacklogTrace.Proofs.Dialect.Layout
import BacklogTrace.Proofs.Scan.Layout
import BacklogTrace.Proofs.Dialect.Name
import BacklogTrace.Proofs.Scan.Transition
import BacklogTrace.Proofs.Scan.Invariant
import BacklogTrace.Proofs.Harvest.Tree
import BacklogTrace.Proofs.Run.Direct
import BacklogTrace.Proofs.Run.Failure
import BacklogTrace.Proofs.Marker.Grammar
import BacklogTrace.Proofs.Marker.LookAlike
import BacklogTrace.Proofs.Json.Grammar
import BacklogTrace.Proofs.Json.Reader
import BacklogTrace.Proofs.Json.Printer
import BacklogTrace.Proofs.Report.Json
import BacklogTrace.Proofs.Config.Written
import BacklogTrace.Proofs.Dialect.Signature
import BacklogTrace.Proofs.Marker.Written
import BacklogTrace.Proofs.Path.Spelled
import BacklogTrace.Proofs.FileSystem.FileName
import BacklogTrace.Proofs.Location
import BacklogTrace.Proofs.Run.Links
import BacklogTrace.Proofs.Report.Colour
import BacklogTrace.Proofs.Report.Text
