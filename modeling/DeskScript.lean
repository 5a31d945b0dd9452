import DeskScript.Main
import DeskScript.Proofs.Except
import DeskScript.Proofs.Script.Locality
import DeskScript.Proofs.Script.Scanning
import DeskScript.Proofs.Script.Composition
import DeskScript.Proofs.Script.Evaluations
import DeskScript.Proofs.Desktop.History
import DeskScript.Proofs.Desktop.Cycle
import DeskScript.Proofs.Desktop.References
import DeskScript.Proofs.Desktop.Rendering
import DeskScript.Proofs.Desktop.Depictions
import DeskScript.Proofs.Desktop.Database
import DeskScript.Proofs.Desktop.Written
import DeskScript.Proofs.Desktop.Shape
import DeskScript.Proofs.Script.Errors
import DeskScript.Proofs.Script.Layout
import DeskScript.Proofs.Script.Inlining
import DeskScript.Proofs.Script.Literals
import DeskScript.Proofs.Script.RoundTrip
import DeskScript.Proofs.Script.Effects
import DeskScript.Proofs.Script.Isolation
import DeskScript.Proofs.Script.Lookups
import DeskScript.Proofs.Script.Expressions
import DeskScript.Proofs.Script.Watching
import DeskScript.Proofs.Script.Snapshots
import DeskScript.Proofs.Script.Stopping
import DeskScript.Proofs.Script.Spans
import DeskScript.Proofs.Script.Places
import DeskScript.Proofs.Script.Logs
import DeskScript.Proofs.Console.Blame
import DeskScript.Proofs.Console.Excerpt
import DeskScript.Proofs.Console.Routing
import DeskScript.Proofs.Console.Dialogue
