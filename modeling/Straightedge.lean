import Straightedge.Text.Blank
import Straightedge.Text.Capital
import Straightedge.Text.Digit
import Straightedge.Text.Letter
import Straightedge.Text.Quoted
import Straightedge.Number.Literal
import Straightedge.Token.Reader
import Straightedge.Document
import Straightedge.Main
import Straightedge.Jitter.Twister
import Straightedge.Proofs.Token.Split
import Straightedge.Proofs.Token.Lines
import Straightedge.Proofs.Token.Span
import Straightedge.Proofs.Parse.Accept
import Straightedge.Proofs.Parse.Resolve
import Straightedge.Proofs.Parse.Failure
import Straightedge.Proofs.Parse.Violation
import Straightedge.Proofs.Parse.Asked
import Straightedge.Proofs.Parse.Boundary
import Straightedge.Proofs.Parse.Remembered
import Straightedge.Proofs.Parse.Parallel
import Straightedge.Proofs.Parse.Layout
import Straightedge.Proofs.Parse.Continued
import Straightedge.Proofs.Parse.Renamed
import Straightedge.Proofs.Parse.Picked
import Straightedge.Proofs.Parse.Axes
import Straightedge.Proofs.Parse.Message
import Straightedge.Proofs.Parse.Operation
import Straightedge.Proofs.Write.RoundTrip
import Straightedge.Proofs.Write.Offence
import Straightedge.Proofs.Tool.Exit
import Straightedge.Proofs.Tool.Normal
import Straightedge.Proofs.Document.Report
import Straightedge.Proofs.Tool.Effects
import Straightedge.Proofs.Token.Piecewise
import Straightedge.Proofs.Write.Exact
import Straightedge.Proofs.Parse.Origin
