import FrameLisp.Decimal
import FrameLisp.Location
import FrameLisp.Text.Blank
import FrameLisp.Text.CaseMap
import FrameLisp.Text.Quoted
import FrameLisp.Text.Search
import FrameLisp.Decimal.Floating
import FrameLisp.Node.Builder
import FrameLisp.Bindings
import FrameLisp.Fault.Wording
import FrameLisp.Rule
import FrameLisp.Value.Equality
import FrameLisp.Value.Text
import FrameLisp.Machine
import FrameLisp.Operation
import FrameLisp.Call
import FrameLisp.Datum
import FrameLisp.Pipeline
import FrameLisp.Evaluation
import FrameLisp.Session
import FrameLisp.Proofs.CallFault
import FrameLisp.Proofs.Simulation
import FrameLisp.Proofs.RuleShape
import FrameLisp.Proofs.Simulation.Forms
import FrameLisp.Proofs.Contract
import FrameLisp.Proofs.DepthDiscipline
import FrameLisp.Proofs.FrameIsolation
import FrameLisp.Proofs.Termination
import FrameLisp.Proofs.ShapeSafety
import FrameLisp.Proofs.Likeness
import FrameLisp.Proofs.Likeness.Operation
import FrameLisp.Proofs.Correspondence
import FrameLisp.Proofs.Correspondence.Forms
import FrameLisp.Proofs.Policy
import FrameLisp.Proofs.Inversion
import FrameLisp.Proofs.Visit
import FrameLisp.Proofs.CallSite
import FrameLisp.Proofs.Reading
import FrameLisp.Proofs.FaultLocation
import FrameLisp.Proofs.Interruption
import FrameLisp.Proofs.TopLevel
import FrameLisp.Proofs.RoundTrip
import FrameLisp.Proofs.Descent
import FrameLisp.Proofs.Correspondence.Nodes
import FrameLisp.Proofs.Departure
import FrameLisp.Proofs.Repetition
import FrameLisp.Proofs.Splitting.Source
import FrameLisp.Proofs.Splitting
import FrameLisp.Proofs.RoundTrip.Data
import FrameLisp.Proofs.RoundTrip.SameOrder
import FrameLisp.Proofs.RoundTrip.Evaluation
import FrameLisp.Proofs.Balance
import FrameLisp.Proofs.GivingUp
import FrameLisp.Proofs.DepthLimit
import FrameLisp.Proofs.Places
import FrameLisp.Proofs.Unmentioned
import FrameLisp.Proofs.Rounding.Conversion
import FrameLisp.Proofs.Comparison
import FrameLisp.Proofs.Arithmetic
import FrameLisp.Proofs.Dict
import FrameLisp.Proofs.Lookup
import FrameLisp.Proofs.Equality
import FrameLisp.Proofs.Offsets
import FrameLisp.Proofs.Likeness.Building
import FrameLisp.Proofs.Sugar
import FrameLisp.Proofs.Parameters
import FrameLisp.Proofs.FrameIsolation.Visits
import FrameLisp.Proofs.LetBinding
import FrameLisp.Proofs.Deeper
import FrameLisp.Proofs.Threading
