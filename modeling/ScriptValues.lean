import ScriptValues.Expr
import ScriptValues.Program
import ScriptValues.Table
import ScriptValues.Value.Structure
import ScriptValues.Proofs.Value.Equality
import ScriptValues.Proofs.Key.Separation
import ScriptValues.Proofs.Assoc.Rank
import ScriptValues.Proofs.Table.Buckets
import ScriptValues.Proofs.Table.Exactness
import ScriptValues.Proofs.Value.Observation
import ScriptValues.Proofs.Primitive.Congruence
import ScriptValues.Proofs.Program.TwoRuns
import ScriptValues.Proofs.Text.Quoting
import ScriptValues.Proofs.Value.DebugText
import ScriptValues.Proofs.Value.InspectText
import ScriptValues.Proofs.Value.Levels
import ScriptValues.Proofs.Program.Depth
import ScriptValues.Proofs.Fault.Origin
import ScriptValues.Proofs.Queue
import ScriptValues.Proofs.Catalogue.Calls
import ScriptValues.Expr.Structure
import ScriptValues.Proofs.Call
import ScriptValues.Proofs.Expr.Evaluation
import ScriptValues.Proofs.Expr.FirstFailure
import ScriptValues.Proofs.Expr.ErrorFree
import ScriptValues.Proofs.Text.Cut
import ScriptValues.Proofs.Value.CutText
import ScriptValues.Proofs.Value.Letters
import ScriptValues.Proofs.CopyLoop
import ScriptValues.Proofs.Key.Order
import ScriptValues.Proofs.Key.Collisions
