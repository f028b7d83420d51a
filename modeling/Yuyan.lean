import Yuyan.Compile
import Yuyan.Diagnostic.Snippet
import Yuyan.Proofs.Elaboration.Branches
import Yuyan.Proofs.Elaboration.Equality
import Yuyan.Proofs.Elaboration.Insertion
import Yuyan.Proofs.Elaboration.Log
import Yuyan.Proofs.Elaboration.Messages
import Yuyan.Proofs.Elaboration.Parentheses
import Yuyan.Proofs.Elaboration.RoundTrip
import Yuyan.Proofs.Elaboration.Scopes
import Yuyan.Proofs.Elaboration.WellFormed
import Yuyan.Proofs.Number.Exact
import Yuyan.Proofs.Optimize.FixedPoint
import Yuyan.Proofs.Optimize.Indices
import Yuyan.Proofs.Optimize.Log
import Yuyan.Proofs.Optimize.Meaning
import Yuyan.Proofs.Optimize.Mirror
import Yuyan.Proofs.Optimize.Names
import Yuyan.Proofs.Optimize.NormalForm
import Yuyan.Proofs.Optimize.Refused
import Yuyan.Proofs.Optimize.Returns
import Yuyan.Proofs.Optimize.Types
import Yuyan.Proofs.Optimize.UniqueNames
import Yuyan.Proofs.Relabeling.Compilation
import Yuyan.Proofs.Scope.Tables
import Yuyan.Proofs.Typed.Retype
import Yuyan.Typed.NumericEq
