import JitFrontend.Ast
import JitFrontend.Source
import JitFrontend.TreeView
import JitFrontend.ExprBuilder
import JitFrontend.StmtBuilder
import JitFrontend.DefBuilder
import JitFrontend.Exceptions
import JitFrontend.DroppedComponents
import JitFrontend.Ranges
import JitFrontend.UnusedFunctions
import JitFrontend.Evaluation
import JitFrontend.ShortCircuit
import JitFrontend.FormatString
import JitFrontend.LegacyLiterals
import JitFrontend.Emitted
import JitFrontend.Variables
import JitFrontend.TrueDivision
import JitFrontend.Meaning
import JitFrontend.Correspondence
import JitFrontend.OperatorKinds
import JitFrontend.Acceptance
import JitFrontend.Execution
import JitFrontend.BlockMeaning
import JitFrontend.StmtAcceptance
