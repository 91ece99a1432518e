import StreamFormula.Evaluation.Document
import StreamFormula.Json.Forms
import StreamFormula.Proofs.Decimal.Numerals
import StreamFormula.Proofs.Evaluation.Callers
import StreamFormula.Proofs.Evaluation.Division
import StreamFormula.Proofs.Evaluation.Failures
import StreamFormula.Proofs.Evaluation.Leaves
import StreamFormula.Proofs.Evaluation.Machine
import StreamFormula.Proofs.Formula.Agreement
import StreamFormula.Proofs.Formula.Alike
import StreamFormula.Proofs.Formula.Brackets
import StreamFormula.Proofs.Formula.Calls
import StreamFormula.Proofs.Formula.Composition
import StreamFormula.Proofs.Formula.Dependencies
import StreamFormula.Proofs.Formula.Failures
import StreamFormula.Proofs.Formula.Precedence
import StreamFormula.Proofs.Formula.Selection
import StreamFormula.Proofs.Formula.Unambiguity
import StreamFormula.Proofs.Formula.Underlining
import StreamFormula.Proofs.Json.Values
import StreamFormula.Proofs.Reader.Contents
import StreamFormula.Proofs.Reader.Correspondence
import StreamFormula.Proofs.Reader.Depth
import StreamFormula.Proofs.Reader.Forms
import StreamFormula.Proofs.Reader.Limit
import StreamFormula.Proofs.Reader.Parentheses
import StreamFormula.Proofs.Reader.Resumption
import StreamFormula.Proofs.Reader.Viability
import StreamFormula.Proofs.Text.Events
import StreamFormula.Proofs.Text.Rendering
import StreamFormula.Proofs.Trace.Pairing
import StreamFormula.Settings.Document
import StreamFormula.Trace
import StreamFormula.Tree.Dependencies
import StreamFormula.Tree.Postfix
import StreamFormula.Tree.Session
