import StreamFormula.Settings
import StreamFormula.Token.Admission
import StreamFormula.Token.Scan
import StreamFormula.Tree.Reader

/-!
# Compiling a formula

The text of a formula becomes a tree in three stages: it is scanned, its words are held against the
vocabulary, and its tokens are read. Each stage runs only when the one before it had nothing to say,
so a fault of an earlier stage hides all faults of later ones, wherever in the text they are.
-/

namespace StreamFormula

/-- Why a formula does not compile. -/
inductive CompileFault where
  | unscanned (fault : ScanFault)
  | refused (token : RefusedToken)
  | misread (fault : ReadFault)
  deriving DecidableEq

/-- The failure of the stage that failed. -/
def CompileFault.failure : CompileFault → Failure
  | unscanned fault => fault.failure
  | refused token => .diagnostic token.diagnostic
  | misread fault => .diagnostic fault.diagnostic

namespace Formula

/-- The tree of scanned tokens under settings. -/
def compileTokens (s : Settings) (tokens : List Token) : Except CompileFault (Option Tree) :=
  match s.vocabulary.firstRefused? tokens with
  | some refused => .error (.refused refused)
  | none => (Tree.read tokens).mapError .misread

/-- The tree of a formula under settings; a formula of blanks alone has none. -/
def compile (s : Settings) (formula : String) : Except CompileFault (Option Tree) :=
  match Token.scan formula with
  | .error fault => .error (.unscanned fault)
  | .ok tokens => compileTokens s tokens

end Formula

end StreamFormula
