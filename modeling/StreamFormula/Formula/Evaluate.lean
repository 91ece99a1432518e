import StreamFormula.Evaluation.Caller
import StreamFormula.Formula.Verdict

/-!
# The value of a formula

A formula is compiled before anything is evaluated, so no function is called for a formula that does
not compile. A formula of blanks alone compiles to nothing and has no value. Of a caller no more is
asked than of trees: it may remember the calls before (`Formula.evaluateWith`).
-/

namespace StreamFormula

/-- Why a formula has no value. -/
inductive FormulaFault where
  | compile (fault : CompileFault)
  | evaluate (fault : EvalFault)
  deriving DecidableEq

/-- The failure of the stage that failed. -/
def FormulaFault.failure : FormulaFault → Failure
  | compile fault => fault.failure
  | evaluate fault => .diagnostic fault.diagnostic

/-- The verdict on a failed evaluation. -/
def FormulaFault.verdict (fault : FormulaFault) : Verdict := .ofFailure fault.failure

namespace Formula

/-- The value of a formula under settings, which is none for blanks alone. -/
def evaluate (s : Settings) (formula : String) (b : Bindings) (fs : Functions) :
    Evaluation FormulaFault (Option Float) :=
  match compile s formula with
  | .error fault => .ofExcept (.error (.compile fault))
  | .ok none => .ofExcept (.ok none)
  | .ok (some t) => (do let x ← t.evaluate b fs; pure (some x)).mapError .evaluate

/-- The value of a formula for a caller that knows the calls it received before. -/
def evaluateWith (s : Settings) (formula : String) (b : Bindings) (c : Caller) :
    Evaluation FormulaFault (Option Float) :=
  match compile s formula with
  | .error fault => .ofExcept (.error (.compile fault))
  | .ok none => .ofExcept (.ok none)
  | .ok (some t) => (do let x ← t.evaluateWith b c []; pure (some x)).mapError .evaluate

/-- A caller that forgets makes no difference for formulas, either. -/
theorem evaluateWith_caller (s : Settings) (formula : String) (b : Bindings) (fs : Functions) :
    evaluateWith s formula b fs.caller = evaluate s formula b fs := by
  rw [evaluateWith, evaluate]
  rcases compile s formula with fault | - | t
  · rfl
  · rfl
  · simp only [Tree.evaluateWith_caller]

/-! ### What compiling decides -/

variable {s : Settings} {formula : String} {t : Tree} {fault : CompileFault}

/-- A formula that compiles to a tree makes the calls of the tree and has its result. -/
theorem evaluateWith_of_compile (h : compile s formula = .ok (some t)) (b : Bindings) (c : Caller) :
    evaluateWith s formula b c =
      ⟨((t.evaluateWith b c []).result.map some).mapError .evaluate,
        (t.evaluateWith b c []).calls⟩ := by
  simp only [evaluateWith, h]
  rcases hresult : (t.evaluateWith b c []).result with fault | x
  · rw [Evaluation.bind_of_error hresult]
    rfl
  · rw [Evaluation.bind_of_ok hresult]
    show Evaluation.mk _ ((t.evaluateWith b c []).calls ++ []) = _
    rw [List.append_nil]
    rfl

/-- A fault of compiling is the fault of evaluation, and nothing is called. -/
theorem evaluateWith_of_compile_error (h : compile s formula = .error fault) (b : Bindings)
    (c : Caller) : evaluateWith s formula b c = ⟨.error (.compile fault), []⟩ := by
  simp only [evaluateWith, h]
  rfl

/-- What compiles to nothing has no value, and nothing is called. -/
theorem evaluateWith_of_compile_none (h : compile s formula = .ok none) (b : Bindings)
    (c : Caller) : evaluateWith s formula b c = ⟨.ok none, []⟩ := by
  simp only [evaluateWith, h]
  rfl

theorem evaluate_of_compile (h : compile s formula = .ok (some t)) (b : Bindings)
    (fs : Functions) :
    evaluate s formula b fs =
      ⟨((t.evaluate b fs).result.map some).mapError .evaluate, (t.evaluate b fs).calls⟩ := by
  rw [← evaluateWith_caller, evaluateWith_of_compile h, Tree.evaluateWith_caller]

theorem evaluate_of_compile_error (h : compile s formula = .error fault) (b : Bindings)
    (fs : Functions) : evaluate s formula b fs = ⟨.error (.compile fault), []⟩ := by
  rw [← evaluateWith_caller, evaluateWith_of_compile_error h]

theorem evaluate_of_compile_none (h : compile s formula = .ok none) (b : Bindings)
    (fs : Functions) : evaluate s formula b fs = ⟨.ok none, []⟩ := by
  rw [← evaluateWith_caller, evaluateWith_of_compile_none h]

end Formula

end StreamFormula
