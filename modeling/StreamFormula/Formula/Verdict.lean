import StreamFormula.Formula.Compile

/-!
# Verdicts

What an editor shows about a formula: nothing to complain about, a message, or a diagnostic that
points into the text. Any failure becomes a verdict; it points into the text exactly when it is a
diagnostic with a span (`Verdict.ofFailure_eq_error_iff`), and its message is the wording of the
failure (`Verdict.message?_ofFailure`).
-/

namespace StreamFormula

/-- What an editor shows about a formula. -/
inductive Verdict where
  | valid
  /-- A failure with nothing to underline. -/
  | message (text : String)
  /-- A failure with a span to underline. -/
  | error (diagnostic : Diagnostic)
  deriving DecidableEq

namespace Verdict

/-- The verdict on a diagnosed failure. -/
def ofDiagnostic (d : Diagnostic) : Verdict := if d.span.isSome then error d else message d.message

/-- The verdict on a failure. -/
def ofFailure : Failure → Verdict
  | .diagnostic d => ofDiagnostic d
  | .token e => message (Failure.token e).message

/-- Whether there is nothing to complain about. -/
def isValid (v : Verdict) : Bool := v == valid

/-- The message of a complaint. -/
def message? : Verdict → Option String
  | valid => none
  | message text => some text
  | error d => some d.message

theorem ofDiagnostic_of_isSome {d : Diagnostic} (h : d.span.isSome) : ofDiagnostic d = error d :=
  if_pos h

theorem ofDiagnostic_of_isNone {d : Diagnostic} (h : d.span = none) :
    ofDiagnostic d = message d.message := by simp [ofDiagnostic, h]

theorem ofDiagnostic_eq_error_iff {d d' : Diagnostic} :
    ofDiagnostic d = error d' ↔ d = d' ∧ d.span.isSome := by
  unfold ofDiagnostic; split <;> simp_all

theorem message?_ofDiagnostic (d : Diagnostic) : (ofDiagnostic d).message? = some d.message := by
  unfold ofDiagnostic; split <;> rfl

/-- A verdict loses no message. -/
theorem message?_ofFailure (f : Failure) : (ofFailure f).message? = some f.message := by
  cases f with
  | token e => rfl
  | diagnostic d => exact message?_ofDiagnostic d

/-- A failure is never valid. -/
theorem ofFailure_ne_valid (f : Failure) : ofFailure f ≠ valid := by
  intro h
  have hmessage := message?_ofFailure f
  rw [h] at hmessage
  exact nomatch hmessage

/-- A verdict points into the text exactly when the failure does. -/
theorem ofFailure_eq_error_iff {f : Failure} {d : Diagnostic} :
    ofFailure f = error d ↔ f = .diagnostic d ∧ d.span.isSome := by
  cases f with
  | token e => simp [ofFailure]
  | diagnostic d' => simp only [ofFailure, ofDiagnostic_eq_error_iff]; grind

end Verdict

/-- The verdict on a formula under settings. -/
def Formula.verdict (s : Settings) (formula : String) : Verdict :=
  match compile s formula with
  | .ok _ => .valid
  | .error fault => .ofFailure fault.failure

end StreamFormula
