import StreamFormula.Formula.Evaluate
import StreamFormula.Proofs.Evaluation.Failures
import StreamFormula.Proofs.Evaluation.Places
import StreamFormula.Proofs.Formula.Underlining

/-!
# Verdict and evaluation agree

A formula is judged without being evaluated, and evaluated without asking for the verdict. Both
compile it first, so they agree on whatever compiling finds
(`Formula.evaluateWith_of_compile_error`), and behind that they cannot be confused: what compiling
finds can always be underlined, and what evaluation finds on its own never can
(`EvalFault.span_diagnostic`). Only the caller can bring in a span from outside, in answer to a call
that is on record (`Tree.evaluateWith_eq_raised`).

So the verdict on a failed evaluation points into the text exactly for the formulas that are not
valid (`Formula.evaluate_agrees_with_verdict`).
-/

namespace StreamFormula

variable {b : Bindings} {c : Caller}

/-! ### Faults of evaluation -/

/-- Evaluation has no place in the text for its own faults. -/
theorem EvalFault.span_diagnostic (fault : EvalFault) :
    fault.diagnostic.span = none ∨ ∃ d, fault = .raised d := by
  cases fault with
  | raised d => exact .inr ⟨d, rfl⟩
  | invalidNumber | unknownName | unbound | unknownFunction | divisionByZero
  | nonFiniteQuotient => exact .inl rfl

/-- The failures of these calls, each made after those before it, name no place in the text. -/
def Caller.SpanlessOn (c : Caller) (calls : List Call) : Prop :=
  ∀ before call after, calls = before ++ call :: after →
    ∀ d, c before call = .error d → d.span = none

/-- **A tree passes on a failure of a call that is on record.** -/
theorem Tree.evaluateWith_eq_raised {t : Tree} {past : List Call} {d : Diagnostic}
    (h : (t.evaluateWith b c past).result = .error (.raised d)) :
    ∃ before call, past ++ (t.evaluateWith b c past).calls = before ++ [call] ∧
      c before call = .error d := by
  rcases evaluateWith_eq_error h with ⟨a, -, before, hcalls, hfault⟩ | ⟨op, x, y, -, hfault⟩
  · obtain ⟨call, hlast, hfails⟩ := Atom.evaluate_eq_raised hfault
    exact ⟨before, call, hlast ▸ hcalls, hfails⟩
  · obtain rfl := BinaryOp.eq_divide_of_apply_eq_error hfault
    rcases divide_eq_error hfault with heq | heq
    · exact nomatch heq
    · exact nomatch heq

namespace Formula

variable {s : Settings} {formula : String}

/-! ### What compiling decides -/

/-- A formula of blanks alone, and no other, compiles to nothing. -/
theorem compile_eq_ok_none_iff :
    compile s formula = .ok none ↔ ∀ c ∈ formula.toList, isBlank c = true := by
  have hblank : Token.scan formula = .ok [] ↔ ∀ c ∈ formula.toList, isBlank c = true :=
    Token.scan_eq_ok_iff_layout.trans layout_no_tokens_iff
  rw [compile_eq_ok_iff, ← hblank]
  constructor
  · rintro ⟨tokens, hscan, -, hread⟩
    obtain rfl : tokens = [] := by
      by_contra hne
      exact Tree.ofTokens?_ne_ok_none hne hread
    exact hscan
  · exact fun hscan ↦ ⟨[], hscan, nofun, rfl⟩

/-- **What compiling finds is underlined**, by the verdict as well as after a failed evaluation. -/
theorem verdict_of_compile_error {fault : CompileFault} (h : compile s formula = .error fault) :
    ∃ d, fault.failure = .diagnostic d ∧ verdict s formula = .error d ∧
      (FormulaFault.compile fault).verdict = .error d := by
  obtain ⟨d, span, hfailure, -, hspan, -⟩ := CompileFault.exists_underlines h
  have hverdict : Verdict.ofFailure fault.failure = .error d :=
    Verdict.ofFailure_eq_error_iff.2 ⟨hfailure, by rw [hspan]; rfl⟩
  refine ⟨d, hfailure, ?_, hverdict⟩
  rw [verdict, h]
  exact hverdict

/-! ### What evaluation adds -/

/-- There is no value for blanks alone, and then nothing is called. -/
theorem evaluateWith_eq_ok_none_iff :
    (evaluateWith s formula b c).result = .ok none ↔ ∀ ch ∈ formula.toList, isBlank ch = true := by
  rw [← compile_eq_ok_none_iff (s := s)]
  rcases hcompile : compile s formula with fault | (- | t)
  · simp [evaluateWith_of_compile_error hcompile]
  · simp [evaluateWith_of_compile_none hcompile]
  · rw [evaluateWith_of_compile hcompile]
    rcases (t.evaluateWith b c []).result with fault | x
    · exact iff_of_false nofun nofun
    · exact iff_of_false nofun nofun

theorem calls_of_evaluateWith_eq_ok_none (h : (evaluateWith s formula b c).result = .ok none) :
    (evaluateWith s formula b c).calls = [] := by
  have hcompile : compile s formula = .ok none :=
    compile_eq_ok_none_iff.2 (evaluateWith_eq_ok_none_iff.1 h)
  rw [evaluateWith_of_compile_none hcompile]

/-- **A failure behind compiling cannot be underlined**, provided that no answer of the caller names
a place in the text. -/
theorem verdict_of_evaluateWith_eq_error (hvalid : verdict s formula = .valid)
    {fault : FormulaFault} (h : (evaluateWith s formula b c).result = .error fault)
    (hspan : c.SpanlessOn (evaluateWith s formula b c).calls) :
    fault.verdict = .message fault.failure.message := by
  obtain ⟨t?, hcompile⟩ := verdict_eq_valid_iff.1 hvalid
  cases t? with
  | none =>
    rw [evaluateWith_of_compile_none hcompile] at h
    exact nomatch h
  | some t =>
    rw [evaluateWith_of_compile hcompile] at h hspan
    rcases hresult : (t.evaluateWith b c []).result with evalFault | x
    · rw [hresult] at h
      obtain rfl := Except.error.inj h
      refine Verdict.ofDiagnostic_of_isNone ?_
      rcases evalFault.span_diagnostic with hnone | ⟨d, rfl⟩
      · exact hnone
      · obtain ⟨before, call, hcalls, hfails⟩ := Tree.evaluateWith_eq_raised hresult
        exact hspan before call [] hcalls d hfails
    · rw [hresult] at h
      exact nomatch h

/-! ### Agreement -/

/-- **Verdict and evaluation agree on every formula.** A verdict is valid or points into the text.
Let the formula be evaluated for any caller, even one that remembers the calls before; a caller's
functions are the case of a caller that forgets. Where the verdict points into the text, evaluation
fails with just that diagnostic before anything is called. Where it is valid, there is no value
exactly for blanks alone, and then nothing is called; any other formula has a value, or fails with a
mere message, provided that the answers to the calls made name no place in the text. So, with such
a caller, a failed evaluation points into the text exactly if the formula was not valid. -/
theorem evaluate_agrees_with_verdict (s : Settings) (formula : String) (b : Bindings) :
    (verdict s formula = .valid ∨ ∃ d, verdict s formula = .error d) ∧
      (∀ fs : Functions, evaluateWith s formula b fs.caller = evaluate s formula b fs) ∧
      ∀ c : Caller,
        (∀ d, verdict s formula = .error d →
          ∃ fault, evaluateWith s formula b c = ⟨.error fault, []⟩ ∧
            fault.failure = .diagnostic d ∧ fault.verdict = verdict s formula) ∧
        (verdict s formula = .valid →
          ((evaluateWith s formula b c).result = .ok none ↔
            ∀ ch ∈ formula.toList, isBlank ch = true) ∧
          ((evaluateWith s formula b c).result = .ok none →
            (evaluateWith s formula b c).calls = []) ∧
          ((evaluateWith s formula b c).result ≠ .ok none →
            (∃ x, (evaluateWith s formula b c).result = .ok (some x)) ∨
              ∃ fault, (evaluateWith s formula b c).result = .error fault ∧
                (c.SpanlessOn (evaluateWith s formula b c).calls →
                  fault.verdict = .message fault.failure.message))) ∧
        (c.SpanlessOn (evaluateWith s formula b c).calls →
          ∀ fault, (evaluateWith s formula b c).result = .error fault →
            ((∃ d, fault.verdict = .error d) ↔ verdict s formula ≠ .valid)) := by
  rcases hcompile : compile s formula with fault | t?
  · obtain ⟨d, hfailure, hverdict, hsame⟩ := verdict_of_compile_error hcompile
    refine ⟨.inr ⟨d, hverdict⟩, evaluateWith_caller s formula b, fun c ↦ ?_⟩
    rw [evaluateWith_of_compile_error hcompile, hverdict]
    refine ⟨fun d' hd ↦ ?_, nofun, fun _ fault' h ↦ ?_⟩
    · obtain rfl := Verdict.error.inj hd
      exact ⟨_, rfl, hfailure, hsame⟩
    · obtain rfl := Except.error.inj h
      exact iff_of_true ⟨d, hsame⟩ nofun
  · have hvalid : verdict s formula = .valid := verdict_eq_valid_iff.2 ⟨t?, hcompile⟩
    refine ⟨.inl hvalid, evaluateWith_caller s formula b, fun c ↦ ⟨fun d hd ↦ ?_,
      fun _ ↦ ⟨evaluateWith_eq_ok_none_iff, calls_of_evaluateWith_eq_ok_none, fun hne ↦ ?_⟩,
      fun hspan fault h ↦ ?_⟩⟩
    · exact nomatch hvalid.symm.trans hd
    · rcases hresult : (evaluateWith s formula b c).result with fault | (- | x)
      · exact .inr ⟨fault, rfl, verdict_of_evaluateWith_eq_error hvalid hresult⟩
      · exact absurd hresult hne
      · exact .inl ⟨x, rfl⟩
    · rw [verdict_of_evaluateWith_eq_error hvalid h hspan]
      exact iff_of_false nofun fun hne ↦ hne hvalid

/-- Where only one call is answered, the failure of the second one is a mere message, for a formula
that is valid; where the formula is not, no call is made. -/
theorem evaluate_agrees_on_refused_call :
    verdict ⟨[.oil]⟩ "@FPD(2)-@FPD(2)" = .valid ∧
      (∃ fault, (evaluateWith ⟨[.oil]⟩ "@FPD(2)-@FPD(2)" .empty .once).result = .error fault ∧
        ¬ ∃ d, fault.verdict = .error d) ∧
      ∃ fault, evaluateWith ⟨[.oil]⟩ "@FPD(2)-@FPD(2)*" .empty .once = ⟨.error fault, []⟩ ∧
        fault.verdict =
          .error ⟨.syntaxError, "Unexpected end of formula", some ⟨15, 16, some "*"⟩⟩ := by
  have hvalid : verdict ⟨[.oil]⟩ "@FPD(2)-@FPD(2)" = .valid := by with_unfolding_all rfl
  have hresult : (evaluateWith ⟨[.oil]⟩ "@FPD(2)-@FPD(2)" .empty .once).result =
      .error (.evaluate (.raised ⟨.valueError, "Only one call is answered", none⟩)) := by
    with_unfolding_all rfl
  have hspan : Caller.once.SpanlessOn
      (evaluateWith ⟨[.oil]⟩ "@FPD(2)-@FPD(2)" .empty .once).calls := fun before call _ _ d hd ↦ by
    cases before with
    | nil => cases hd
    | cons first before =>
      obtain rfl := Except.error.inj hd
      rfl
  have hfailure : verdict ⟨[.oil]⟩ "@FPD(2)-@FPD(2)*" =
      .error ⟨.syntaxError, "Unexpected end of formula", some ⟨15, 16, some "*"⟩⟩ := by
    with_unfolding_all rfl
  obtain ⟨-, -, hcaller⟩ := evaluate_agrees_with_verdict ⟨[.oil]⟩ "@FPD(2)-@FPD(2)" .empty
  obtain ⟨-, -, hpoints⟩ := hcaller .once
  obtain ⟨-, -, hcaller'⟩ := evaluate_agrees_with_verdict ⟨[.oil]⟩ "@FPD(2)-@FPD(2)*" .empty
  obtain ⟨hfails, -, -⟩ := hcaller' .once
  obtain ⟨fault, heval, -, hsame⟩ := hfails _ hfailure
  refine ⟨hvalid, ⟨_, hresult, fun herror ↦ (hpoints hspan _ hresult).1 herror hvalid⟩,
    fault, heval, ?_⟩
  rw [hsame, hfailure]

end Formula

end StreamFormula
