import StreamFormula.Formula.Verdict

/-!
# The stages of compiling

Compiling scans, admits and reads, and stops at the first stage that finds a fault. Both outcomes
are said once here, in terms of the three stages (`Formula.compile_eq_ok_iff`,
`Formula.compile_eq_error_iff`), so that no law of compiling has to unfold it. The same is said of
verdicts, one equation for each stage. Only admission finds value errors, so a value error names the
first refused token (`Formula.exists_firstRefused?_of_valueError`).
-/

namespace StreamFormula

/-- A formula fails at the first of the three stages that finds a fault. -/
theorem Formula.compile_eq_error_iff {s : Settings} {formula : String} {fault : CompileFault} :
    Formula.compile s formula = .error fault ↔
      (∃ scanFault, Token.scan formula = .error scanFault ∧ fault = .unscanned scanFault) ∨
        ∃ tokens, Token.scan formula = .ok tokens ∧
          ((∃ refused, s.vocabulary.firstRefused? tokens = some refused ∧
              fault = .refused refused) ∨
            (∃ readFault, s.vocabulary.firstRefused? tokens = none ∧
              Tree.read tokens = .error readFault ∧ fault = .misread readFault)) := by
  rw [Formula.compile]
  rcases Token.scan formula with scanFault | tokens
  · simp [eq_comm]
  · simp only [Formula.compileTokens, Except.ok.injEq, reduceCtorEq, false_and, exists_false,
      false_or, exists_eq_left']
    rcases s.vocabulary.firstRefused? tokens with - | refused
    · rcases Tree.read tokens with readFault | t?
      · show Except.error (CompileFault.misread readFault) = .error fault ↔ _
        simp [eq_comm]
      · show Except.ok t? = .error fault ↔ _
        simp
    · simp [eq_comm]

/-- A formula compiles where scanning finds tokens, all of them are admitted, and reading has an
outcome for them, which is that of compiling. -/
theorem Formula.compile_eq_ok_iff {s : Settings} {formula : String} {t? : Option Tree} :
    Formula.compile s formula = .ok t? ↔
      ∃ tokens, Token.scan formula = .ok tokens ∧
        (∀ token ∈ tokens, token.refusal? s.vocabulary = none) ∧ Tree.read tokens = .ok t? := by
  rw [Formula.compile]
  rcases Token.scan formula with scanFault | tokens
  · simp
  · simp only [Formula.compileTokens, Except.ok.injEq, exists_eq_left',
      ← Vocabulary.firstRefused?_eq_none_iff]
    rcases s.vocabulary.firstRefused? tokens with - | refused
    · rcases Tree.read tokens with readFault | read?
      · show Except.error (CompileFault.misread readFault) = .ok t? ↔ _
        simp
      · show Except.ok read? = .ok t? ↔ _
        simp
    · simp

/-- A verdict is valid exactly for what compiles. -/
theorem Formula.verdict_eq_valid_iff {s : Settings} {formula : String} :
    Formula.verdict s formula = .valid ↔ ∃ t?, Formula.compile s formula = .ok t? := by
  rw [Formula.verdict]
  rcases Formula.compile s formula with fault | t?
  · simp [Verdict.ofFailure_ne_valid]
  · simp

/-! ### Verdicts by stages -/

/-- What reading alone says about tokens. -/
def Verdict.ofReading : Except ReadFault (Option Tree) → Verdict
  | .ok _ => valid
  | .error fault => error fault.diagnostic

/-- The verdict is a value error about the token with this index. -/
def Verdict.RefusesAt (v : Verdict) (tokens : List Token) (i : Nat) : Prop :=
  ∃ d t, v = error d ∧ d.kind = .valueError ∧ tokens[i]? = some t ∧ d.span = some t.span

namespace Formula

variable {s : Settings} {formula : String} {tokens : List Token}

/-- What a scanner complains about does not hang on the settings. -/
theorem verdict_of_scan_eq_error {fault : ScanFault} (h : Token.scan formula = .error fault) :
    verdict s formula = .ofFailure fault.failure := by
  simp only [verdict, compile, h]
  rfl

theorem verdict_of_firstRefused?_eq_some (hscan : Token.scan formula = .ok tokens)
    {r : RefusedToken} (hr : s.vocabulary.firstRefused? tokens = some r) :
    verdict s formula = .error r.diagnostic := by
  simp only [verdict, compile, compileTokens, hscan, hr]
  rfl

/-- Where all tokens are admitted, the verdict is that of reading. -/
theorem verdict_of_firstRefused?_eq_none (hscan : Token.scan formula = .ok tokens)
    (hnone : s.vocabulary.firstRefused? tokens = none) :
    verdict s formula = .ofReading (Tree.read tokens) := by
  simp only [verdict, compile, compileTokens, hscan, hnone]
  cases Tree.read tokens <;> rfl

/-- A complaint of the scanner is a syntax error. -/
theorem kind_of_ofFailure_eq_error {fault : ScanFault} {d : Diagnostic}
    (h : Verdict.ofFailure fault.failure = .error d) : d.kind = .syntaxError := by
  obtain ⟨hfailure, -⟩ := Verdict.ofFailure_eq_error_iff.1 h
  cases fault with
  | unreadable u => exact Failure.diagnostic.inj hfailure ▸ rfl
  | misshapen e => exact nomatch hfailure

/-- A complaint of the reader is a syntax error. -/
theorem kind_of_ofReading_eq_error {result : Except ReadFault (Option Tree)} {d : Diagnostic}
    (h : Verdict.ofReading result = .error d) : d.kind = .syntaxError := by
  cases result with
  | ok t? => exact nomatch h
  | error fault => exact Verdict.error.inj h ▸ rfl

/-- **A value error refuses a token**, the first one that is not admitted. -/
theorem exists_firstRefused?_of_valueError {d : Diagnostic} (h : verdict s formula = .error d)
    (hkind : d.kind = .valueError) :
    ∃ tokens r, Token.scan formula = .ok tokens ∧ s.vocabulary.firstRefused? tokens = some r ∧
      d = r.diagnostic := by
  rcases hscan : Token.scan formula with fault | tokens
  · rw [verdict_of_scan_eq_error hscan] at h
    exact nomatch hkind.symm.trans (kind_of_ofFailure_eq_error h)
  · rcases hr : s.vocabulary.firstRefused? tokens with - | r
    · rw [verdict_of_firstRefused?_eq_none hscan hr] at h
      exact nomatch hkind.symm.trans (kind_of_ofReading_eq_error h)
    · rw [verdict_of_firstRefused?_eq_some hscan hr] at h
      exact ⟨tokens, r, rfl, hr, (Verdict.error.inj h).symm⟩

end Formula

end StreamFormula
