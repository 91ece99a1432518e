import StreamFormula.Formula.Evaluate
import StreamFormula.Proofs.Decimal.Numerals
import StreamFormula.Proofs.Evaluation.Failures
import StreamFormula.Proofs.Evaluation.Places
import StreamFormula.Proofs.Formula.Stages
import StreamFormula.Tree.Dependencies

/-!
# The failures that compiling leaves

Compiling a formula rules out most failures of its evaluation. The leaves of its tree are admitted
words (`Formula.admitted_of_compile`), so their names are those of streams, their handles call
functions, and their numerals denote numbers unless they are lone dots. With the streams of the tree
bound, four failures are left (`KnownFailure`): that of the caller in answer to the last call, the
two of division, and the lone dot (`Formula.evaluate_ok_or_knownFailure`).
-/

namespace StreamFormula

variable {b : Bindings} {fs : Functions}

/-! ### Admitted leaves -/

/-- The words of the leaf are spelled as a scanner finds them, and none is refused. -/
def Atom.Admitted (v : Vocabulary) (a : Atom) : Prop :=
  ∀ word ∈ a.words, word.1.Spells word.2.toList ∧ word.1.refusal? v word.2 = none

/-- **The leaves of what compiles are admitted.** -/
theorem Formula.admitted_of_compile {s : Settings} {formula : String} {t : Tree}
    (h : Formula.compile s formula = .ok (some t)) : ∀ a ∈ t.atoms, a.Admitted s.vocabulary := by
  obtain ⟨tokens, hscan, hadmitted, hread⟩ := Formula.compile_eq_ok_iff.1 h
  rintro a ha ⟨kind, text⟩ hword
  obtain ⟨w, hw, rfl, rfl⟩ :=
    (Tree.mem_words_of_read hread).1 (Tree.mem_words.2 ⟨a, ha, hword⟩)
  exact ⟨(Token.scan_eq_ok_iff_layout.1 hscan).fits _ hw, hadmitted _ hw⟩

namespace Atom.Admitted

variable {v : Vocabulary} {a : Atom}

/-- An admitted numeral without a number is a lone dot. -/
theorem eq_dot (h : a.Admitted v) {text : String} (htext : (.number, text) ∈ a.words)
    (hread : Decimal.read? text = none) : text = "." := by
  obtain ⟨hspells, hadmitted⟩ := h _ htext
  exact (Decimal.read?_eq_none_iff hspells
    (WordKind.refusal?_number_eq_none_iff.1 hadmitted)).1 hread

/-- An admitted leaf whose stream is bound fails for the function that it calls, or for a lone
dot. -/
theorem evaluate_eq_error (h : a.Admitted v) (hbound : ∀ s ∈ a.stream?, (b.get? s).isSome)
    {fault : EvalFault} (hfault : (a.evaluate b fs).result = .error fault) :
    (∃ call d, a.call? = some call ∧ (a.evaluate b fs).calls = [call] ∧
        fs call.function call.argument = .error d ∧ fault = .raised d) ∨
      (.number, ".") ∈ a.words ∧ fault = .invalidNumber "." := by
  cases a with
  | number text =>
    obtain ⟨hread, rfl⟩ := numberOf_eq_error_iff.1 hfault
    have hword : (WordKind.number, text) ∈ (Atom.number text).words := List.mem_singleton_self _
    obtain rfl := h.eq_dot hword hread
    exact .inr ⟨hword, rfl⟩
  | stream name =>
    obtain ⟨s, -, rfl⟩ := WordKind.refusal?_stream_eq_none_iff.1 (h _ List.mem_cons_self).2
    obtain ⟨x, hx⟩ := Option.isSome_iff_exists.1 (hbound s (Stream.ofName?_name s))
    simp [evaluate, Bindings.valueOf, hx] at hfault
  | call handle argument =>
    obtain ⟨f, -, rfl⟩ := WordKind.refusal?_handle_eq_none_iff.1 (h _ List.mem_cons_self).2
    rcases hread : Decimal.read? argument with - | x
    · have hword : (WordKind.number, argument) ∈ (Atom.call f.symbol argument).words :=
        List.mem_cons_of_mem _ (List.mem_singleton_self _)
      obtain rfl := h.eq_dot hword hread
      rw [evaluate_of_read?_eq_none hread] at hfault
      exact .inr ⟨hword, (Except.error.inj hfault).symm⟩
    · have hcall : (Atom.call f.symbol argument).call? = some ⟨f, x⟩ := by simp [call?, hread]
      rw [evaluate_of_call? hcall] at hfault ⊢
      obtain ⟨d, hd, rfl⟩ := Functions.result_call_eq_error_iff.1 hfault
      exact .inl ⟨_, d, hcall, rfl, hd, rfl⟩

end Atom.Admitted

/-! ### Failures of formulas -/

/-- The failures that are left for a formula of the given tokens and tree after the given calls of
the caller, each with its diagnostic. -/
inductive KnownFailure (c : Caller) (tokens : List Token) (t : Tree) (calls : List Call) :
    EvalFault → Diagnostic → Prop where
  /-- The last call failed. It is one that the formula writes, and its failure is passed on. -/
  | raised {a : Atom} {before : List Call} {call : Call} {d : Diagnostic} (leaf : a ∈ t.atoms)
      (written : a.call? = some call) (last : calls = before ++ [call])
      (fails : c before call = .error d) : KnownFailure c tokens t calls (.raised d) d
  | divisionByZero (offset : Nat) (slash : .symbol .slash offset ∈ tokens) :
      KnownFailure c tokens t calls .divisionByZero ⟨.mathError, "Division by zero", none⟩
  | nonFiniteQuotient (offset : Nat) (slash : .symbol .slash offset ∈ tokens) :
      KnownFailure c tokens t calls .nonFiniteQuotient
        ⟨.mathError, "Division produced a non-finite result", none⟩
  /-- A dot alone is admitted as a numeral and denotes no number. -/
  | loneDot (w : Word) (word : .word w ∈ tokens) (kind : w.kind = .number) (text : w.text = ".") :
      KnownFailure c tokens t calls (.invalidNumber ".")
        ⟨.valueError, "Invalid number: .", none⟩

namespace Formula

variable {s : Settings} {formula : String} {t : Tree}

/-- **Evaluation of what compiles fails only in known ways.** Let a formula compile, and let the
streams of its tree be bound. Then it has a value, or one of the known failures, whoever the caller
is, even if it remembers the calls before. A caller's functions are the case of a caller that
forgets. -/
theorem evaluate_ok_or_knownFailure (hcompile : Formula.compile s formula = .ok (some t))
    (hbound : ∀ x ∈ t.streams, (b.get? x).isSome) :
    ∃ tokens, Token.scan formula = .ok tokens ∧
      (∀ fs : Functions, evaluateWith s formula b fs.caller = evaluate s formula b fs) ∧
      ∀ c : Caller,
        (∃ x, (evaluateWith s formula b c).result = .ok (some x)) ∨
          ∃ fault, (evaluateWith s formula b c).result = .error (.evaluate fault) ∧
            KnownFailure c tokens t (evaluateWith s formula b c).calls fault
              fault.diagnostic := by
  obtain ⟨tokens, hscan, -, hread⟩ := Formula.compile_eq_ok_iff.1 hcompile
  refine ⟨tokens, hscan, evaluateWith_caller s formula b, fun c ↦ ?_⟩
  rw [evaluateWith_of_compile hcompile]
  rcases hresult : (t.evaluateWith b c []).result with fault | x
  · refine .inr ⟨fault, rfl, ?_⟩
    rcases Tree.evaluateWith_eq_error hresult with
      ⟨a, ha, before, hcalls, hfault⟩ | ⟨op, x, y, hop, hfault⟩
    · have hstream : ∀ x ∈ a.stream?, (b.get? x).isSome := fun x hx ↦
        hbound x (Tree.mem_streams.2 ⟨a, ha, hx⟩)
      rcases (Formula.admitted_of_compile hcompile a ha).evaluate_eq_error hstream hfault with
        ⟨call, d, hcall, hlast, hd, rfl⟩ | ⟨hword, rfl⟩
      · rw [hlast, List.nil_append] at hcalls
        exact .raised ha hcall hcalls hd
      · obtain ⟨w, hw, hkind, htext⟩ :=
          (Tree.mem_words_of_read hread).1 (Tree.mem_words.2 ⟨a, ha, hword⟩)
        exact .loneDot w hw hkind htext
    · obtain rfl := BinaryOp.eq_divide_of_apply_eq_error hfault
      obtain ⟨offset, hslash⟩ := Tree.exists_symbol_of_read hread hop
      rcases divide_eq_error hfault with rfl | rfl
      · exact .divisionByZero offset hslash
      · exact .nonFiniteQuotient offset hslash
  · exact .inl ⟨x, rfl⟩

/-- The same call twice, and then a lone dot. A caller that answers only once fails the second call,
which is the last one; for a caller that answers every call the dot is left. -/
theorem evaluate_repeated_call_by_dot :
    ∃ tokens t x, Token.scan "@FPD(2)-@FPD(2)/." = .ok tokens ∧
      Formula.compile ⟨[.oil]⟩ "@FPD(2)-@FPD(2)/." = .ok (some t) ∧
      Decimal.read? "2" = some x ∧
      KnownFailure .once tokens t [⟨.fpd, x⟩, ⟨.fpd, x⟩]
        (.raised ⟨.valueError, "Only one call is answered", none⟩)
        ⟨.valueError, "Only one call is answered", none⟩ ∧
      KnownFailure (fun _ _ ↦ .ok 1) tokens t [⟨.fpd, x⟩, ⟨.fpd, x⟩] (.invalidNumber ".")
        ⟨.valueError, "Invalid number: .", none⟩ := by
  have hcompile : Formula.compile ⟨[.oil]⟩ "@FPD(2)-@FPD(2)/." =
      .ok (some (.binary .subtract (.atom (.call "@FPD" "2"))
        (.binary .divide (.atom (.call "@FPD" "2")) (.atom (.number "."))))) := by
    with_unfolding_all rfl
  have hfails : ∃ x, Decimal.read? "2" = some x ∧
      evaluateWith ⟨[.oil]⟩ "@FPD(2)-@FPD(2)/." .empty .once =
        ⟨.error (.evaluate (.raised ⟨.valueError, "Only one call is answered", none⟩)),
          [⟨.fpd, x⟩, ⟨.fpd, x⟩]⟩ ∧
      evaluateWith ⟨[.oil]⟩ "@FPD(2)-@FPD(2)/." .empty (fun _ _ ↦ .ok 1) =
        ⟨.error (.evaluate (.invalidNumber ".")), [⟨.fpd, x⟩, ⟨.fpd, x⟩]⟩ :=
    ⟨_, by with_unfolding_all rfl, by with_unfolding_all rfl, by with_unfolding_all rfl⟩
  obtain ⟨x, hx, honce, halways⟩ := hfails
  obtain ⟨tokens, hscan, -, hknown⟩ := evaluate_ok_or_knownFailure hcompile (b := .empty) nofun
  have hfailure : ∀ {c : Caller} {fault : EvalFault} {calls : List Call},
      evaluateWith ⟨[.oil]⟩ "@FPD(2)-@FPD(2)/." .empty c = ⟨.error (.evaluate fault), calls⟩ →
        KnownFailure c tokens _ calls fault fault.diagnostic := fun {c fault calls} heval ↦ by
    rcases hknown c with ⟨y, hy⟩ | ⟨fault', hfault, hfailure⟩
    · rw [heval] at hy
      cases hy
    · rw [heval] at hfault hfailure
      obtain rfl := FormulaFault.evaluate.inj (Except.error.inj hfault)
      exact hfailure
  exact ⟨tokens, _, x, hscan, hcompile, hx, hfailure honce, hfailure halways⟩

end Formula

end StreamFormula
