import StreamFormula.Diagnostic
import StreamFormula.Vocabulary

/-!
# Evaluations

Evaluating may fail, and it may call the functions that its caller supplied. An `Evaluation` holds
both: its result and the calls that were made, in order, whether or not it succeeded. Sequencing
(`bind`) keeps the calls of a part that failed and makes none after it.
-/

namespace StreamFormula

/-- The meaning that a caller gives to the built-in functions. -/
abbrev Functions := Builtin → Float → Except Diagnostic Float

/-- The functions of a caller that supplies none: each call fails. -/
def Functions.none : Functions := fun f _ ↦
  .error ⟨.valueError, f.symbol ++ " function is not available", Option.none⟩

/-- A call of a function. -/
structure Call where
  function : Builtin
  argument : Float

/-- A result, or a failure, with the calls made on the way. -/
structure Evaluation (ε α : Type) where
  result : Except ε α
  calls : List Call

namespace Evaluation

variable {ε ε' α β : Type}

/-- A result that needs no calls. -/
def ofExcept (result : Except ε α) : Evaluation ε α := ⟨result, []⟩

/-- One evaluation after another, unless the first one fails. -/
def bind (e : Evaluation ε α) (next : α → Evaluation ε β) : Evaluation ε β :=
  match e.result with
  | .ok a => ⟨(next a).result, e.calls ++ (next a).calls⟩
  | .error fault => ⟨.error fault, e.calls⟩

instance : Monad (Evaluation ε) where
  pure a := ofExcept (.ok a)
  bind := bind

/-- Another name for the failure. -/
def mapError (f : ε → ε') (e : Evaluation ε α) : Evaluation ε' α := ⟨e.result.mapError f, e.calls⟩

@[simp] theorem result_pure (a : α) : (pure a : Evaluation ε α).result = .ok a := rfl

@[simp] theorem calls_pure (a : α) : (pure a : Evaluation ε α).calls = [] := rfl

theorem bind_of_ok {e : Evaluation ε α} {a : α} (h : e.result = .ok a)
    (next : α → Evaluation ε β) :
    e >>= next = ⟨(next a).result, e.calls ++ (next a).calls⟩ := by
  show bind e next = _
  simp [bind, h]

theorem bind_of_error {e : Evaluation ε α} {fault : ε} (h : e.result = .error fault)
    (next : α → Evaluation ε β) : e >>= next = ⟨.error fault, e.calls⟩ := by
  show bind e next = _
  simp [bind, h]

@[simp] theorem result_ofExcept (result : Except ε α) : (ofExcept result).result = result := rfl

@[simp] theorem calls_ofExcept (result : Except ε α) : (ofExcept result).calls = [] := rfl

/-- A sequence has a result where both parts have one. -/
theorem result_bind_eq_ok_iff {e : Evaluation ε α} {next : α → Evaluation ε β} {b : β} :
    (e >>= next).result = .ok b ↔ ∃ a, e.result = .ok a ∧ (next a).result = .ok b := by
  rcases h : e.result with fault | a
  · simp [bind_of_error h]
  · simp [bind_of_ok h]

/-- A sequence fails where its first part fails, or where that succeeds and the second fails. -/
theorem result_bind_eq_error_iff {e : Evaluation ε α} {next : α → Evaluation ε β} {fault : ε} :
    (e >>= next).result = .error fault ↔
      e.result = .error fault ∨ ∃ a, e.result = .ok a ∧ (next a).result = .error fault := by
  rcases h : e.result with fault' | a
  · simp [bind_of_error h]
  · simp [bind_of_ok h]

end Evaluation

end StreamFormula
