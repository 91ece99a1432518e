import Mathlib.Data.List.Forall2
import StreamFormula.Evaluation.Caller
import StreamFormula.Proofs.Evaluation.Failures

/-!
# The order of calls

With a caller that remembers it shows in which order calls are made and how often. They are the
calls that are written in the tree, each once and from left to right, up to the failure that ends
the evaluation (`Tree.callsInOrder`). What holds of the parts holds of a sequence
(`Evaluation.CallsInOrder.bind`), so the order of operands is all that matters of a tree.
-/

namespace StreamFormula

/-! ### Written calls -/

/-- The handle and the argument of a call, as they are written. -/
def Atom.invocation? : Atom → Option (String × String)
  | number _ | stream _ => none
  | call handle argument => some (handle, argument)

/-- The calls in a tree, from left to right. -/
def Tree.invocations (t : Tree) : List (String × String) := t.atoms.filterMap Atom.invocation?

@[simp] theorem Tree.invocations_binary (op : BinaryOp) (l r : Tree) :
    (binary op l r).invocations = l.invocations ++ r.invocations := by
  rw [invocations, atoms_binary, List.filterMap_append]
  rfl

/-- The call is the one that is written: to the function of the handle, with the number that the
argument denotes. -/
def Denotes (written : String × String) (call : Call) : Prop :=
  Builtin.ofSymbol? written.1 = some call.function ∧
    Decimal.read? written.2 = some call.argument

/-! ### Calls in order -/

/-- The evaluation makes the written calls one after the other, as far as it gets: all of them if it
has a result. A call that the caller fails is the last one, and its failure is raised. -/
structure Evaluation.CallsInOrder {ε α : Type} (raise : Diagnostic → ε) (c : Caller)
    (past : List Call) (written : List (String × String)) (e : Evaluation ε α) : Prop where
  denotes : ∃ made rest, written = made ++ rest ∧ List.Forall₂ Denotes made e.calls ∧
    ∀ a, e.result = .ok a → rest = []
  raised : ∀ before call after d, e.calls = before ++ call :: after →
    c (past ++ before) call = .error d → after = [] ∧ e.result = .error (raise d)

namespace Evaluation.CallsInOrder

variable {ε ε' α β : Type} {raise : Diagnostic → ε} {c : Caller} {past : List Call}
  {written written' : List (String × String)}

/-- Without calls there is no order. -/
theorem ofExcept (result : Except ε α) : (ofExcept result).CallsInOrder raise c past [] where
  denotes := ⟨[], [], rfl, .nil, fun _ _ ↦ rfl⟩
  raised before call after _ h _ := absurd h (by simp)

/-- The calls do not hang on what a failure is named. -/
theorem mapError {e : Evaluation ε α} (h : e.CallsInOrder raise c past written) (f : ε → ε') :
    (e.mapError f).CallsInOrder (fun d ↦ f (raise d)) c past written where
  denotes := by
    obtain ⟨made, rest, hwritten, hmade, hrest⟩ := h.denotes
    refine ⟨made, rest, hwritten, hmade, fun a ha ↦ ?_⟩
    rcases hresult : e.result with fault | a'
    · rw [Evaluation.mapError, hresult] at ha
      exact nomatch ha
    · exact hrest a' hresult
  raised before call after d hcalls hd := by
    obtain ⟨hafter, hraised⟩ := h.raised before call after d hcalls hd
    refine ⟨hafter, ?_⟩
    rw [Evaluation.mapError, hraised]
    rfl

/-- **A sequence makes the calls of its parts in order**, the first part first. -/
theorem bind {e : Evaluation ε α} {next : α → Evaluation ε β}
    (h : e.CallsInOrder raise c past written)
    (hnext : ∀ a, e.result = .ok a → (next a).CallsInOrder raise c (past ++ e.calls) written') :
    (e >>= next).CallsInOrder raise c past (written ++ written') := by
  obtain ⟨made, rest, rfl, hmade, hrest⟩ := h.denotes
  rcases hresult : e.result with fault | a
  · rw [bind_of_error hresult]
    refine ⟨⟨made, rest ++ written', List.append_assoc .., hmade, nofun⟩, ?_⟩
    intro before call after d hcalls hd
    obtain ⟨hafter, hraised⟩ := h.raised before call after d hcalls hd
    rw [hresult] at hraised
    exact ⟨hafter, congrArg Except.error (Except.error.inj hraised)⟩
  · obtain rfl := hrest a hresult
    obtain ⟨made', rest', rfl, hmade', hrest'⟩ := (hnext a hresult).denotes
    rw [bind_of_ok hresult, List.append_nil]
    have hdenotes := List.rel_append hmade hmade'
    refine ⟨⟨made ++ made', rest', (List.append_assoc ..).symm, hdenotes, hrest'⟩, ?_⟩
    intro before call after d hcalls hd
    -- the first part has not failed, so the call belongs to the second one
    rcases List.append_eq_append_iff.1 hcalls with ⟨more, rfl, hmore⟩ | ⟨more, hmore, hrest⟩
    · rw [← List.append_assoc] at hd
      exact (hnext a hresult).raised more call after d hmore hd
    · cases more with
      | nil =>
        rw [List.append_nil] at hmore
        rw [← hmore, ← List.append_nil (past ++ e.calls)] at hd
        exact (hnext a hresult).raised [] call after d hrest.symm hd
      | cons call' more =>
        obtain ⟨rfl, -⟩ := List.cons.inj hrest
        have hraised := (h.raised before call more d hmore hd).2
        exact nomatch hresult.symm.trans hraised

/-- A leaf makes its call, if any. -/
theorem atom (b : Bindings) (a : Atom) :
    (a.evaluate b (c.functions past)).CallsInOrder .raised c past (Tree.atom a).invocations := by
  cases a with
  | number text | stream name => exact ofExcept _
  | call handle argument =>
    show Evaluation.CallsInOrder EvalFault.raised c past [(handle, argument)] _
    rcases hcall : (Atom.call handle argument).call? with - | call
    · obtain ⟨fault, -, hfault⟩ := Atom.exists_evaluate_eq_error hcall
      rw [hfault]
      exact ⟨⟨[], [(handle, argument)], rfl, .nil, nofun⟩, (ofExcept (.error fault)).raised⟩
    · rw [Atom.evaluate_of_call? hcall]
      refine ⟨⟨[(handle, argument)], [], rfl, .cons (Atom.call?_eq_some_iff.1 hcall) .nil,
        fun _ _ ↦ rfl⟩, fun before call' after d hcalls hd ↦ ?_⟩
      cases before with
      | nil =>
        obtain ⟨rfl, rfl⟩ := List.cons.inj hcalls
        rw [List.append_nil] at hd
        exact ⟨rfl, Functions.result_call_eq_error_iff.2 ⟨d, hd, rfl⟩⟩
      | cons _ before => exact absurd (List.cons.inj hcalls).2 (by simp)

end Evaluation.CallsInOrder

/-- **Calls are made as they are written in the tree**, each once and from left to right. -/
theorem Tree.callsInOrder (b : Bindings) (c : Caller) (past : List Call) (t : Tree) :
    (t.evaluateWith b c past).CallsInOrder .raised c past t.invocations := by
  induction t generalizing past with
  | atom a => exact .atom b a
  | binary op l r ihl ihr =>
    rw [evaluateWith, invocations_binary, ← List.append_nil r.invocations]
    exact (ihl past).bind fun x _ ↦ (ihr _).bind fun y _ ↦ .ofExcept _
  | signed s t ih =>
    rw [evaluateWith, ← List.append_nil (signed s t).invocations]
    exact (ih past).bind fun x _ ↦ .ofExcept _

end StreamFormula
