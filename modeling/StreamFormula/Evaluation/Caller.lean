import StreamFormula.Evaluation.Tree

/-!
# Callers that remember

How a caller answers need not be a function of the call alone: the answer may hang on the calls
before, and the same call may fail the second time. `Caller` says so, and `Tree.evaluateWith` is the
evaluation of a tree that hands over the calls made so far. Nothing else about it is different: for
a caller that forgets them it is `Tree.evaluate` (`Tree.evaluateWith_caller`).
-/

namespace StreamFormula

/-- The answer to a call, after those received before. -/
abbrev Caller := List Call → Call → Except Diagnostic Float

/-- The caller that answers without regard to the calls before. -/
def Functions.caller (fs : Functions) : Caller := fun _ call ↦ fs call.function call.argument

/-- A caller that answers its first call, and refuses all others. -/
def Caller.once : Caller := fun past _ ↦
  if past.isEmpty then .ok 1 else .error ⟨.valueError, "Only one call is answered", none⟩

/-- What a caller answers next. -/
def Caller.functions (c : Caller) (past : List Call) : Functions := fun f x ↦ c past ⟨f, x⟩

/-- The value of a tree for a caller that has received some calls already. -/
def Tree.evaluateWith (b : Bindings) (c : Caller) : List Call → Tree → Evaluation EvalFault Float
  | past, atom a => a.evaluate b (c.functions past)
  | past, binary op left right =>
    let first := left.evaluateWith b c past
    do
      let x ← first
      let y ← right.evaluateWith b c (past ++ first.calls)
      .ofExcept (op.apply x y)
  | past, signed sign operand => do
    let x ← operand.evaluateWith b c past
    pure (sign.apply x)

/-- **A caller that forgets makes no difference.** -/
theorem Tree.evaluateWith_caller (b : Bindings) (fs : Functions) (past : List Call) (t : Tree) :
    t.evaluateWith b fs.caller past = t.evaluate b fs := by
  induction t generalizing past with
  | atom a => rfl
  | binary op l r ihl ihr =>
    rw [evaluateWith, evaluate, ihl]
    simp only [ihr]
  | signed s t ih => rw [evaluateWith, evaluate, ih]

end StreamFormula
