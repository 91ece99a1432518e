import StreamFormula.Decimal.Reading
import StreamFormula.Evaluation.Basic
import StreamFormula.Evaluation.Bindings
import StreamFormula.Tree.Basic

/-!
# The value of a tree

Operands are evaluated from left to right, and the first failure ends the evaluation. Sums,
differences and products are those of doubles and never fail; a quotient fails on a zero divisor and
where two finite operands have no finite quotient, so division does not bring in infinities of its
own. The faults of evaluation point nowhere into the text: a tree has no offsets.
-/

namespace StreamFormula

/-- Why a tree has no value. -/
inductive EvalFault where
  /-- A numeral that denotes no number. -/
  | invalidNumber (text : String)
  /-- A name that no stream has. -/
  | unknownName (text : String)
  /-- A stream without a value. -/
  | unbound (name : String)
  /-- A handle that calls no function. -/
  | unknownFunction (handle : String)
  | divisionByZero
  /-- Two finite operands without a finite quotient. -/
  | nonFiniteQuotient
  /-- A failure of a caller's function. -/
  | raised (diagnostic : Diagnostic)
  deriving DecidableEq

/-- The diagnostic of a fault; a caller's own one is passed on as it is. -/
def EvalFault.diagnostic : EvalFault → Diagnostic
  | invalidNumber text => ⟨.valueError, "Invalid number: " ++ text, none⟩
  | unknownName text => ⟨.valueError, "Invalid value: " ++ text, none⟩
  | unbound name => ⟨.valueError, "No value bound for " ++ name ++ " stream", none⟩
  | unknownFunction handle => ⟨.valueError, handle ++ " function is not available", none⟩
  | divisionByZero => ⟨.mathError, "Division by zero", none⟩
  | nonFiniteQuotient => ⟨.mathError, "Division produced a non-finite result", none⟩
  | raised d => d

/-! ### Operators -/

/-- The quotient of two numbers. -/
def divide (x y : Float) : Except EvalFault Float :=
  if y == 0.0 then .error .divisionByZero
  else if !(x / y).isFinite && x.isFinite && y.isFinite then .error .nonFiniteQuotient
  else .ok (x / y)

/-- The value of a binary operator. -/
def BinaryOp.apply : BinaryOp → Float → Float → Except EvalFault Float
  | add, x, y => .ok (x + y)
  | subtract, x, y => .ok (x - y)
  | multiply, x, y => .ok (x * y)
  | BinaryOp.divide, x, y => StreamFormula.divide x y

theorem divide_eq_error {x y : Float} {fault : EvalFault} (h : divide x y = .error fault) :
    fault = .divisionByZero ∨ fault = .nonFiniteQuotient := by
  unfold divide at h
  split at h
  · exact .inl (Except.error.inj h).symm
  · split at h
    · exact .inr (Except.error.inj h).symm
    · exact nomatch h

/-- Only division fails. -/
theorem BinaryOp.eq_divide_of_apply_eq_error {op : BinaryOp} {x y : Float} {fault : EvalFault}
    (h : op.apply x y = .error fault) : op = .divide := by
  cases op with
  | add | subtract | multiply => exact nomatch h
  | divide => rfl

/-- The value of a sign. -/
def Sign.apply : Sign → Float → Float
  | plus, x => x
  | minus, x => -x

/-! ### Leaves and trees -/

/-- The number that a numeral denotes. -/
def numberOf (text : String) : Except EvalFault Float :=
  match Decimal.read? text with
  | some x => .ok x
  | none => .error (.invalidNumber text)

theorem numberOf_eq_error_iff {text : String} {fault : EvalFault} :
    numberOf text = .error fault ↔ Decimal.read? text = none ∧ fault = .invalidNumber text := by
  unfold numberOf
  rcases Decimal.read? text with - | x
  · simp [eq_comm]
  · simp

theorem numberOf_eq_ok_iff {text : String} {x : Float} :
    numberOf text = .ok x ↔ Decimal.read? text = some x := by
  unfold numberOf
  rcases Decimal.read? text with - | y
  · simp
  · simp

/-- The value that a name is bound to. -/
def Bindings.valueOf (b : Bindings) (name : String) : Except EvalFault Float :=
  match Stream.ofName? name with
  | none => .error (.unknownName name)
  | some s =>
    match b.get? s with
    | none => .error (.unbound name)
    | some x => .ok x

/-- The answer of a caller's function, with the record of the call. -/
def Functions.call (fs : Functions) (f : Builtin) (x : Float) : Evaluation EvalFault Float :=
  ⟨(fs f x).mapError .raised, [⟨f, x⟩]⟩

/-- A call fails as the caller's function does. -/
theorem Functions.result_call_eq_error_iff {fs : Functions} {f : Builtin} {x : Float}
    {fault : EvalFault} :
    (fs.call f x).result = .error fault ↔ ∃ d, fs f x = .error d ∧ fault = .raised d := by
  unfold call
  rcases fs f x with d | y
  · show Except.error (EvalFault.raised d) = .error fault ↔ _
    simp [eq_comm]
  · show Except.ok y = .error fault ↔ _
    simp

/-- The value of a leaf. The handle of a call is looked up before its argument is read. -/
def Atom.evaluate (b : Bindings) (fs : Functions) : Atom → Evaluation EvalFault Float
  | number text => .ofExcept (numberOf text)
  | stream name => .ofExcept (b.valueOf name)
  | call handle argument =>
    match Builtin.ofSymbol? handle with
    | none => .ofExcept (.error (.unknownFunction handle))
    | some f => do
      let x ← .ofExcept (numberOf argument)
      fs.call f x

/-- The value of a tree. -/
def Tree.evaluate (b : Bindings) (fs : Functions) : Tree → Evaluation EvalFault Float
  | atom a => a.evaluate b fs
  | binary op left right => do
    let x ← left.evaluate b fs
    let y ← right.evaluate b fs
    .ofExcept (op.apply x y)
  | signed sign operand => do
    let x ← operand.evaluate b fs
    pure (sign.apply x)

end StreamFormula
