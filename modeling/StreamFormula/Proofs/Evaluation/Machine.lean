import StreamFormula.Evaluation.Caller
import StreamFormula.Tree.Postfix

/-!
# Evaluation with a stack

A tree can be evaluated without going down into it, however deep it is. A `Machine` takes the items
of its postfix form one after the other and keeps the values that wait for their operator on a
stack. It does what evaluation does, call by call (`Tree.run_toPostfix_initial`).

The items of a subtree stand together, so the induction has only to say what they do to a machine in
any state: they push the value of the subtree (`Machine.run_toPostfix`). A machine keeps its calls,
which is what a caller that remembers is asked with, so the calls need no argument of their own.
-/

namespace StreamFormula

/-- What is kept between two items: the values on the stack, the last one first, and the calls that
were made. -/
structure Machine where
  stack : List Float
  calls : List Call

/-- Why a machine stops before the last item. -/
inductive Machine.Stop where
  /-- There are fewer values on the stack than the item needs. -/
  | underflow
  /-- The item failed, when these calls had been made. -/
  | failed (fault : EvalFault) (calls : List Call)

namespace Machine

variable {b : Bindings} {c : Caller}

/-- The machine with no values, before any call. -/
def initial : Machine := ⟨[], []⟩

/-- Puts a value on the stack, if there is one. -/
def push (m : Machine) (e : Evaluation EvalFault Float) : Except Stop Machine :=
  match e.result with
  | .ok x => .ok ⟨x :: m.stack, m.calls ++ e.calls⟩
  | .error fault => .error (.failed fault (m.calls ++ e.calls))

/-- What an item does. A binary operator takes its right operand from the stack first. -/
def step (b : Bindings) (c : Caller) : PostfixItem → Machine → Except Stop Machine
  | .atom a, m => m.push (a.evaluate b (c.functions m.calls))
  | .binary op, ⟨right :: left :: stack, calls⟩ =>
    push ⟨stack, calls⟩ (.ofExcept (op.apply left right))
  | .signed sign, ⟨operand :: stack, calls⟩ => push ⟨stack, calls⟩ (pure (sign.apply operand))
  | _, _ => .error .underflow

/-- Takes items from left to right, until one of them stops the machine. -/
def run (b : Bindings) (c : Caller) (items : List PostfixItem) (m : Machine) :
    Except Stop Machine :=
  items.foldlM (fun m item ↦ step b c item m) m

theorem push_of_ok {m : Machine} {e : Evaluation EvalFault Float} {x : Float}
    (h : e.result = .ok x) : m.push e = .ok ⟨x :: m.stack, m.calls ++ e.calls⟩ := by
  rw [push, h]

theorem push_of_error {m : Machine} {e : Evaluation EvalFault Float} {fault : EvalFault}
    (h : e.result = .error fault) : m.push e = .error (.failed fault (m.calls ++ e.calls)) := by
  rw [push, h]

/-- A sequence is pushed after the calls of its first part. -/
theorem push_bind_of_ok {m : Machine} {e : Evaluation EvalFault Float} {x : Float}
    (h : e.result = .ok x) (next : Float → Evaluation EvalFault Float) :
    m.push (e >>= next) = push ⟨m.stack, m.calls ++ e.calls⟩ (next x) := by
  rw [Evaluation.bind_of_ok h]
  rcases hnext : (next x).result with fault | y
  · rw [push_of_error hnext, push_of_error rfl, List.append_assoc]
  · rw [push_of_ok hnext, push_of_ok rfl, List.append_assoc]

theorem push_bind_of_error {m : Machine} {e : Evaluation EvalFault Float} {fault : EvalFault}
    (h : e.result = .error fault) (next : Float → Evaluation EvalFault Float) :
    m.push (e >>= next) = m.push e := by
  rw [Evaluation.bind_of_error h, push_of_error h, push_of_error rfl]

theorem run_append (front back : List PostfixItem) (m : Machine) :
    run b c (front ++ back) m = run b c front m >>= run b c back :=
  List.foldlM_append

theorem run_singleton (b : Bindings) (c : Caller) (item : PostfixItem) (m : Machine) :
    run b c [item] m = step b c item m :=
  bind_pure _

/-- **The items of a tree push its value**, whatever the stack holds and whatever was called. -/
theorem run_toPostfix (b : Bindings) (c : Caller) (t : Tree) (m : Machine) :
    run b c t.toPostfix m = m.push (t.evaluateWith b c m.calls) := by
  induction t generalizing m with
  | atom a => exact run_singleton b c (.atom a) m
  | binary op l r ihl ihr =>
    rw [Tree.toPostfix, run_append, run_append, ihl, Tree.evaluateWith]
    -- a failure of an operand stops the run, so that the items behind it are not reached
    rcases hl : (l.evaluateWith b c m.calls).result with fault | x
    · rw [push_bind_of_error hl, push_of_error hl]
      rfl
    · rw [push_bind_of_ok hl, push_of_ok hl]
      show run b c r.toPostfix _ >>= run b c [.binary op] = _
      rw [ihr]
      rcases hr : (r.evaluateWith b c (m.calls ++ (l.evaluateWith b c m.calls).calls)).result with
        fault | y
      · rw [push_bind_of_error hr, push_of_error hr, push_of_error hr]
        rfl
      · rw [push_bind_of_ok hr, push_of_ok hr]
        exact run_singleton b c (.binary op) ⟨y :: x :: m.stack, _⟩
  | signed s t ih =>
    rw [Tree.toPostfix, run_append, ih, Tree.evaluateWith]
    rcases ht : (t.evaluateWith b c m.calls).result with fault | x
    · rw [push_bind_of_error ht, push_of_error ht]
      rfl
    · rw [push_bind_of_ok ht, push_of_ok ht]
      exact run_singleton b c (.signed s) ⟨x :: m.stack, _⟩

end Machine

/-- **Evaluation is the run of a machine over the postfix form.** For any caller, a caller's
functions being the case of a caller that forgets, the run makes the same calls in the same order. A
value is left alone on the stack; a failure stops the run as it ends the evaluation. The machine
never comes to an item without operands. -/
theorem Tree.run_toPostfix_initial (b : Bindings) (t : Tree) :
    (∀ (fs : Functions) (past : List Call), t.evaluateWith b fs.caller past = t.evaluate b fs) ∧
      ∀ c : Caller, Machine.run b c t.toPostfix .initial =
        match t.evaluateWith b c [] with
        | ⟨.ok x, calls⟩ => .ok ⟨[x], calls⟩
        | ⟨.error fault, calls⟩ => .error (.failed fault calls) := by
  refine ⟨fun fs past ↦ evaluateWith_caller b fs past t, fun c ↦ ?_⟩
  rw [Machine.run_toPostfix]
  show Machine.initial.push (t.evaluateWith b c []) = _
  rcases t.evaluateWith b c [] with ⟨fault | x, calls⟩
  · rfl
  · rfl

end StreamFormula
