import StreamFormula.Tree.Reader

/-!
# The grammar of formulas

The grammar that readers are measured against, said without a reader: `Derives limit phrase depth
tokens t` says that the tokens are a phrase of the given kind with tree `t`, where `depth` signs and
parentheses stand around the phrase. A phrase is a factor, a term (a product of factors) or a sum
(of terms); products and sums group to the left, and grouping parentheses leave nothing in the tree.

Two rules go beyond a grammar of sums and products, and both are premises of single rules: the right
operand of a binary operator does not begin with an operator, and a parenthesis or a sign may only
be entered at a depth that the limit permits. The parentheses of a call are part of the call, so
they count for nothing. The depth is an index and not a count over a finished derivation, because
the premise is needed at the place where a phrase is entered.
-/

namespace StreamFormula

/-- The kinds of phrases, from the tightest to the loosest. -/
inductive Phrase where
  | factor
  | term
  | sum
  deriving DecidableEq

/-- The phrase that a binary operator makes of its operands. -/
def BinaryOp.phrase : BinaryOp → Phrase
  | add | subtract => .sum
  | multiply | divide => .term

/-- One more sign or parenthesis may be entered at this depth. No limit permits every depth. -/
def Permits (limit : Option Nat) (depth : Nat) : Prop := ∀ n ∈ limit, depth < n

@[simp] theorem permits_none (depth : Nat) : Permits none depth := fun _ h ↦ nomatch h

@[simp] theorem permits_some {n depth : Nat} : Permits (some n) depth ↔ depth < n := by
  simp [Permits]

/-- Whether tokens begin with an operator. -/
def beginsWithOperator (tokens : List Token) : Bool := tokens.head?.any Token.isOperator

/-- What stands behind the first token does not matter. -/
theorem beginsWithOperator_append {tokens : List Token} (h : tokens ≠ []) (more : List Token) :
    beginsWithOperator (tokens ++ more) = beginsWithOperator tokens := by
  cases tokens with
  | nil => exact absurd rfl h
  | cons token tokens => rfl

/-- Every binary operator is written as an operator. -/
@[simp] theorem BinaryOp.isOperator_symbol (op : BinaryOp) : op.symbol.isOperator = true := by
  cases op <;> rfl

/-- Every sign is written as an operator, so a sign is never a right operand. -/
@[simp] theorem Sign.isOperator_symbol (s : Sign) : s.symbol.isOperator = true := by
  cases s <;> rfl

/-- The tokens are a phrase with the given tree, inside `depth` signs and parentheses. -/
inductive Derives (limit : Option Nat) : Phrase → Nat → List Token → Tree → Prop where
  | number {d : Nat} (w : Word) (hw : w.kind = .number) :
      Derives limit .factor d [.word w] (.atom (.number w.text))
  | stream {d : Nat} (w : Word) (hw : w.kind = .stream) :
      Derives limit .factor d [.word w] (.atom (.stream w.text))
  | call {d : Nat} (handle argument : Word) (m n : Nat) (hh : handle.kind = .handle)
      (ha : argument.kind = .number) :
      Derives limit .factor d
        [.word handle, .symbol .openParen m, .word argument, .symbol .closeParen n]
        (.atom (.call handle.text argument.text))
  | group {d : Nat} {tokens : List Token} {t : Tree} (m n : Nat) (hd : Permits limit d)
      (h : Derives limit .sum (d + 1) tokens t) :
      Derives limit .factor d (.symbol .openParen m :: tokens ++ [.symbol .closeParen n]) t
  | signed {d : Nat} {tokens : List Token} {t : Tree} (s : Sign) (n : Nat) (hd : Permits limit d)
      (h : Derives limit .factor (d + 1) tokens t) :
      Derives limit .factor d (.symbol s.symbol n :: tokens) (.signed s t)
  | ofFactor {d : Nat} {tokens : List Token} {t : Tree} (h : Derives limit .factor d tokens t) :
      Derives limit .term d tokens t
  | product {d : Nat} {left right : List Token} {l r : Tree} (op : BinaryOp) (n : Nat)
      (hop : op.phrase = .term) (hl : Derives limit .term d left l)
      (hr : Derives limit .factor d right r) (hright : beginsWithOperator right = false) :
      Derives limit .term d (left ++ .symbol op.symbol n :: right) (.binary op l r)
  | ofTerm {d : Nat} {tokens : List Token} {t : Tree} (h : Derives limit .term d tokens t) :
      Derives limit .sum d tokens t
  | sum {d : Nat} {left right : List Token} {l r : Tree} (op : BinaryOp) (n : Nat)
      (hop : op.phrase = .sum) (hl : Derives limit .sum d left l)
      (hr : Derives limit .term d right r) (hright : beginsWithOperator right = false) :
      Derives limit .sum d (left ++ .symbol op.symbol n :: right) (.binary op l r)

/-- No phrase is empty. -/
theorem Derives.ne_nil {limit : Option Nat} {phrase : Phrase} {d : Nat} {tokens : List Token}
    {t : Tree} (h : Derives limit phrase d tokens t) : tokens ≠ [] := by
  induction h with
  | number | stream | call | group | signed => exact List.cons_ne_nil _ _
  | ofFactor _ ih | ofTerm _ ih => exact ih
  | product | sum => exact List.append_ne_nil_of_right_ne_nil _ (List.cons_ne_nil _ _)

end StreamFormula
