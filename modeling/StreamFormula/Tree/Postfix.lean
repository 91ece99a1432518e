import StreamFormula.Tree.Basic

/-!
# Postfix form

A tree as the list of its nodes, operands before their operator. The list alone determines the tree:
`ofPostfix?` rebuilds it with a stack, and reading what `toPostfix` wrote gives the tree back
(`ofPostfix?_toPostfix`). As for any stack machine the induction needs the equation with a
continuation, `build?_toPostfix_append`.
-/

namespace StreamFormula

/-- A node of a tree without its operands. -/
inductive PostfixItem where
  | atom (atom : Atom)
  /-- Takes the right operand from the stack, then the left one. -/
  | binary (op : BinaryOp)
  | signed (sign : Sign)
  deriving DecidableEq

namespace Tree

/-- The nodes of a tree, operands first. -/
def toPostfix : Tree → List PostfixItem
  | atom a => [.atom a]
  | binary op left right => left.toPostfix ++ right.toPostfix ++ [.binary op]
  | signed sign operand => operand.toPostfix ++ [.signed sign]

/-- Puts one item on a stack of trees. -/
def push? : PostfixItem → List Tree → Option (List Tree)
  | .atom a, stack => some (.atom a :: stack)
  | .binary op, right :: left :: stack => some (.binary op left right :: stack)
  | .signed sign, operand :: stack => some (.signed sign operand :: stack)
  | _, _ => none

/-- Puts items on a stack of trees, from left to right. -/
def build? : List PostfixItem → List Tree → Option (List Tree)
  | [], stack => some stack
  | item :: items, stack => (push? item stack).bind (build? items)

/-- The tree of a postfix form: what is left alone on the stack. -/
def ofPostfix? (items : List PostfixItem) : Option Tree :=
  match build? items [] with
  | some [t] => some t
  | _ => none

theorem build?_toPostfix_append (t : Tree) (items : List PostfixItem) (stack : List Tree) :
    build? (t.toPostfix ++ items) stack = build? items (t :: stack) := by
  induction t generalizing items stack with
  | atom a => rfl
  | binary op l r ihl ihr =>
    rw [toPostfix, List.append_assoc, List.append_assoc, ihl, ihr]
    rfl
  | signed s t ih =>
    rw [toPostfix, List.append_assoc, ih]
    rfl

/-- Rebuilding what was written gives the tree back. -/
theorem ofPostfix?_toPostfix (t : Tree) : ofPostfix? t.toPostfix = some t := by
  have h := build?_toPostfix_append t [] []
  rw [List.append_nil] at h
  simp [ofPostfix?, h, build?]

end Tree

end StreamFormula
