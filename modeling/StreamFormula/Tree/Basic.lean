import StreamFormula.Token.Basic

/-!
# Formula trees

What a formula says, once layout and grouping parentheses are gone. Leaves (`Atom`) keep the text
they were read from, so a tree carries no meaning of its own yet: a numeral may fail to denote a
number and a name may be no stream's.

`Tree.brackets` writes a tree with one pair of square brackets around every node, which makes the
grouping visible: `Oil / 2` is `[[Oil]/[2]]`.
-/

namespace StreamFormula

/-- An operator between two operands. -/
inductive BinaryOp where
  | add
  | subtract
  | multiply
  | divide
  deriving DecidableEq

/-- An operator in front of one operand. -/
inductive Sign where
  | plus
  | minus
  deriving DecidableEq

/-- A leaf of a tree, as it was written. -/
inductive Atom where
  | number (text : String)
  | stream (name : String)
  /-- A function call; the argument is a bare numeral. -/
  | call (handle argument : String)
  deriving DecidableEq

/-- A formula. -/
inductive Tree where
  | atom (atom : Atom)
  | binary (op : BinaryOp) (left right : Tree)
  | signed (sign : Sign) (operand : Tree)
  deriving DecidableEq

/-! ### Operators and their symbols -/

/-- The symbol of a binary operator. -/
def BinaryOp.symbol : BinaryOp → Symbol
  | add => .plus
  | subtract => .minus
  | multiply => .star
  | divide => .slash

/-- The symbol of a sign. -/
def Sign.symbol : Sign → Symbol
  | plus => .plus
  | minus => .minus

/-! ### The bracketed text -/

/-- The characters of a leaf, in brackets. -/
def Atom.brackets : Atom → List Char
  | number text | stream text => '[' :: text.toList ++ [']']
  | call handle argument => '[' :: handle.toList ++ '(' :: '[' :: argument.toList ++ [']', ')', ']']

namespace Tree

/-- The characters of a tree, every node in brackets. -/
def brackets : Tree → List Char
  | atom a => a.brackets
  | binary op left right => '[' :: left.brackets ++ op.symbol.char :: right.brackets ++ [']']
  | signed sign operand => '[' :: sign.symbol.char :: operand.brackets ++ [']']

/-- The characters of a tree in front of others. No character is copied on the way up, so this is
how the text is built. -/
def bracketsOnto (rest : List Char) : Tree → List Char
  | atom a => a.brackets ++ rest
  | binary op left right =>
    '[' :: left.bracketsOnto (op.symbol.char :: right.bracketsOnto (']' :: rest))
  | signed sign operand => '[' :: sign.symbol.char :: operand.bracketsOnto (']' :: rest)

theorem bracketsOnto_eq (t : Tree) (rest : List Char) :
    t.bracketsOnto rest = t.brackets ++ rest := by
  induction t generalizing rest with
  | atom a => rfl
  | binary op l r ihl ihr => simp [bracketsOnto, brackets, ihl, ihr]
  | signed s t ih => simp [bracketsOnto, brackets, ih]

/-- The bracketed text of a tree. -/
def text (t : Tree) : String := String.ofList (t.bracketsOnto [])

@[simp] theorem toList_text (t : Tree) : t.text.toList = t.brackets := by
  simp [text, bracketsOnto_eq]

/-! ### Leaves -/

/-- The leaves of a tree, from left to right. -/
def atoms : Tree → List Atom
  | atom a => [a]
  | binary _ left right => left.atoms ++ right.atoms
  | signed _ operand => operand.atoms

@[simp] theorem atoms_atom (a : Atom) : (atom a).atoms = [a] := rfl

@[simp] theorem atoms_binary (op : BinaryOp) (l r : Tree) :
    (binary op l r).atoms = l.atoms ++ r.atoms := rfl

@[simp] theorem atoms_signed (s : Sign) (t : Tree) : (signed s t).atoms = t.atoms := rfl

end Tree

end StreamFormula
