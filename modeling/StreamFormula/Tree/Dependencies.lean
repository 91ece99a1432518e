import StreamFormula.Tree.Basic
import StreamFormula.Vocabulary

/-!
# What a formula depends on

The streams that a tree names and the functions that it calls, so that a caller can fetch exactly
those before evaluating. Both are read off the leaves and listed in registry order; names outside
the registries are skipped.
-/

namespace StreamFormula

/-- The stream that a leaf names. -/
def Atom.stream? : Atom → Option Stream
  | stream name => Stream.ofName? name
  | number _ | call _ _ => none

/-- The function that a leaf calls. -/
def Atom.function? : Atom → Option Builtin
  | call handle _ => Builtin.ofSymbol? handle
  | number _ | stream _ => none

namespace Tree

/-- The streams that a tree names, each once and in registry order. -/
def streams (t : Tree) : List Stream := Stream.select (t.atoms.filterMap Atom.stream?)

/-- The functions that a tree calls, each once and in registry order. -/
def functions (t : Tree) : List Builtin := Builtin.select (t.atoms.filterMap Atom.function?)

theorem mem_streams {s : Stream} {t : Tree} :
    s ∈ t.streams ↔ ∃ a ∈ t.atoms, a.stream? = some s := by
  simp [streams]

theorem mem_functions {f : Builtin} {t : Tree} :
    f ∈ t.functions ↔ ∃ a ∈ t.atoms, a.function? = some f := by
  simp [functions]

end Tree

/-- The streams and functions that a formula needs. -/
structure Dependencies where
  streams : List Stream
  functions : List Builtin
  deriving DecidableEq

/-- Everything that a tree needs. -/
def Tree.dependencies (t : Tree) : Dependencies := ⟨t.streams, t.functions⟩

end StreamFormula
