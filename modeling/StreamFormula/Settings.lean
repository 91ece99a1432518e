import StreamFormula.Vocabulary

/-!
# Settings

The input streams selected for a formula, in the order and with the repeats in which they were
given. Everything else follows from them: the usable streams are the selected ones, and the
functions are offered once something is selected.
-/

namespace StreamFormula

/-- The settings that a formula is read under. -/
structure Settings where
  /-- The selected streams. -/
  inputs : List Stream
  deriving DecidableEq

namespace Settings

/-- Nothing is selected. -/
def empty : Settings := ⟨[]⟩

/-- The usable streams, each once and in registry order. -/
def streams (s : Settings) : List Stream := Stream.select s.inputs

/-- The usable functions, each once and in registry order. -/
def functions (s : Settings) : List Builtin := Builtin.available s.inputs

/-- Everything that a formula may use under the settings. -/
def vocabulary (s : Settings) : Vocabulary := ⟨s.streams, s.functions⟩

@[simp] theorem mem_streams {s : Settings} {x : Stream} : x ∈ s.streams ↔ x ∈ s.inputs := by
  simp [streams]

theorem mem_functions {s : Settings} {f : Builtin} : f ∈ s.functions ↔ s.inputs ≠ [] :=
  Builtin.mem_available

end Settings

end StreamFormula
