/-!
# Diagnostics

What a formula's author is shown when it fails: the kind of failure, a message and, where there is
text to underline, a span of the formula. Offsets count characters and the range is half open.

A diagnostic is a report, so it may be built by hand with any message and any span. The stages that
read and evaluate formulas have causes of their own and render them as diagnostics.
-/

namespace StreamFormula

/-- The kinds of failure that an author can tell apart. -/
inductive ErrorKind where
  /-- The text is not a formula. -/
  | syntaxError
  /-- A well-formed part of the formula has no meaning under the settings in force. -/
  | valueError
  /-- The arithmetic has no result. -/
  | mathError
  deriving DecidableEq

/-- The name under which a kind is shown. -/
def ErrorKind.name : ErrorKind → String
  | syntaxError => "SyntaxError"
  | valueError => "ValueError"
  | mathError => "MathError"

@[simp] theorem ErrorKind.name_inj {a b : ErrorKind} : a.name = b.name ↔ a = b :=
  ⟨by cases a <;> cases b <;> simp [name], congrArg name⟩

/-- A range of characters of a formula, with the text at fault where it is known. -/
structure Span where
  /-- The offset of the first character. -/
  start : Nat
  /-- The offset after the last character. -/
  stop : Nat
  /-- The text at fault. -/
  text : Option String
  deriving DecidableEq

/-- A failure as it is shown to the author of a formula. -/
structure Diagnostic where
  kind : ErrorKind
  message : String
  /-- The part of the formula to underline. -/
  span : Option Span
  deriving DecidableEq

end StreamFormula
