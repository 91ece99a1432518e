import StreamFormula.Evaluation.Bindings
import StreamFormula.Formula.Verdict
import StreamFormula.Json.Basic

/-!
# JSON forms

How diagnostics, verdicts, settings and bindings are handed to a program that shows them. A
diagnostic is a flat object, and what it lacks is left out rather than written as `null`. A verdict
is `false`, a string or such an object, so its form alone tells the three apart.
-/

namespace StreamFormula

/-- The members of a span; a missing text is left out. -/
def Span.members (s : Span) : List (String × Json String) :=
  [("startIndex", .number (.ofNat s.start)), ("endIndex", .number (.ofNat s.stop))] ++
    (s.text.map fun text ↦ ("value", Json.string text)).toList

/-- The form of a span. -/
def Span.toJson (s : Span) : Json String := .object s.members

/-- The members of a diagnostic; a missing span is left out. -/
def Diagnostic.members (d : Diagnostic) : List (String × Json String) :=
  ("kind", .string d.kind.name) :: ("message", .string d.message) ::
    (d.span.map Span.members).getD []

/-- The form of a diagnostic. -/
def Diagnostic.toJson (d : Diagnostic) : Json String := .object d.members

/-- The form of a verdict. -/
def Verdict.toJson : Verdict → Json String
  | valid => .bool false
  | message text => .string text
  | error d => d.toJson

/-- The form of settings. -/
def Settings.toJson (s : Settings) : Json String :=
  .object [("inputs", .array (s.inputs.map fun x ↦ .string x.code))]

/-- The members of bindings, under the codes of the streams. A value that is not finite has no
number in JSON and is left open. -/
def Bindings.members (b : Bindings) : List (String × Option Float) :=
  b.toList.map fun (s, x) ↦ (s.code, if x.isFinite then some x else none)

end StreamFormula
