import StreamFormula.Evaluation.Bindings
import StreamFormula.Json.Reader

/-!
# Documents of bindings

The values of streams as JSON: an object with a number for each stream that is bound, under the code
of the stream. Every key has to be a code, and of several values for one stream the last counts; all
of them have to be numbers within the range of doubles.
-/

namespace StreamFormula.Bindings

/-- One binding of a document. -/
def memberOfJson? : Option String × JsonDocument → Option (Stream × Float)
  | (some code, .number n) => do return (← Stream.ofCode? code, ← n.toFloat?)
  | _ => none

/-- The bindings of a JSON value. -/
def ofJson? : JsonDocument → Option Bindings
  | .object members => (members.mapM memberOfJson?).map ofList
  | _ => none

/-- The bindings of a JSON text. -/
def ofText? (text : String) : Option Bindings := (JsonDocument.ofString? text).bind ofJson?

end StreamFormula.Bindings
