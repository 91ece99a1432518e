import StreamFormula.Json.Reader
import StreamFormula.Settings

/-!
# Settings documents

Settings as JSON. A document is an object whose member `inputs` lists the selected streams; other
members are ignored, a missing `inputs` selects nothing, and a second one is refused. A stream is
its code, or an object with the code as its only key and no value. The settings may also be written
as an array of their parts, of which there is one.

Strings are compared as text, after their escapes: an ignored member may hold a string that stands
for no text, but not even its own key may be one.
-/

namespace StreamFormula

/-- The stream that a JSON value names. -/
def Stream.ofJson? : JsonDocument → Option Stream
  | .string (some code) => ofCode? code
  | .object [(some code, .null)] => ofCode? code
  | _ => none

namespace Settings

/-- The streams that a JSON array lists. -/
def inputsOfJson? : JsonDocument → Option (List Stream)
  | .array items => items.mapM Stream.ofJson?
  | _ => none

/-- The settings of a JSON value. -/
def ofJson? : JsonDocument → Option Settings
  | .array [] => some empty
  | .array [inputs] => (inputsOfJson? inputs).map mk
  | .object members =>
    if members.any fun m ↦ m.1.isNone then none
    else
      match members.filter fun m ↦ m.1 == some "inputs" with
      | [] => some empty
      | [(_, inputs)] => (inputsOfJson? inputs).map mk
      | _ => none
  | _ => none

/-- Why settings cannot be loaded. -/
inductive LoadError where
  /-- There is no file, or it holds no text. -/
  | unreadable
  /-- The text is no settings document. -/
  | malformed
  deriving DecidableEq

/-- The settings of a JSON text. -/
def ofText (text : String) : Except LoadError Settings :=
  match (JsonDocument.ofString? text).bind ofJson? with
  | some settings => .ok settings
  | none => .error .malformed

/-- The settings of a file, of which there may be none. The bytes have to be UTF-8. -/
def ofFile (contents : Option ByteArray) : Except LoadError Settings :=
  match contents.bind String.fromUTF8? with
  | some text => ofText text
  | none => .error .unreadable

end Settings

end StreamFormula
