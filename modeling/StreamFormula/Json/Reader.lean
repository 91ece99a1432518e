import StreamFormula.Json.Scan

/-!
# Reading JSON

A JSON text is one value. Its tokens are taken one at a time, with what is unfinished kept as data:
the items and members read so far, and around them the values that contain them, innermost first.
An item has to follow a comma, and a value may nest to any depth.
-/

namespace StreamFormula

/-- A JSON value that was read; its strings may stand for no text. -/
abbrev JsonDocument := Json (Option String)

namespace JsonReader

/-- A value around the one that is being read, with what it holds so far, the last first. -/
inductive Frame where
  | array (items : List JsonDocument)
  | object (members : List (Option String × JsonDocument)) (key : Option String)

/-- What has to come next, inside the given frames. -/
inductive State where
  | value (frames : List Frame)
  /-- After an opening bracket. -/
  | firstItem (frames : List Frame)
  | afterItem (items : List JsonDocument) (frames : List Frame)
  /-- After an opening brace. -/
  | firstKey (frames : List Frame)
  | key (members : List (Option String × JsonDocument)) (frames : List Frame)
  | colon (members : List (Option String × JsonDocument)) (key : Option String)
    (frames : List Frame)
  | afterMember (members : List (Option String × JsonDocument)) (frames : List Frame)
  /-- The end of the text. -/
  | done (value : JsonDocument)

/-- A finished value becomes part of the one around it. -/
def finish (v : JsonDocument) : List Frame → State
  | [] => .done v
  | .array items :: frames => .afterItem (v :: items) frames
  | .object members key :: frames => .afterMember ((key, v) :: members) frames

/-- Begins a value. -/
def begin? (frames : List Frame) : JsonToken → Option State
  | .null => some (finish .null frames)
  | .bool b => some (finish (.bool b) frames)
  | .number n => some (finish (.number n) frames)
  | .string s => some (finish (.string s) frames)
  | .beginArray => some (.firstItem frames)
  | .beginObject => some (.firstKey frames)
  | .endArray | .endObject | .comma | .colon => none

/-- Takes one token. -/
def step? : State → JsonToken → Option State
  | .value frames, t => begin? frames t
  | .firstItem frames, .endArray => some (finish (.array []) frames)
  | .firstItem frames, t => begin? (.array [] :: frames) t
  | .afterItem items frames, .comma => some (.value (.array items :: frames))
  | .afterItem items frames, .endArray => some (finish (.array items.reverse) frames)
  | .firstKey frames, .endObject => some (finish (.object []) frames)
  | .firstKey frames, .string k => some (.colon [] k frames)
  | .key members frames, .string k => some (.colon members k frames)
  | .colon members k frames, .colon => some (.value (.object members k :: frames))
  | .afterMember members frames, .comma => some (.key members frames)
  | .afterMember members frames, .endObject => some (finish (.object members.reverse) frames)
  | _, _ => none

end JsonReader

/-- The value of a JSON text, if it is one. -/
def JsonDocument.ofString? (text : String) : Option JsonDocument := do
  let tokens ← JsonToken.scan? text.toList
  match ← tokens.foldlM JsonReader.step? (.value []) with
  | .done v => some v
  | _ => none

end StreamFormula
