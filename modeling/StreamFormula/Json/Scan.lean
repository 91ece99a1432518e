import StreamFormula.Json.Basic
import StreamFormula.Json.Text

/-!
# JSON tokens

The tokens of a JSON text, strictly as the standard has them: four blank characters, lower-case
literals, numbers without a plus sign, leading zeros or a bare dot. Each token is read off the front
of the text and is not empty (`length_first?_lt`), which ends the scan.
-/

namespace StreamFormula

/-- A token of a JSON text. A string is the text it stands for, if it stands for one. -/
inductive JsonToken where
  | beginArray
  | endArray
  | beginObject
  | endObject
  | comma
  | colon
  | null
  | bool (value : Bool)
  | number (value : Numeral)
  | string (text : Option String)
  deriving DecidableEq

namespace JsonToken

/-- The characters that may stand between tokens. -/
def isBlank (c : Char) : Bool := c == ' ' || c == '\t' || c == '\n' || c == '\r'

/-! ### Numbers -/

/-- The whole digits at the front: a zero alone, or digits that do not begin with one. -/
def whole? : List Char → Option (Nat × List Char)
  | '0' :: rest => some (0, rest)
  | cs =>
    if cs.takeWhile Char.isDigit = [] then none
    else some (Decimal.ofDigits (cs.takeWhile Char.isDigit), cs.dropWhile Char.isDigit)

/-- The digits of the fraction at the front; there may be none. -/
def fraction? : List Char → Option (List Nat × List Char)
  | '.' :: cs =>
    if cs.takeWhile Char.isDigit = [] then none
    else some ((cs.takeWhile Char.isDigit).map Decimal.digitValue, cs.dropWhile Char.isDigit)
  | cs => some ([], cs)

/-- The digits of an exponent at the front. -/
def exponentDigits? (cs : List Char) : Option (Nat × List Char) :=
  if cs.takeWhile Char.isDigit = [] then none
  else some (Decimal.ofDigits (cs.takeWhile Char.isDigit), cs.dropWhile Char.isDigit)

/-- The exponent after its letter. -/
def signedExponent? : List Char → Option (Int × List Char)
  | '-' :: cs => (exponentDigits? cs).map fun (n, rest) ↦ (-(n : Int), rest)
  | '+' :: cs => (exponentDigits? cs).map fun (n, rest) ↦ ((n : Int), rest)
  | cs => (exponentDigits? cs).map fun (n, rest) ↦ ((n : Int), rest)

/-- The exponent at the front; there may be none. -/
def exponent? : List Char → Option (Int × List Char)
  | 'e' :: cs => signedExponent? cs
  | 'E' :: cs => signedExponent? cs
  | cs => some (0, cs)

/-- The number at the front, after its sign. -/
def magnitude? (negative : Bool) (cs : List Char) : Option (JsonToken × List Char) := do
  let (whole, cs) ← whole? cs
  let (fraction, cs) ← fraction? cs
  let (exponent, cs) ← exponent? cs
  return (number ⟨negative, whole, fraction, exponent⟩, cs)

/-! ### Tokens -/

/-- The token at the front of a text that begins with no blank, with the characters after it. -/
def first? : List Char → Option (JsonToken × List Char)
  | '[' :: cs => some (beginArray, cs)
  | ']' :: cs => some (endArray, cs)
  | '{' :: cs => some (beginObject, cs)
  | '}' :: cs => some (endObject, cs)
  | ',' :: cs => some (comma, cs)
  | ':' :: cs => some (colon, cs)
  | 'n' :: 'u' :: 'l' :: 'l' :: cs => some (null, cs)
  | 't' :: 'r' :: 'u' :: 'e' :: cs => some (bool true, cs)
  | 'f' :: 'a' :: 'l' :: 's' :: 'e' :: cs => some (bool false, cs)
  | '"' :: cs =>
    (JsonText.pieces? cs).map fun (pieces, rest) ↦
      (string ((JsonText.decode? pieces).map String.ofList), rest)
  | '-' :: cs => magnitude? true cs
  | cs => magnitude? false cs

theorem length_dropWhile_le (p : Char → Bool) (cs : List Char) :
    (cs.dropWhile p).length ≤ cs.length := (List.dropWhile_sublist _).length_le

theorem length_dropWhile_lt {p : Char → Bool} {cs : List Char} (h : cs.takeWhile p ≠ []) :
    (cs.dropWhile p).length < cs.length := by
  have := congrArg List.length (List.takeWhile_append_dropWhile (p := p) (l := cs))
  have := List.length_pos_iff.2 h
  simp only [List.length_append] at *
  omega

theorem length_whole?_lt {cs rest : List Char} {n : Nat} (h : whole? cs = some (n, rest)) :
    rest.length < cs.length := by
  unfold whole? at h
  split at h
  · simp_all
  · have := @length_dropWhile_lt Char.isDigit cs
    grind

theorem length_fraction?_le {cs rest : List Char} {ds : List Nat}
    (h : fraction? cs = some (ds, rest)) : rest.length ≤ cs.length := by
  unfold fraction? at h
  split at h
  · have := length_dropWhile_le Char.isDigit; grind
  · simp_all

theorem length_exponentDigits?_le {cs rest : List Char} {n : Nat}
    (h : exponentDigits? cs = some (n, rest)) : rest.length ≤ cs.length := by
  unfold exponentDigits? at h
  have := length_dropWhile_le Char.isDigit cs
  grind

theorem length_signedExponent?_le {cs rest : List Char} {e : Int}
    (h : signedExponent? cs = some (e, rest)) : rest.length ≤ cs.length := by
  unfold signedExponent? at h
  split at h <;> obtain ⟨⟨n, rest'⟩, hn, he⟩ := Option.map_eq_some_iff.1 h <;>
    have := length_exponentDigits?_le hn <;> grind

theorem length_exponent?_le {cs rest : List Char} {e : Int} (h : exponent? cs = some (e, rest)) :
    rest.length ≤ cs.length := by
  unfold exponent? at h
  split at h
  · have := length_signedExponent?_le h; grind
  · have := length_signedExponent?_le h; grind
  · simp_all

theorem length_magnitude?_lt {negative : Bool} {cs rest : List Char} {t : JsonToken}
    (h : magnitude? negative cs = some (t, rest)) : rest.length < cs.length := by
  simp only [magnitude?, Option.bind_eq_bind, Option.bind_eq_some_iff, Option.pure_def,
    Option.some.injEq, Prod.mk.injEq] at h
  obtain ⟨⟨n, r₁⟩, h₁, ⟨ds, r₂⟩, h₂, ⟨e, r₃⟩, h₃, -, rfl⟩ := h
  have := length_whole?_lt h₁
  have := length_fraction?_le h₂
  have := length_exponent?_le h₃
  simp only at *
  omega

/-- Every token uses up text. -/
theorem length_first?_lt {cs rest : List Char} {t : JsonToken} (h : first? cs = some (t, rest)) :
    rest.length < cs.length := by
  unfold first? at h
  split at h <;> try (simp at h; grind)
  · obtain ⟨⟨pieces, rest'⟩, hp, he⟩ := Option.map_eq_some_iff.1 h
    have := JsonText.length_pieces?_lt hp
    grind
  · have := length_magnitude?_lt h
    grind
  · exact length_magnitude?_lt h

/-- The tokens of a text. -/
def scan? (cs : List Char) : Option (List JsonToken) :=
  match _h : cs.dropWhile isBlank with
  | [] => some []
  | c :: rest =>
    match _h' : first? (c :: rest) with
    | none => none
    | some (t, rest') => (scan? rest').map (t :: ·)
termination_by cs.length
decreasing_by
  have h₁ := length_first?_lt _h'
  have h₂ := length_dropWhile_le isBlank cs
  rw [_h] at h₂
  omega

end JsonToken

end StreamFormula
