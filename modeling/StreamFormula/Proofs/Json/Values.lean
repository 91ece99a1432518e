import Mathlib.Algebra.Field.Rat
import StreamFormula.Json.Forms

/-!
# What JSON forms say

JSON that is written differently may still say the same. What it says is its value (`Json.value`): a
number is what its numeral denotes, and an object is no more than the values of its members by their
keys (`Json.memberValue?`).

The forms of two diagnostics or verdicts say the same only if these are equal
(`Diagnostic.value_toJson_inj`, `Verdict.value_toJson_inj`). That members are left out does no harm:
there is a start exactly for a diagnostic with a span, and a value exactly for a span with a text
(`Diagnostic.memberValue?_members`).
-/

namespace StreamFormula

/-! ### Values -/

/-- The number that a numeral denotes, exactly. -/
def Numeral.value (n : Numeral) : ℚ :=
  (if n.negative then -1 else 1) * (n.fraction.foldl (fun m d ↦ 10 * m + d) n.whole : ℕ) *
    10 ^ (n.exponent - n.fraction.length)

@[simp] theorem Numeral.value_ofNat (n : ℕ) : (ofNat n).value = n := by simp [value, ofNat]

/-- What JSON says. An object may have any member or lack it. -/
inductive JsonValue (τ : Type) where
  | null
  | bool (value : Bool)
  | number (value : ℚ)
  | string (value : τ)
  | array (items : List (JsonValue τ))
  | object (member? : τ → Option (JsonValue τ))

namespace Json

variable {τ : Type} [DecidableEq τ]

mutual

/-- What JSON says, however it is written. -/
def value : Json τ → JsonValue τ
  | null => .null
  | bool b => .bool b
  | number n => .number n.value
  | string s => .string s
  | array items => .array (itemValues items)
  | object members => .object (memberValue? members)

/-- The values of items, in their order. -/
def itemValues : List (Json τ) → List (JsonValue τ)
  | [] => []
  | item :: items => item.value :: itemValues items

/-- The value of the member with a key. Of several the last counts. -/
def memberValue? : List (τ × Json τ) → τ → Option (JsonValue τ)
  | [], _ => none
  | (k, v) :: members, key =>
    (memberValue? members key).or (if k = key then some v.value else none)

end

/-- Of two members with one key the later one counts. -/
example : memberValue? [("a", null (τ := String)), ("b", bool true), ("a", bool false)] "a" =
    some (.bool false) := rfl

end Json

/-! ### Diagnostics -/

namespace Diagnostic

open Json (memberValue?)

/-- **The members of a diagnostic.** What it lacks has none. -/
theorem memberValue?_members (d : Diagnostic) :
    memberValue? d.members "kind" = some (.string d.kind.name) ∧
      memberValue? d.members "message" = some (.string d.message) ∧
      memberValue? d.members "startIndex" = d.span.map (fun s ↦ .number s.start) ∧
      memberValue? d.members "endIndex" = d.span.map (fun s ↦ .number s.stop) ∧
      memberValue? d.members "value" = d.span.bind fun s ↦ s.text.map .string := by
  obtain ⟨kind, message, - | ⟨start, stop, - | text⟩⟩ := d <;>
    simp [members, Span.members, memberValue?, Json.value]

/-- **A diagnostic can be told from its form.** -/
theorem value_toJson_inj {d d' : Diagnostic} : d.toJson.value = d'.toJson.value ↔ d = d' := by
  refine ⟨fun h ↦ ?_, fun h ↦ h ▸ rfl⟩
  have hmembers : memberValue? d.members = memberValue? d'.members := JsonValue.object.inj h
  obtain ⟨hkind, hmessage, hstart, hstop, htext⟩ := d.memberValue?_members
  obtain ⟨hkind', hmessage', hstart', hstop', htext'⟩ := d'.memberValue?_members
  rw [hmembers] at hkind hmessage hstart hstop htext
  obtain ⟨kind, message, span⟩ := d
  obtain ⟨kind', message', span'⟩ := d'
  obtain rfl : kind = kind' := by simpa using hkind.symm.trans hkind'
  obtain rfl : message = message' := by simpa using hmessage.symm.trans hmessage'
  have hstarts := hstart.symm.trans hstart'
  have hstops := hstop.symm.trans hstop'
  have htexts := htext.symm.trans htext'
  rcases span with - | ⟨start, stop, text⟩ <;> rcases span' with - | ⟨start', stop', text'⟩
  · rfl
  · exact nomatch hstarts
  · exact nomatch hstarts
  · obtain rfl : start = start' := by simpa using hstarts
    obtain rfl : stop = stop' := by simpa using hstops
    obtain rfl : text = text' := Option.map_injective (fun _ _ ↦ JsonValue.string.inj) htexts
    rfl

end Diagnostic

/-! ### Verdicts -/

namespace Verdict

/-- **A verdict can be told from its form**, even one that no failure has. -/
theorem value_toJson_inj {v w : Verdict} : v.toJson.value = w.toJson.value ↔ v = w := by
  refine ⟨fun h ↦ ?_, fun h ↦ h ▸ rfl⟩
  cases v with
  | valid =>
    cases w with
    | valid => rfl
    | message _ | error _ => exact nomatch h
  | message text =>
    cases w with
    | message text' => exact congrArg message (JsonValue.string.inj h)
    | valid | error _ => exact nomatch h
  | error d =>
    cases w with
    | error d' => exact congrArg error (Diagnostic.value_toJson_inj.1 h)
    | valid | message _ => exact nomatch h

/-- **Nothing is lost on the way to an editor.** The verdict on a failure is never valid, has the
wording of the failure, and points into the text exactly if the failure is a diagnostic with a span.
Two verdicts whose forms have one value are equal, whether or not a failure has them. -/
theorem loses_nothing :
    (∀ f : Failure, ofFailure f ≠ valid ∧ (ofFailure f).message? = some f.message ∧
      ∀ d, ofFailure f = error d ↔ f = .diagnostic d ∧ d.span.isSome) ∧
    ∀ v w : Verdict, v.toJson.value = w.toJson.value ↔ v = w :=
  ⟨fun f ↦ ⟨ofFailure_ne_valid f, message?_ofFailure f, fun _ ↦ ofFailure_eq_error_iff⟩,
    fun _ _ ↦ value_toJson_inj⟩

end Verdict

end StreamFormula
