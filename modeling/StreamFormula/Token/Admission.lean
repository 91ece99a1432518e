import StreamFormula.Token.Basic
import StreamFormula.Vocabulary

/-!
# Admission of tokens

Before a formula is read, each of its words is held against the vocabulary in force: a numeral has
at most one dot, a stream is the exact spelling of a usable stream, and a handle calls a usable
function. Symbols are always admitted. Of several refused tokens the leftmost is reported
(`Vocabulary.firstRefused?`), whatever the grammar would say about the tokens before it.
-/

namespace StreamFormula

/-- Why a word is refused. -/
inductive Refusal where
  /-- A numeral with two or more dots. -/
  | malformedNumber (text : String)
  /-- A stream that is not usable. -/
  | unselectedStream (name : String)
  /-- A name that no stream has. -/
  | unknownName (text : String)
  /-- A handle that calls no usable function. -/
  | unavailableFunction (handle : String)
  deriving DecidableEq

/-- The wording of a refusal. -/
def Refusal.message : Refusal → String
  | malformedNumber text => "Invalid number: " ++ text
  | unselectedStream name => name ++ " stream needs to be selected as an input to be used"
  | unknownName text => "Invalid value: " ++ text
  | unavailableFunction handle => handle ++ " function is not available"

/-- Why a word of the given kind and text is refused, if it is. -/
def WordKind.refusal? (v : Vocabulary) : WordKind → String → Option Refusal
  | number, text => if text.toList.count '.' ≤ 1 then none else some (.malformedNumber text)
  | stream, text =>
    match Stream.ofName? text with
    | some s => if s ∈ v.streams then none else some (.unselectedStream text)
    | none => some (.unknownName text)
  | handle, text =>
    if (Builtin.ofSymbol? text).any (· ∈ v.functions) then none
    else some (.unavailableFunction text)

namespace WordKind

variable {v : Vocabulary} {text : String}

theorem refusal?_number_eq_none_iff :
    number.refusal? v text = none ↔ text.toList.count '.' ≤ 1 := by
  simp [refusal?]

theorem refusal?_stream_eq_none_iff :
    stream.refusal? v text = none ↔ ∃ s ∈ v.streams, s.name = text := by
  rw [refusal?]
  simp only [← Stream.ofName?_eq_some_iff]
  rcases Stream.ofName? text with - | s
  · simp
  · simp

theorem refusal?_handle_eq_none_iff :
    handle.refusal? v text = none ↔ ∃ f ∈ v.functions, f.symbol = text := by
  have hany : (Builtin.ofSymbol? text).any (· ∈ v.functions) = true ↔
      ∃ f ∈ v.functions, f.symbol = text := by
    simp only [Option.any_eq_true, Builtin.ofSymbol?_eq_some_iff, decide_eq_true_eq, and_comm]
  rw [refusal?, ← hany]
  split
  · next h => exact iff_of_true rfl h
  · next h => exact iff_of_false nofun h

end WordKind

/-- Why a token is refused, if it is. -/
def Token.refusal? (v : Vocabulary) : Token → Option Refusal
  | symbol _ _ => none
  | word w => w.kind.refusal? v w.text

/-- A token with the reason why it is refused. -/
structure RefusedToken where
  token : Token
  reason : Refusal
  deriving DecidableEq

/-- The diagnostic of a refused token underlines it. -/
def RefusedToken.diagnostic (r : RefusedToken) : Diagnostic where
  kind := .valueError
  message := r.reason.message
  span := some r.token.span

namespace Vocabulary

/-- The leftmost token that the vocabulary refuses. -/
def firstRefused? (v : Vocabulary) (tokens : List Token) : Option RefusedToken :=
  tokens.findSome? fun t ↦ (t.refusal? v).map (RefusedToken.mk t)

@[simp] theorem firstRefused?_nil (v : Vocabulary) : v.firstRefused? [] = none := rfl

/-- Nothing is refused exactly when each token is admitted. -/
theorem firstRefused?_eq_none_iff {v : Vocabulary} {tokens : List Token} :
    v.firstRefused? tokens = none ↔ ∀ t ∈ tokens, t.refusal? v = none := by
  simp [firstRefused?]

/-- The refused token is the leftmost one, with its own reason. -/
theorem firstRefused?_eq_some_iff {v : Vocabulary} {tokens : List Token} {r : RefusedToken} :
    v.firstRefused? tokens = some r ↔
      r.token.refusal? v = some r.reason ∧
        ∃ before after, tokens = before ++ r.token :: after ∧
          ∀ t ∈ before, t.refusal? v = none := by
  obtain ⟨token, reason⟩ := r
  rw [firstRefused?, List.findSome?_eq_some_iff]
  constructor
  · rintro ⟨before, t, after, rfl, h, hbefore⟩
    obtain ⟨reason', hr, hmk⟩ := Option.map_eq_some_iff.1 h
    obtain ⟨rfl, rfl⟩ := RefusedToken.mk.inj hmk
    exact ⟨hr, before, after, rfl, fun u hu ↦ Option.map_eq_none_iff.1 (hbefore u hu)⟩
  · rintro ⟨h, before, after, rfl, hbefore⟩
    exact ⟨before, token, after, rfl, by simp_all, fun u hu ↦ by simp [hbefore u hu]⟩

end Vocabulary

end StreamFormula
