import StreamFormula.Diagnostic

/-!
# Tokens

A token is a *symbol*, one character that says everything about it, or a *word*, which carries the
text it was read from. The text of a word is never empty, and its extent is the length of that text:
`Word.stop` is computed, so a word whose span disagrees with its text cannot be built, and
`Word.ofSpan?` says which of the two faults a proposed span has.

`Token.render` writes tokens with one blank between neighbours, which is enough to keep them apart.
-/

namespace StreamFormula

/-- A token that is one character. -/
inductive Symbol where
  | plus
  | minus
  | star
  | slash
  | openParen
  | closeParen
  deriving DecidableEq

/-- What a word stands for. -/
inductive WordKind where
  | number
  | stream
  | handle
  deriving DecidableEq

/-! ### Symbols -/

namespace Symbol

/-- All symbols. -/
def all : List Symbol := [plus, minus, star, slash, openParen, closeParen]

/-- The character of a symbol. -/
def char : Symbol → Char
  | plus => '+'
  | minus => '-'
  | star => '*'
  | slash => '/'
  | openParen => '('
  | closeParen => ')'

/-- The symbol of a character. -/
def ofChar? (c : Char) : Option Symbol := all.find? fun s ↦ s.char == c

/-- The text of a symbol. -/
def text (s : Symbol) : String := String.singleton s.char

/-- The name of a symbol's kind. -/
def label : Symbol → String
  | plus => "PLUS"
  | minus => "MINUS"
  | star => "MULTIPLY"
  | slash => "DIVIDE"
  | openParen => "LPAREN"
  | closeParen => "RPAREN"

/-- The four arithmetic operators; parentheses are none. -/
def isOperator : Symbol → Bool
  | plus | minus | star | slash => true
  | openParen | closeParen => false

@[simp] theorem mem_all (s : Symbol) : s ∈ all := by cases s <;> decide

@[simp] theorem ofChar?_char (s : Symbol) : ofChar? s.char = some s := by cases s <;> decide

theorem ofChar?_eq_some_iff {c : Char} {s : Symbol} : ofChar? c = some s ↔ s.char = c :=
  ⟨fun h ↦ by simpa using List.find?_some h, fun h ↦ h ▸ ofChar?_char s⟩

theorem ofChar?_eq_none_iff {c : Char} : ofChar? c = none ↔ ∀ s : Symbol, s.char ≠ c := by
  simp [ofChar?]

end Symbol

/-! ### Words -/

/-- The name of a kind of word. -/
def WordKind.label : WordKind → String
  | number => "NUMBER"
  | stream => "STREAM"
  | handle => "FUNCTION_HANDLE"

/-- A number, a stream name or a function handle, with the text it was read from. -/
structure Word where
  kind : WordKind
  text : String
  /-- The offset of the first character. -/
  start : Nat
  text_ne : text ≠ ""
  deriving DecidableEq

/-- Why a text and a span do not make a word. The label is the name of the kind; a hand-built error
may carry any other. -/
inductive ShapeError where
  /-- There is no text. -/
  | emptyText (label : String)
  /-- The text, of the given length, does not cover the span. -/
  | spanMismatch (label text : String) (length start stop : Nat)
  deriving DecidableEq

/-- The wording of a shape error. -/
def ShapeError.message : ShapeError → String
  | emptyText label => label ++ " token value must not be empty"
  | spanMismatch label text length start stop =>
    label ++ " token value \"" ++ text ++ "\" has length " ++ toString length ++
      " but spans " ++ toString start ++ ".." ++ toString stop

/-- Anything that can go wrong with a formula or with a hand-built token. -/
inductive Failure where
  | diagnostic (diagnostic : Diagnostic)
  | token (error : ShapeError)
  deriving DecidableEq

/-- The wording of a failure. -/
def Failure.message : Failure → String
  | diagnostic d => d.message
  | token e => "Invalid token: " ++ e.message

namespace Word

/-- The offset after the last character. -/
def stop (w : Word) : Nat := w.start + w.text.length

/-- The word with the given text and span. A missing text is reported before a span that the text
does not cover. -/
def ofSpan? (kind : WordKind) (text : String) (start stop : Nat) : Except ShapeError Word :=
  if h : text = "" then .error (.emptyText kind.label)
  else if stop = start + text.length then .ok ⟨kind, text, start, h⟩
  else .error (.spanMismatch kind.label text text.length start stop)

theorem ofSpan?_eq_ok_iff {kind : WordKind} {text : String} {start stop : Nat} {w : Word} :
    ofSpan? kind text start stop = .ok w ↔
      w.kind = kind ∧ w.text = text ∧ w.start = start ∧ w.stop = stop := by
  obtain ⟨k, t, s, ht⟩ := w
  unfold ofSpan?
  split
  · next h =>
    subst h
    simp only [reduceCtorEq, false_iff, not_and]
    rintro - rfl
    exact absurd rfl ht
  · split
    · next h => subst h; simp only [Except.ok.injEq, mk.injEq, Word.stop]; grind
    · simp only [reduceCtorEq, false_iff, Word.stop]; grind

end Word

/-! ### Tokens -/

/-- The smallest unit of a formula. -/
inductive Token where
  | symbol (symbol : Symbol) (start : Nat)
  | word (word : Word)
  deriving DecidableEq

namespace Token

/-- The offset of the first character. -/
def start : Token → Nat
  | symbol _ start => start
  | word w => w.start

/-- The offset after the last character. -/
def stop : Token → Nat
  | symbol _ start => start + 1
  | word w => w.stop

/-- The text that the token stands for in a formula. -/
def text : Token → String
  | symbol s _ => s.text
  | word w => w.text

/-- The symbol of a token that is one. -/
def symbol? : Token → Option Symbol
  | symbol s _ => some s
  | word _ => none

/-- The text of a word; a symbol carries none. -/
def wordText? : Token → Option String
  | symbol _ _ => none
  | word w => some w.text

/-- The name of the token's kind. -/
def label : Token → String
  | symbol s _ => s.label
  | word w => w.kind.label

/-- The four arithmetic operators. -/
def isOperator : Token → Bool
  | symbol s _ => s.isOperator
  | word _ => false

/-- The range of the token, for a diagnostic. -/
def span (t : Token) : Span := ⟨t.start, t.stop, some t.text⟩

@[simp] theorem start_symbol (s : Symbol) (n : Nat) : (symbol s n).start = n := rfl
@[simp] theorem start_word (w : Word) : (word w).start = w.start := rfl
@[simp] theorem stop_symbol (s : Symbol) (n : Nat) : (symbol s n).stop = n + 1 := rfl
@[simp] theorem stop_word (w : Word) : (word w).stop = w.stop := rfl
@[simp] theorem text_symbol (s : Symbol) (n : Nat) : (symbol s n).text = s.text := rfl
@[simp] theorem text_word (w : Word) : (word w).text = w.text := rfl
@[simp] theorem isOperator_symbol (s : Symbol) (n : Nat) :
    (symbol s n).isOperator = s.isOperator := rfl
@[simp] theorem isOperator_word (w : Word) : (word w).isOperator = false := rfl

/-- A token covers exactly its text. -/
theorem stop_eq_start_add_length (t : Token) : t.stop = t.start + t.text.length := by
  cases t with
  | symbol s n => simp [Symbol.text]
  | word w => rfl

/-- Tokens as formula text, one blank between neighbours. -/
def render (tokens : List Token) : String := " ".intercalate (tokens.map text)

@[simp] theorem render_nil : render [] = "" := rfl

/-- The characters of rendered tokens. -/
theorem toList_render (tokens : List Token) :
    (render tokens).toList = [' '].intercalate (tokens.map fun t ↦ t.text.toList) := by
  simp [render, Function.comp_def]

end Token

end StreamFormula
