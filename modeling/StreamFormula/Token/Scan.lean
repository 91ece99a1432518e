import StreamFormula.Token.Basic

/-!
# Scanning

The tokens of a formula text. A `Scanner` stands at an offset of the text, with the characters still
ahead, and `Scanner.next` yields one event: a token, or a fault. Nothing stops at a fault, so
`Scanner.events` lists everything that the text holds, and `Scanner.tokens` has tokens exactly when
no event is a fault. The fault of an author is a character that no token begins with; a word that
does not cover the characters it was read from would be a fault of the scanner.

Words are maximal runs. Which characters begin and continue a word is said once, by
`WordKind.ofFirst?` and `WordKind.continues`; `WordKind.fits` is the resulting class of texts. All
classes are ASCII, and the blanks are space, tab and newline only.
-/

namespace StreamFormula

/-! ### Character classes -/

/-- The characters that separate tokens and mean nothing else. -/
def isBlank (c : Char) : Bool := c == ' ' || c == '\t' || c == '\n'

namespace WordKind

/-- The kind of word that a character begins. -/
def ofFirst? (c : Char) : Option WordKind :=
  if c.isDigit || c == '.' then some number
  else if c.isAlpha then some stream
  else if c == '@' then some handle
  else none

/-- The characters that go on with a word: digits and dots in a number, letters otherwise. -/
def continues : WordKind → Char → Bool
  | number, c => c.isDigit || c == '.'
  | stream, c | handle, c => c.isAlpha

/-- The texts of a kind of word. -/
def fits (kind : WordKind) : List Char → Bool
  | [] => false
  | c :: cs => ofFirst? c == some kind && cs.all kind.continues

end WordKind

/-- A character that no token begins with, at its offset. -/
structure UnreadableCharacter where
  offset : Nat
  char : Char
  deriving DecidableEq

/-- The diagnostic of an unreadable character underlines it. -/
def UnreadableCharacter.diagnostic (u : UnreadableCharacter) : Diagnostic where
  kind := .syntaxError
  message := "Invalid character: " ++ String.singleton u.char
  span := some ⟨u.offset, u.offset + 1, some (String.singleton u.char)⟩

/-- Why a scanner cannot make a token. -/
inductive ScanFault where
  | unreadable (character : UnreadableCharacter)
  /-- A run of characters that does not cover its span. -/
  | misshapen (error : ShapeError)
  deriving DecidableEq

/-- The failure of a fault: only an unreadable character can be shown in the text. -/
def ScanFault.failure : ScanFault → Failure
  | unreadable character => .diagnostic character.diagnostic
  | misshapen error => .token error

/-- What a scanner finds next in a text. -/
abbrev ScanEvent := Except ScanFault Token

/-! ### Scanners -/

/-- A place in a formula text. -/
structure Scanner where
  /-- The offset of the next character. -/
  offset : Nat
  /-- The characters from that offset on. -/
  rest : List Char
  deriving DecidableEq

namespace Scanner

/-- The start of a text. -/
def ofString (text : String) : Scanner := ⟨0, text.toList⟩

/-- The word of a kind whose first character stands at an offset, with the place after it. The place
counts the characters as they are taken, and `Word.ofSpan?` holds the text of the word against it. -/
def readWord (kind : WordKind) (offset : Nat) (c : Char) (cs : List Char) : ScanEvent × Scanner :=
  let run := cs.takeWhile kind.continues
  let after : Scanner := ⟨offset + 1 + run.length, cs.dropWhile kind.continues⟩
  match Word.ofSpan? kind (String.ofList (c :: run)) offset after.offset with
  | .ok w => (.ok (.word w), after)
  | .error e => (.error (.misshapen e), after)

/-- The event at an offset whose character is no blank, with the place after it. -/
def read (offset : Nat) (c : Char) (cs : List Char) : ScanEvent × Scanner :=
  match Symbol.ofChar? c with
  | some s => (.ok (.symbol s offset), ⟨offset + 1, cs⟩)
  | none =>
    match WordKind.ofFirst? c with
    | some kind => readWord kind offset c cs
    | none => (.error (.unreadable ⟨offset, c⟩), ⟨offset + 1, cs⟩)

theorem rest_readWord (kind : WordKind) (offset : Nat) (c : Char) (cs : List Char) :
    (readWord kind offset c cs).2.rest = cs.dropWhile kind.continues := by
  unfold readWord
  dsimp only
  split <;> rfl

theorem length_rest_read_le (offset : Nat) (c : Char) (cs : List Char) :
    (read offset c cs).2.rest.length ≤ cs.length := by
  unfold read
  split
  · exact Nat.le_refl _
  · split
    · rw [rest_readWord]
      exact (List.dropWhile_sublist _).length_le
    · exact Nat.le_refl _

/-- The next event among the given characters, with the place after it. -/
def nextFrom (offset : Nat) : List Char → Option (ScanEvent × Scanner)
  | [] => none
  | c :: cs => if isBlank c then nextFrom (offset + 1) cs else some (read offset c cs)

/-- The next event, with the place after it; there is none at the end of the text. -/
def next (s : Scanner) : Option (ScanEvent × Scanner) := nextFrom s.offset s.rest

theorem length_rest_nextFrom_lt {offset : Nat} {cs : List Char} {event : ScanEvent} {s : Scanner}
    (h : nextFrom offset cs = some (event, s)) : s.rest.length < cs.length := by
  induction cs generalizing offset with
  | nil => simp [nextFrom] at h
  | cons c cs ih =>
    unfold nextFrom at h
    split at h
    · exact Nat.lt_succ_of_lt (ih h)
    · have hle := length_rest_read_le offset c cs
      rw [Option.some.inj h] at hle
      exact Nat.lt_succ_of_le hle

/-- Every event uses up text. -/
theorem length_rest_next_lt {s s' : Scanner} {event : ScanEvent} (h : s.next = some (event, s')) :
    s'.rest.length < s.rest.length :=
  length_rest_nextFrom_lt h

/-- All events from here to the end of the text. -/
def events (s : Scanner) : List ScanEvent :=
  match _h : s.next with
  | none => []
  | some (event, s') => event :: s'.events
termination_by s.rest.length
decreasing_by exact length_rest_next_lt _h

theorem events_of_next_eq_none {s : Scanner} (h : s.next = none) : s.events = [] := by
  rw [events]; split <;> simp_all

theorem events_of_next_eq_some {s s' : Scanner} {event : ScanEvent}
    (h : s.next = some (event, s')) : s.events = event :: s'.events := by
  rw [events]; split <;> simp_all

/-- The tokens from here to the end of the text, or the first fault. -/
def tokens (s : Scanner) : Except ScanFault (List Token) := s.events.mapM id

/-- The answers to a number of requests for the next event, with the place after them. A request
at the end of the text changes nothing. -/
def requests : Nat → Scanner → List (Option ScanEvent) × Scanner
  | 0, s => ([], s)
  | n + 1, s =>
    match s.next with
    | none => let (events, last) := requests n s; (none :: events, last)
    | some (event, s') => let (events, last) := requests n s'; (some event :: events, last)

end Scanner

/-- The tokens of a formula text, or its first fault. -/
def Token.scan (text : String) : Except ScanFault (List Token) :=
  (Scanner.ofString text).tokens

end StreamFormula
