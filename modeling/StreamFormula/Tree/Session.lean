import StreamFormula.Tree.Reader

/-!
# Reading sessions

One list of tokens, read again and again. A session remembers where the last reading stopped and how
deep it was there, and the next reading begins anew at that place with that depth: signs and
parentheses that a failed reading had entered stay counted. A session over no tokens has nothing to
say, and one at the end of its tokens fails there each time.
-/

namespace StreamFormula

/-- A list of tokens with the place where reading goes on. -/
structure Session where
  tokens : List Token
  /-- How many tokens have been taken. -/
  position : Nat
  /-- How many signs and parentheses were entered and not left. -/
  depth : Nat
  deriving DecidableEq

namespace Session

/-- A session at the start of its tokens. -/
def ofTokens (tokens : List Token) : Session := ⟨tokens, 0, 0⟩

/-- The tokens not yet taken. -/
def rest (s : Session) : List Token := s.tokens.drop s.position

@[simp] theorem rest_ofTokens (tokens : List Token) : (ofTokens tokens).rest = tokens := rfl

/-- Reads once, with the session afterwards. -/
def read (limit : Option Nat) (s : Session) : Except ReadFault (Option Tree) × Session :=
  match s.tokens.getLast? with
  | none => (.ok none, s)
  | some last =>
    let reading := (Reader.start s.depth).run limit last s.rest
    (reading.result.map some,
      ⟨s.tokens, s.tokens.length - reading.rest.length, reading.depth⟩)

/-- Reads a number of times. -/
def reads (limit : Option Nat) : Nat → Session → List (Except ReadFault (Option Tree)) × Session
  | 0, s => ([], s)
  | n + 1, s =>
    let (result, s') := s.read limit
    let (results, last) := reads limit n s'
    (result :: results, last)

/-- The first reading of a session is the tree of its tokens. -/
theorem read_ofTokens (limit : Option Nat) (tokens : List Token) :
    ((ofTokens tokens).read limit).1 = Tree.ofTokens? limit tokens := by
  unfold read Tree.ofTokens? ofTokens
  split <;> simp_all [rest]

end Session

end StreamFormula
