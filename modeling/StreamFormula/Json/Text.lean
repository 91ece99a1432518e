/-!
# The text of JSON strings

Between its quotes a JSON string holds characters and escapes. The escape `\u` with four hexadecimal
digits names a 16-bit unit, and a character beyond that range is written as two of them, a high and
a low surrogate. So the text is found in two steps: the string is split into pieces, and the pieces
are decoded, which fails where a surrogate has no partner.
-/

namespace StreamFormula.JsonText

/-- A piece of a JSON string: a character, or a unit that an escape names. -/
inductive Piece where
  | char (c : Char)
  | unit (n : Nat)
  deriving DecidableEq

/-- The value of a hexadecimal digit. -/
def hexValue? (c : Char) : Option Nat :=
  if c.isDigit then some (c.toNat - '0'.toNat)
  else if 'a' ≤ c ∧ c ≤ 'f' then some (c.toNat - 'a'.toNat + 10)
  else if 'A' ≤ c ∧ c ≤ 'F' then some (c.toNat - 'A'.toNat + 10)
  else none

/-- The unit that four hexadecimal digits name. -/
def unit? (a b c d : Char) : Option Nat := do
  return 4096 * (← hexValue? a) + 256 * (← hexValue? b) + 16 * (← hexValue? c) + (← hexValue? d)

/-- The character that an escape of one letter names. -/
def escape? : Char → Option Char
  | '"' => some '"'
  | '\\' => some '\\'
  | '/' => some '/'
  | 'b' => some '\x08'
  | 'f' => some '\x0c'
  | 'n' => some '\n'
  | 'r' => some '\r'
  | 't' => some '\t'
  | _ => none

/-- One piece more at the front. -/
def prepend (p : Piece) (found : List Piece × List Char) : List Piece × List Char :=
  (p :: found.1, found.2)

/-- The pieces up to the closing quote, with the characters after it. Control characters may not
stand in a string unescaped. -/
def pieces? : List Char → Option (List Piece × List Char)
  | [] => none
  | '"' :: rest => some ([], rest)
  | '\\' :: 'u' :: a :: b :: c :: d :: rest =>
    match unit? a b c d with
    | some n => (pieces? rest).map (prepend (.unit n))
    | none => none
  | '\\' :: c :: rest =>
    match escape? c with
    | some e => (pieces? rest).map (prepend (.char e))
    | none => none
  | c :: rest =>
    if c.toNat < 0x20 ∨ c = '\\' then none else (pieces? rest).map (prepend (.char c))

theorem length_lt_of_map_prepend {p : Piece} {found : Option (List Piece × List Char)} {n : Nat}
    {rest : List Char} {pieces : List Piece} (h : found.map (prepend p) = some (pieces, rest))
    (ih : ∀ {rest pieces}, found = some (pieces, rest) → rest.length < n) : rest.length < n := by
  obtain ⟨⟨pieces', rest'⟩, hf, he⟩ := Option.map_eq_some_iff.1 h
  obtain ⟨-, rfl⟩ := Prod.mk.inj he
  exact ih hf

/-- Reading a string uses up its closing quote at least. -/
theorem length_pieces?_lt {cs rest : List Char} {pieces : List Piece}
    (h : pieces? cs = some (pieces, rest)) : rest.length < cs.length := by
  fun_induction pieces? cs generalizing pieces rest with
  | case1 => simp at h
  | case2 => simp_all
  | case3 a b c d tail n hn ih =>
    have := length_lt_of_map_prepend h ih
    simp only [List.length_cons]
    omega
  | case4 => simp at h
  | case5 c tail _ e he ih =>
    have := length_lt_of_map_prepend h ih
    simp only [List.length_cons]
    omega
  | case6 => simp at h
  | case7 => simp at h
  | case8 c tail _ _ _ _ ih =>
    have := length_lt_of_map_prepend h ih
    simp only [List.length_cons]
    omega

/-- The first unit of a pair. -/
def isHighSurrogate (n : Nat) : Bool := 0xD800 ≤ n && n < 0xDC00

/-- The second unit of a pair. -/
def isLowSurrogate (n : Nat) : Bool := 0xDC00 ≤ n && n < 0xE000

/-- The characters that pieces stand for, unless a surrogate has no partner. -/
def decode? : List Piece → Option (List Char)
  | [] => some []
  | .char c :: rest => (decode? rest).map (c :: ·)
  | .unit high :: .unit low :: rest =>
    if isHighSurrogate high && isLowSurrogate low then
      (decode? rest).map (Char.ofNat (0x10000 + 0x400 * (high - 0xD800) + (low - 0xDC00)) :: ·)
    else if isHighSurrogate high || isLowSurrogate high then none
    else (decode? (.unit low :: rest)).map (Char.ofNat high :: ·)
  | .unit n :: rest =>
    if isHighSurrogate n || isLowSurrogate n then none
    else (decode? rest).map (Char.ofNat n :: ·)

end StreamFormula.JsonText
