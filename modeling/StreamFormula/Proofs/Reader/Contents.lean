import StreamFormula.Proofs.Reader.Acceptance

/-!
# Reading loses nothing

A tree holds what its tokens say, in the same order: its leaves are made of the words among the
tokens (`Tree.words_of_read`), and its operators and signs are the operators among them
(`Tree.symbols_of_read`). Only parentheses leave no trace, those of a group because the tree shows
the grouping, those of a call because the leaf does.

Both are equations between lists, not statements about membership, so they also count, and they
say in which order calls and names are written.
-/

namespace StreamFormula

/-- The kind and text of a word; a symbol has none. -/
def Token.lexeme? : Token → Option (WordKind × String)
  | symbol _ _ => none
  | word w => some (w.kind, w.text)

@[simp] theorem Token.lexeme?_symbol (s : Symbol) (n : Nat) : (symbol s n).lexeme? = none := rfl

@[simp] theorem Token.lexeme?_word (w : Word) : (word w).lexeme? = some (w.kind, w.text) := rfl

/-- The words that a leaf was read from, with their kinds. -/
def Atom.words : Atom → List (WordKind × String)
  | number text => [(.number, text)]
  | stream name => [(.stream, name)]
  | call handle argument => [(.handle, handle), (.number, argument)]

namespace Tree

/-- The words of all leaves, from left to right. -/
def words (t : Tree) : List (WordKind × String) := t.atoms.flatMap Atom.words

/-- The operators and signs of a tree, from left to right as they are written. -/
def symbols : Tree → List Symbol
  | atom _ => []
  | binary op left right => left.symbols ++ op.symbol :: right.symbols
  | signed sign operand => sign.symbol :: operand.symbols

@[simp] theorem words_atom (a : Atom) : (atom a).words = a.words := by simp [words]

@[simp] theorem words_binary (op : BinaryOp) (l r : Tree) :
    (binary op l r).words = l.words ++ r.words := by simp [words]

@[simp] theorem words_signed (s : Sign) (t : Tree) : (signed s t).words = t.words := rfl

/-! ### Words and leaves -/

theorem mem_words {t : Tree} {word : WordKind × String} :
    word ∈ t.words ↔ ∃ a ∈ t.atoms, word ∈ a.words := List.mem_flatMap

/-- A stream name is a leaf of its own. -/
theorem stream_mem_words {t : Tree} {name : String} :
    (.stream, name) ∈ t.words ↔ .stream name ∈ t.atoms := by
  rw [mem_words]
  constructor
  · rintro ⟨a, ha, hword⟩
    cases a <;> simp_all [Atom.words]
  · exact fun h ↦ ⟨_, h, List.mem_singleton_self _⟩

/-- A handle belongs to a call. -/
theorem handle_mem_words {t : Tree} {handle : String} :
    (.handle, handle) ∈ t.words ↔ ∃ argument, .call handle argument ∈ t.atoms := by
  rw [mem_words]
  constructor
  · rintro ⟨a, ha, hword⟩
    cases a with
    | number text | stream name => simp [Atom.words] at hword
    | call handle' argument =>
      obtain rfl : handle = handle' := by simpa [Atom.words] using hword
      exact ⟨argument, ha⟩
  · rintro ⟨argument, h⟩
    exact ⟨_, h, List.mem_cons_self⟩

end Tree

variable {limit : Option Nat}

/-- **The words of a phrase are those of its tree**, in the same order. -/
theorem Derives.words_eq {phrase : Phrase} {d : Nat} {tokens : List Token} {t : Tree}
    (h : Derives limit phrase d tokens t) : t.words = tokens.filterMap Token.lexeme? := by
  induction h with
  | number w hw | stream w hw => simp [Atom.words, hw]
  | call handle argument m n hh ha => simp [Atom.words, List.filterMap_cons, hh, ha]
  | group m n hd _ ih => simp [List.filterMap_cons, ih]
  | signed s n hd _ ih => simp [List.filterMap_cons, ih]
  | ofFactor _ ih | ofTerm _ ih => exact ih
  | product op n hop _ _ hright ihl ihr | sum op n hop _ _ hright ihl ihr =>
    simp [List.filterMap_cons, ihl, ihr]

/-- **The operators of a phrase are those of its tree**, in the same order. -/
theorem Derives.symbols_eq {phrase : Phrase} {d : Nat} {tokens : List Token} {t : Tree}
    (h : Derives limit phrase d tokens t) :
    t.symbols = (tokens.filterMap Token.symbol?).filter Symbol.isOperator := by
  induction h with
  | number w hw | stream w hw => rfl
  | call handle argument m n hh ha => rfl
  | group m n hd _ ih => simp [Token.symbol?, Symbol.isOperator, ih]
  | signed s n hd _ ih => simp [Token.symbol?, Tree.symbols, ih]
  | ofFactor _ ih | ofTerm _ ih => exact ih
  | product op n hop _ _ hright ihl ihr | sum op n hop _ _ hright ihl ihr =>
    simp [Token.symbol?, Tree.symbols, ihl, ihr]

namespace Tree

variable {tokens : List Token} {t : Tree}

/-- What was read has the words of its tokens. -/
theorem words_of_read (h : Tree.read tokens = .ok (some t)) :
    t.words = tokens.filterMap Token.lexeme? :=
  (ofTokens?_eq_ok_iff.1 h).words_eq

/-- What was read has the operators of its tokens. -/
theorem symbols_of_read (h : Tree.read tokens = .ok (some t)) :
    t.symbols = (tokens.filterMap Token.symbol?).filter Symbol.isOperator :=
  (ofTokens?_eq_ok_iff.1 h).symbols_eq

/-- A word is in the tree exactly if it is among the tokens. -/
theorem mem_words_of_read (h : Tree.read tokens = .ok (some t)) {kind : WordKind} {text : String} :
    (kind, text) ∈ t.words ↔ ∃ w : Word, .word w ∈ tokens ∧ w.kind = kind ∧ w.text = text := by
  rw [words_of_read h, List.mem_filterMap]
  constructor
  · rintro ⟨token, htoken, hword⟩
    cases token with
    | symbol s n => exact nomatch hword
    | word w =>
      obtain ⟨rfl, rfl⟩ := Prod.mk.inj (Option.some.inj hword)
      exact ⟨w, htoken, rfl, rfl⟩
  · rintro ⟨w, hw, rfl, rfl⟩
    exact ⟨.word w, hw, rfl⟩

/-- An operator of the tree is among the tokens. -/
theorem exists_symbol_of_read (h : Tree.read tokens = .ok (some t)) {s : Symbol}
    (hs : s ∈ t.symbols) : ∃ n, .symbol s n ∈ tokens := by
  rw [symbols_of_read h, List.mem_filter, List.mem_filterMap] at hs
  obtain ⟨⟨token, htoken, hsymbol⟩, -⟩ := hs
  obtain ⟨n, rfl⟩ := Reader.exists_eq_symbol_of_symbol? hsymbol
  exact ⟨n, htoken⟩

end Tree

end StreamFormula
