import StreamFormula.Token.Scan

/-!
# Layouts

How tokens lie in a text, said without a scanner. `Layout origin text tokens` is about a text whose
first character has the offset `origin`: the tokens stand in it one after the other, each has the
text of its place, what lies between them is blank, and no word could be read any further. A layout
of a text is exactly what scanning finds (`Scanner.tokens_eq_ok_iff_layout`), so a text has at most
one layout, and a text of legal characters has one (`Token.exists_scan_eq_ok`).

The definition speaks of all tokens at once, by their offsets, and not of one token after the other.
The two facts that lead from one to the other peel the text from the front: a blank in front moves
the origin (`layout_blank_iff`), and what is not blank begins with the first token
(`Token.Heads.layout_cons_iff`).
-/

namespace StreamFormula

/-! ### Legal characters -/

/-- The characters that formulas are written in. -/
def isLegal (c : Char) : Bool :=
  c.isDigit || c == '.' || c.isAlpha || c == '@' ||
    ['+', '-', '*', '/', '(', ')'].contains c || [' ', '\t', '\n'].contains c

theorem isBlank_eq (c : Char) : isBlank c = [' ', '\t', '\n'].contains c := by
  rw [isBlank, List.contains_cons, List.contains_cons, List.contains_cons, List.contains_nil,
    Bool.or_false, Bool.or_assoc]

theorem isDigit_of_isAlpha {c : Char} (h : c.isAlpha = true) : c.isDigit = false := by
  rw [Bool.eq_false_iff]
  intro hdigit
  have hnine : c.val.toNat ≤ 57 := of_decide_eq_true (Bool.and_eq_true_iff.1 hdigit).2
  rcases Bool.or_eq_true_iff.1 h with h | h
  · have hupper : 65 ≤ c.val.toNat := (of_decide_eq_true h).1
    omega
  · have hlower : 97 ≤ c.val.toNat := of_decide_eq_true (Bool.and_eq_true_iff.1 h).1
    omega

theorem WordKind.isSome_ofFirst? (c : Char) :
    (ofFirst? c).isSome = (c.isDigit || c == '.' || c.isAlpha || c == '@') := by
  unfold ofFirst?
  cases c.isDigit || c == '.' <;> cases c.isAlpha <;> cases c == '@' <;> rfl

theorem Symbol.isSome_ofChar? (c : Char) :
    (ofChar? c).isSome = ['+', '-', '*', '/', '(', ')'].contains c := by
  have h : (ofChar? c).isSome = true ↔ c ∈ all.map char := by
    rw [Option.isSome_iff_exists, List.mem_map]
    simp only [ofChar?_eq_some_iff, mem_all, true_and]
  rw [Bool.eq_iff_iff, h, List.contains_iff_mem]
  rfl

/-- The legal characters are those that a scanner knows what to do with. -/
theorem isLegal_eq (c : Char) :
    isLegal c = ((WordKind.ofFirst? c).isSome || (Symbol.ofChar? c).isSome || isBlank c) := by
  rw [WordKind.isSome_ofFirst?, Symbol.isSome_ofChar?, isBlank_eq]
  rfl

/-- The characters that a word goes on with could begin one. -/
theorem WordKind.isSome_ofFirst?_of_continues {kind : WordKind} {c : Char}
    (h : kind.continues c = true) : (ofFirst? c).isSome = true := by
  rw [isSome_ofFirst?]
  cases kind with
  | number => rw [Bool.or_assoc, show (c.isDigit || c == '.') = true from h, Bool.true_or]
  | stream | handle => rw [show c.isAlpha = true from h, Bool.or_true, Bool.true_or]

/-- A blank begins no word. -/
theorem WordKind.ofFirst?_of_isBlank {c : Char} (h : isBlank c = true) : ofFirst? c = none := by
  simp only [isBlank, Bool.or_eq_true, beq_iff_eq] at h
  rcases h with (rfl | rfl) | rfl <;> rfl

@[simp] theorem Symbol.toList_text (s : Symbol) : s.text.toList = [s.char] := by simp [text]

/-- A blank is no symbol. -/
theorem Symbol.ofChar?_of_isBlank {c : Char} (h : isBlank c = true) : ofChar? c = none := by
  have hchar : ∀ s : Symbol, isBlank s.char = false := by intro s; cases s <;> rfl
  refine ofChar?_eq_none_iff.2 fun s hs ↦ ?_
  rw [← hs, hchar] at h
  exact nomatch h

/-- A character that begins a word is no symbol. -/
theorem Symbol.ofChar?_of_ofFirst? {c : Char} {kind : WordKind}
    (h : WordKind.ofFirst? c = some kind) : ofChar? c = none := by
  have hchar : ∀ s : Symbol, WordKind.ofFirst? s.char = none := by intro s; cases s <;> rfl
  refine ofChar?_eq_none_iff.2 fun s hs ↦ ?_
  rw [← hs, hchar] at h
  exact nomatch h

/-! ### Texts of tokens -/

namespace WordKind

/-- The texts of each kind of word: a run of digits and dots, a run of letters, or an at sign with
any run of letters. -/
def Spells : WordKind → List Char → Prop
  | number, text => text ≠ [] ∧ ∀ c ∈ text, c.isDigit = true ∨ c = '.'
  | stream, text => text ≠ [] ∧ ∀ c ∈ text, c.isAlpha = true
  | handle, text => ∃ letters, text = '@' :: letters ∧ ∀ c ∈ letters, c.isAlpha = true

theorem ofFirst?_eq_number_iff {c : Char} :
    ofFirst? c = some number ↔ c.isDigit = true ∨ c = '.' := by
  unfold ofFirst?
  cases hnumber : c.isDigit || c == '.' with
  | true => simpa using hnumber
  | false =>
    have hnot : ¬ (c.isDigit = true ∨ c = '.') := by simpa using hnumber
    simp only [Bool.false_eq_true, if_false, hnot, iff_false]
    cases c.isAlpha <;> cases c == '@' <;> exact nofun

theorem ofFirst?_eq_stream_iff {c : Char} : ofFirst? c = some stream ↔ c.isAlpha = true := by
  unfold ofFirst?
  cases halpha : c.isAlpha with
  | true =>
    have hdot : (c == '.') = false := by
      rw [beq_eq_false_iff_ne]
      rintro rfl
      exact nomatch halpha
    rw [isDigit_of_isAlpha halpha, hdot]
    simp
  | false => cases c.isDigit || c == '.' <;> cases c == '@' <;> simp

theorem ofFirst?_eq_handle_iff {c : Char} : ofFirst? c = some handle ↔ c = '@' := by
  constructor
  · intro h
    unfold ofFirst? at h
    cases hat : c == '@' with
    | true => exact beq_iff_eq.1 hat
    | false =>
      rw [hat] at h
      cases hnumber : c.isDigit || c == '.' <;> cases halpha : c.isAlpha <;>
        simp [hnumber, halpha] at h
  · rintro rfl
    rfl

/-- The texts of a kind are those that begin and go on as a scanner reads them. -/
theorem spells_cons_iff {kind : WordKind} {c : Char} {cs : List Char} :
    kind.Spells (c :: cs) ↔ ofFirst? c = some kind ∧ ∀ d ∈ cs, kind.continues d = true := by
  cases kind with
  | number =>
    have hcontinues : ∀ d : Char, number.continues d = true ↔ d.isDigit = true ∨ d = '.' := by
      simp [continues]
    simp only [Spells, ofFirst?_eq_number_iff, hcontinues, List.forall_mem_cons, ne_eq,
      reduceCtorEq, not_false_eq_true, true_and]
  | stream =>
    simp only [Spells, ofFirst?_eq_stream_iff, continues, List.forall_mem_cons, ne_eq,
      reduceCtorEq, not_false_eq_true, true_and]
  | handle =>
    rw [ofFirst?_eq_handle_iff]
    constructor
    · rintro ⟨letters, h, hletters⟩
      obtain ⟨rfl, rfl⟩ := List.cons.inj h
      exact ⟨rfl, hletters⟩
    · rintro ⟨rfl, hletters⟩
      exact ⟨cs, rfl, hletters⟩

theorem fits_iff_spells {kind : WordKind} {text : List Char} :
    kind.fits text = true ↔ kind.Spells text := by
  cases text with
  | nil => cases kind <;> simp [fits, Spells]
  | cons c cs =>
    rw [spells_cons_iff]
    simp [fits]

instance (kind : WordKind) (text : List Char) : Decidable (kind.Spells text) :=
  decidable_of_iff (kind.fits text = true) fits_iff_spells

/-- A number needs no digit and a handle no letter. -/
example : number.Spells ['.', '.'] ∧ handle.Spells ['@'] ∧ ¬ stream.Spells [] := by decide

end WordKind

namespace Token

/-- The text of a token is one of its kind. A symbol has no choice of text. -/
def Fits : Token → Prop
  | symbol _ _ => True
  | word w => w.kind.Spells w.text.toList

/-- A character that would belong to the token if it stood right behind it: a digit or a dot behind
a number, a letter behind a stream or a handle. -/
def continues : Token → Char → Bool
  | symbol _ _, _ => false
  | word w, c =>
    match w.kind with
    | .number => c.isDigit || c == '.'
    | .stream | .handle => c.isAlpha

theorem continues_word (w : Word) (c : Char) : (word w).continues c = w.kind.continues c := by
  rw [continues]
  cases w.kind <;> rfl

theorem length_text_pos (t : Token) : 0 < t.text.length := by
  cases t with
  | symbol s n =>
    rw [text_symbol, ← String.length_toList, Symbol.toList_text]
    exact Nat.one_pos
  | word w =>
    rw [text_word, ← String.length_toList, List.length_pos_iff]
    exact fun h ↦ w.text_ne (String.toList_eq_nil_iff.1 h)

theorem start_lt_stop (t : Token) : t.start < t.stop := by
  rw [stop_eq_start_add_length]
  exact Nat.lt_add_of_pos_right t.length_text_pos

theorem le_stop_of_le_start {t : Token} {i : Nat} (h : i ≤ t.start) : i ≤ t.stop :=
  Nat.le_trans h (Nat.le_of_lt t.start_lt_stop)

/-- The characters of a token that fits are those of words and symbols. -/
theorem isSome_of_mem_text {t : Token} (hfits : t.Fits) {c : Char}
    (hc : c ∈ t.text.toList) :
    ((WordKind.ofFirst? c).isSome || (Symbol.ofChar? c).isSome) = true := by
  cases t with
  | symbol s n =>
    obtain rfl : c = s.char := by simpa using hc
    rw [Symbol.ofChar?_char, Option.isSome_some, Bool.or_true]
  | word w =>
    rw [text_word] at hc
    rw [Fits] at hfits
    rcases htext : w.text.toList with - | ⟨d, ds⟩
    · rw [htext] at hc
      exact nomatch hc
    · rw [htext, WordKind.spells_cons_iff] at hfits
      rw [htext] at hc
      rcases List.mem_cons.1 hc with rfl | hc
      · rw [hfits.1, Option.isSome_some, Bool.true_or]
      · rw [WordKind.isSome_ofFirst?_of_continues (hfits.2 c hc), Bool.true_or]

/-- The characters of a token that fits are legal. -/
theorem isLegal_of_mem_text {t : Token} (hfits : t.Fits) {c : Char}
    (hc : c ∈ t.text.toList) : isLegal c = true := by
  rw [isLegal_eq, isSome_of_mem_text hfits hc, Bool.true_or]

/-- The characters of a token that fits are no blanks. -/
theorem isBlank_of_mem_text {t : Token} (hfits : t.Fits) {c : Char}
    (hc : c ∈ t.text.toList) : isBlank c = false := by
  rw [Bool.eq_false_iff]
  intro hblank
  have hsome := isSome_of_mem_text hfits hc
  rw [WordKind.ofFirst?_of_isBlank hblank, Symbol.ofChar?_of_isBlank hblank] at hsome
  exact nomatch hsome

/-- The token stands at the front of a text and reaches as far as it can; `rest` is left. -/
structure Heads (t : Token) (origin : Nat) (text rest : List Char) : Prop where
  start_eq : t.start = origin
  text_eq : text = t.text.toList ++ rest
  fits : t.Fits
  maximal : ∀ c ∈ rest.head?, t.continues c = false

theorem Heads.length_lt {t : Token} {origin : Nat} {text rest : List Char}
    (h : t.Heads origin text rest) : rest.length < text.length := by
  rw [h.text_eq, List.length_append, String.length_toList]
  exact Nat.lt_add_of_pos_left t.length_text_pos

/-- A token at the front of a text ends before the next illegal character. -/
theorem Heads.exists_append_of_head?_not_isLegal {t : Token} {origin : Nat}
    {before rest after : List Char} (h : t.Heads origin (before ++ rest) after)
    (hrest : ∀ c ∈ rest.head?, isLegal c = false) :
    ∃ more, before = t.text.toList ++ more ∧ after = more ++ rest := by
  rcases List.append_eq_append_iff.1 h.text_eq with ⟨extra, hextra, hafter⟩ | h
  · rcases extra with - | ⟨c, extra⟩
    · rw [List.append_nil] at hextra
      exact ⟨[], by rw [hextra, List.append_nil], hafter.symm⟩
    · have hc : c ∈ t.text.toList := by
        rw [hextra]
        exact List.mem_append_right _ List.mem_cons_self
      have hlegal := Token.isLegal_of_mem_text h.fits hc
      rw [hrest c (by rw [hafter]; rfl)] at hlegal
      exact nomatch hlegal
  · exact h

end Token

/-! ### Layouts -/

/-- The tokens lie in the text, whose first character has the offset `origin`. -/
structure Layout (origin : Nat) (text : List Char) (tokens : List Token) : Prop where
  origin_le : ∀ t ∈ tokens, origin ≤ t.start
  /-- The tokens follow one another and do not overlap. -/
  ordered : tokens.Pairwise fun t u ↦ t.stop ≤ u.start
  /-- A token has the text of its place. -/
  slice : ∀ t ∈ tokens, (text.drop (t.start - origin)).take (t.stop - t.start) = t.text.toList
  fits : ∀ t ∈ tokens, t.Fits
  /-- A character outside all tokens is blank. -/
  blank : ∀ i c, text[i]? = some c → (∀ t ∈ tokens, origin + i < t.start ∨ t.stop ≤ origin + i) →
    isBlank c = true
  /-- No token could go on with the character behind it. -/
  maximal : ∀ t ∈ tokens, ∀ c, text[t.stop - origin]? = some c → t.continues c = false

/-- Tokens that begin at different offsets are told apart by these. -/
theorem Token.index_eq_of_start_eq {tokens : List Token} (h : (tokens.map Token.start).Nodup)
    {i j : Nat} {t u : Token} (hi : tokens[i]? = some t) (hj : tokens[j]? = some u)
    (hstart : t.start = u.start) : i = j := by
  have hi' : (tokens.map Token.start)[i]? = some t.start := by rw [List.getElem?_map, hi]; rfl
  have hj' : (tokens.map Token.start)[j]? = some u.start := by rw [List.getElem?_map, hj]; rfl
  exact (List.getElem?_inj (List.getElem?_eq_some_iff.1 hi').1 h).1 (by rw [hi', hj', hstart])

/-- Tokens of a layout begin at different offsets. -/
theorem Layout.nodup_start {origin : Nat} {text : List Char} {tokens : List Token}
    (h : Layout origin text tokens) : (tokens.map Token.start).Nodup :=
  List.pairwise_map.2 (h.ordered.imp fun hle ↦ Nat.ne_of_lt (Nat.lt_of_lt_of_le
    (Token.start_lt_stop _) hle))

/-- Tokens of a layout are told apart by their offsets. -/
theorem Layout.index_eq_of_start_eq {origin : Nat} {text : List Char} {tokens : List Token}
    (h : Layout origin text tokens) {i j : Nat} {t u : Token} (hi : tokens[i]? = some t)
    (hj : tokens[j]? = some u) (hstart : t.start = u.start) : i = j :=
  Token.index_eq_of_start_eq h.nodup_start hi hj hstart

/-! ### Peeling a layout

Behind a piece of text the offsets of the remaining tokens stay as they are, while the places in the
remaining text are counted anew. -/

theorem drop_append_sub {α : Type} (piece text : List α) {origin i : Nat}
    (h : origin + piece.length ≤ i) :
    (piece ++ text).drop (i - origin) = text.drop (i - (origin + piece.length)) := by
  rw [List.drop_append, List.drop_eq_nil_of_le (Nat.le_sub_of_add_le' h), List.nil_append,
    Nat.sub_sub]

theorem getElem?_append_sub {α : Type} (piece text : List α) {origin i : Nat}
    (h : origin + piece.length ≤ i) :
    (piece ++ text)[i - origin]? = text[i - (origin + piece.length)]? := by
  rw [List.getElem?_append_right (Nat.le_sub_of_add_le' h), Nat.sub_sub]

variable {origin : Nat} {text : List Char} {tokens : List Token}

/-- A text without characters has no tokens. -/
theorem layout_nil_iff : Layout origin [] tokens ↔ tokens = [] := by
  constructor
  · intro h
    rcases tokens with - | ⟨t, tokens⟩
    · rfl
    · have hslice := h.slice t List.mem_cons_self
      rw [List.drop_nil, List.take_nil] at hslice
      have hpos := t.length_text_pos
      rw [← String.length_toList, ← hslice] at hpos
      exact absurd hpos (Nat.lt_irrefl 0)
  · rintro rfl
    exact ⟨nofun, .nil, nofun, nofun, nofun, nofun⟩

/-- A text without tokens is blank. -/
theorem layout_no_tokens_iff : Layout origin text [] ↔ ∀ c ∈ text, isBlank c = true := by
  constructor
  · intro h c hc
    obtain ⟨i, hi⟩ := List.mem_iff_getElem?.1 hc
    exact h.blank i c hi nofun
  · intro h
    exact ⟨nofun, .nil, nofun, nofun, fun i c hi _ ↦ h c (List.mem_of_getElem? hi), nofun⟩

/-- A token at the very front of a text begins with the first character. -/
theorem Layout.isBlank_of_start_eq {c : Char} {t : Token} (h : Layout origin (c :: text) tokens)
    (ht : t ∈ tokens) (hstart : t.start = origin) : isBlank c = false := by
  have hslice := h.slice t ht
  have hpos : t.stop - t.start = t.text.length - 1 + 1 := by
    have := t.length_text_pos
    rw [t.stop_eq_start_add_length]
    omega
  rw [hstart, Nat.sub_self, List.drop_zero, ← hstart, hpos, List.take_succ_cons] at hslice
  exact Token.isBlank_of_mem_text (h.fits t ht) (hslice ▸ List.mem_cons_self)

/-- A blank in front of a text moves the rest. -/
theorem layout_blank_iff {c : Char} (hc : isBlank c = true) :
    Layout origin (c :: text) tokens ↔ Layout (origin + 1) text tokens := by
  constructor
  · intro h
    -- the blank belongs to no token, so the tokens lie behind it
    have hstart : ∀ t ∈ tokens, origin + 1 ≤ t.start := by
      intro t ht
      refine Nat.lt_of_le_of_ne (h.origin_le t ht) fun heq ↦ ?_
      rw [h.isBlank_of_start_eq ht heq.symm] at hc
      exact nomatch hc
    refine ⟨hstart, h.ordered, fun t ht ↦ ?_, h.fits, fun i d hd hout ↦ ?_, fun t ht d hd ↦ ?_⟩
    · rw [← h.slice t ht]
      exact congrArg _ (drop_append_sub [c] text (hstart t ht)).symm
    · refine h.blank (i + 1) d hd fun t ht ↦ ?_
      rw [← Nat.add_assoc, Nat.add_right_comm]
      exact hout t ht
    · refine h.maximal t ht d ?_
      rw [← hd]
      exact getElem?_append_sub [c] text (Token.le_stop_of_le_start (hstart t ht))
  · intro h
    have hstart : ∀ t ∈ tokens, origin + 1 ≤ t.start := h.origin_le
    refine ⟨fun t ht ↦ Nat.le_of_succ_le (hstart t ht), h.ordered, fun t ht ↦ ?_, h.fits,
      fun i d hd hout ↦ ?_, fun t ht d hd ↦ ?_⟩
    · rw [← h.slice t ht]
      exact congrArg _ (drop_append_sub [c] text (hstart t ht))
    · cases i with
      | zero => exact Option.some.inj hd ▸ hc
      | succ i =>
        refine h.blank i d hd fun t ht ↦ ?_
        rw [Nat.add_right_comm, Nat.add_assoc]
        exact hout t ht
    · refine h.maximal t ht d ?_
      rw [← hd]
      exact (getElem?_append_sub [c] text (Token.le_stop_of_le_start (hstart t ht))).symm

/-- A token at the front of a text is followed by a layout of what it leaves. -/
theorem Token.Heads.layout_cons_iff {t : Token} {rest : List Char}
    (hheads : t.Heads origin text rest) :
    Layout origin text (t :: tokens) ↔ Layout t.stop rest tokens := by
  obtain ⟨rfl, rfl, hfits, hmaximal⟩ := hheads
  have hstop : t.start + t.text.toList.length = t.stop := by
    rw [String.length_toList, t.stop_eq_start_add_length]
  constructor
  · intro h
    obtain ⟨hbefore, hordered⟩ := List.pairwise_cons.1 h.ordered
    refine ⟨hbefore, hordered, fun u hu ↦ ?_, fun u hu ↦ h.fits u (List.mem_cons_of_mem t hu),
      fun i c hc hout ↦ ?_, fun u hu c hc ↦ ?_⟩
    · rw [← h.slice u (List.mem_cons_of_mem t hu),
        drop_append_sub t.text.toList rest (hstop ▸ hbefore u hu), hstop]
    · refine h.blank (t.text.toList.length + i) c ?_ fun u hu ↦ ?_
      · rwa [List.getElem?_append_right (Nat.le_add_right _ i), Nat.add_sub_cancel_left]
      · rw [← Nat.add_assoc, hstop]
        rcases List.mem_cons.1 hu with rfl | hu
        · exact .inr (Nat.le_add_right _ i)
        · exact hout u hu
    · refine h.maximal u (List.mem_cons_of_mem t hu) c ?_
      rwa [getElem?_append_sub t.text.toList rest
        (hstop ▸ le_stop_of_le_start (hbefore u hu)), hstop]
  · intro h
    refine ⟨?_, List.pairwise_cons.2 ⟨h.origin_le, h.ordered⟩, ?_, ?_, fun i c hc hout ↦ ?_, ?_⟩
    · exact List.forall_mem_cons.2 ⟨Nat.le_refl _, fun u hu ↦
        Nat.le_trans (Nat.le_of_lt t.start_lt_stop) (h.origin_le u hu)⟩
    · refine List.forall_mem_cons.2 ⟨?_, fun u hu ↦ ?_⟩
      · rw [Nat.sub_self, List.drop_zero, ← hstop, Nat.add_sub_cancel_left, List.take_left]
      · rw [drop_append_sub t.text.toList rest (hstop ▸ h.origin_le u hu), hstop, h.slice u hu]
    · exact List.forall_mem_cons.2 ⟨hfits, h.fits⟩
    · obtain ⟨hhere, hout⟩ := List.forall_mem_cons.1 hout
      -- outside `t` means behind it
      have hi : t.text.toList.length ≤ i := by omega
      rw [List.getElem?_append_right hi] at hc
      refine h.blank _ c hc fun u hu ↦ ?_
      have := hout u hu
      omega
    · refine List.forall_mem_cons.2 ⟨fun c hc ↦ hmaximal c ?_, fun u hu c hc ↦ ?_⟩
      · rw [getElem?_append_sub t.text.toList rest (Nat.le_of_eq hstop), hstop, Nat.sub_self] at hc
        rwa [List.head?_eq_getElem?]
      · refine h.maximal u hu c ?_
        rwa [getElem?_append_sub t.text.toList rest
          (hstop ▸ le_stop_of_le_start (h.origin_le u hu)), hstop] at hc

/-- A text that begins with no blank begins with the first token. -/
theorem Layout.exists_heads {c : Char} (h : Layout origin (c :: text) tokens)
    (hc : isBlank c = false) :
    ∃ t tokens' rest, tokens = t :: tokens' ∧ t.Heads origin (c :: text) rest := by
  rcases tokens with - | ⟨t, tokens⟩
  · rw [h.blank 0 c rfl nofun] at hc
    exact nomatch hc
  · have hbefore := (List.pairwise_cons.1 h.ordered).1
    -- the first character is in some token, and no other token begins as early as the first one
    have hstart : t.start = origin := by
      refine Nat.le_antisymm (Nat.le_of_not_lt fun hlt ↦ ?_) (h.origin_le t List.mem_cons_self)
      have hout : ∀ u ∈ t :: tokens, origin + 0 < u.start ∨ u.stop ≤ origin + 0 :=
        List.forall_mem_cons.2 ⟨.inl hlt, fun u hu ↦
          .inl (Nat.lt_trans hlt (Nat.lt_of_lt_of_le t.start_lt_stop (hbefore u hu)))⟩
      rw [h.blank 0 c rfl hout] at hc
      exact nomatch hc
    have hlength : t.stop - origin = t.text.length := by
      rw [t.stop_eq_start_add_length, hstart, Nat.add_sub_cancel_left]
    refine ⟨t, tokens, (c :: text).drop t.text.length, rfl, hstart, ?_, h.fits t List.mem_cons_self,
      fun d hd ↦ ?_⟩
    · have hslice := h.slice t List.mem_cons_self
      rw [hstart, Nat.sub_self, List.drop_zero, hlength] at hslice
      rw [← hslice, List.take_append_drop]
    · rw [Option.mem_def, List.head?_drop, ← hlength] at hd
      exact h.maximal t List.mem_cons_self d hd

end StreamFormula
