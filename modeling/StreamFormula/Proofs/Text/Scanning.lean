import StreamFormula.Proofs.Text.Layout

/-!
# What a scanner finds

The tokens that a scanner finds are the layout of its text, and there is no other
(`Scanner.tokens_eq_ok_iff_layout`). A text of legal characters has tokens; any other text fails at
its first illegal character (`Token.scan_maximal_munch`). In particular a word always covers the
characters that it was read from, so scanning never fails for the shape of a word.

The scanner takes a token at a time and a layout speaks of all of them, so both are peeled from the
front: one event of the scanner (`Scanner.read_eq_ok_iff`) is one token at the head of the text.
-/

namespace StreamFormula

namespace Scanner

/-! ### Single events -/

/-- The word of a character and those that go on with it. -/
def runWord (kind : WordKind) (offset : Nat) (c : Char) (run : List Char) : Word where
  kind := kind
  text := String.ofList (c :: run)
  start := offset
  text_ne := by simp

theorem toList_text_runWord (kind : WordKind) (offset : Nat) (c : Char) (run : List Char) :
    (runWord kind offset c run).text.toList = c :: run :=
  String.toList_ofList

theorem stop_runWord (kind : WordKind) (offset : Nat) (c : Char) (run : List Char) :
    (runWord kind offset c run).stop = offset + 1 + run.length := by
  rw [Word.stop, ← String.length_toList, toList_text_runWord, List.length_cons, runWord,
    Nat.add_right_comm, Nat.add_assoc]

/-- Each word is that of its characters. -/
theorem runWord_eq {w : Word} {c : Char} {run : List Char} (h : w.text.toList = c :: run) :
    runWord w.kind w.start c run = w := by
  obtain ⟨kind, text, start, hne⟩ := w
  have htext : String.ofList (c :: run) = text := by rw [← h, String.ofList_toList]
  simp only [runWord, htext]

/-- A word covers what it was read from, so its shape is never at fault. -/
theorem readWord_eq (kind : WordKind) (offset : Nat) (c : Char) (cs : List Char) :
    readWord kind offset c cs =
      (.ok (.word (runWord kind offset c (cs.takeWhile kind.continues))),
        ⟨offset + 1 + (cs.takeWhile kind.continues).length, cs.dropWhile kind.continues⟩) := by
  have hspan : Word.ofSpan? kind (String.ofList (c :: cs.takeWhile kind.continues)) offset
      (offset + 1 + (cs.takeWhile kind.continues).length) =
        .ok (runWord kind offset c (cs.takeWhile kind.continues)) :=
    Word.ofSpan?_eq_ok_iff.2 ⟨rfl, rfl, rfl, stop_runWord ..⟩
  simp only [readWord, hspan]

/-- The head of what is left behind a maximal run does not belong to the run. -/
theorem continues_of_mem_head?_dropWhile {kind : WordKind} {cs : List Char} {c : Char}
    (h : c ∈ (cs.dropWhile kind.continues).head?) : kind.continues c = false := by
  have hnot := List.head?_dropWhile_not kind.continues cs
  rw [Option.mem_def.1 h] at hnot
  exact hnot

/-- A run that the next character does not belong to is maximal. -/
theorem takeWhile_dropWhile_append {p : Char → Bool} {run rest : List Char}
    (hrun : ∀ c ∈ run, p c = true) (hrest : ∀ c ∈ rest.head?, p c = false) :
    (run ++ rest).takeWhile p = run ∧ (run ++ rest).dropWhile p = rest := by
  rw [List.takeWhile_append_of_pos hrun, List.dropWhile_append_of_pos hrun]
  rcases rest with - | ⟨c, rest⟩
  · exact ⟨List.append_nil run, rfl⟩
  · have hc : ¬ p c = true := by rw [hrest c rfl]; exact Bool.false_ne_true
    rw [List.takeWhile_cons_of_neg hc, List.dropWhile_cons_of_neg hc, List.append_nil]
    exact ⟨rfl, rfl⟩

/-- **A scanner reads the token that stands at the front**, and stops right behind it. -/
theorem read_eq_ok_iff {origin : Nat} {c : Char} {cs : List Char} {t : Token} {after : Scanner} :
    read origin c cs = (.ok t, after) ↔
      t.Heads origin (c :: cs) after.rest ∧ after.offset = t.stop := by
  constructor
  · intro h
    rw [read] at h
    split at h
    · next s hs =>
      obtain ⟨ht, rfl⟩ := Prod.mk.inj h
      obtain rfl := Except.ok.inj ht
      rw [← Symbol.ofChar?_eq_some_iff.1 hs]
      exact ⟨⟨rfl, by simp, trivial, fun _ _ ↦ rfl⟩, rfl⟩
    · split at h
      · next kind hkind =>
        rw [readWord_eq] at h
        obtain ⟨ht, rfl⟩ := Prod.mk.inj h
        obtain rfl := Except.ok.inj ht
        have hrun : ∀ d ∈ cs.takeWhile kind.continues, kind.continues d = true :=
          List.all_eq_true.1 List.all_takeWhile
        refine ⟨⟨rfl, ?_, ?_, fun d hd ↦ ?_⟩, ?_⟩
        · rw [Token.text_word, toList_text_runWord, List.cons_append,
            List.takeWhile_append_dropWhile]
        · rw [Token.Fits, toList_text_runWord, runWord, WordKind.spells_cons_iff]
          exact ⟨hkind, hrun⟩
        · rw [Token.continues_word]
          exact continues_of_mem_head?_dropWhile hd
        · rw [Token.stop_word, stop_runWord]
      · cases (Prod.mk.inj h).1
  · rintro ⟨⟨rfl, htext, hfits, hmaximal⟩, hafter⟩
    obtain ⟨offset, rest⟩ := after
    cases t with
    | symbol s n =>
      rw [Token.text_symbol, Symbol.toList_text, List.singleton_append] at htext
      obtain ⟨rfl, rfl⟩ := List.cons.inj htext
      obtain rfl : offset = n + 1 := hafter
      rw [read, Symbol.ofChar?_char]
      rfl
    | word w =>
      rcases hrun : w.text.toList with - | ⟨d, run⟩
      · exact absurd (String.toList_eq_nil_iff.1 hrun) w.text_ne
      · rw [Token.text_word, hrun, List.cons_append] at htext
        obtain ⟨rfl, rfl⟩ := List.cons.inj htext
        rw [Token.Fits, hrun, WordKind.spells_cons_iff] at hfits
        simp only [Token.continues_word] at hmaximal
        obtain ⟨htake, hdrop⟩ := takeWhile_dropWhile_append hfits.2 hmaximal
        have hoffset : offset = w.start + 1 + run.length := by
          rw [← stop_runWord w.kind w.start c run, runWord_eq hrun]
          exact hafter
        rw [read, Symbol.ofChar?_of_ofFirst? hfits.1]
        simp only [hfits.1, readWord_eq, htake, hdrop, hoffset, Token.start_word, runWord_eq hrun]

/-- A legal character that is no blank begins a token. -/
theorem exists_read_eq_ok {c : Char} (hc : isLegal c = true) (hblank : isBlank c = false)
    (origin : Nat) (cs : List Char) : ∃ t after, read origin c cs = (.ok t, after) := by
  rw [isLegal_eq, hblank, Bool.or_false, Bool.or_eq_true] at hc
  unfold read
  split
  · exact ⟨_, _, rfl⟩
  · next hs =>
    rw [hs, Option.isSome_none, or_iff_left Bool.false_ne_true] at hc
    obtain ⟨kind, hkind⟩ := Option.isSome_iff_exists.1 hc
    simp only [hkind, readWord_eq]
    exact ⟨_, _, rfl⟩

/-- Any other character is at fault itself. -/
theorem read_of_not_isLegal {c : Char} (hc : isLegal c = false) (origin : Nat) (cs : List Char) :
    read origin c cs = (.error (.unreadable ⟨origin, c⟩), ⟨origin + 1, cs⟩) := by
  rw [isLegal_eq, Bool.or_eq_false_iff, Bool.or_eq_false_iff, Option.isSome_eq_false_iff,
    Option.isSome_eq_false_iff, Option.isNone_iff_eq_none, Option.isNone_iff_eq_none] at hc
  simp only [read, hc.1.1, hc.1.2]

theorem isBlank_of_not_isLegal {c : Char} (hc : isLegal c = false) : isBlank c = false := by
  rw [isLegal_eq, Bool.or_eq_false_iff] at hc
  exact hc.2

/-! ### All events -/

theorem next_of_isBlank {c : Char} (hc : isBlank c = true) (origin : Nat) (cs : List Char) :
    next ⟨origin, c :: cs⟩ = next ⟨origin + 1, cs⟩ := by
  simp only [next, nextFrom, hc, if_true]

theorem next_of_not_isBlank {c : Char} (hc : isBlank c = false) (origin : Nat) (cs : List Char) :
    next ⟨origin, c :: cs⟩ = some (read origin c cs) := by
  simp only [next, nextFrom, hc, Bool.false_eq_true, if_false]

/-- The tokens of a text are its next one and those behind it. -/
theorem tokens_eq (s : Scanner) :
    s.tokens =
      match s.next with
      | none => .ok []
      | some (.ok t, s') => s'.tokens.map (t :: ·)
      | some (.error fault, _) => .error fault := by
  rcases h : s.next with - | ⟨fault | t, s'⟩
  · rw [tokens, events_of_next_eq_none h]
    rfl
  · rw [tokens, events_of_next_eq_some h]
    rfl
  · rw [tokens, events_of_next_eq_some h, List.mapM_cons]
    show _ = (s'.events.mapM id).map (t :: ·)
    cases s'.events.mapM id <;> rfl

theorem tokens_of_isBlank {c : Char} (hc : isBlank c = true) (origin : Nat) (cs : List Char) :
    tokens ⟨origin, c :: cs⟩ = tokens ⟨origin + 1, cs⟩ := by
  rw [tokens_eq, next_of_isBlank hc, ← tokens_eq]

theorem tokens_of_read {c : Char} {origin : Nat} {cs : List Char} {t : Token} {after : Scanner}
    (hc : isBlank c = false) (h : read origin c cs = (.ok t, after)) :
    tokens ⟨origin, c :: cs⟩ = after.tokens.map (t :: ·) := by
  rw [tokens_eq, next_of_not_isBlank hc, h]

/-- **What a scanner finds is the layout of its text.** -/
theorem tokens_eq_ok_iff_layout (origin : Nat) (text : List Char) (ts : List Token) :
    tokens ⟨origin, text⟩ = .ok ts ↔ Layout origin text ts := by
  match text with
  | [] =>
    rw [layout_nil_iff, tokens_eq]
    exact ⟨fun h ↦ (Except.ok.inj h).symm, fun h ↦ congrArg Except.ok h.symm⟩
  | c :: cs =>
    -- both sides are peeled alike: a blank, or the token at the front
    cases hc : isBlank c with
    | true => rw [tokens_of_isBlank hc, layout_blank_iff hc, tokens_eq_ok_iff_layout]
    | false =>
      constructor
      · intro h
        rcases hread : read origin c cs with ⟨fault | t, after⟩
        · rw [tokens_eq, next_of_not_isBlank hc, hread] at h
          exact nomatch h
        · obtain ⟨hheads, hafter⟩ := read_eq_ok_iff.1 hread
          have hlt : after.rest.length < cs.length + 1 := hheads.length_lt
          rw [tokens_of_read hc hread] at h
          rcases hrest : after.tokens with fault | us
          · rw [hrest] at h
            exact nomatch h
          · rw [hrest] at h
            obtain rfl := Except.ok.inj h
            rw [hheads.layout_cons_iff, ← hafter]
            exact (tokens_eq_ok_iff_layout after.offset after.rest us).1 hrest
      · intro h
        obtain ⟨t, us, rest, rfl, hheads⟩ := h.exists_heads hc
        have hlt : rest.length < cs.length + 1 := hheads.length_lt
        have hrest := (tokens_eq_ok_iff_layout t.stop rest us).2 (hheads.layout_cons_iff.1 h)
        have hread : read origin c cs = (.ok t, ⟨t.stop, rest⟩) :=
          read_eq_ok_iff.2 ⟨hheads, rfl⟩
        rw [tokens_of_read hc hread, hrest]
        rfl
termination_by text.length

/-- A scanner gets through legal characters, up to the end or to the next illegal one. -/
theorem exists_tokens_append (origin : Nat) (before rest : List Char)
    (hbefore : ∀ b ∈ before, isLegal b = true) (hrest : ∀ c ∈ rest.head?, isLegal c = false) :
    ∃ ts, tokens ⟨origin, before ++ rest⟩ =
      (tokens ⟨origin + before.length, rest⟩).map (ts ++ ·) := by
  match before with
  | [] =>
    refine ⟨[], ?_⟩
    rw [List.nil_append]
    cases tokens ⟨origin, rest⟩ <;> rfl
  | b :: before =>
    cases hb : isBlank b with
    | true =>
      obtain ⟨ts, h⟩ := exists_tokens_append (origin + 1) before rest
        (fun c hc ↦ hbefore c (List.mem_cons_of_mem b hc)) hrest
      refine ⟨ts, ?_⟩
      rw [List.cons_append, tokens_of_isBlank hb, h, List.length_cons, Nat.add_right_comm,
        Nat.add_assoc]
    | false =>
      obtain ⟨t, after, hread⟩ :=
        exists_read_eq_ok (hbefore b List.mem_cons_self) hb origin (before ++ rest)
      obtain ⟨hheads, hafter⟩ := read_eq_ok_iff.1 hread
      have hfront : t.Heads origin ((b :: before) ++ rest) after.rest := hheads
      obtain ⟨more, hmore, hafter'⟩ := hfront.exists_append_of_head?_not_isLegal hrest
      have hlength : before.length + 1 = t.text.length + more.length := by
        rw [← List.length_cons, hmore, List.length_append, String.length_toList]
      have hpos := t.length_text_pos
      obtain ⟨ts, h⟩ := exists_tokens_append t.stop more rest
        (fun c hc ↦ hbefore c (hmore ▸ List.mem_append_right _ hc)) hrest
      refine ⟨t :: ts, ?_⟩
      have hstop : t.stop + more.length = origin + (b :: before).length := by
        rw [List.length_cons, hlength, t.stop_eq_start_add_length, hheads.start_eq, Nat.add_assoc]
      have hplace : after = ⟨t.stop, more ++ rest⟩ := by rw [← hafter, ← hafter']
      rw [List.cons_append, tokens_of_read hb hread, hplace, h, hstop]
      cases tokens ⟨origin + (b :: before).length, rest⟩ <;> rfl
termination_by before.length

end Scanner

/-! ### Texts -/

/-- The tokens of a text are its layout. -/
theorem Token.scan_eq_ok_iff_layout {formula : String} {tokens : List Token} :
    Token.scan formula = .ok tokens ↔ Layout 0 formula.toList tokens :=
  Scanner.tokens_eq_ok_iff_layout 0 formula.toList tokens

/-- A text of legal characters has tokens. -/
theorem Token.exists_scan_eq_ok {formula : String} (h : ∀ c ∈ formula.toList, isLegal c = true) :
    ∃ tokens, Token.scan formula = .ok tokens := by
  obtain ⟨tokens, htokens⟩ := Scanner.exists_tokens_append 0 formula.toList [] h nofun
  rw [List.append_nil, Scanner.tokens_eq ⟨0 + formula.toList.length, []⟩] at htokens
  exact ⟨_, htokens⟩

/-- A text with an illegal character fails at the first one. -/
theorem Token.scan_eq_error {formula : String} {before after : List Char} {c : Char}
    (h : formula.toList = before ++ c :: after) (hbefore : ∀ b ∈ before, isLegal b = true)
    (hc : isLegal c = false) :
    Token.scan formula = .error (.unreadable ⟨before.length, c⟩) := by
  have hhead : ∀ d ∈ (c :: after).head?, isLegal d = false := by
    rintro d hd
    exact Option.some.inj hd ▸ hc
  obtain ⟨tokens, htokens⟩ := Scanner.exists_tokens_append 0 before (c :: after) hbefore hhead
  rw [← h, Scanner.tokens_eq ⟨0 + before.length, _⟩,
    Scanner.next_of_not_isBlank (Scanner.isBlank_of_not_isLegal hc),
    Scanner.read_of_not_isLegal hc, Nat.zero_add] at htokens
  exact htokens

/-- A text is legal, or it has a first illegal character. -/
theorem all_isLegal_or_exists (text : List Char) :
    (∀ c ∈ text, isLegal c = true) ∨
      ∃ before c after, text = before ++ c :: after ∧ (∀ b ∈ before, isLegal b = true) ∧
        isLegal c = false := by
  induction text with
  | nil => exact .inl nofun
  | cons c cs ih =>
    cases hc : isLegal c with
    | false => exact .inr ⟨[], c, cs, rfl, nofun, hc⟩
    | true =>
      rcases ih with h | ⟨before, d, after, rfl, hbefore, hd⟩
      · exact .inl (List.forall_mem_cons.2 ⟨hc, h⟩)
      · exact .inr ⟨c :: before, d, after, rfl, List.forall_mem_cons.2 ⟨hc, hbefore⟩, hd⟩

/-- A text with tokens is legal. -/
theorem Token.isLegal_of_scan {text : String} {tokens : List Token} (h : scan text = .ok tokens) :
    ∀ c ∈ text.toList, isLegal c = true := by
  rcases all_isLegal_or_exists text.toList with hlegal | ⟨before, c, after, htext, hbefore, hc⟩
  · exact hlegal
  · exact nomatch h.symm.trans (scan_eq_error htext hbefore hc)

/-- A text without tokens has a first illegal character, which is at fault. -/
theorem Token.exists_of_scan_eq_error {text : String} {fault : ScanFault}
    (h : scan text = .error fault) :
    ∃ before c after, text.toList = before ++ c :: after ∧ (∀ b ∈ before, isLegal b = true) ∧
      isLegal c = false ∧ fault = .unreadable ⟨before.length, c⟩ := by
  rcases all_isLegal_or_exists text.toList with hlegal | ⟨before, c, after, htext, hbefore, hc⟩
  · obtain ⟨tokens, htokens⟩ := exists_scan_eq_ok hlegal
    exact nomatch htokens.symm.trans h
  · exact ⟨before, c, after, htext, hbefore, hc,
      Except.error.inj (h.symm.trans (scan_eq_error htext hbefore hc))⟩

/-- **Scanning finds the one layout of a legal text, and the first illegal character of any other.**
No fault lies in the shape of a word. -/
theorem Token.scan_maximal_munch (formula : String) :
    ((∀ c ∈ formula.toList, isLegal c = true) →
        ∃ tokens, Token.scan formula = .ok tokens ∧ Layout 0 formula.toList tokens ∧
          ∀ others, Layout 0 formula.toList others → others = tokens) ∧
      (∀ before c after, formula.toList = before ++ c :: after →
        (∀ b ∈ before, isLegal b = true) → isLegal c = false →
          ∃ fault, Token.scan formula = .error fault ∧
            fault.failure = .diagnostic ⟨.syntaxError, "Invalid character: " ++ String.singleton c,
              some ⟨before.length, before.length + 1, some (String.singleton c)⟩⟩) ∧
      ∀ error, Token.scan formula ≠ .error (.misshapen error) := by
  refine ⟨fun hlegal ↦ ?_, fun before c after h hbefore hc ↦ ?_, fun error herror ↦ ?_⟩
  · obtain ⟨tokens, htokens⟩ := Token.exists_scan_eq_ok hlegal
    refine ⟨tokens, htokens, Token.scan_eq_ok_iff_layout.1 htokens, fun others hothers ↦ ?_⟩
    rw [Token.scan_eq_ok_iff_layout.2 hothers] at htokens
    exact Except.ok.inj htokens
  · exact ⟨_, Token.scan_eq_error h hbefore hc, rfl⟩
  · rcases all_isLegal_or_exists formula.toList with hlegal | ⟨before, c, after, h, hbefore, hc⟩
    · obtain ⟨tokens, htokens⟩ := Token.exists_scan_eq_ok hlegal
      exact nomatch htokens.symm.trans herror
    · exact nomatch (Token.scan_eq_error h hbefore hc).symm.trans herror

end StreamFormula
