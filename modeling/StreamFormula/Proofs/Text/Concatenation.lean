import StreamFormula.Proofs.Text.Rendering

/-!
# Texts one after the other

Where no token of a text would go on into the text behind it, the tokens of the two together are
those of the one and then those of the other, further on by the length of what stands in front
(`Layout.append`). Only a token that ends with its text could go on, so this can be told from the
two characters at the cut (`Joins`), and what was scanned before the cut matters for nothing but the
offsets behind it (`Token.scan_append`). No token goes on with the character of a symbol, and none
begins before one, so two texts around a symbol are always kept apart (`Token.scan_append_symbol`).
-/

namespace StreamFormula

namespace Token

/-- The token further on in the text. -/
def shift (k : Nat) (t : Token) : Token := t.moveTo (t.start + k)

@[simp] theorem shape_shift (k : Nat) (t : Token) : (t.shift k).shape = t.shape := shape_moveTo ..

theorem map_shape_shift (k : Nat) (tokens : List Token) :
    (tokens.map (shift k)).map shape = tokens.map shape := by
  rw [List.map_map]
  exact List.map_congr_left fun t _ ↦ shape_shift k t

theorem shift_zero (t : Token) : t.shift 0 = t := by cases t <;> rfl

theorem stop_shift (k : Nat) (t : Token) : (t.shift k).stop = t.stop + k := by
  rw [shift, stop_moveTo, t.stop_eq_start_add_length, Nat.add_right_comm]

theorem continues_shift (k : Nat) (t : Token) (c : Char) :
    (t.shift k).continues c = t.continues c := by
  cases t <;> rfl

/-- No token goes on with a symbol. -/
theorem continues_char (t : Token) (s : Symbol) : t.continues s.char = false := by
  cases t with
  | symbol s' n => rfl
  | word w =>
    rw [continues_word, Bool.eq_false_iff]
    intro hcontinues
    obtain ⟨kind, hkind⟩ :=
      Option.isSome_iff_exists.1 (WordKind.isSome_ofFirst?_of_continues hcontinues)
    have hnone := Symbol.ofChar?_of_ofFirst? hkind
    rw [Symbol.ofChar?_char] at hnone
    exact nomatch hnone

/-- A token that is all of a text but what is left of it ends where that begins. -/
theorem Heads.stop_add_length {t : Token} {origin : Nat} {text after : List Char}
    (h : t.Heads origin text after) : t.stop + after.length = origin + text.length := by
  rw [t.stop_eq_start_add_length, h.start_eq, h.text_eq, List.length_append, String.length_toList,
    Nat.add_assoc]

/-- A token at the front of a text is at the front of a longer one, unless it ends with the text and
would go on there. -/
theorem Heads.shift_append {t : Token} {origin : Nat} {text after : List Char}
    (h : t.Heads origin text after) (k : Nat) {rest : List Char}
    (hrest : t.stop = origin + text.length → ∀ c ∈ rest.head?, t.continues c = false) :
    (t.shift k).Heads (origin + k) (text ++ rest) (after ++ rest) where
  start_eq := by rw [shift, start_moveTo, h.start_eq]
  text_eq := by rw [shift, text_moveTo, h.text_eq, List.append_assoc]
  fits := (fits_moveTo _ t).2 h.fits
  maximal c hc := by
    rw [continues_shift]
    cases after with
    | nil => exact hrest h.stop_add_length c hc
    | cons d after => exact h.maximal c hc

end Token

/-- A symbol is a token, whatever stands behind it. -/
theorem Layout.symbol_cons {origin : Nat} {rest : List Char} {tokens : List Token} (s : Symbol)
    (h : Layout (origin + 1) rest tokens) :
    Layout origin (s.char :: rest) (.symbol s origin :: tokens) := by
  have hheads : (Token.symbol s origin).Heads origin (s.char :: rest) rest :=
    ⟨rfl, by simp, trivial, fun _ _ ↦ rfl⟩
  exact hheads.layout_cons_iff.2 h

/-- **A text behind another one keeps its layout**, if no token goes on into it. -/
theorem Layout.append {origin k : Nat} {text rest : List Char} {tokens more : List Token}
    (h : Layout origin text tokens)
    (hrest : ∀ t ∈ tokens, t.stop = origin + text.length →
      ∀ c ∈ rest.head?, t.continues c = false)
    (hmore : Layout (origin + k + text.length) rest more) :
    Layout (origin + k) (text ++ rest) (tokens.map (Token.shift k) ++ more) := by
  match text with
  | [] =>
    obtain rfl := layout_nil_iff.1 h
    exact hmore
  | c :: cs =>
    cases hc : isBlank c with
    | true =>
      rw [layout_blank_iff hc] at h
      have hlength : origin + (c :: cs).length = origin + 1 + cs.length := by
        rw [List.length_cons, Nat.add_assoc, Nat.add_comm 1]
      rw [hlength] at hrest
      rw [List.cons_append, layout_blank_iff hc, Nat.add_right_comm]
      refine h.append hrest ?_
      rwa [Nat.add_right_comm _ k, ← hlength, Nat.add_right_comm]
    | false =>
      obtain ⟨t, tokens, after, rfl, hheads⟩ := h.exists_heads hc
      have hlt : after.length < cs.length + 1 := hheads.length_lt
      obtain ⟨ht, htokens⟩ := List.forall_mem_cons.1 hrest
      rw [← hheads.stop_add_length] at htokens
      show Layout (origin + k) (c :: cs ++ rest) (t.shift k :: (tokens.map (Token.shift k) ++ more))
      rw [(hheads.shift_append k ht).layout_cons_iff, Token.stop_shift]
      refine (hheads.layout_cons_iff.1 h).append htokens ?_
      rwa [Nat.add_right_comm, hheads.stop_add_length, Nat.add_right_comm]
termination_by text.length

/-- A layout further on. -/
theorem Layout.shift {origin : Nat} {text : List Char} {tokens : List Token}
    (h : Layout origin text tokens) (k : Nat) :
    Layout (origin + k) text (tokens.map (Token.shift k)) := by
  have happend : Layout (origin + k) (text ++ []) (tokens.map (Token.shift k) ++ []) :=
    h.append (fun _ _ _ _ hc ↦ nomatch hc) (layout_nil_iff.2 rfl)
  rwa [List.append_nil, List.append_nil] at happend

theorem Token.scan_empty : scan "" = .ok [] := by with_unfolding_all rfl

/-- **Two texts around a symbol have the tokens of both**, and the symbol between them. -/
theorem Token.scan_append_symbol {left right : String} {ts us : List Token}
    (hleft : scan left = .ok ts) (s : Symbol) (hright : scan right = .ok us) :
    scan (left ++ s.text ++ right) =
      .ok (ts ++ .symbol s left.length :: us.map (shift (left.length + 1))) := by
  rw [scan_eq_ok_iff_layout] at hleft hright ⊢
  have htext : (left ++ s.text ++ right).toList = left.toList ++ s.char :: right.toList := by simp
  have hbehind : Layout (0 + 0 + left.toList.length) (s.char :: right.toList)
      (.symbol s left.length :: us.map (shift (left.length + 1))) := by
    rw [Nat.add_zero, Nat.zero_add, String.length_toList]
    have hshift := hright.shift (left.length + 1)
    rw [Nat.zero_add] at hshift
    exact hshift.symbol_cons s
  have hapart : ∀ t ∈ ts, t.stop = 0 + left.toList.length →
      ∀ c ∈ (s.char :: right.toList).head?, t.continues c = false :=
    fun t _ _ c hc ↦ Option.some.inj hc ▸ t.continues_char s
  have happend := hleft.append hapart hbehind
  rwa [List.map_id'' shift_zero, ← htext] at happend

/-- The shapes of the tokens around a symbol. -/
theorem Token.exists_scan_append_symbol {left right : String} {ts us : List Token}
    (hleft : scan left = .ok ts) (s : Symbol) (hright : scan right = .ok us) :
    ∃ tokens, scan (left ++ s.text ++ right) = .ok tokens ∧
      tokens.map shape = ts.map shape ++ .inl s :: us.map shape := by
  refine ⟨_, scan_append_symbol hleft s hright, ?_⟩
  rw [List.map_append, List.map_cons, map_shape_shift]
  rfl

/-! ### Any two texts -/

/-- Two characters that one word can hold next to each other: digits and dots, or a letter behind a
letter or an at sign. -/
def Joins (c d : Char) : Prop :=
  (c.isDigit = true ∨ c = '.') ∧ (d.isDigit = true ∨ d = '.') ∨
    (c.isAlpha = true ∨ c = '@') ∧ d.isAlpha = true

instance (c d : Char) : Decidable (Joins c d) := inferInstanceAs (Decidable (_ ∨ _))

/-- What goes on with a token joins its last character. -/
theorem Token.Fits.joins {t : Token} (h : t.Fits) {c d : Char}
    (hc : t.text.toList.getLast? = some c) (hd : t.continues d = true) : Joins c d := by
  cases t with
  | symbol s n => exact nomatch hd
  | word w =>
    have hmem := List.mem_of_getLast? hc
    rw [Fits] at h
    rw [continues_word] at hd
    rw [text_word] at hmem
    cases hkind : w.kind with
    | number =>
      rw [hkind] at h hd
      exact .inl ⟨h.2 c hmem, by simpa [WordKind.continues] using hd⟩
    | stream =>
      rw [hkind] at h hd
      exact .inr ⟨.inl (h.2 c hmem), hd⟩
    | handle =>
      rw [hkind] at h hd
      obtain ⟨letters, htext, hletters⟩ := h
      rw [htext] at hmem
      exact .inr ⟨(List.mem_cons.1 hmem).symm.imp_left (hletters c), hd⟩

/-- What goes on with a token at the end of a text joins the last character of the text. -/
theorem Layout.exists_joins {origin : Nat} {text : List Char} {tokens : List Token} {t : Token}
    {d : Char} (h : Layout origin text tokens) (ht : t ∈ tokens)
    (hstop : t.stop = origin + text.length) (hd : t.continues d = true) :
    ∃ c ∈ text.getLast?, Joins c d := by
  have hslice := h.slice t ht
  have hle := h.origin_le t ht
  have hlength : t.stop - t.start = (text.drop (t.start - origin)).length := by
    rw [List.length_drop, hstop]
    omega
  rw [hlength, List.take_length] at hslice
  have hne : t.text.toList ≠ [] := List.length_pos_iff.1 (t.text.length_toList ▸ t.length_text_pos)
  obtain ⟨c, hc⟩ := Option.ne_none_iff_exists'.1 fun hnone ↦ hne (List.getLast?_eq_none_iff.1 hnone)
  refine ⟨c, ?_, (h.fits t ht).joins hc hd⟩
  rw [← List.take_append_drop (t.start - origin) text, hslice]
  rw [List.getLast?_append, hc, Option.some_or]
  rfl

/-- **What is scanned behind a cut does not hang on what stands before it**, where no word runs
across the cut. An illegal character before the cut is found first, in the same place; one behind it
is found if there is none before, further on by the length of what stands before the cut; and
otherwise the tokens behind the cut follow those before it, further on by as much. -/
theorem Token.scan_append {left right : String}
    (h : ∀ c ∈ left.toList.getLast?, ∀ d ∈ right.toList.head?, ¬ Joins c d) :
    (∀ fault, scan left = .error fault → scan (left ++ right) = .error fault) ∧
      (∀ ts fault, scan left = .ok ts → scan right = .error fault →
        ∃ message start stop text fault',
          fault.failure = .diagnostic ⟨.syntaxError, message, some ⟨start, stop, text⟩⟩ ∧
          scan (left ++ right) = .error fault' ∧
          fault'.failure = .diagnostic
            ⟨.syntaxError, message, some ⟨start + left.length, stop + left.length, text⟩⟩) ∧
      ∀ ts us, scan left = .ok ts → scan right = .ok us →
        scan (left ++ right) = .ok (ts ++ us.map (shift left.length)) := by
  refine ⟨fun fault hleft ↦ ?_, fun ts fault hleft hright ↦ ?_, fun ts us hleft hright ↦ ?_⟩
  · obtain ⟨before, c, after, htext, hbefore, hc, rfl⟩ := exists_of_scan_eq_error hleft
    have hwhole : (left ++ right).toList = before ++ c :: (after ++ right.toList) := by
      rw [String.toList_append, htext, List.append_assoc, List.cons_append]
    exact scan_eq_error hwhole hbefore hc
  · obtain ⟨before, c, after, htext, hbefore, hc, rfl⟩ := exists_of_scan_eq_error hright
    have hlegal : ∀ b ∈ left.toList ++ before, isLegal b = true :=
      List.forall_mem_append.2 ⟨isLegal_of_scan hleft, hbefore⟩
    have hwhole : (left ++ right).toList = (left.toList ++ before) ++ c :: after := by
      rw [String.toList_append, htext, List.append_assoc]
    refine ⟨_, _, _, _, _, rfl, scan_eq_error hwhole hlegal hc, ?_⟩
    rw [List.length_append, String.length_toList, Nat.add_comm, Nat.add_right_comm]
    rfl
  · rw [scan_eq_ok_iff_layout] at hleft hright ⊢
    have hapart : ∀ t ∈ ts, t.stop = 0 + left.toList.length →
        ∀ d ∈ right.toList.head?, t.continues d = false := by
      intro t ht hstop d hd
      rw [Bool.eq_false_iff]
      intro hcontinues
      obtain ⟨c, hc, hjoins⟩ := hleft.exists_joins ht hstop hcontinues
      exact h c hc d hd hjoins
    have happend := hleft.append (k := 0) hapart (hright.shift left.toList.length)
    rwa [List.map_id'' shift_zero, ← String.toList_append, String.length_toList] at happend

/-- A name and a number side by side are kept apart, and an illegal character behind the number is
found where it stands in the whole. -/
theorem Token.scan_append_name_number :
    (∀ c ∈ "Oil".toList.getLast?, ∀ d ∈ "2.".toList.head?, ¬ Joins c d) ∧
      scan ("Oil" ++ "2.") = .ok [.word ⟨.stream, "Oil", 0, by decide⟩,
        .word ⟨.number, "2.", 3, by decide⟩] ∧
      (∀ c ∈ "Oil".toList.getLast?, ∀ d ∈ "2.#".toList.head?, ¬ Joins c d) ∧
      ∃ fault, scan ("Oil" ++ "2.#") = .error fault ∧
        fault.failure = .diagnostic
          ⟨.syntaxError, "Invalid character: #", some ⟨5, 6, some "#"⟩⟩ := by
  have hapart : ∀ c ∈ "Oil".toList.getLast?, ∀ d ∈ "2.".toList.head?, ¬ Joins c d := by
    rintro _ ⟨⟩ _ ⟨⟩
    decide
  have hapart' : ∀ c ∈ "Oil".toList.getLast?, ∀ d ∈ "2.#".toList.head?, ¬ Joins c d := by
    rintro _ ⟨⟩ _ ⟨⟩
    decide
  have hname : scan "Oil" = .ok [.word ⟨.stream, "Oil", 0, by decide⟩] := by
    with_unfolding_all rfl
  have hnumber : scan "2." = .ok [.word ⟨.number, "2.", 0, by decide⟩] := by
    with_unfolding_all rfl
  have hillegal : scan "2.#" = .error (.unreadable ⟨2, '#'⟩) := by with_unfolding_all rfl
  obtain ⟨message, start, stop, text, fault, hfailure, hscan, hfailure'⟩ :=
    (scan_append hapart').2.1 _ _ hname hillegal
  refine ⟨hapart, (scan_append hapart).2.2 _ _ hname hnumber, hapart', fault, hscan, ?_⟩
  obtain ⟨rfl, rfl, rfl, rfl⟩ : "Invalid character: #" = message ∧ 2 = start ∧ 3 = stop ∧
      some "#" = text := by
    simpa [ScanFault.failure, UnreadableCharacter.diagnostic] using hfailure
  exact hfailure'

end StreamFormula
