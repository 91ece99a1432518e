import Mathlib.Data.List.Infix
import StreamFormula.Proofs.Formula.Stages
import StreamFormula.Proofs.Reader.Acceptance
import StreamFormula.Proofs.Text.Scanning

/-!
# Complaints can be underlined

Whatever is wrong with a formula is shown in its text: a verdict that is not valid points to a
nonempty range of the formula and carries the text of that range
(`Formula.verdict_valid_or_underlines`).

The argument has two halves that do not know of each other. A fault is about one token or about two
neighbours, wherever in the grammar it is found (`Tree.ofTokens?_eq_error_infix`). A token of a
layout covers its text (`Layout.isExact_token`), and neighbours cover their texts with nothing but
blanks between them (`Layout.exists_segment_neighbours`). An operator run is shown without these
blanks, so its text is what it covers only up to blanks.
-/

namespace StreamFormula

/-! ### Ranges of a text -/

/-- The characters from one offset up to another. -/
def segment (text : List Char) (start stop : Nat) : List Char :=
  (text.drop start).take (stop - start)

theorem segment_append_segment (text : List Char) {i j k : Nat} (hij : i ≤ j) (hjk : j ≤ k) :
    segment text i j ++ segment text j k = segment text i k := by
  have hik : k - i = (j - i) + (k - j) := by omega
  rw [segment, segment, segment, hik, List.take_add, List.drop_drop, Nat.add_sub_cancel' hij]

theorem segment_self (text : List Char) (i : Nat) : segment text i i = [] := by
  rw [segment, Nat.sub_self, List.take_zero]

/-- A character of a range has an offset in the range. -/
theorem exists_getElem?_of_mem_segment {text : List Char} {i j : Nat} {c : Char}
    (h : c ∈ segment text i j) : ∃ k, i ≤ k ∧ k < j ∧ text[k]? = some c := by
  obtain ⟨k, hk⟩ := List.mem_iff_getElem?.1 h
  rw [segment, List.getElem?_take] at hk
  split at hk
  · rw [List.getElem?_drop] at hk
    exact ⟨i + k, Nat.le_add_right i k, by omega, hk⟩
  · exact nomatch hk

/-- A text without its blanks. -/
def withoutBlanks (text : List Char) : List Char := text.filter fun c ↦ !isBlank c

theorem withoutBlanks_append (text more : List Char) :
    withoutBlanks (text ++ more) = withoutBlanks text ++ withoutBlanks more :=
  List.filter_append text more

theorem withoutBlanks_eq_self {text : List Char} (h : ∀ c ∈ text, isBlank c = false) :
    withoutBlanks text = text :=
  List.filter_eq_self.2 fun c hc ↦ by rw [h c hc]; rfl

theorem withoutBlanks_eq_nil {text : List Char} (h : ∀ c ∈ text, isBlank c = true) :
    withoutBlanks text = [] :=
  List.filter_eq_nil_iff.2 fun c hc ↦ by rw [h c hc]; exact Bool.false_ne_true

/-! ### Underlining -/

/-- The characters of a formula that a span covers. -/
def Span.covered (span : Span) (formula : String) : List Char :=
  segment formula.toList span.start span.stop

/-- A span can be underlined in a formula: it covers some characters of it, and its text is what it
covers, up to blanks. -/
structure Span.Underlines (span : Span) (formula : String) : Prop where
  start_lt_stop : span.start < span.stop
  stop_le : span.stop ≤ formula.length
  text_eq : span.text = some (String.ofList (withoutBlanks (span.covered formula)))

/-- The text of a span is exactly what it covers. -/
def Span.IsExact (span : Span) (formula : String) : Prop :=
  span.text = some (String.ofList (span.covered formula))

/-- What is exact and has no blanks is right up to blanks. -/
theorem Span.IsExact.text_eq {span : Span} {formula : String} (h : span.IsExact formula)
    (hblank : ∀ c ∈ span.covered formula, isBlank c = false) :
    span.text = some (String.ofList (withoutBlanks (span.covered formula))) := by
  rw [withoutBlanks_eq_self hblank]
  exact h

namespace Layout

variable {formula : String} {tokens : List Token}

theorem segment_eq (h : Layout 0 formula.toList tokens) {t : Token} (ht : t ∈ tokens) :
    segment formula.toList t.start t.stop = t.text.toList :=
  h.slice t ht

theorem stop_le (h : Layout 0 formula.toList tokens) {t : Token} (ht : t ∈ tokens) :
    t.stop ≤ formula.length := by
  have hlength := congrArg List.length (h.segment_eq ht)
  rw [segment, List.length_take, List.length_drop, String.length_toList,
    String.length_toList] at hlength
  have hpos := t.length_text_pos
  have hstop := t.stop_eq_start_add_length
  omega

/-- A token of a formula covers its own text. -/
theorem isExact_token (h : Layout 0 formula.toList tokens) {t : Token} (ht : t ∈ tokens) :
    t.span.IsExact formula := by
  show some t.text = some (String.ofList (segment formula.toList t.start t.stop))
  rw [h.segment_eq ht, String.ofList_toList]

theorem underlines_token (h : Layout 0 formula.toList tokens) {t : Token} (ht : t ∈ tokens) :
    t.span.Underlines formula := by
  have hcovered : t.span.covered formula = t.text.toList := h.segment_eq ht
  refine ⟨t.start_lt_stop, h.stop_le ht, (h.isExact_token ht).text_eq fun c hc ↦ ?_⟩
  rw [hcovered] at hc
  exact Token.isBlank_of_mem_text (h.fits t ht) hc

/-- Neighbours cover their texts and the blanks between them. -/
theorem exists_segment_neighbours {previous next : Token}
    (h : Layout 0 formula.toList tokens) (hpair : [previous, next] <:+: tokens) :
    ∃ gap, segment formula.toList previous.start next.stop =
        previous.text.toList ++ gap ++ next.text.toList ∧
      (∀ c ∈ gap, isBlank c = true) ∧ previous.stop ≤ next.start ∧
      (previous.stop = next.start → gap = []) := by
  obtain ⟨before, after, rfl⟩ := hpair
  have hp : previous ∈ before ++ [previous, next] ++ after := by simp
  have hn : next ∈ before ++ [previous, next] ++ after := by simp
  -- every other token lies before the first or behind the second of the two
  obtain ⟨hbefore, hafter, hle⟩ :
      (∀ t ∈ before, t.stop ≤ previous.start) ∧ (∀ t ∈ after, next.stop ≤ t.start) ∧
        previous.stop ≤ next.start := by
    have hordered := h.ordered
    simp only [List.append_assoc, List.cons_append, List.nil_append, List.pairwise_append,
      List.pairwise_cons, List.mem_cons] at hordered
    exact ⟨fun t ht ↦ hordered.2.2 t ht previous (.inl rfl), hordered.2.1.2.1,
      hordered.2.1.1 next (.inl rfl)⟩
  refine ⟨segment formula.toList previous.stop next.start, ?_, fun c hc ↦ ?_, hle, fun heq ↦ ?_⟩
  · rw [← h.segment_eq hp, ← h.segment_eq hn,
      segment_append_segment _ (Nat.le_of_lt previous.start_lt_stop) hle,
      segment_append_segment _ (Nat.le_trans (Nat.le_of_lt previous.start_lt_stop) hle)
        (Nat.le_of_lt next.start_lt_stop)]
  · obtain ⟨k, hk, hk', hc⟩ := exists_getElem?_of_mem_segment hc
    refine h.blank k c hc fun t ht ↦ ?_
    rw [Nat.zero_add]
    simp only [List.append_assoc, List.cons_append, List.nil_append, List.mem_append,
      List.mem_cons] at ht
    rcases ht with ht | rfl | rfl | ht
    · have := hbefore t ht
      have := previous.start_lt_stop
      exact .inr (by omega)
    · exact .inr hk
    · exact .inl hk'
    · have := hafter t ht
      have := next.start_lt_stop
      exact .inl (by omega)
  · rw [heq, segment_self]

end Layout

/-! ### Where faults point -/

namespace ReadFault

/-- The tokens that a fault is about. -/
def tokens : ReadFault → List Token
  | unexpectedEnd token | tooDeep token | unexpectedToken token | unopened token
  | unclosed token => [token]
  | operatorRun previous next => [previous, next]
  | callNotOpened handle | argumentMissing handle | callNotClosed handle => [.word handle]

/-- Every fault but an operator run is about one token and has its span. -/
theorem exists_tokens_eq (fault : ReadFault) :
    (∃ t, fault.tokens = [t] ∧ fault.span = t.span) ∨
      ∃ previous next, fault = operatorRun previous next := by
  cases fault with
  | operatorRun previous next => exact .inr ⟨previous, next, rfl⟩
  | unexpectedEnd t | tooDeep t | unexpectedToken t | unopened t | unclosed t =>
    exact .inl ⟨t, rfl, rfl⟩
  | callNotOpened handle | argumentMissing handle | callNotClosed handle =>
    exact .inl ⟨.word handle, rfl, rfl⟩

end ReadFault

variable {limit : Option Nat}

/-- An open parenthesis is one of the tokens. -/
theorem Opens.opening_mem {base d : Nat} {tokens : List Token} {groups : List Group}
    (h : Opens limit base tokens groups d) : ∀ group ∈ groups, group.opening ∈ tokens := by
  induction h with
  | nil => exact nofun
  | cons n h hl hd ih =>
    refine List.forall_mem_cons.2 ⟨?_, fun group hgroup ↦ ?_⟩
    · simp
    · exact List.mem_append_left _ (ih group hgroup)

namespace Reader

/-- At a rejected token the fault is about that token, about it and the operator in front of it, or
about an earlier parenthesis or handle. -/
theorem Holds.infix_of_rejects {base : Nat} {taken : List Token} {r : Reader} {token : Token}
    {fault : ReadFault} (h : Holds limit base taken r) (hr : Rejects limit r token fault) :
    fault.tokens <:+: taken ++ [token] := by
  cases h with
  | @operand before tokens groups d level after? ho hl hafter =>
    cases hr with
    | operatorRun ht =>
      -- the operator in front is the last token that was taken
      obtain ⟨init, rfl⟩ := List.getLast?_eq_some_iff.1 (hafter _ rfl)
      exact ⟨before ++ init, [], by simp [ReadFault.tokens]⟩
    | tooDeepGroup | tooDeepSign | misplacedProduct | misplacedClosing =>
      exact (List.singleton_infix_iff _ _).2 (List.mem_append_right _ List.mem_cons_self)
  | operator ho ht =>
    cases hr with
    | trailing | unopened =>
      exact (List.singleton_infix_iff _ _).2 (List.mem_append_right _ List.mem_cons_self)
    | unclosed =>
      have hmem := ho.opening_mem _ List.mem_cons_self
      exact (List.singleton_infix_iff _ _).2 (List.mem_append_left _ (List.mem_append_left _ hmem))
  | callOpening | callArgument | callClosing =>
    cases hr
    exact (List.singleton_infix_iff _ _).2 (by simp)

/-- Where the tokens end too early, the fault is about the last one, or about an earlier parenthesis
or handle. -/
theorem Holds.infix_of_finish {base : Nat} {taken : List Token} {r : Reader} {last : Token}
    {fault : ReadFault} (h : Holds limit base taken r) (hlast : last ∈ taken)
    (hr : r.finish last = .error fault) : fault.tokens <:+: taken := by
  cases h with
  | operand ho hl hafter =>
    obtain rfl := Except.error.inj hr
    exact (List.singleton_infix_iff _ _).2 hlast
  | @operator before tokens groups d sum? term ho ht =>
    cases groups with
    | nil => exact nomatch hr
    | cons group groups =>
      obtain rfl := Except.error.inj hr
      exact (List.singleton_infix_iff _ _).2
        (List.mem_append_left _ (ho.opening_mem group List.mem_cons_self))
  | callOpening | callArgument | callClosing =>
    obtain rfl := Except.error.inj hr
    exact (List.singleton_infix_iff _ _).2 (by simp)

end Reader

/-- **A fault points to a token, or to two neighbours.** -/
theorem Tree.ofTokens?_eq_error_infix {tokens : List Token} {fault : ReadFault}
    (h : Tree.ofTokens? limit tokens = .error fault) : fault.tokens <:+: tokens := by
  rcases Tree.exists_of_ofTokens?_eq_error h with
    ⟨r, last, hlast, ht, hfinish⟩ | ⟨taken, token, rest, r, rfl, ht, hr⟩
  · exact ht.holds.infix_of_finish hlast hfinish
  · have hinfix := ht.holds.infix_of_rejects hr
    rw [List.append_cons]
    exact List.infix_append_of_infix_left hinfix

/-! ### Verdicts -/

/-- What a reader complains about can be underlined. -/
theorem ReadFault.underlines_span {formula : String} {tokens : List Token} {fault : ReadFault}
    (hlayout : Layout 0 formula.toList tokens) (h : fault.tokens <:+: tokens) :
    fault.span.Underlines formula ∧
      (fault.span.IsExact formula ∨
        ∃ previous next, fault = operatorRun previous next ∧ previous.stop < next.start) := by
  rcases fault.exists_tokens_eq with ⟨t, htokens, hspan⟩ | ⟨previous, next, rfl⟩
  · have ht : t ∈ tokens := h.mem (htokens ▸ List.mem_singleton_self t)
    rw [hspan]
    exact ⟨hlayout.underlines_token ht, .inl (hlayout.isExact_token ht)⟩
  · have hp : previous ∈ tokens := h.mem List.mem_cons_self
    have hn : next ∈ tokens := h.mem (List.mem_cons_of_mem previous List.mem_cons_self)
    obtain ⟨gap, hsegment, hgap, hle, hnil⟩ := hlayout.exists_segment_neighbours h
    have hcovered : (operatorRun previous next).span.covered formula =
        previous.text.toList ++ gap ++ next.text.toList := hsegment
    refine ⟨⟨?_, hlayout.stop_le hn, ?_⟩, ?_⟩
    · exact Nat.lt_of_lt_of_le previous.start_lt_stop
        (Nat.le_trans hle (Nat.le_of_lt next.start_lt_stop))
    · rw [hcovered, withoutBlanks_append, withoutBlanks_append, withoutBlanks_eq_nil hgap,
        withoutBlanks_eq_self fun c ↦ Token.isBlank_of_mem_text (hlayout.fits previous hp),
        withoutBlanks_eq_self fun c ↦ Token.isBlank_of_mem_text (hlayout.fits next hn),
        List.append_nil, String.ofList_append, String.ofList_toList, String.ofList_toList]
      rfl
    · rcases Nat.lt_or_eq_of_le hle with hlt | heq
      · exact .inr ⟨previous, next, rfl, hlt⟩
      · refine .inl ?_
        rw [Span.IsExact, hcovered, hnil heq, List.append_nil, String.ofList_append,
          String.ofList_toList, String.ofList_toList]
        rfl

/-- What a scanner complains about can be underlined. -/
theorem ScanFault.exists_underlines {formula : String} {fault : ScanFault}
    (h : Token.scan formula = .error fault) :
    ∃ span, fault.failure = .diagnostic ⟨.syntaxError, fault.failure.message, some span⟩ ∧
      span.Underlines formula ∧ span.IsExact formula := by
  obtain ⟨before, c, after, htext, -, hc, rfl⟩ := Token.exists_of_scan_eq_error h
  have hcovered : (Span.mk before.length (before.length + 1) (some (String.singleton c))).covered
      formula = [c] := by
    rw [Span.covered, segment, htext, List.drop_left, Nat.add_sub_cancel_left]
    rfl
  have hexact : (Span.mk before.length (before.length + 1) (some (String.singleton c))).IsExact
      formula := by
    rw [Span.IsExact, hcovered]
    exact congrArg some String.singleton_eq_ofList
  refine ⟨_, rfl, ⟨Nat.lt_succ_self _, ?_, hexact.text_eq fun d hd ↦ ?_⟩, hexact⟩
  · rw [← String.length_toList, htext, List.length_append, List.length_cons]
    exact Nat.succ_le_of_lt (Nat.lt_add_of_pos_right (Nat.succ_pos _))
  · rw [hcovered, List.mem_singleton] at hd
    rw [hd]
    exact Scanner.isBlank_of_not_isLegal hc

/-- What does not compile has a diagnostic whose span can be underlined. -/
theorem CompileFault.exists_underlines {s : Settings} {formula : String} {fault : CompileFault}
    (h : Formula.compile s formula = .error fault) :
    ∃ d span, fault.failure = .diagnostic d ∧ (d.kind = .syntaxError ∨ d.kind = .valueError) ∧
      d.span = some span ∧ span.Underlines formula ∧
      (span.IsExact formula ∨ ∃ previous next,
        fault = .misread (.operatorRun previous next) ∧ previous.stop < next.start) := by
  rcases Formula.compile_eq_error_iff.1 h with ⟨scanFault, hscan, rfl⟩ |
    ⟨tokens, hscan, ⟨refused, hrefused, rfl⟩ | ⟨readFault, -, hread, rfl⟩⟩
  · obtain ⟨span, hfailure, hunderlines, hexact⟩ := ScanFault.exists_underlines hscan
    exact ⟨_, span, hfailure, .inl rfl, rfl, hunderlines, .inl hexact⟩
  · have hlayout := Token.scan_eq_ok_iff_layout.1 hscan
    obtain ⟨-, before, after, rfl, -⟩ := Vocabulary.firstRefused?_eq_some_iff.1 hrefused
    have ht : refused.token ∈ before ++ refused.token :: after :=
      List.mem_append_right _ List.mem_cons_self
    exact ⟨_, _, rfl, .inr rfl, rfl, hlayout.underlines_token ht,
      .inl (hlayout.isExact_token ht)⟩
  · have hlayout := Token.scan_eq_ok_iff_layout.1 hscan
    obtain ⟨hunderlines, hexact⟩ :=
      ReadFault.underlines_span hlayout (Tree.ofTokens?_eq_error_infix hread)
    refine ⟨_, _, rfl, .inl rfl, rfl, hunderlines, hexact.imp_right ?_⟩
    rintro ⟨previous, next, rfl, hlt⟩
    exact ⟨previous, next, rfl, hlt⟩

/-- **Every complaint about a formula can be underlined.** A verdict is valid, or it is a syntax or
value error whose span covers characters of the formula and carries their text. The text is exact,
except that an operator run leaves out the blanks between its operators. -/
theorem Formula.verdict_valid_or_underlines (s : Settings) (formula : String) :
    Formula.verdict s formula = .valid ∨
      ∃ fault d span, Formula.compile s formula = .error fault ∧
        Formula.verdict s formula = .error d ∧
        (d.kind = .syntaxError ∨ d.kind = .valueError) ∧
        d.span = some span ∧ span.Underlines formula ∧
        (span.IsExact formula ∨ ∃ previous next,
          fault = .misread (.operatorRun previous next) ∧ previous.stop < next.start) := by
  rw [Formula.verdict]
  rcases hcompile : Formula.compile s formula with fault | t?
  · obtain ⟨d, span, hfailure, hkind, hspan, hunderlines, hexact⟩ :=
      CompileFault.exists_underlines hcompile
    refine .inr ⟨fault, d, span, rfl, ?_, hkind, hspan, hunderlines, hexact⟩
    exact Verdict.ofFailure_eq_error_iff.2 ⟨hfailure, by rw [hspan]; rfl⟩
  · exact .inl rfl

end StreamFormula
