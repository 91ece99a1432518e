import Mathlib.Logic.Basic
import StreamFormula.Proofs.Formula.Stages
import StreamFormula.Proofs.Text.Scanning

/-!
# Which fault is reported

A formula may have many faults, and its verdict reports one. An illegal character comes first, then
a word that cannot be used under the selected streams, then what reading finds; among illegal
characters and among such words it is the leftmost one (`Formula.verdict_reports_first`). So a fault
of a later stage goes unreported even where it stands further to the left.

Which words cannot be used is said here by their spelling and the selection alone (`Word.Offends`,
and `Word.Objection` with the wording), without the registries that admission looks them up in.
-/

namespace StreamFormula

variable {inputs : List Stream} {w : Word}

/-- The word cannot be used with these streams selected. -/
def Word.Offends (inputs : List Stream) (w : Word) : Prop :=
  match w.kind with
  | .number => 2 ≤ w.text.toList.count '.'
  | .stream => ∀ s ∈ inputs, s.name ≠ w.text
  | .handle => w.text ≠ "@FPD" ∨ inputs = []

/-- What is said about a word that cannot be used. -/
inductive Word.Objection (inputs : List Stream) (w : Word) : String → Prop where
  | malformed (kind : w.kind = .number) (dots : 2 ≤ w.text.toList.count '.') :
      Objection inputs w ("Invalid number: " ++ w.text)
  | unselected (kind : w.kind = .stream) (s : Stream) (name : s.name = w.text)
      (unselected : s ∉ inputs) :
      Objection inputs w (w.text ++ " stream needs to be selected as an input to be used")
  | unknown (kind : w.kind = .stream) (unknown : ∀ s : Stream, s.name ≠ w.text) :
      Objection inputs w ("Invalid value: " ++ w.text)
  | unavailable (kind : w.kind = .handle) (handle : w.text ≠ "@FPD" ∨ inputs = []) :
      Objection inputs w (w.text ++ " function is not available")

namespace Word

/-- **Admission refuses the words that offend.** -/
theorem refusal?_eq_none_iff :
    (Token.word w).refusal? (Settings.mk inputs).vocabulary = none ↔ ¬ w.Offends inputs := by
  obtain ⟨kind, text, start, hne⟩ := w
  cases kind with
  | number =>
    rw [Token.refusal?, WordKind.refusal?_number_eq_none_iff]
    simp only [Offends, Nat.not_le, Nat.lt_succ_iff]
  | stream =>
    rw [Token.refusal?, WordKind.refusal?_stream_eq_none_iff]
    simp only [Offends, Settings.vocabulary, Settings.mem_streams, ne_eq, not_forall, not_not,
      exists_prop]
  | handle =>
    rw [Token.refusal?, WordKind.refusal?_handle_eq_none_iff]
    simp only [Offends, Settings.vocabulary, Settings.mem_functions, ne_eq, not_or, not_not]
    constructor
    · rintro ⟨⟨⟩, hinputs, hsymbol⟩
      exact ⟨hsymbol.symm, hinputs⟩
    · rintro ⟨htext, hinputs⟩
      exact ⟨.fpd, hinputs, htext.symm⟩

theorem offends_of_refusal? {r : Refusal}
    (h : (Token.word w).refusal? (Settings.mk inputs).vocabulary = some r) : w.Offends inputs :=
  not_not.1 fun hnot ↦ nomatch h.symm.trans (refusal?_eq_none_iff.2 hnot)

/-- A refused word is refused for what is to be said about it. -/
theorem objection_of_refusal? {r : Refusal}
    (h : (Token.word w).refusal? (Settings.mk inputs).vocabulary = some r) :
    w.Objection inputs r.message := by
  have hoffends := offends_of_refusal? h
  obtain ⟨kind, text, start, hne⟩ := w
  cases kind with
  | number =>
    rw [Token.refusal?, WordKind.refusal?] at h
    split at h
    · cases h
    · exact Option.some.inj h ▸ .malformed rfl hoffends
  | stream =>
    rw [Token.refusal?, WordKind.refusal?] at h
    split at h
    · next s hs =>
      split at h
      · cases h
      · next hselected =>
        exact Option.some.inj h ▸ .unselected rfl s (Stream.ofName?_eq_some_iff.1 hs)
          (mt Settings.mem_streams.2 hselected)
    · next hnone =>
      refine Option.some.inj h ▸ .unknown rfl fun s hs ↦ ?_
      cases hnone.symm.trans (Stream.ofName?_eq_some_iff.2 hs)
  | handle =>
    rw [Token.refusal?, WordKind.refusal?] at h
    split at h
    · cases h
    · exact Option.some.inj h ▸ .unavailable rfl hoffends

end Word

/-- The first refused token is the leftmost word that offends. -/
theorem Vocabulary.exists_of_firstRefused?_eq_some {tokens : List Token} {r : RefusedToken}
    (h : (Settings.mk inputs).vocabulary.firstRefused? tokens = some r) :
    ∃ before w after, tokens = before ++ .word w :: after ∧ w.Offends inputs ∧
      (∀ u, .word u ∈ before → ¬ u.Offends inputs) ∧ w.Objection inputs r.reason.message ∧
      r.diagnostic = ⟨.valueError, r.reason.message, some ⟨w.start, w.stop, some w.text⟩⟩ := by
  obtain ⟨hrefused, before, after, htokens, hbefore⟩ := firstRefused?_eq_some_iff.1 h
  obtain ⟨token, reason⟩ := r
  cases token with
  | symbol s n => exact nomatch hrefused
  | word w =>
    exact ⟨before, w, after, htokens, Word.offends_of_refusal? hrefused,
      fun u hu ↦ Word.refusal?_eq_none_iff.1 (hbefore _ hu),
      Word.objection_of_refusal? hrefused, rfl⟩

/-- Nothing is refused exactly where no word offends. -/
theorem Vocabulary.firstRefused?_eq_none_iff_offends {tokens : List Token} :
    (Settings.mk inputs).vocabulary.firstRefused? tokens = none ↔
      ∀ w, .word w ∈ tokens → ¬ w.Offends inputs := by
  rw [firstRefused?_eq_none_iff]
  constructor
  · exact fun h w hw ↦ Word.refusal?_eq_none_iff.1 (h _ hw)
  · rintro h (⟨s, n⟩ | w) ht
    · rfl
    · exact Word.refusal?_eq_none_iff.2 (h w ht)

namespace Formula

variable {formula : String} {tokens : List Token}

/-- The first illegal character is reported, whatever stands before it. -/
theorem exists_verdict_of_illegal {s : Settings} (h : ∃ c ∈ formula.toList, isLegal c = false) :
    ∃ before c after, formula.toList = before ++ c :: after ∧
      (∀ d ∈ before, isLegal d = true) ∧ isLegal c = false ∧
      verdict s formula = .error ⟨.syntaxError, "Invalid character: " ++ String.singleton c,
        some ⟨before.length, before.length + 1, some (String.singleton c)⟩⟩ := by
  obtain ⟨c, hc, hillegal⟩ := h
  rcases all_isLegal_or_exists formula.toList with hall | ⟨before, d, after, htext, hbefore, hd⟩
  · exact nomatch hillegal.symm.trans (hall c hc)
  · exact ⟨before, d, after, htext, hbefore, hd,
      verdict_of_scan_eq_error (Token.scan_eq_error htext hbefore hd)⟩

/-- The leftmost word that offends is reported, whatever reading would find. -/
theorem exists_verdict_of_offends (hscan : Token.scan formula = .ok tokens)
    (h : ∃ w, .word w ∈ tokens ∧ w.Offends inputs) :
    ∃ before w after reason, tokens = before ++ .word w :: after ∧ w.Offends inputs ∧
      (∀ u, .word u ∈ before → ¬ u.Offends inputs) ∧ w.Objection inputs reason ∧
      verdict ⟨inputs⟩ formula =
        .error ⟨.valueError, reason, some ⟨w.start, w.stop, some w.text⟩⟩ := by
  rcases hr : (Settings.mk inputs).vocabulary.firstRefused? tokens with - | r
  · obtain ⟨w, hw, hoffends⟩ := h
    exact absurd hoffends (Vocabulary.firstRefused?_eq_none_iff_offends.1 hr w hw)
  · obtain ⟨before, w, after, htokens, hoffends, hbefore, hreason, hdiagnostic⟩ :=
      Vocabulary.exists_of_firstRefused?_eq_some hr
    exact ⟨before, w, after, _, htokens, hoffends, hbefore, hreason,
      hdiagnostic ▸ verdict_of_firstRefused?_eq_some hscan hr⟩

/-- A value error is about a word that offends. -/
theorem exists_offends_of_valueError (hscan : Token.scan formula = .ok tokens) {d : Diagnostic}
    (h : verdict ⟨inputs⟩ formula = .error d) (hkind : d.kind = .valueError) :
    ∃ w, .word w ∈ tokens ∧ w.Offends inputs := by
  obtain ⟨tokens', r, hscan', hr, -⟩ := exists_firstRefused?_of_valueError h hkind
  obtain rfl := Except.ok.inj (hscan.symm.trans hscan')
  obtain ⟨before, w, after, rfl, hoffends, -⟩ := Vocabulary.exists_of_firstRefused?_eq_some hr
  exact ⟨w, List.mem_append_right _ List.mem_cons_self, hoffends⟩

/-- **The first fault of the first stage is reported.** An illegal character, whatever stands before
it; else the leftmost word that offends, whatever reading would find; else what reading finds, if it
finds anything. -/
theorem verdict_reports_first (inputs : List Stream) (formula : String) :
    ((∃ c ∈ formula.toList, isLegal c = false) →
        ∃ before c after, formula.toList = before ++ c :: after ∧
          (∀ d ∈ before, isLegal d = true) ∧ isLegal c = false ∧
          verdict ⟨inputs⟩ formula = .error ⟨.syntaxError,
            "Invalid character: " ++ String.singleton c,
            some ⟨before.length, before.length + 1, some (String.singleton c)⟩⟩) ∧
      ((∀ c ∈ formula.toList, isLegal c = true) →
        ∃ tokens, Token.scan formula = .ok tokens ∧
          ((∃ d, verdict ⟨inputs⟩ formula = .error d ∧ d.kind = .valueError) ↔
            ∃ w, .word w ∈ tokens ∧ w.Offends inputs) ∧
          ((∃ w, .word w ∈ tokens ∧ w.Offends inputs) →
            ∃ before w after reason, tokens = before ++ .word w :: after ∧ w.Offends inputs ∧
              (∀ u, .word u ∈ before → ¬ u.Offends inputs) ∧ w.Objection inputs reason ∧
              verdict ⟨inputs⟩ formula =
                .error ⟨.valueError, reason, some ⟨w.start, w.stop, some w.text⟩⟩) ∧
          ((∀ w, .word w ∈ tokens → ¬ w.Offends inputs) →
            (tokens = [] → verdict ⟨inputs⟩ formula = .valid) ∧
            (∀ t?, Tree.read tokens = .ok t? → verdict ⟨inputs⟩ formula = .valid) ∧
            ∀ fault, Tree.read tokens = .error fault →
              verdict ⟨inputs⟩ formula = .error fault.diagnostic)) := by
  refine ⟨exists_verdict_of_illegal, fun hlegal ↦ ?_⟩
  obtain ⟨tokens, hscan⟩ := Token.exists_scan_eq_ok hlegal
  refine ⟨tokens, hscan, ⟨fun ⟨d, hd, hkind⟩ ↦ exists_offends_of_valueError hscan hd hkind,
    fun hoffends ↦ ?_⟩, exists_verdict_of_offends hscan, fun hnone ↦ ?_⟩
  · obtain ⟨-, w, -, reason, -, -, -, -, hverdict⟩ := exists_verdict_of_offends hscan hoffends
    exact ⟨_, hverdict, rfl⟩
  · have hverdict : verdict ⟨inputs⟩ formula = .ofReading (Tree.read tokens) :=
      verdict_of_firstRefused?_eq_none hscan (Vocabulary.firstRefused?_eq_none_iff_offends.2 hnone)
    refine ⟨?_, fun t? hread ↦ ?_, fun fault hread ↦ ?_⟩
    · rintro rfl
      exact hverdict
    · rw [hverdict, hread]
      rfl
    · rw [hverdict, hread]
      rfl

/-- Reading would find the two operators of `2**3+Oil`, but oil is not selected and is reported; with
an illegal character behind it, only that is. -/
theorem verdict_reports_oil :
    (∃ c ∈ "2**3+Oil#".toList, isLegal c = false) ∧
      (∃ before c after, "2**3+Oil#".toList = before ++ c :: after ∧
        (∀ d ∈ before, isLegal d = true) ∧ isLegal c = false ∧
        verdict ⟨[.gas]⟩ "2**3+Oil#" = .error ⟨.syntaxError,
          "Invalid character: " ++ String.singleton c,
          some ⟨before.length, before.length + 1, some (String.singleton c)⟩⟩) ∧
      ∃ tokens, Token.scan "2**3+Oil" = .ok tokens ∧
        Tree.read tokens = .error (.operatorRun (.symbol .star 1) (.symbol .star 2)) ∧
        ∃ before w after reason, tokens = before ++ .word w :: after ∧ w.Offends [.gas] ∧
          (∀ u, .word u ∈ before → ¬ u.Offends [.gas]) ∧ w.Objection [.gas] reason ∧
          verdict ⟨[.gas]⟩ "2**3+Oil" =
            .error ⟨.valueError, reason, some ⟨w.start, w.stop, some w.text⟩⟩ := by
  have hillegal : ∃ c ∈ "2**3+Oil#".toList, isLegal c = false := ⟨'#', by decide, by decide⟩
  have hscan : Token.scan "2**3+Oil" = .ok [.word ⟨.number, "2", 0, by decide⟩, .symbol .star 1,
      .symbol .star 2, .word ⟨.number, "3", 3, by decide⟩, .symbol .plus 4,
      .word ⟨.stream, "Oil", 5, by decide⟩] := by
    with_unfolding_all rfl
  obtain ⟨tokens, hscan', -, hreports, -⟩ :=
    (verdict_reports_first [.gas] "2**3+Oil").2 (Token.isLegal_of_scan hscan)
  obtain rfl := Except.ok.inj (hscan'.symm.trans hscan)
  have hoil : (⟨.stream, "Oil", 5, by decide⟩ : Word).Offends [.gas] :=
    List.forall_mem_singleton.2 (by decide)
  exact ⟨hillegal, (verdict_reports_first [.gas] "2**3+Oil#").1 hillegal, _, hscan,
    rfl, hreports ⟨_, by decide, hoil⟩⟩

end Formula

end StreamFormula
