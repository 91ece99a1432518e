import StreamFormula.Proofs.Formula.Stages
import StreamFormula.Proofs.Reader.Correspondence
import StreamFormula.Proofs.Text.Rendering

/-!
# What a verdict owes to the layout

Formulas whose tokens are alike, whatever lies between them, are judged alike
(`Formula.verdict_alike`): both are valid, or both fail at the same stage for the same reason, and
only the offsets differ. Each stage contributes its half. Admission looks at the shape of one token
at a time, and reading at kinds alone, where tokens of one shape make one tree.

Rendering the tokens of a formula gives such a formula, so it can be judged in place of the original
(`Token.scan_render_alike`).
-/

namespace StreamFormula

/-! ### Tokens of one shape -/

namespace Token

theorem sameKind_of_shape_eq {t u : Token} (h : t.shape = u.shape) : t.SameKind u := by
  rw [eq_moveTo_of_shape_eq h]
  cases t with
  | symbol s m => exact .symbol s m _
  | word w => exact .word rfl

theorem text_eq_of_shape_eq {t u : Token} (h : t.shape = u.shape) : t.text = u.text := by
  rw [eq_moveTo_of_shape_eq h, text_moveTo]

theorem refusal?_eq_of_shape_eq (v : Vocabulary) {t u : Token} (h : t.shape = u.shape) :
    t.refusal? v = u.refusal? v := by
  rw [eq_moveTo_of_shape_eq h]
  cases t <;> rfl

/-- Lists of the same shapes correspond token by token. -/
theorem forall₂_shape_iff {tokens tokens' : List Token} :
    List.Forall₂ (fun t u ↦ t.shape = u.shape) tokens tokens' ↔
      tokens.map shape = tokens'.map shape := by
  rw [← List.forall₂_eq_eq_eq, List.forall₂_map_left_iff, List.forall₂_map_right_iff]

end Token

/-! ### Complaints that differ in offsets only -/

/-- Diagnostics of one kind, with one message, about one text. -/
structure Diagnostic.Alike (d d' : Diagnostic) : Prop where
  kind_eq : d.kind = d'.kind
  message_eq : d.message = d'.message
  text_eq : d.span.map Span.text = d'.span.map Span.text

/-- Verdicts that agree in all but offsets. -/
inductive Verdict.Alike : Verdict → Verdict → Prop where
  | valid : Alike .valid .valid
  | message (text : String) : Alike (.message text) (.message text)
  | error {d d' : Diagnostic} (h : d.Alike d') : Alike (.error d) (.error d')

/-- Alike diagnostics point into the text both or neither. -/
theorem Diagnostic.Alike.verdict {d d' : Diagnostic} (h : d.Alike d') :
    (Verdict.ofDiagnostic d).Alike (Verdict.ofDiagnostic d') := by
  have hsome : d.span.isSome = d'.span.isSome := by
    have htext := congrArg Option.isSome h.text_eq
    rwa [Option.isSome_map, Option.isSome_map] at htext
  unfold Verdict.ofDiagnostic
  rw [hsome]
  split
  · exact .error h
  · exact h.message_eq ▸ .message d.message

/-- The same refusal of the same token. -/
structure RefusedToken.Alike (r r' : RefusedToken) : Prop where
  shape_eq : r.token.shape = r'.token.shape
  reason_eq : r.reason = r'.reason

theorem RefusedToken.Alike.diagnostic {r r' : RefusedToken} (h : r.Alike r') :
    r.diagnostic.Alike r'.diagnostic where
  kind_eq := rfl
  message_eq := congrArg Refusal.message h.reason_eq
  text_eq := congrArg (some ∘ some) (Token.text_eq_of_shape_eq h.shape_eq)

theorem ReadFault.Corresponds.diagnostic {fault fault' : ReadFault}
    (h : fault.Corresponds (fun t u ↦ t.shape = u.shape) fault') :
    fault.diagnostic.Alike fault'.diagnostic where
  kind_eq := rfl
  message_eq := h.message_eq Token.text_eq_of_shape_eq
  text_eq := congrArg some (h.text_span_eq Token.text_eq_of_shape_eq)

/-! ### Stages -/

variable {tokens tokens' : List Token}

/-- Admission refuses the same token of both lists, or none. -/
theorem Vocabulary.firstRefused?_alike (v : Vocabulary)
    (h : tokens.map Token.shape = tokens'.map Token.shape) :
    Option.Rel RefusedToken.Alike (v.firstRefused? tokens) (v.firstRefused? tokens') := by
  have hforall := Token.forall₂_shape_iff.2 h
  clear h
  induction hforall with
  | nil => exact .none
  | @cons t u ts us htu _ ih =>
    rw [firstRefused?, List.findSome?_cons, firstRefused?, List.findSome?_cons,
      Token.refusal?_eq_of_shape_eq v htu]
    cases u.refusal? v with
    | none => exact ih
    | some reason => exact .some ⟨htu, rfl⟩

/-- Reading makes the same tree of both lists, or finds the same fault. -/
theorem Tree.read_alike (h : tokens.map Token.shape = tokens'.map Token.shape) :
    (∃ t?, Tree.read tokens = .ok t? ∧ Tree.read tokens' = .ok t?) ∨
      ∃ fault fault', Tree.read tokens = .error fault ∧ Tree.read tokens' = .error fault' ∧
        fault.diagnostic.Alike fault'.diagnostic := by
  have hread := Tree.ofTokens?_corresponds (some nestingLimit) Token.sameKind_of_shape_eq
    (Token.forall₂_shape_iff.2 h)
  rw [Tree.read, Tree.read]
  generalize Tree.ofTokens? _ tokens = result, Tree.ofTokens? _ tokens' = result' at hread
  cases hread with
  | @tree t t' ht => exact .inl ⟨some t, rfl, ht.eq Token.text_eq_of_shape_eq ▸ rfl⟩
  | nothing => exact .inl ⟨none, rfl, rfl⟩
  | fault hfault => exact .inr ⟨_, _, rfl, rfl, hfault.diagnostic⟩

/-- **Formulas of the same tokens are judged alike**, wherever the tokens stand. -/
theorem Formula.verdict_alike {formula formula' : String} (hscan : Token.scan formula = .ok tokens)
    (hscan' : Token.scan formula' = .ok tokens')
    (h : tokens.map Token.shape = tokens'.map Token.shape) (s : Settings) :
    (Formula.verdict s formula).Alike (Formula.verdict s formula') := by
  have hrefused := s.vocabulary.firstRefused?_alike h
  simp only [Formula.verdict, Formula.compile, hscan, hscan', Formula.compileTokens]
  generalize s.vocabulary.firstRefused? tokens = refused?,
    s.vocabulary.firstRefused? tokens' = refused?' at hrefused
  cases hrefused with
  | some hrefused => exact hrefused.diagnostic.verdict
  | none =>
    rcases Tree.read_alike h with ⟨t?, hread, hread'⟩ | ⟨fault, fault', hread, hread', hfault⟩
    · simp only [hread, hread']
      exact .valid
    · simp only [hread, hread']
      exact hfault.verdict

/-! ### Rendering a formula -/

/-- **Rendering keeps tokens, and all that a formula's tokens decide.** Whatever tokens of fitting
texts are rendered, scanning gives them back, each behind those before it with one blank between.
A formula may therefore be replaced by the rendering of its tokens: rendering that changes nothing
any more, reading gives the same tree or fails for both, and all verdicts are alike. -/
theorem Token.scan_render_alike :
    (∀ tokens : List Token, (∀ t ∈ tokens, t.Fits) →
        ∃ us, Token.scan (Token.render tokens) = .ok us ∧
          us.map Token.shape = tokens.map Token.shape ∧
          ∀ (i : Nat) (hi : i < us.length),
            us[i].start = ((tokens.take i).map fun t ↦ t.text.length + 1).sum) ∧
      ∀ (formula : String) (tokens : List Token), Token.scan formula = .ok tokens →
        ∃ us, Token.scan (Token.render tokens) = .ok us ∧
          us.map Token.shape = tokens.map Token.shape ∧
          Token.render us = Token.render tokens ∧
          ((∃ t?, Tree.read tokens = .ok t? ∧ Tree.read us = .ok t?) ∨
            ∃ fault fault', Tree.read tokens = .error fault ∧ Tree.read us = .error fault') ∧
          ∀ s : Settings,
            (Formula.verdict s formula).Alike (Formula.verdict s (Token.render tokens)) := by
  refine ⟨fun tokens hfits ↦ ?_, fun formula tokens hscan ↦ ?_⟩
  · refine ⟨_, scan_render hfits, map_placed shape_moveTo 0 tokens, fun i hi ↦ ?_⟩
    rw [start_getElem_placed, Nat.zero_add]
  · have hrender := scan_render (scan_eq_ok_iff_layout.1 hscan).fits
    have hshape := map_placed shape_moveTo 0 tokens
    refine ⟨_, hrender, hshape, render_placed 0 tokens, ?_,
      Formula.verdict_alike hscan hrender hshape.symm⟩
    exact (Tree.read_alike hshape.symm).imp_right fun ⟨fault, fault', hread, hread', _⟩ ↦
      ⟨fault, fault', hread, hread'⟩

/-- Two operators in a row are still complained about when blanks come between them. -/
theorem Token.scan_render_operator_run :
    Token.scan "2\t+-" =
        .ok [.word ⟨.number, "2", 0, by decide⟩, .symbol .plus 2, .symbol .minus 3] ∧
      (∃ us, Token.scan "2 + -" = .ok us ∧ Token.render us = "2 + -" ∧
        us.map Token.shape = [.inr (.number, "2"), .inl .plus, .inl .minus]) ∧
      ∀ s : Settings, (Formula.verdict s "2\t+-").Alike (Formula.verdict s "2 + -") := by
  have hscan : Token.scan "2\t+-" =
      .ok [.word ⟨.number, "2", 0, by decide⟩, .symbol .plus 2, .symbol .minus 3] := by
    with_unfolding_all rfl
  obtain ⟨us, hrender, hshape, hagain, -, hverdict⟩ := Token.scan_render_alike.2 _ _ hscan
  exact ⟨hscan, ⟨us, hrender, hagain, hshape⟩, hverdict⟩

end StreamFormula
