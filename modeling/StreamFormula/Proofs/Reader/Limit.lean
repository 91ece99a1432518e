import StreamFormula.Proofs.Reader.Nesting
import StreamFormula.Proofs.Reader.Viability

/-!
# What the limit changes

Reading without a limit is the same reader, which counts its depth and never minds it. The peak of
that reading decides everything about a limit. One that the peak keeps to changes nothing, neither a
tree nor a fault (`Tree.ofTokens?_eq_unlimited`); any other stops the reading at the first token
that is too deep for it (`Tree.exists_ofTokens?_eq_tooDeep`). Tokens that are no formula are no
exception, since a run that is rejected has a peak as well, that of the tokens it took.

So it matters what makes a reader deeper: a sign or a parenthesis at the place of a factor, and
nothing else (`Reader.Step.of_depth_lt`). A call in that place is read at the depth of the place
(`Reader.takes_call`), like a numeral.
-/

namespace StreamFormula

namespace Reader

variable {limit : Option Nat}

/-- A call is read at the depth where it stands, and leaves the reader where a numeral would. -/
theorem takes_call (level : Level) (after? : Option Token) (groups : List Group) (depth : Nat)
    {handle argument : Word} (hhandle : handle.kind = .handle) (hargument : argument.kind = .number)
    (m n : Nat) :
    Takes limit ⟨.operand level after?, groups, depth⟩
        [.word handle, .symbol .openParen m, .word argument, .symbol .closeParen n]
        (factor level groups depth (.atom (.call handle.text argument.text))) ∧
      peak limit ⟨.operand level after?, groups, depth⟩
        [.word handle, .symbol .openParen m, .word argument, .symbol .closeParen n] = depth := by
  have hcall : Step limit ⟨.operand level after?, groups, depth⟩ (.word handle)
      ⟨.callOpening level handle, groups, depth⟩ := .handle handle hhandle
  have hopening : Step limit ⟨.callOpening level handle, groups, depth⟩ (.symbol .openParen m)
      ⟨.callArgument level handle, groups, depth⟩ := .callOpening m
  have hnumber : Step limit ⟨.callArgument level handle, groups, depth⟩ (.word argument)
      ⟨.callClosing level handle argument.text, groups, depth⟩ := .callArgument argument hargument
  have hclosing : Step limit ⟨.callClosing level handle argument.text, groups, depth⟩
      (.symbol .closeParen n)
      (factor level groups depth (.atom (.call handle.text argument.text))) := .callClosing n
  refine ⟨.cons hcall (.cons hopening (.cons hnumber (.single hclosing))), ?_⟩
  rw [hcall.peak_cons, hopening.peak_cons, hnumber.peak_cons, hclosing.peak_cons]
  simp only [peak, factor]
  omega

end Reader

namespace Tree

variable {tokens : List Token} {n : Nat}

/-- **A limit that is kept to changes nothing.** -/
theorem ofTokens?_eq_unlimited (h : (Reader.start 0).peak none tokens ≤ n) :
    ofTokens? (some n) tokens = ofTokens? none tokens := by
  rcases Reader.takes_or_rejects none (Reader.start 0) tokens with
    ⟨r, ht⟩ | ⟨taken, token, rest, r, fault, rfl, ht, hr⟩
  · cases tokens with
    | nil => rfl
    | cons token tokens =>
      have hne := List.cons_ne_nil token tokens
      rw [ofTokens?_eq (some n) hne, ofTokens?_eq none hne, (ht.limited h).run, ht.run]
  · rw [ht.peak_append, hr.peak_cons] at h
    have ht' := ht.limited (Nat.le_trans (Nat.le_max_left _ _) h)
    rw [ht'.ofTokens?_eq_error (hr.limited (some n)) rest, ht.ofTokens?_eq_error hr rest]

/-- **Any other limit stops the reading**, at the first token that is too deep for it. -/
theorem exists_ofTokens?_eq_tooDeep (h : n < (Reader.start 0).peak none tokens) :
    ∃ taken token rest, tokens = taken ++ token :: rest ∧
      (Reader.start 0).Exceeds n taken token ∧
      ofTokens? (some n) tokens = .error (.tooDeep token) := by
  obtain ⟨taken, token, rest, rfl, hexceeds⟩ := Reader.exists_exceeds (Nat.zero_le n) h
  obtain ⟨r, ht, hr⟩ := hexceeds.rejects
  exact ⟨taken, token, rest, rfl, hexceeds, ht.ofTokens?_eq_error hr rest⟩

/-- **The limit changes nothing below it, and it is exact.** Let the tokens be read without a limit.
If that never gets deeper than 256, reading them is the same with the limit, tree or fault.
Otherwise reading fails for the depth, at the first token that brings the reader without a limit to
257, and that token is an opening parenthesis or a sign. Only these, at the place of a factor, make
a reader deeper: a call is read at the depth of its place. -/
theorem read_eq_unlimited_or_tooDeep (tokens : List Token) :
    ((Reader.start 0).peak none tokens ≤ 256 → Tree.read tokens = ofTokens? none tokens) ∧
      (256 < (Reader.start 0).peak none tokens →
        ∃ taken token rest q q', tokens = taken ++ token :: rest ∧
          (Reader.start 0).peak none taken ≤ 256 ∧
          Reader.Takes none (Reader.start 0) taken q ∧ q.step none token = .ok q' ∧
          q.depth = 256 ∧ q'.depth = 257 ∧
          (token.symbol? = some .openParen ∨ ∃ s : Sign, token.symbol? = some s.symbol) ∧
          ∃ fault, Tree.read tokens = .error fault ∧
            fault.diagnostic = ⟨.syntaxError, "Formula is nested too deeply",
              some ⟨token.start, token.stop, some token.text⟩⟩) ∧
      (∀ (r : Reader) (token : Token) (r' : Reader), r.step none token = .ok r' →
        r.depth < r'.depth →
          (∃ level after?, r.expected = .operand level after?) ∧
            (token.symbol? = some .openParen ∨ ∃ s : Sign, token.symbol? = some s.symbol)) ∧
      ∀ (level : Level) (after? : Option Token) (groups : List Group) (depth : Nat)
        (handle argument : Word) (m n : Nat), handle.kind = .handle → argument.kind = .number →
          Reader.Takes none ⟨.operand level after?, groups, depth⟩
              [.word handle, .symbol .openParen m, .word argument, .symbol .closeParen n]
              (Reader.factor level groups depth (.atom (.call handle.text argument.text))) ∧
            Reader.peak none ⟨.operand level after?, groups, depth⟩
              [.word handle, .symbol .openParen m, .word argument, .symbol .closeParen n] =
                depth := by
  refine ⟨ofTokens?_eq_unlimited, fun h ↦ ?_, fun r token r' hstep hlt ↦ ?_, ?_⟩
  · obtain ⟨taken, token, rest, htokens, ⟨hlow, q, q', ht, hs, hdepth, hdepth'⟩, hread⟩ :=
      exists_ofTokens?_eq_tooDeep h
    obtain ⟨-, hnests, -, -⟩ := hs.of_depth_lt (by omega)
    exact ⟨taken, token, rest, q, q', htokens, hlow, ht, hs.step_eq, hdepth, hdepth', hnests,
      .tooDeep token, hread, rfl⟩
  · obtain ⟨hexpected, hnests, -, -⟩ := (Reader.step_eq_ok_iff.1 hstep).of_depth_lt hlt
    exact ⟨hexpected, hnests⟩
  · intro level after? groups depth handle argument m n hhandle hargument
    exact Reader.takes_call level after? groups depth hhandle hargument m n

end Tree

end StreamFormula
