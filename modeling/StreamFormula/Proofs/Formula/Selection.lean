import StreamFormula.Proofs.Formula.Stages
import StreamFormula.Proofs.Text.Scanning

/-!
# Selecting more streams

Of the three stages of compiling only admission looks at the settings, and it never refuses a token
for what is selected in addition (`Token.refusal?_eq_none_mono`): a stream may be used as soon as it
is selected, and a function as soon as anything is. So a larger selection refuses no token earlier
(`Vocabulary.firstRefused?_mono`), and what scanning and reading find stays what it is. What a
formula's verdict makes of this is `Formula.verdict_of_larger_selection`.

The order of a selection and its repeats are lost when it becomes a vocabulary
(`Settings.vocabulary_eq`), which is why two selections of the same streams cannot be told apart.
-/

namespace StreamFormula

/-! ### Vocabularies -/

/-- Everything of one vocabulary is in another. -/
structure Vocabulary.Within (v v' : Vocabulary) : Prop where
  streams : v.streams ⊆ v'.streams
  functions : v.functions ⊆ v'.functions

/-- More streams make a larger vocabulary: the functions come with the first stream. -/
theorem Settings.vocabulary_within {s s' : Settings} (h : s.inputs ⊆ s'.inputs) :
    s.vocabulary.Within s'.vocabulary where
  streams _ hx := mem_streams.2 (h (mem_streams.1 hx))
  functions _ hf := mem_functions.2 fun hnil ↦
    mem_functions.1 hf (List.subset_nil.1 (hnil ▸ h))

/-- The order of the selected streams does not matter, nor does a repeat. -/
theorem Settings.vocabulary_eq {s s' : Settings} (h : ∀ x, x ∈ s.inputs ↔ x ∈ s'.inputs) :
    s.vocabulary = s'.vocabulary := by
  have hstreams : s.streams = s'.streams :=
    List.filter_congr fun x _ ↦ decide_eq_decide.2 (h x)
  have hempty : s.inputs.isEmpty = s'.inputs.isEmpty := by
    rw [Bool.eq_iff_iff, List.isEmpty_iff, List.isEmpty_iff, List.eq_nil_iff_forall_not_mem,
      List.eq_nil_iff_forall_not_mem]
    exact forall_congr' fun x ↦ not_congr (h x)
  rw [vocabulary, vocabulary, functions, functions, Builtin.available, Builtin.available, hstreams,
    hempty]

/-! ### Admission -/

section Admission

variable {v v' : Vocabulary} (h : v.Within v') {tokens : List Token}

include h

theorem WordKind.refusal?_eq_none_mono {kind : WordKind} {text : String}
    (hadmitted : kind.refusal? v text = none) : kind.refusal? v' text = none := by
  cases kind with
  | number => exact hadmitted
  | stream =>
    obtain ⟨s, hs, hname⟩ := refusal?_stream_eq_none_iff.1 hadmitted
    exact refusal?_stream_eq_none_iff.2 ⟨s, h.streams hs, hname⟩
  | handle =>
    obtain ⟨f, hf, hsymbol⟩ := refusal?_handle_eq_none_iff.1 hadmitted
    exact refusal?_handle_eq_none_iff.2 ⟨f, h.functions hf, hsymbol⟩

/-- **An admitted token stays admitted.** -/
theorem Token.refusal?_eq_none_mono {t : Token} (hadmitted : t.refusal? v = none) :
    t.refusal? v' = none := by
  cases t with
  | symbol s n => rfl
  | word w => exact WordKind.refusal?_eq_none_mono h hadmitted

theorem Vocabulary.firstRefused?_eq_none_mono (hnone : v.firstRefused? tokens = none) :
    v'.firstRefused? tokens = none :=
  firstRefused?_eq_none_iff.2 fun t ht ↦
    Token.refusal?_eq_none_mono h (firstRefused?_eq_none_iff.1 hnone t ht)

/-- **The first refused token comes no earlier.** -/
theorem Vocabulary.firstRefused?_mono {r r' : RefusedToken} (hr : v.firstRefused? tokens = some r)
    (hr' : v'.firstRefused? tokens = some r') :
    ∃ i j : Nat, i ≤ j ∧ tokens[i]? = some r.token ∧ tokens[j]? = some r'.token := by
  obtain ⟨-, before, after, rfl, hbefore⟩ := firstRefused?_eq_some_iff.1 hr
  obtain ⟨hrefused, before', after', htokens, -⟩ := firstRefused?_eq_some_iff.1 hr'
  have hi : (before ++ r.token :: after)[before.length]? = some r.token := by simp
  have hj : (before ++ r.token :: after)[before'.length]? = some r'.token := by simp [htokens]
  refine ⟨before.length, before'.length, Nat.le_of_not_lt fun hlt ↦ ?_, hi, hj⟩
  -- otherwise the later refusal is of a token that was admitted before
  rw [List.getElem?_append_left hlt] at hj
  have hadmitted := Token.refusal?_eq_none_mono h (hbefore _ (List.mem_of_getElem? hj))
  exact nomatch hadmitted.symm.trans hrefused

end Admission

namespace Formula

/-! ### Larger selections -/

/-- Two selections of the same streams cannot be told apart. -/
theorem compile_eq_of_same_streams {s s' : Settings} (h : ∀ x, x ∈ s.inputs ↔ x ∈ s'.inputs)
    (formula : String) : compile s formula = compile s' formula := by
  unfold compile compileTokens
  rw [Settings.vocabulary_eq h]

/-- **Selecting more streams can only help.** A formula that is valid stays so, with the same tree;
a syntax error stays the same; and a value error, which always refuses some token, either moves on
to that token or a later one, or leaves the word to reading. Selections of the same streams make no
difference at all. -/
theorem verdict_of_larger_selection {inputs more : List Stream} (h : inputs ⊆ more)
    (formula : String) :
    (verdict ⟨inputs⟩ formula = .valid → verdict ⟨more⟩ formula = .valid ∧
        ∃ t?, compile ⟨inputs⟩ formula = .ok t? ∧ compile ⟨more⟩ formula = .ok t?) ∧
      (∀ d, verdict ⟨inputs⟩ formula = .error d → d.kind = .syntaxError →
        verdict ⟨more⟩ formula = .error d) ∧
      (∀ d, verdict ⟨inputs⟩ formula = .error d → d.kind = .valueError →
        ∃ tokens i, Token.scan formula = .ok tokens ∧
          (verdict ⟨inputs⟩ formula).RefusesAt tokens i) ∧
      (∀ tokens i, Token.scan formula = .ok tokens →
        (verdict ⟨inputs⟩ formula).RefusesAt tokens i →
          (∃ j, i ≤ j ∧ (verdict ⟨more⟩ formula).RefusesAt tokens j) ∨
            verdict ⟨more⟩ formula = .ofReading (Tree.read tokens)) ∧
      (more ⊆ inputs → verdict ⟨inputs⟩ formula = verdict ⟨more⟩ formula ∧
        compile ⟨inputs⟩ formula = compile ⟨more⟩ formula) := by
  have hwithin : (Settings.mk inputs).vocabulary.Within (Settings.mk more).vocabulary :=
    Settings.vocabulary_within h
  refine ⟨fun hvalid ↦ ?_, fun d hd hkind ↦ ?_, fun d hd hkind ↦ ?_, fun tokens i hscan hi ↦ ?_,
    fun hback ↦ ?_⟩
  · obtain ⟨t?, hcompile⟩ := verdict_eq_valid_iff.1 hvalid
    obtain ⟨tokens, hscan, hadmitted, hread⟩ := compile_eq_ok_iff.1 hcompile
    have hmore : compile ⟨more⟩ formula = .ok t? := compile_eq_ok_iff.2
      ⟨tokens, hscan, fun t ht ↦ Token.refusal?_eq_none_mono hwithin (hadmitted t ht), hread⟩
    exact ⟨verdict_eq_valid_iff.2 ⟨t?, hmore⟩, t?, hcompile, hmore⟩
  · rcases hscan : Token.scan formula with fault | tokens
    · rw [verdict_of_scan_eq_error hscan] at hd ⊢
      exact hd
    · rcases hr : (Settings.mk inputs).vocabulary.firstRefused? tokens with - | r
      · rw [verdict_of_firstRefused?_eq_none hscan hr] at hd
        rwa [verdict_of_firstRefused?_eq_none hscan
          (Vocabulary.firstRefused?_eq_none_mono hwithin hr)]
      · rw [verdict_of_firstRefused?_eq_some hscan hr] at hd
        obtain rfl := Verdict.error.inj hd
        exact nomatch hkind
  · obtain ⟨tokens, r, hscan, hr, rfl⟩ := exists_firstRefused?_of_valueError hd hkind
    obtain ⟨-, before, after, rfl, -⟩ := Vocabulary.firstRefused?_eq_some_iff.1 hr
    exact ⟨_, before.length, hscan, _, r.token, hd, rfl, by simp, rfl⟩
  · obtain ⟨d, t, hd, hkind, ht, hspan⟩ := hi
    obtain ⟨tokens', r, hscan', hr, rfl⟩ := exists_firstRefused?_of_valueError hd hkind
    obtain rfl := Except.ok.inj (hscan.symm.trans hscan')
    rcases hr' : (Settings.mk more).vocabulary.firstRefused? tokens with - | r'
    · exact .inr (verdict_of_firstRefused?_eq_none hscan hr')
    · obtain ⟨i', j, hij, hi', hj⟩ := Vocabulary.firstRefused?_mono hwithin hr hr'
      obtain rfl : i' = i :=
        (Token.scan_eq_ok_iff_layout.1 hscan).index_eq_of_start_eq hi' ht
          (congrArg Span.start (Option.some.inj hspan))
      exact .inl ⟨j, hij, _, r'.token, verdict_of_firstRefused?_eq_some hscan hr', rfl, hj, rfl⟩
  · have hsame : compile ⟨inputs⟩ formula = compile ⟨more⟩ formula :=
      compile_eq_of_same_streams (fun x ↦ ⟨fun hx ↦ h hx, fun hx ↦ hback hx⟩) formula
    exact ⟨by rw [verdict, verdict, hsame], hsame⟩

/-- With water selected too, a formula of gas, water and oil is refused for its oil and no longer
for its water. -/
theorem verdict_of_gas_and_water :
    ∃ tokens, Token.scan "Gas+Water*Oil" = .ok tokens ∧ [.gas] ⊆ [Stream.water, .gas] ∧
      (verdict ⟨[.gas]⟩ "Gas+Water*Oil").RefusesAt tokens 2 ∧
      ∃ j, 2 ≤ j ∧ (verdict ⟨[.water, .gas]⟩ "Gas+Water*Oil").RefusesAt tokens j := by
  have hscan : Token.scan "Gas+Water*Oil" = .ok [.word ⟨.stream, "Gas", 0, by decide⟩,
      .symbol .plus 3, .word ⟨.stream, "Water", 4, by decide⟩, .symbol .star 9,
      .word ⟨.stream, "Oil", 10, by decide⟩] := by
    with_unfolding_all rfl
  have hgas : verdict ⟨[.gas]⟩ "Gas+Water*Oil" = .error ⟨.valueError,
      "Water stream needs to be selected as an input to be used", some ⟨4, 9, some "Water"⟩⟩ := by
    with_unfolding_all rfl
  have hmore : verdict ⟨[.water, .gas]⟩ "Gas+Water*Oil" ≠ .valid := by
    with_unfolding_all exact nofun
  have hsubset : [.gas] ⊆ [Stream.water, .gas] := by decide
  obtain ⟨-, -, -, hmoves, -⟩ := verdict_of_larger_selection hsubset "Gas+Water*Oil"
  refine ⟨_, hscan, hsubset, ⟨_, _, hgas, rfl, rfl, rfl⟩, ?_⟩
  exact (hmoves _ 2 hscan ⟨_, _, hgas, rfl, rfl, rfl⟩).resolve_right hmore

end Formula

end StreamFormula
