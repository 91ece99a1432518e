import StreamFormula.Proofs.Formula.Stages
import StreamFormula.Proofs.Reader.Contents
import StreamFormula.Tree.Dependencies

/-!
# What a formula needs

Admission looks at the words of a formula, one after another, and the dependencies of a formula are
collected from its tree. Since reading loses no word, the two speak of the same names
(`Tree.mem_streams_iff_mem_words`, `Tree.mem_functions_iff_mem_words`). A selection of streams is
therefore enough for a formula exactly if it has the streams of the tree, and if it is not empty
where the tree calls a function: such selections are those under which the formula compiles
(`Formula.compile_eq_ok_iff_dependencies`) and those under which it is valid
(`Formula.dependencies_are_needed`).
-/

namespace StreamFormula

namespace Tree

variable {t : Tree}

/-- The streams of a tree are those whose names are among its words. -/
theorem mem_streams_iff_mem_words {s : Stream} : s ∈ t.streams ↔ (.stream, s.name) ∈ t.words := by
  rw [mem_streams, stream_mem_words]
  constructor
  · rintro ⟨a, ha, hs⟩
    cases a with
    | number text | call handle argument => exact nomatch hs
    | stream name =>
      obtain rfl := Stream.ofName?_eq_some_iff.1 hs
      exact ha
  · exact fun h ↦ ⟨_, h, Stream.ofName?_name s⟩

/-- The functions of a tree are those whose handles are among its words. -/
theorem mem_functions_iff_mem_words {f : Builtin} :
    f ∈ t.functions ↔ (.handle, f.symbol) ∈ t.words := by
  rw [mem_functions, handle_mem_words]
  constructor
  · rintro ⟨a, ha, hf⟩
    cases a with
    | number text | stream name => exact nomatch hf
    | call handle argument =>
      obtain rfl := Builtin.ofSymbol?_eq_some_iff.1 hf
      exact ⟨argument, ha⟩
  · exact fun ⟨argument, h⟩ ↦ ⟨_, h, Builtin.ofSymbol?_symbol f⟩

end Tree

/-! ### Admitted tokens -/

/-- An admitted stream word names a usable stream. -/
theorem Word.exists_stream_of_admitted {v : Vocabulary} {w : Word}
    (h : (Token.word w).refusal? v = none) (hkind : w.kind = .stream) :
    ∃ x ∈ v.streams, x.name = w.text := by
  rw [Token.refusal?, hkind] at h
  exact WordKind.refusal?_stream_eq_none_iff.1 h

/-- An admitted handle calls a usable function. -/
theorem Word.exists_function_of_admitted {v : Vocabulary} {w : Word}
    (h : (Token.word w).refusal? v = none) (hkind : w.kind = .handle) :
    ∃ f ∈ v.functions, f.symbol = w.text := by
  rw [Token.refusal?, hkind] at h
  exact WordKind.refusal?_handle_eq_none_iff.1 h

section Admitted

variable {s : Settings} {tokens : List Token} {t : Tree}

/-- Of admitted tokens, each stream word names a stream of the tree, and the tree has no other. -/
theorem Tree.exists_stream_iff_of_read
    (hadmitted : ∀ token ∈ tokens, token.refusal? s.vocabulary = none)
    (hread : Tree.read tokens = .ok (some t)) {text : String} :
    (∃ x ∈ t.streams, x.name = text) ↔
      ∃ w : Word, .word w ∈ tokens ∧ w.kind = .stream ∧ w.text = text := by
  simp only [mem_streams_iff_mem_words]
  rw [← mem_words_of_read hread]
  constructor
  · rintro ⟨x, hx, rfl⟩
    exact hx
  · intro h
    obtain ⟨w, hw, hkind, rfl⟩ := (mem_words_of_read hread).1 h
    obtain ⟨x, -, hname⟩ := Word.exists_stream_of_admitted (hadmitted _ hw) hkind
    exact ⟨x, hname ▸ h, hname⟩

/-- Of admitted tokens, each handle calls a function of the tree, and the tree has no other. -/
theorem Tree.exists_function_iff_of_read
    (hadmitted : ∀ token ∈ tokens, token.refusal? s.vocabulary = none)
    (hread : Tree.read tokens = .ok (some t)) {text : String} :
    (∃ f ∈ t.functions, f.symbol = text) ↔
      ∃ w : Word, .word w ∈ tokens ∧ w.kind = .handle ∧ w.text = text := by
  simp only [mem_functions_iff_mem_words]
  rw [← mem_words_of_read hread]
  constructor
  · rintro ⟨f, hf, rfl⟩
    exact hf
  · intro h
    obtain ⟨w, hw, hkind, rfl⟩ := (mem_words_of_read hread).1 h
    obtain ⟨f, -, hsymbol⟩ := Word.exists_function_of_admitted (hadmitted _ hw) hkind
    exact ⟨f, hsymbol ▸ h, hsymbol⟩

/-- **Tokens that some selection admits are admitted by those that offer what the tree needs.** -/
theorem Tree.admitted_iff_dependencies
    (hadmitted : ∀ token ∈ tokens, token.refusal? s.vocabulary = none)
    (hread : Tree.read tokens = .ok (some t)) (selected : Settings) :
    (∀ token ∈ tokens, token.refusal? selected.vocabulary = none) ↔
      (∀ x ∈ t.streams, x ∈ selected.inputs) ∧ (t.functions = [] ∨ selected.inputs ≠ []) := by
  constructor
  · intro h
    refine ⟨fun x hx ↦ ?_, ?_⟩
    · obtain ⟨w, hw, hkind, htext⟩ := (exists_stream_iff_of_read h hread).1 ⟨x, hx, rfl⟩
      obtain ⟨y, hy, hname⟩ := Word.exists_stream_of_admitted (h _ hw) hkind
      obtain rfl := Stream.name_inj.1 (hname.trans htext)
      exact Settings.mem_streams.1 hy
    · by_cases hfunctions : t.functions = []
      · exact .inl hfunctions
      · obtain ⟨f, hf⟩ := List.exists_mem_of_ne_nil _ hfunctions
        obtain ⟨w, hw, hkind, -⟩ := (exists_function_iff_of_read h hread).1 ⟨f, hf, rfl⟩
        obtain ⟨g, hg, -⟩ := Word.exists_function_of_admitted (h _ hw) hkind
        exact .inr (Settings.mem_functions.1 hg)
  · rintro ⟨hstreams, hfunctions⟩ token htoken
    cases token with
    | symbol symbol offset => rfl
    | word w =>
      obtain ⟨kind, text, start, hne⟩ := w
      cases kind with
      | number => exact hadmitted _ htoken
      | stream =>
        obtain ⟨x, hx, hname⟩ :=
          (exists_stream_iff_of_read hadmitted hread).2 ⟨_, htoken, rfl, rfl⟩
        exact WordKind.refusal?_stream_eq_none_iff.2
          ⟨x, Settings.mem_streams.2 (hstreams x hx), hname⟩
      | handle =>
        obtain ⟨f, hf, hsymbol⟩ :=
          (exists_function_iff_of_read hadmitted hread).2 ⟨_, htoken, rfl, rfl⟩
        have hinputs : selected.inputs ≠ [] :=
          hfunctions.resolve_left (List.ne_nil_of_mem hf)
        exact WordKind.refusal?_handle_eq_none_iff.2
          ⟨f, Settings.mem_functions.2 hinputs, hsymbol⟩

end Admitted

namespace Formula

variable {s : Settings} {formula : String} {t : Tree}

/-- What compiles under one selection compiles under another exactly if that offers what the tree
needs, and then to the same tree. -/
theorem compile_eq_ok_iff_dependencies (hcompile : Formula.compile s formula = .ok (some t))
    (selected : Settings) {t? : Option Tree} :
    Formula.compile selected formula = .ok t? ↔
      ((∀ x ∈ t.streams, x ∈ selected.inputs) ∧ (t.functions = [] ∨ selected.inputs ≠ [])) ∧
        t? = some t := by
  obtain ⟨tokens, hscan, hadmitted, hread⟩ := compile_eq_ok_iff.1 hcompile
  rw [compile_eq_ok_iff, ← Tree.admitted_iff_dependencies hadmitted hread selected]
  simp only [hscan, Except.ok.injEq, exists_eq_left', hread, eq_comm]

/-- **The dependencies of a formula are exactly what it needs.** Let it compile under some
selection, for instance that of all streams. Then the streams and functions of its tree are those
that its words name, and each of its stream words and handles names one. Any selection is enough for
the formula exactly if it has these streams, and is not empty where a function is called; the tree
stays the same. -/
theorem dependencies_are_needed (hcompile : Formula.compile s formula = .ok (some t)) :
    ∃ tokens, Token.scan formula = .ok tokens ∧
      (∀ text, (∃ x ∈ t.streams, x.name = text) ↔
        ∃ w : Word, .word w ∈ tokens ∧ w.kind = .stream ∧ w.text = text) ∧
      (∀ text, (∃ f ∈ t.functions, f.symbol = text) ↔
        ∃ w : Word, .word w ∈ tokens ∧ w.kind = .handle ∧ w.text = text) ∧
      ∀ inputs : List Stream,
        (Formula.verdict ⟨inputs⟩ formula = .valid ↔
          (∀ x ∈ t.streams, x ∈ inputs) ∧ (t.functions = [] ∨ inputs ≠ [])) ∧
        (Formula.verdict ⟨inputs⟩ formula = .valid →
          Formula.compile ⟨inputs⟩ formula = .ok (some t)) := by
  obtain ⟨tokens, hscan, hadmitted, hread⟩ := compile_eq_ok_iff.1 hcompile
  refine ⟨tokens, hscan, fun text ↦ Tree.exists_stream_iff_of_read hadmitted hread,
    fun text ↦ Tree.exists_function_iff_of_read hadmitted hread, fun inputs ↦ ?_⟩
  have hvalid : Formula.verdict ⟨inputs⟩ formula = .valid ↔
      (∀ x ∈ t.streams, x ∈ inputs) ∧ (t.functions = [] ∨ inputs ≠ []) := by
    simp only [verdict_eq_valid_iff, compile_eq_ok_iff_dependencies hcompile, exists_eq_right]
  exact ⟨hvalid, fun h ↦
    (compile_eq_ok_iff_dependencies hcompile ⟨inputs⟩).2 ⟨hvalid.1 h, rfl⟩⟩

/-- A call times oil needs oil, and no other stream makes up for it. -/
theorem dependencies_of_call_times_oil :
    Formula.compile ⟨Stream.all⟩ "@FPD(2)*Oil" =
        .ok (some (.binary .multiply (.atom (.call "@FPD" "2")) (.atom (.stream "Oil")))) ∧
      Formula.compile ⟨[.oil]⟩ "@FPD(2)*Oil" =
        .ok (some (.binary .multiply (.atom (.call "@FPD" "2")) (.atom (.stream "Oil")))) ∧
      Formula.verdict ⟨[.gas]⟩ "@FPD(2)*Oil" ≠ .valid := by
  have hcompile : Formula.compile ⟨Stream.all⟩ "@FPD(2)*Oil" =
      .ok (some (.binary .multiply (.atom (.call "@FPD" "2")) (.atom (.stream "Oil")))) := by
    with_unfolding_all rfl
  obtain ⟨tokens, -, -, -, hneeds⟩ := dependencies_are_needed hcompile
  obtain ⟨hoil, hsame⟩ := hneeds [.oil]
  obtain ⟨hgas, -⟩ := hneeds [.gas]
  refine ⟨hcompile, hsame (hoil.2 (by decide)), ?_⟩
  rw [Ne, hgas]
  decide

end Formula

end StreamFormula
