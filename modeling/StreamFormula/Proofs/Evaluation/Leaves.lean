import StreamFormula.Evaluation.Caller
import StreamFormula.Tree.Dependencies

/-!
# What evaluation reads

A tree reaches the outside only through its leaves. Its evaluation, with all calls made on the way,
is determined by the evaluations of the leaves (`Tree.evaluateWith_congr`), and it needs every one
of them (`Tree.exists_evaluate_eq_ok`). A leaf in turn looks up at most one stream or one function.
So bindings and callers matter exactly as far as a tree names what they know
(`Tree.evaluate_reads_dependencies`), and a caller that remembers matters no further.
-/

namespace StreamFormula

variable {b b' : Bindings} {fs fs' : Functions}

/-! ### Leaves -/

/-- A leaf looks at the stream that it names and at the function that it calls. -/
theorem Atom.evaluate_congr {a : Atom} (hb : ∀ s ∈ a.stream?, b.get? s = b'.get? s)
    (hfs : ∀ f ∈ a.function?, ∀ x, fs f x = fs' f x) : a.evaluate b fs = a.evaluate b' fs' := by
  cases a with
  | number text => rfl
  | stream name =>
    rw [Atom.evaluate, Atom.evaluate, Bindings.valueOf, Bindings.valueOf]
    rcases hname : Stream.ofName? name with - | s
    · rfl
    · simp only [hb s hname]
  | call handle argument =>
    rw [Atom.evaluate, Atom.evaluate]
    rcases hhandle : Builtin.ofSymbol? handle with - | f
    · rfl
    · simp only [Functions.call, hfs f hhandle]

/-- A leaf that names a stream without a value has none. -/
theorem Atom.evaluate_of_unbound {a : Atom} {s : Stream} (ha : a.stream? = some s)
    (hs : b.get? s = none) : ∃ name, (a.evaluate b fs).result = .error (.unbound name) := by
  cases a with
  | number text | call handle argument => exact nomatch ha
  | stream name =>
    have hname : Stream.ofName? name = some s := ha
    refine ⟨name, ?_⟩
    simp only [Atom.evaluate, Bindings.valueOf, hname, hs, Evaluation.result_ofExcept]

/-! ### Trees -/

namespace Tree

variable {c c' : Caller}

/-- **Trees evaluate alike where their leaves do**, call by call. -/
theorem evaluateWith_congr {t : Tree}
    (h : ∀ a ∈ t.atoms, ∀ past,
      a.evaluate b (c.functions past) = a.evaluate b' (c'.functions past))
    (past : List Call) : t.evaluateWith b c past = t.evaluateWith b' c' past := by
  induction t generalizing past with
  | atom a => exact h a (List.mem_singleton_self a) past
  | binary op l r ihl ihr =>
    have hl := ihl fun a ha ↦ h a (List.mem_append_left _ ha)
    have hr := ihr fun a ha ↦ h a (List.mem_append_right _ ha)
    -- the operand on the left makes the same calls, so the one on the right has the same past
    rw [evaluateWith, evaluateWith, hl past]
    simp only [hr]
  | signed s t ih => rw [evaluateWith, evaluateWith, ih h]

/-- **Evaluation is strict**: a tree has a value only if each of its leaves has one in its place. -/
theorem exists_evaluate_eq_ok {t : Tree} {past : List Call} {x : Float}
    (h : (t.evaluateWith b c past).result = .ok x) :
    ∀ a ∈ t.atoms, ∃ past y, (a.evaluate b (c.functions past)).result = .ok y := by
  induction t generalizing past x with
  | atom a => exact List.forall_mem_singleton.2 ⟨past, x, h⟩
  | binary op l r ihl ihr =>
    obtain ⟨y, hl, hrest⟩ := Evaluation.result_bind_eq_ok_iff.1 h
    obtain ⟨z, hr, -⟩ := Evaluation.result_bind_eq_ok_iff.1 hrest
    exact List.forall_mem_append.2 ⟨ihl hl, ihr hr⟩
  | signed s t ih =>
    obtain ⟨y, hy, -⟩ := Evaluation.result_bind_eq_ok_iff.1 h
    exact ih hy

/-- Callers matter through the functions that a tree calls, and bindings through its streams. -/
theorem evaluateWith_eq_of_agree {t : Tree} (hb : ∀ s ∈ t.streams, b.get? s = b'.get? s)
    (hc : ∀ past, ∀ f ∈ t.functions, ∀ x, c past ⟨f, x⟩ = c' past ⟨f, x⟩) (past : List Call) :
    t.evaluateWith b c past = t.evaluateWith b' c' past := by
  refine evaluateWith_congr (fun a ha past ↦ Atom.evaluate_congr (fun s hs ↦ ?_) fun f hf ↦ ?_) past
  · exact hb s (mem_streams.2 ⟨a, ha, hs⟩)
  · exact hc past f (mem_functions.2 ⟨a, ha, hf⟩)

/-- A tree has no value if one of its streams has none. -/
theorem exists_evaluateWith_eq_error {t : Tree} (h : ∃ s ∈ t.streams, b.get? s = none) (c : Caller)
    (past : List Call) : ∃ fault, (t.evaluateWith b c past).result = .error fault := by
  obtain ⟨s, hs, hunbound⟩ := h
  obtain ⟨a, ha, hstream⟩ := mem_streams.1 hs
  rcases hresult : (t.evaluateWith b c past).result with fault | x
  · exact ⟨fault, rfl⟩
  · obtain ⟨_, y, hy⟩ := exists_evaluate_eq_ok hresult a ha
    obtain ⟨name, hname⟩ := Atom.evaluate_of_unbound hstream hunbound
    exact nomatch hy.symm.trans hname

/-- **Evaluation reads what the tree names.** Bindings that agree on the streams of a tree, with
functions that agree on the functions of the tree, give it the same result by the same calls. And
none of these streams can be left out: where one is not bound there is no value. Both are as true
of callers that remember, if those agree on the functions of the tree whatever was called before. -/
theorem evaluate_reads_dependencies (t : Tree) :
    (∀ (b b' : Bindings) (fs fs' : Functions), (∀ s ∈ t.streams, b.get? s = b'.get? s) →
        (∀ f ∈ t.functions, ∀ x, fs f x = fs' f x) → t.evaluate b fs = t.evaluate b' fs') ∧
      (∀ b : Bindings, (∃ s ∈ t.streams, b.get? s = none) →
        ∀ fs : Functions, ∃ fault, (t.evaluate b fs).result = .error fault) ∧
      (∀ (b b' : Bindings) (c c' : Caller), (∀ s ∈ t.streams, b.get? s = b'.get? s) →
        (∀ past, ∀ f ∈ t.functions, ∀ x, c past ⟨f, x⟩ = c' past ⟨f, x⟩) →
          ∀ past, t.evaluateWith b c past = t.evaluateWith b' c' past) ∧
      ∀ b : Bindings, (∃ s ∈ t.streams, b.get? s = none) →
        ∀ (c : Caller) (past : List Call),
          ∃ fault, (t.evaluateWith b c past).result = .error fault := by
  refine ⟨fun b b' fs fs' hb hfs ↦ ?_, fun b hunbound fs ↦ ?_,
    fun b b' c c' hb hc ↦ evaluateWith_eq_of_agree hb hc,
    fun b hunbound ↦ exists_evaluateWith_eq_error hunbound⟩
  · have hsame : t.evaluateWith b fs.caller [] = t.evaluateWith b' fs'.caller [] :=
      evaluateWith_eq_of_agree hb (fun _ ↦ hfs) []
    rwa [evaluateWith_caller, evaluateWith_caller] at hsame
  · have hfails := exists_evaluateWith_eq_error hunbound fs.caller []
    rwa [evaluateWith_caller] at hfails

/-- Half of the oil hangs on the value of oil, and on nothing else: not on a caller that would count
its calls, either. -/
theorem evaluate_reads_oil :
    (binary .divide (.atom (.stream "Oil")) (.atom (.number "2"))).evaluate
        (Bindings.empty.insert .oil 6) Functions.none =
      (binary .divide (.atom (.stream "Oil")) (.atom (.number "2"))).evaluate
        ((Bindings.empty.insert .oil 6).insert .gas 7) (fun _ x ↦ .ok x) ∧
    (∃ fault, ((binary .divide (.atom (.stream "Oil")) (.atom (.number "2"))).evaluate
      (Bindings.empty.insert .gas 7) Functions.none).result = .error fault) ∧
    (binary .divide (.atom (.stream "Oil")) (.atom (.number "2"))).evaluateWith
        (Bindings.empty.insert .oil 6) Functions.none.caller [] =
      (binary .divide (.atom (.stream "Oil")) (.atom (.number "2"))).evaluateWith
        ((Bindings.empty.insert .oil 6).insert .gas 7) (fun past _ ↦ .ok past.length.toFloat) [] ∧
    ∃ fault, ((binary .divide (.atom (.stream "Oil")) (.atom (.number "2"))).evaluateWith
      (Bindings.empty.insert .gas 7) (fun past _ ↦ .ok past.length.toFloat) []).result =
        .error fault := by
  have hstreams :
      (binary .divide (.atom (.stream "Oil")) (.atom (.number "2"))).streams = [.oil] := by decide
  have hfunctions :
      (binary .divide (.atom (.stream "Oil")) (.atom (.number "2"))).functions = [] := by decide
  have hbound : ∀ s ∈ [Stream.oil], (Bindings.empty.insert .oil 6).get? s =
      ((Bindings.empty.insert .oil 6).insert .gas 7).get? s :=
    List.forall_mem_singleton.2 rfl
  have hunbound : ∃ s ∈ [Stream.oil], (Bindings.empty.insert .gas 7).get? s = none :=
    ⟨.oil, List.mem_singleton_self _, rfl⟩
  obtain ⟨hsame, hneeded, hsameWith, hneededWith⟩ :=
    evaluate_reads_dependencies (binary .divide (.atom (.stream "Oil")) (.atom (.number "2")))
  rw [hstreams, hfunctions] at hsame hsameWith
  rw [hstreams] at hneeded hneededWith
  exact ⟨hsame _ _ _ _ hbound nofun, hneeded _ hunbound _,
    hsameWith _ _ _ _ hbound (fun _ ↦ nofun) _, hneededWith _ hunbound _ _⟩

end Tree

end StreamFormula
