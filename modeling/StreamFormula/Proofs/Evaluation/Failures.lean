import StreamFormula.Evaluation.Tree

/-!
# How leaves fail

A leaf makes at most one call, and has the answer of the call as its value. So a failure of the call
is the failure of the leaf (`Atom.evaluate_eq_raised`); any other failure is the leaf's own, and
nothing is called for it.
-/

namespace StreamFormula

variable {b : Bindings} {fs : Functions}

/-- The call that a leaf makes. -/
def Atom.call? : Atom → Option Call
  | number _ | stream _ => none
  | call handle argument => do
    let f ← Builtin.ofSymbol? handle
    let x ← Decimal.read? argument
    some ⟨f, x⟩

theorem Atom.call?_eq_some_iff {handle argument : String} {c : Call} :
    (Atom.call handle argument).call? = some c ↔
      Builtin.ofSymbol? handle = some c.function ∧ Decimal.read? argument = some c.argument := by
  constructor
  · intro h
    obtain ⟨f, hf, h⟩ := Option.bind_eq_some_iff.1 h
    obtain ⟨x, hx, hc⟩ := Option.bind_eq_some_iff.1 h
    obtain rfl := Option.some.inj hc
    exact ⟨hf, hx⟩
  · rintro ⟨hf, hx⟩
    simp [call?, hf, hx]

/-- A leaf that makes a call has the answer of the call. -/
theorem Atom.evaluate_of_call? {a : Atom} {call : Call} (h : a.call? = some call) :
    a.evaluate b fs = fs.call call.function call.argument := by
  cases a with
  | number text | stream name => exact nomatch h
  | call handle argument =>
    obtain ⟨hf, hx⟩ := call?_eq_some_iff.1 h
    rw [Atom.evaluate, hf]
    exact Evaluation.bind_of_ok (numberOf_eq_ok_iff.2 hx) _

/-- A leaf whose argument denotes no number makes no call. -/
theorem Atom.evaluate_of_read?_eq_none {f : Builtin} {argument : String}
    (h : Decimal.read? argument = none) :
    (Atom.call f.symbol argument).evaluate b fs = ⟨.error (.invalidNumber argument), []⟩ := by
  rw [Atom.evaluate, Builtin.ofSymbol?_symbol]
  exact Evaluation.bind_of_error (numberOf_eq_error_iff.2 ⟨h, rfl⟩) _

/-- A name fails because no stream has it, or because its stream is not bound. -/
theorem Bindings.valueOf_eq_error {name : String} {fault : EvalFault}
    (h : b.valueOf name = .error fault) : fault = .unknownName name ∨ fault = .unbound name := by
  unfold valueOf at h
  split at h
  · exact .inl (Except.error.inj h).symm
  · split at h
    · exact .inr (Except.error.inj h).symm
    · cases h

/-- A name is at fault itself, whatever was called before. -/
theorem Bindings.valueOf_ne_raised (name : String) (d : Diagnostic) :
    b.valueOf name ≠ .error (.raised d) := by
  intro h
  rcases valueOf_eq_error h with hfault | hfault
  · cases hfault
  · cases hfault

/-- A call that denotes none has no value, through its own fault. -/
theorem Atom.exists_evaluate_eq_error {handle argument : String}
    (h : (Atom.call handle argument).call? = none) :
    ∃ fault, (∀ d, fault ≠ .raised d) ∧
      (Atom.call handle argument).evaluate b fs = ⟨.error fault, []⟩ := by
  rcases hf : Builtin.ofSymbol? handle with - | f
  · refine ⟨.unknownFunction handle, nofun, ?_⟩
    rw [Atom.evaluate, hf]
    rfl
  · obtain rfl := Builtin.ofSymbol?_eq_some_iff.1 hf
    rcases hx : Decimal.read? argument with - | x
    · exact ⟨.invalidNumber argument, nofun, Atom.evaluate_of_read?_eq_none hx⟩
    · have hcall : (Atom.call f.symbol argument).call? = some ⟨f, x⟩ :=
        Atom.call?_eq_some_iff.2 ⟨hf, hx⟩
      exact nomatch h.symm.trans hcall

/-- A leaf that passes on a caller's failure has made one call, the one that failed. -/
theorem Atom.evaluate_eq_raised {a : Atom} {d : Diagnostic}
    (h : (a.evaluate b fs).result = .error (.raised d)) :
    ∃ call, (a.evaluate b fs).calls = [call] ∧ fs call.function call.argument = .error d := by
  cases a with
  | number text => exact nomatch (numberOf_eq_error_iff.1 h).2
  | stream name => exact absurd h (Bindings.valueOf_ne_raised name d)
  | call handle argument =>
    rcases hcall : (Atom.call handle argument).call? with - | call
    · obtain ⟨fault, hraised, hfault⟩ := exists_evaluate_eq_error hcall
      rw [hfault] at h
      exact absurd (Except.error.inj h) (hraised d)
    · rw [evaluate_of_call? hcall] at h ⊢
      obtain ⟨d', hfails, heq⟩ := Functions.result_call_eq_error_iff.1 h
      obtain rfl := EvalFault.raised.inj heq
      exact ⟨call, rfl, hfails⟩

end StreamFormula
