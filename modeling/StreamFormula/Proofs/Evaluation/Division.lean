import StreamFormula.Proofs.Evaluation.Failures
import StreamFormula.Proofs.Evaluation.Places

/-!
# Division

Sums, differences and products of finite numbers may be infinite, and nothing is said about it. A
quotient that is not finite though its operands are is a failure instead, so a result that is not
finite has come from elsewhere: from a leaf, or from another operator (`Tree.exists_source`).

The failures of division are the only mathematical errors that evaluation raises on its own, and
each has its one cause (`DivisionFails`, `divide_eq_error_iff`). All of this rests on two facts
about doubles: a sign leaves them finite or not (`isFinite_neg`), and only the two zeros are equal
to zero (`beq_zero_iff`). Both follow from what a double unpacks to (`unpack_cases`).
-/

namespace StreamFormula

/-! ### Doubles -/

section Doubles

open Float.Model

/-- A number with this exponent can be packed: the largest one is kept for infinity. -/
def ExponentFits (e : Int) : Prop :=
  (e + Format.binary64.exponentBias + (52 : Nat)).toNat < 0x7ff

/-- **What a double unpacks to** is decided by its exponent: infinity or no number for the largest
one, a zero if there is no mantissa either, and else a number that can be packed again. -/
theorem unpack_cases (bits : BitVec Format.binary64.numBits) :
    (UnpackedFloat.unpackExponent bits = -1#11 ∧
        ((∃ s, UnpackedFloat.unpack .binary64 bits = .infinity s) ∨
          UnpackedFloat.unpack .binary64 bits = .notANumber)) ∨
      (UnpackedFloat.unpackExponent bits = 0#11 ∧ UnpackedFloat.unpackMantissa bits = 0#52 ∧
        ∃ s, UnpackedFloat.unpack .binary64 bits = .zero s) ∨
      ∃ s m e hm, UnpackedFloat.unpack .binary64 bits = .finite s m e hm ∧ ExponentFits e := by
  by_cases hlargest : UnpackedFloat.unpackExponent bits = -1#11
  · by_cases hmantissa : UnpackedFloat.unpackMantissa bits = 0#52
    · exact .inl ⟨hlargest, .inl ⟨_, (if_pos hlargest).trans (if_pos hmantissa)⟩⟩
    · exact .inl ⟨hlargest, .inr ((if_pos hlargest).trans (if_neg hmantissa))⟩
  · by_cases hzero : UnpackedFloat.unpackExponent bits = 0#11
    · by_cases hmantissa : UnpackedFloat.unpackMantissa bits = 0#52
      · exact .inr (.inl ⟨hzero, hmantissa, _,
          (if_neg hlargest).trans ((if_pos hzero).trans (dif_pos hmantissa))⟩)
      · refine .inr (.inr ⟨_, _, _, _,
          (if_neg hlargest).trans ((if_pos hzero).trans (dif_neg hmantissa)), ?_⟩)
        rw [hzero, ExponentFits]
        decide
    · refine .inr (.inr ⟨_, _, _, _, (if_neg hlargest).trans (if_neg hzero), ?_⟩)
      have hlt : (UnpackedFloat.unpackExponent bits).toNat < 0x7ff := by bv_omega
      have hbias (n bias : Nat) :
          ((n : Int) - (bias + (52 : Nat)) + bias + (52 : Nat)).toNat = n := by omega
      exact Nat.lt_of_le_of_lt (Nat.le_of_eq (hbias _ _)) hlt

/-- A number that can be packed stays finite. -/
theorem ExponentFits.isFinite_unpack_pack {e : Int} (h : ExponentFits e) (s : UnpackedFloat.Sign)
    {m : Nat} (hm : 0 < m) :
    (UnpackedFloat.unpack .binary64
      ((UnpackedFloat.finite s m e hm).pack .binary64)).isFinite = true := by
  unfold ExponentFits at h
  have hexponent :
      UnpackedFloat.unpackExponent ((UnpackedFloat.finite s m e hm).pack .binary64) ≠ -1#11 := by
    dsimp only [UnpackedFloat.pack]
    rw [if_neg (Nat.not_le.2 (Nat.succ_lt_succ h))]
    split
    · rw [UnpackedFloat.unpackExponent_packComponents]
      bv_omega
    · rw [UnpackedFloat.unpackExponent_packComponents]
      decide
  rcases unpack_cases ((UnpackedFloat.finite s m e hm).pack .binary64) with
    ⟨hlargest, -⟩ | ⟨-, -, _, hzero⟩ | ⟨_, _, _, _, hfinite, -⟩
  · exact absurd hlargest hexponent
  · rw [hzero]
    rfl
  · rw [hfinite]
    rfl

/-- **A negated double is as finite as it was.** -/
theorem isFinite_neg (x : Float) : (-x).isFinite = x.isFinite := by
  -- negation unpacks, and packs again under the other sign
  show (UnpackedFloat.unpack .binary64 (x.toModel.unpack.neg.pack .binary64)).isFinite =
    x.toModel.unpack.isFinite
  rw [Float.Model.unpack]
  rcases unpack_cases x.toModel.toBits.toBitVec with
    ⟨-, ⟨s, hinfinity⟩ | hnan⟩ | ⟨-, -, s, hzero⟩ | ⟨s, m, e, hm, hfinite, hexponent⟩
  · rw [hinfinity]
    cases s <;> decide
  · rw [hnan]
    decide
  · rw [hzero]
    cases s <;> decide
  · rw [hfinite]
    exact hexponent.isFinite_unpack_pack (-s) hm

/-- Without an exponent and a mantissa only the bit of the sign is left. -/
theorem eq_zero_of_unpackExponent {bits : BitVec Format.binary64.numBits}
    (hexponent : UnpackedFloat.unpackExponent bits = 0#11)
    (hmantissa : UnpackedFloat.unpackMantissa bits = 0#52) :
    bits = 0#64 ∨ bits = 0x8000000000000000#64 := by
  have hlow : bits.toNat % 0x10000000000000 = 0 := by
    simpa [UnpackedFloat.unpackMantissa] using congrArg BitVec.toNat hmantissa
  have hhigh : bits.toNat / 0x10000000000000 % 0x800 = 0 := by
    simpa [UnpackedFloat.unpackExponent, Nat.shiftRight_eq_div_pow] using
      congrArg BitVec.toNat hexponent
  have hlt : bits.toNat < 0x10000000000000000 := bits.isLt
  have hsign : bits.toNat = 0 ∨ bits.toNat = 0x8000000000000000 := by omega
  exact hsign.imp BitVec.eq_of_toNat_eq BitVec.eq_of_toNat_eq

/-- What unpacks to a zero is one of the two. -/
theorem eq_zero_of_unpack {x : Float} {s : UnpackedFloat.Sign} (h : x.toModel.unpack = .zero s) :
    x = 0.0 ∨ x = -0.0 := by
  obtain ⟨⟨⟨bits⟩, hvalid⟩⟩ := x
  rcases unpack_cases bits with
    ⟨-, ⟨s', hinfinity⟩ | hnan⟩ | ⟨hexponent, hmantissa, -⟩ | ⟨s', m, e, hm, hfinite, -⟩
  · cases h.symm.trans hinfinity
  · cases h.symm.trans hnan
  · rcases eq_zero_of_unpackExponent hexponent hmantissa with rfl | rfl
    · exact .inl rfl
    · exact .inr rfl
  · cases h.symm.trans hfinite

/-- **Only the two zeros are equal to zero.** -/
theorem beq_zero_iff {x : Float} : (x == 0.0) = true ↔ x = 0.0 ∨ x = -0.0 := by
  constructor
  · intro h
    have hzero : x.toModel.unpack.beq (.zero .positive) = true := h
    cases hx : x.toModel.unpack with
    | zero s => exact eq_zero_of_unpack hx
    | notANumber =>
      rw [hx] at hzero
      cases hzero
    | infinity s | finite s m e hm =>
      rw [hx] at hzero
      cases s <;> cases hzero
  · rintro (rfl | rfl)
    · decide
    · decide

end Doubles

/-- A sign leaves a number finite or not. -/
theorem Sign.isFinite_apply (s : Sign) (x : Float) : (s.apply x).isFinite = x.isFinite := by
  cases s with
  | plus => rfl
  | minus => exact isFinite_neg x

/-! ### Quotients -/

/-- The two failures of a quotient, each with its cause and its diagnostic. -/
inductive DivisionFails (x y : Float) : EvalFault → Diagnostic → Prop where
  /-- Whatever is divided. -/
  | byZero (zero : y = 0.0 ∨ y = -0.0) :
      DivisionFails x y .divisionByZero ⟨.mathError, "Division by zero", none⟩
  | nonFinite (left : x.isFinite = true) (right : y.isFinite = true)
      (nonzero : ¬ (y = 0.0 ∨ y = -0.0)) (quotient : (x / y).isFinite = false) :
      DivisionFails x y .nonFiniteQuotient
        ⟨.mathError, "Division produced a non-finite result", none⟩

/-- **A quotient fails for its cause and for no other.** -/
theorem divide_eq_error_iff {x y : Float} {fault : EvalFault} :
    divide x y = .error fault ↔ DivisionFails x y fault fault.diagnostic := by
  constructor
  · intro h
    unfold divide at h
    split at h
    · next hzero =>
      obtain rfl := Except.error.inj h
      exact .byZero (beq_zero_iff.1 hzero)
    · next hzero =>
      split at h
      · next hfinite =>
        obtain rfl := Except.error.inj h
        simp only [Bool.and_eq_true, Bool.not_eq_true'] at hfinite
        exact .nonFinite hfinite.1.2 hfinite.2 (mt beq_zero_iff.2 hzero) hfinite.1.1
      · exact nomatch h
  · intro h
    unfold divide
    cases fault with
    | divisionByZero =>
      cases h with
      | byZero hzero => rw [if_pos (beq_zero_iff.2 hzero)]
    | nonFiniteQuotient =>
      cases h with
      | nonFinite hx hy hzero hquotient =>
        rw [if_neg (mt beq_zero_iff.1 hzero), if_pos (by rw [hquotient, hx, hy]; rfl)]
    | invalidNumber | unknownName | unbound | unknownFunction | raised => exact nomatch h

/-- A quotient of finite numbers is finite. -/
theorem isFinite_of_divide_eq_ok {x y z : Float} (h : divide x y = .ok z)
    (hx : x.isFinite = true) (hy : y.isFinite = true) : z.isFinite = true := by
  unfold divide at h
  split at h
  · exact nomatch h
  · split at h
    · exact nomatch h
    · next hfinite =>
      obtain rfl := Except.ok.inj h
      simpa only [hx, hy, Bool.and_true, Bool.not_eq_true', Bool.not_eq_false] using hfinite

/-! ### Results that are not finite -/

variable {b : Bindings} {c : Caller} {past : List Call} {t : Tree}

/-- The place is a leaf, or a sum, difference or product of finite operands. -/
def Place.MayExceed (b : Bindings) (c : Caller) (p : Place) : Prop :=
  (∃ a, p.node = .atom a) ∨
    ∃ op x y, op ≠ .divide ∧ p.Operands b c op x y ∧ x.isFinite = true ∧ y.isFinite = true

/-- **A result that is not finite has a source** other than a quotient. -/
theorem Tree.exists_source {x : Float} (h : (t.evaluateWith b c past).result = .ok x)
    (hx : x.isFinite = false) :
    ∃ p ∈ t.places b c past, p.MayExceed b c ∧ ∃ y, p.value b c = .ok y ∧ y.isFinite = false := by
  induction t generalizing past x with
  | atom a => exact ⟨_, List.mem_singleton_self _, .inl ⟨a, rfl⟩, x, h, hx⟩
  | binary op l r ihl ihr =>
    obtain ⟨u, hl, hrest⟩ := Evaluation.result_bind_eq_ok_iff.1 h
    obtain ⟨v, hr, happly⟩ := Evaluation.result_bind_eq_ok_iff.1 hrest
    -- an operand that is not finite has a source below; if both are finite, it is this operator
    cases hu : u.isFinite with
    | false =>
      obtain ⟨p, hp, hsource⟩ := ihl hl hu
      exact ⟨p, List.mem_append_left _ (List.mem_append_left _ hp), hsource⟩
    | true =>
      cases hv : v.isFinite with
      | false =>
        obtain ⟨p, hp, hsource⟩ := ihr hr hv
        exact ⟨p, List.mem_append_left _ (List.mem_append_right _ hp), hsource⟩
      | true =>
        refine ⟨⟨past, binary op l r⟩, List.mem_append_right _ (List.mem_singleton_self _),
          .inr ⟨op, u, v, ?_, ⟨l, r, rfl, hl, hr⟩, hu, hv⟩, x, h, hx⟩
        rintro rfl
        exact nomatch hx.symm.trans (isFinite_of_divide_eq_ok happly hu hv)
  | signed s t ih =>
    obtain ⟨u, ht, hpure⟩ := Evaluation.result_bind_eq_ok_iff.1 h
    obtain rfl : s.apply u = x := Except.ok.inj hpure
    rw [s.isFinite_apply] at hx
    obtain ⟨p, hp, hsource⟩ := ih ht hx
    exact ⟨p, List.mem_append_left _ hp, hsource⟩

/-! ### Mathematical errors -/

/-- A mathematical error that is not a caller's. -/
def EvalFault.IsOwnMathError (fault : EvalFault) : Prop :=
  (∀ d, fault ≠ .raised d) ∧ fault.diagnostic.kind = .mathError

/-- A leaf has no mathematical errors. -/
theorem Atom.not_isOwnMathError {fs : Functions} {a : Atom} {fault : EvalFault}
    (h : (a.evaluate b fs).result = .error fault) : ¬ fault.IsOwnMathError := by
  rintro ⟨hraised, hkind⟩
  cases a with
  | number text =>
    obtain ⟨-, rfl⟩ := numberOf_eq_error_iff.1 h
    cases hkind
  | stream name =>
    obtain rfl | rfl := Bindings.valueOf_eq_error h
    · cases hkind
    · cases hkind
  | call handle argument =>
    rw [evaluate] at h
    split at h
    · obtain rfl := Except.error.inj h
      cases hkind
    · rcases Evaluation.result_bind_eq_error_iff.1 h with hnumber | ⟨x, -, hcall⟩
      · obtain ⟨-, rfl⟩ := numberOf_eq_error_iff.1 hnumber
        cases hkind
      · obtain ⟨d, -, rfl⟩ := Functions.result_call_eq_error_iff.1 hcall
        exact hraised d rfl

/-- Both failures of a quotient are mathematical errors. -/
theorem DivisionFails.isOwnMathError {x y : Float} {fault : EvalFault}
    (h : DivisionFails x y fault fault.diagnostic) : fault.IsOwnMathError := by
  cases fault with
  | divisionByZero | nonFiniteQuotient => exact ⟨nofun, rfl⟩
  | invalidNumber | unknownName | unbound | unknownFunction | raised => exact nomatch h

namespace Tree

/-- **Division brings in nothing that is not finite, and its errors are exact.** Let a tree be
evaluated for any caller, a caller's functions being the case of a caller that forgets. A result
that is not finite comes from a leaf, or from a sum, difference or product of finite operands. A
quotient of finite operands is finite if it has a value, and it has none exactly where the divisor
is a zero, or finite operands have no finite quotient. And evaluation has a mathematical error of
its own exactly if what fails first is a quotient of two values. -/
theorem division_is_exact (b : Bindings) (t : Tree) :
    (∀ (fs : Functions) (past : List Call),
        t.evaluateWith b fs.caller past = t.evaluate b fs) ∧
      ∀ (c : Caller) (past : List Call),
        (∀ x, (t.evaluateWith b c past).result = .ok x → x.isFinite = false →
          ∃ p ∈ t.places b c past, p.MayExceed b c ∧
            ∃ y, p.value b c = .ok y ∧ y.isFinite = false) ∧
        (∀ p ∈ t.places b c past, ∀ x y, p.Operands b c .divide x y →
          (∀ z, p.value b c = .ok z → x.isFinite = true → y.isFinite = true →
            z.isFinite = true) ∧
          ∀ fault, p.value b c = .error fault ↔ DivisionFails x y fault fault.diagnostic) ∧
        ∀ fault, ((t.evaluateWith b c past).result = .error fault ∧ fault.IsOwnMathError) ↔
          ∃ p x y, FailsFirst b c (t.places b c past) p fault ∧ p.Operands b c .divide x y := by
  refine ⟨fun fs past ↦ evaluateWith_caller b fs past t, fun c past ↦
    ⟨fun x h hx ↦ exists_source h hx, fun p _ x y hp ↦ ?_, fun fault ↦ ⟨?_, ?_⟩⟩⟩
  · rw [hp.value_eq]
    exact ⟨fun z ↦ isFinite_of_divide_eq_ok, fun fault ↦ divide_eq_error_iff⟩
  · rintro ⟨h, hmath⟩
    obtain ⟨p, hfirst, -, ⟨a, ha⟩ | ⟨op, x, y, hp, happly⟩⟩ := exists_failsFirst h
    · have hvalue := hfirst.value_eq
      rw [Place.value, ha] at hvalue
      exact absurd hmath (Atom.not_isOwnMathError hvalue)
    · obtain rfl := BinaryOp.eq_divide_of_apply_eq_error happly
      exact ⟨p, x, y, hfirst, hp⟩
  · rintro ⟨p, x, y, hfirst, hp⟩
    have hvalue : divide x y = .error fault := hp.value_eq.symm.trans hfirst.value_eq
    exact ⟨result_eq_error_iff.2 ⟨p, hfirst⟩, (divide_eq_error_iff.1 hvalue).isOwnMathError⟩

/-- `1e308 - -1e308` is infinite and has a source; `1e308 / 0.5` is a mathematical error instead,
since that is the first place to fail. -/
theorem doubled_number_exceeds :
    (∃ p ∈ (binary .subtract (atom (.number "1e308"))
          (signed .minus (atom (.number "1e308")))).places .empty Functions.none.caller [],
        p.MayExceed .empty Functions.none.caller ∧
          ∃ y, p.value .empty Functions.none.caller = .ok y ∧ y.isFinite = false) ∧
      ((binary .divide (atom (.number "1e308")) (atom (.number "0.5"))).evaluateWith
        .empty Functions.none.caller []).result = .error .nonFiniteQuotient := by
  have hlarge : numberOf "1e308" = .ok 1e308 := by with_unfolding_all rfl
  have hhalf : numberOf "0.5" = .ok 0.5 := by with_unfolding_all rfl
  constructor
  · refine ((division_is_exact _ _).2 _ []).1 (1e308 - -1e308) ?_ (by decide +kernel)
    exact Evaluation.result_bind_eq_ok_iff.2 ⟨1e308, hlarge, Evaluation.result_bind_eq_ok_iff.2
      ⟨-1e308, Evaluation.result_bind_eq_ok_iff.2 ⟨1e308, hlarge, rfl⟩, rfl⟩⟩
  · obtain ⟨-, hquotient, hfirst⟩ := (division_is_exact .empty
      (binary .divide (atom (.number "1e308")) (atom (.number "0.5")))).2 Functions.none.caller []
    have hoperands : Place.Operands .empty Functions.none.caller
        ⟨[], binary .divide (atom (.number "1e308")) (atom (.number "0.5"))⟩ .divide 1e308 0.5 :=
      ⟨_, _, rfl, hlarge, hhalf⟩
    have hfails :
        DivisionFails 1e308 0.5 .nonFiniteQuotient EvalFault.nonFiniteQuotient.diagnostic :=
      .nonFinite (by decide +kernel) (by decide +kernel) (by decide +kernel) (by decide +kernel)
    have hvalue := ((hquotient _ (List.mem_append_right _ (List.mem_singleton_self _)) _ _
      hoperands).2 _).2 hfails
    have hbefore : ∀ q ∈ [(⟨[], atom (.number "1e308")⟩ : Place), ⟨[], atom (.number "0.5")⟩],
        ∃ x, q.value .empty Functions.none.caller = .ok x :=
      List.forall_mem_cons.2 ⟨⟨_, hlarge⟩, List.forall_mem_singleton.2 ⟨_, hhalf⟩⟩
    exact ((hfirst _).2 ⟨_, _, _, ⟨_, [], rfl, hbefore, hvalue⟩, hoperands⟩).1

end Tree

end StreamFormula
