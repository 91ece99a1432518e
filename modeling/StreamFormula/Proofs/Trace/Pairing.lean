import Mathlib.Logic.ExistsUnique
import Mathlib.Tactic.ByContra
import StreamFormula.Trace

/-!
# The two ends of an activity

A trace is well nested (`Trace.WellNested`) if each activity that begins also ends, and those that
begin within it end within it. Such a trace pairs its records: that of a beginning has one record of
an end that closes it, and the other way round (`Trace.WellNested.paired`). Both are of the same
activity, so they show one name and one stage. Remarks may stand anywhere.

That there is a partner follows the nesting. That there is only one is seen by keeping account of
the activities under way (`Trace.underWay?`): a well nested part leaves the account as it was, so it
cannot go on with an end of its surroundings, or begin with a beginning that they end.

All runs are well nested but one (`Trace.runs_paired`): the evaluation of a formula that does not
compile begins and does not end.
-/

namespace StreamFormula

namespace Trace

variable {records inner inner' rest rest' : List TraceRecord} {a : Activity} {i j k : Nat}

/-! ### Well nested traces -/

/-- Each activity that begins ends, after those that began within it, and nothing else ends. -/
inductive WellNested : List TraceRecord → Prop
  | nil : WellNested []
  | note (a : Activity) (text : String) {rest : List TraceRecord} (hrest : WellNested rest) :
    WellNested (.note a text :: rest)
  | nest (a : Activity) (detail detail' : String) {inner rest : List TraceRecord}
    (hinner : WellNested inner) (hrest : WellNested rest) :
    WellNested (.enter a detail :: (inner ++ .exit a detail' :: rest))

namespace WellNested

/-- One well nested trace after another is well nested. -/
theorem append (h : WellNested records) (h' : WellNested rest) : WellNested (records ++ rest) := by
  induction h with
  | nil => exact h'
  | note a text _ ih => exact .note a text ih
  | nest a detail detail' hinner _ _ ih =>
    rw [List.cons_append, List.append_assoc, List.cons_append]
    exact .nest a detail detail' hinner ih

/-- An activity around a well nested trace. -/
theorem around (h : WellNested inner) (a : Activity) (detail detail' : String) :
    WellNested (.enter a detail :: (inner ++ [.exit a detail'])) :=
  .nest a detail detail' h .nil

end WellNested

/-! ### The account of what is under way -/

/-- The activities that are under way after some records, the innermost first, from those that were
under way before. There is no account where an activity ends that is not the innermost one. -/
def underWay? : List Activity → List TraceRecord → Option (List Activity)
  | before, [] => some before
  | before, .enter a _ :: rest => underWay? (a :: before) rest
  | b :: before, .exit a _ :: rest => if a = b then underWay? before rest else none
  | [], .exit _ _ :: _ => none
  | before, .note _ _ :: rest => underWay? before rest

theorem underWay?_append (before : List Activity) (records rest : List TraceRecord) :
    underWay? before (records ++ rest) =
      (underWay? before records).bind fun after ↦ underWay? after rest := by
  induction records generalizing before with
  | nil => rfl
  | cons r records ih =>
    cases r with
    | enter a detail => exact ih (a :: before)
    | note a text => exact ih before
    | exit a detail =>
      cases before with
      | nil => rfl
      | cons b before =>
        by_cases hab : a = b
        · simpa [underWay?, hab] using ih before
        · simp [underWay?, hab]

namespace WellNested

/-- **A well nested trace leaves the account as it was.** -/
theorem underWay?_eq (h : WellNested records) (before : List Activity) :
    underWay? before records = some before := by
  induction h generalizing before with
  | nil => rfl
  | note a text _ ih => exact ih before
  | nest a detail detail' _ _ ihinner ihrest =>
    rw [underWay?, underWay?_append, ihinner, Option.bind_some, underWay?, if_pos rfl, ihrest]

/-- An end behind a well nested trace belongs to something outside, so no well nested trace goes on
with it. -/
theorem length_le_of_append_exit_eq (h : WellNested inner) (h' : WellNested inner')
    {detail : String} (heq : inner ++ .exit a detail :: rest = inner' ++ rest') :
    inner'.length ≤ inner.length := by
  by_contra hlt
  have hlength : (inner ++ [TraceRecord.exit a detail]).length ≤ inner'.length := by
    rw [List.length_append, List.length_singleton]
    omega
  obtain ⟨tail, rfl⟩ : inner ++ [TraceRecord.exit a detail] <+: inner' :=
    List.prefix_of_prefix_length_le ⟨rest, by rw [List.append_assoc]; exact heq⟩
      (List.prefix_append inner' rest') hlength
  have haccount := h'.underWay?_eq []
  rw [List.append_assoc, underWay?_append, h.underWay?_eq, Option.bind_some] at haccount
  exact nomatch haccount

/-- A beginning in front of a well nested trace is closed behind it, so no well nested trace begins
with it or earlier and ends there. -/
theorem length_le_of_append_enter_eq (h : WellNested inner) (h' : WellNested inner')
    {detail : String} (heq : rest ++ .enter a detail :: inner = rest' ++ inner') :
    inner'.length ≤ inner.length := by
  by_contra hlt
  have hlength : (TraceRecord.enter a detail :: inner).length ≤ inner'.length := by
    rw [List.length_cons]
    omega
  obtain ⟨head, rfl⟩ : TraceRecord.enter a detail :: inner <:+ inner' :=
    List.suffix_of_suffix_length_le ⟨rest, heq⟩ (List.suffix_append rest' inner') hlength
  have haccount := h'.underWay?_eq []
  rw [underWay?_append] at haccount
  obtain ⟨before, -, hbefore⟩ := Option.bind_eq_some_iff.1 haccount
  rw [underWay?, h.underWay?_eq] at hbefore
  exact nomatch hbefore

end WellNested

/-! ### Partners -/

/-- The record at place `j` closes the one at place `i`: it records the end of the activity whose
beginning that records, and what lies between them is well nested. -/
def Closes (records : List TraceRecord) (i j : Nat) : Prop :=
  ∃ before a detail inner detail' after,
    records = before ++ .enter a detail :: (inner ++ .exit a detail' :: after) ∧
      before.length = i ∧ i + inner.length + 1 = j ∧ WellNested inner

namespace Closes

theorem exists_enter (h : Closes records i j) :
    ∃ a detail, records[i]? = some (.enter a detail) := by
  obtain ⟨before, a, detail, inner, detail', after, rfl, rfl, -, -⟩ := h
  exact ⟨a, detail, by simp⟩

theorem exists_exit (h : Closes records i j) : ∃ a detail, records[j]? = some (.exit a detail) := by
  obtain ⟨before, a, detail, inner, detail', after, rfl, rfl, rfl, -⟩ := h
  refine ⟨a, detail', ?_⟩
  rw [List.getElem?_append_right (by omega), Nat.add_assoc, Nat.add_sub_cancel_left,
    List.getElem?_cons_succ, List.getElem?_append_right (Nat.le_refl _), Nat.sub_self]
  rfl

/-- Partners stay partners among further records. -/
theorem within (h : Closes records i j) (head tail : List TraceRecord) :
    Closes (head ++ (records ++ tail)) (head.length + i) (head.length + j) := by
  obtain ⟨before, a, detail, inner, detail', after, rfl, rfl, rfl, hinner⟩ := h
  refine ⟨head ++ before, a, detail, inner, detail', after ++ tail, by simp, by simp, by omega,
    hinner⟩

/-- A beginning is closed once. -/
theorem right_unique (h : Closes records i j) (h' : Closes records i k) : j = k := by
  obtain ⟨before, a, detail, inner, detail', after, hrecords, hi, rfl, hinner⟩ := h
  obtain ⟨before', a', _, inner', _, after', hrecords', hi', rfl, hinner'⟩ := h'
  obtain ⟨-, htail⟩ := List.append_inj (hrecords.symm.trans hrecords') (hi.trans hi'.symm)
  obtain ⟨-, heq⟩ := List.cons.inj htail
  have hle := hinner.length_le_of_append_exit_eq hinner' heq
  have hge := hinner'.length_le_of_append_exit_eq hinner heq.symm
  omega

/-- An end closes one beginning. -/
theorem left_unique (h : Closes records i k) (h' : Closes records j k) : i = j := by
  obtain ⟨before, a, detail, inner, detail', after, hrecords, rfl, hk, hinner⟩ := h
  obtain ⟨before', a', opening, inner', closing, after', hrecords', rfl, hk', hinner'⟩ := h'
  have hends : (before ++ .enter a detail :: inner) ++ .exit a detail' :: after =
      (before' ++ .enter a' opening :: inner') ++ .exit a' closing :: after' := by
    rw [List.append_assoc, List.append_assoc]
    exact hrecords.symm.trans hrecords'
  have hlength : (before ++ TraceRecord.enter a detail :: inner).length =
      (before' ++ TraceRecord.enter a' opening :: inner').length := by
    simp only [List.length_append, List.length_cons]
    omega
  obtain ⟨heq, -⟩ := List.append_inj hends hlength
  have hle := hinner.length_le_of_append_enter_eq hinner' (heq.trans (List.append_cons ..))
  have hge := hinner'.length_le_of_append_enter_eq hinner (heq.symm.trans (List.append_cons ..))
  omega

end Closes

/-- A record in front of a well nested trace is not closed within it. -/
theorem WellNested.not_closes_zero (h : WellNested rest) {r : TraceRecord} :
    ¬ Closes (r :: rest) 0 j := by
  rintro ⟨before, a, detail, inner, detail', after, hrecords, hbefore, -, hinner⟩
  obtain rfl := List.length_eq_zero_iff.1 hbefore
  obtain ⟨-, rfl⟩ := List.cons.inj hrecords
  have hle := hinner.length_le_of_append_exit_eq h (List.append_nil _).symm
  simp only [List.length_append, List.length_cons] at hle
  omega

/-- The record at a place is a remark, or it has a partner. -/
def Settled (records : List TraceRecord) (k : Nat) : Prop :=
  (∃ a text, records[k]? = some (.note a text)) ∨ (∃ j, Closes records k j) ∨
    ∃ i, Closes records i k

theorem Settled.within (h : Settled records k) (head tail : List TraceRecord) :
    Settled (head ++ (records ++ tail)) (head.length + k) := by
  rcases h with ⟨a, text, hnote⟩ | ⟨j, hcloses⟩ | ⟨i, hcloses⟩
  · refine .inl ⟨a, text, ?_⟩
    rw [List.getElem?_append_right (Nat.le_add_right ..), Nat.add_sub_cancel_left,
      List.getElem?_append_left (List.getElem?_eq_some_iff.1 hnote).1, hnote]
  · exact .inr (.inl ⟨_, hcloses.within head tail⟩)
  · exact .inr (.inr ⟨_, hcloses.within head tail⟩)

/-- **In a well nested trace everything is settled.** -/
theorem WellNested.settled (h : WellNested records) (hk : k < records.length) :
    Settled records k := by
  induction h generalizing k with
  | nil => exact absurd hk (Nat.not_lt_zero k)
  | @note a text rest _ ih =>
    cases k with
    | zero => exact .inl ⟨a, text, rfl⟩
    | succ k =>
      have hrest := (ih (Nat.lt_of_succ_lt_succ hk)).within [.note a text] []
      rwa [List.append_nil, List.length_singleton, Nat.add_comm] at hrest
  | @nest a detail detail' inner rest hinner _ ihinner ihrest =>
    have hpair : Closes (.enter a detail :: (inner ++ .exit a detail' :: rest)) 0
        (inner.length + 1) :=
      ⟨[], a, detail, inner, detail', rest, rfl, rfl, by rw [Nat.zero_add], hinner⟩
    -- The place is that of the beginning, within the activity, that of the end, or behind it.
    rcases Nat.eq_zero_or_pos k with rfl | hpos
    · exact .inr (.inl ⟨_, hpair⟩)
    rcases Nat.lt_trichotomy k (inner.length + 1) with hlt | rfl | hgt
    · have hwithin := (ihinner (k := k - 1) (by omega)).within [.enter a detail]
        (.exit a detail' :: rest)
      rwa [List.length_singleton, Nat.add_sub_cancel' hpos] at hwithin
    · exact .inr (.inr ⟨0, hpair⟩)
    · have hlt : k - (inner.length + 2) < rest.length := by
        simp only [List.length_cons, List.length_append] at hk
        omega
      have hbehind := (ihrest hlt).within (.enter a detail :: (inner ++ [.exit a detail'])) []
      simpa [Nat.add_sub_cancel' hgt] using hbehind

/-- Every record of a beginning has one record of an end that closes it, and the other way round. -/
structure Paired (records : List TraceRecord) : Prop where
  wellNested : WellNested records
  exists_end {i : Nat} {a : Activity} {detail : String} (h : records[i]? = some (.enter a detail)) :
    ∃! j, Closes records i j
  exists_beginning {j : Nat} {a : Activity} {detail : String}
    (h : records[j]? = some (.exit a detail)) : ∃! i, Closes records i j

/-- **The records of a well nested trace are paired.** -/
theorem WellNested.paired (h : WellNested records) : Paired records where
  wellNested := h
  exists_end {i a detail} hi := by
    rcases h.settled (List.getElem?_eq_some_iff.1 hi).1 with ⟨_, _, hnote⟩ | ⟨j, hj⟩ | ⟨i', hi'⟩
    · exact nomatch hi.symm.trans hnote
    · exact ⟨j, hj, fun _ hk ↦ hk.right_unique hj⟩
    · obtain ⟨_, _, hexit⟩ := hi'.exists_exit
      exact nomatch hi.symm.trans hexit
  exists_beginning {j a detail} hj := by
    rcases h.settled (List.getElem?_eq_some_iff.1 hj).1 with ⟨_, _, hnote⟩ | ⟨j', hj'⟩ | ⟨i, hi⟩
    · exact nomatch hj.symm.trans hnote
    · obtain ⟨_, _, henter⟩ := hj'.exists_enter
      exact nomatch hj.symm.trans henter
    · exact ⟨i, hi, fun _ hk ↦ hk.left_unique hi⟩

/-! ### Runs -/

variable (s : Settings) (formula : String) (b : Bindings) (fs : Functions)

theorem wellNested_scan : WellNested (scan formula) := WellNested.nil.around .tokenize _ _

theorem wellNested_read (tokens : List Token) : WellNested (read tokens) :=
  WellNested.nil.around .parse _ _

theorem wellNested_scanAndRead : WellNested (scanAndRead formula) := by
  refine (wellNested_scan formula).append ?_
  split
  · exact wellNested_read _
  · exact .nil

/-- Compiling is no activity of its own, and its stages end whether or not they fail. -/
theorem wellNested_compile : WellNested (compile s formula) := by
  refine (wellNested_scan formula).append ?_
  split
  · exact .nil
  · split
    · exact .note _ _ .nil
    · exact wellNested_read _

theorem wellNested_verdict : WellNested (verdict s formula) :=
  (wellNested_compile s formula).around .validate _ _

variable {s formula}

/-- The evaluation of what compiles ends with a value, without one, or with a failure. -/
theorem exists_evaluate_eq {t? : Option Tree} (h : Formula.compile s formula = .ok t?) :
    ∃ detail, evaluate s formula b fs =
      .enter .evaluate ("formula=" ++ Text.quote formula) ::
        (compile s formula ++ [.exit .evaluate detail]) := by
  cases t? with
  | none =>
    have hresult := congrArg Evaluation.result (Formula.evaluate_of_compile_none h b fs)
    exact ⟨"empty", by simp only [evaluate, hresult, List.cons_append]⟩
  | some t =>
    have hresult := congrArg Evaluation.result (Formula.evaluate_of_compile h b fs)
    rcases hvalue : (t.evaluate b fs).result with fault | x <;> rw [hvalue] at hresult
    · have hfault : (Formula.evaluate s formula b fs).result = .error (.evaluate fault) := hresult
      exact ⟨"error=" ++ fault.diagnostic.message,
        by simp only [evaluate, hfault, List.cons_append]⟩
    · have hsome : (Formula.evaluate s formula b fs).result = .ok (some x) := hresult
      exact ⟨"result=" ++ Decimal.render x, by simp only [evaluate, hsome, List.cons_append]⟩

/-- The evaluation of what does not compile begins and compiles, and that is all. -/
theorem evaluate_of_compile_eq_error {fault : CompileFault}
    (h : Formula.compile s formula = .error fault) :
    evaluate s formula b fs =
      .enter .evaluate ("formula=" ++ Text.quote formula) :: compile s formula := by
  have hresult := congrArg Evaluation.result (Formula.evaluate_of_compile_error h b fs)
  simp only [evaluate, hresult, List.append_nil]

/-- An evaluation has ended exactly if the formula compiles. -/
theorem wellNested_evaluate_iff :
    WellNested (evaluate s formula b fs) ↔ ∃ t?, Formula.compile s formula = .ok t? := by
  rcases h : Formula.compile s formula with fault | t?
  · simp only [evaluate_of_compile_eq_error b fs h, reduceCtorEq, exists_const, iff_false]
    intro hnested
    have haccount := hnested.underWay?_eq []
    rw [underWay?, (wellNested_compile s formula).underWay?_eq] at haccount
    exact nomatch haccount
  · obtain ⟨detail, hevaluate⟩ := exists_evaluate_eq b fs h
    rw [hevaluate]
    exact iff_of_true ((wellNested_compile s formula).around .evaluate _ _) ⟨t?, rfl⟩

/-- **Every run but one pairs its records.** Scanning, scanning and reading, and the verdict do,
whatever their outcome, and so does an evaluation exactly if the formula compiles. The evaluation of
any other formula has a beginning without an end in front of records that are paired. -/
theorem runs_paired (s : Settings) (formula : String) (b : Bindings) (fs : Functions) :
    Paired (scan formula) ∧ Paired (scanAndRead formula) ∧ Paired (verdict s formula) ∧
      (Paired (evaluate s formula b fs) ↔ ∃ t?, Formula.compile s formula = .ok t?) ∧
      ((∃ fault, Formula.compile s formula = .error fault) →
        ∃ detail rest, evaluate s formula b fs = .enter .evaluate detail :: rest ∧ Paired rest ∧
          ∀ j, ¬ Closes (evaluate s formula b fs) 0 j) := by
  refine ⟨(wellNested_scan formula).paired, (wellNested_scanAndRead formula).paired,
    (wellNested_verdict s formula).paired,
    ⟨fun h ↦ (wellNested_evaluate_iff b fs).1 h.wellNested,
      fun h ↦ ((wellNested_evaluate_iff b fs).2 h).paired⟩, ?_⟩
  rintro ⟨fault, h⟩
  have hnested := wellNested_compile s formula
  refine ⟨_, _, evaluate_of_compile_eq_error b fs h, hnested.paired, fun j hj ↦ ?_⟩
  rw [evaluate_of_compile_eq_error b fs h] at hj
  exact hnested.not_closes_zero hj

theorem compile_unopened : Formula.compile Settings.empty "2)" =
    .error (.misread (.unopened (.symbol .closeParen 1))) := by
  with_unfolding_all rfl

/-- A parenthesis that closes nothing is found after the evaluation has begun. -/
theorem runs_paired_unopened :
    (∃ fault, Formula.compile Settings.empty "2)" = .error fault) ∧
      ∃ detail rest, evaluate Settings.empty "2)" Bindings.empty Functions.none =
        .enter .evaluate detail :: rest ∧ Paired rest ∧
          ∀ j, ¬ Closes (evaluate Settings.empty "2)" Bindings.empty Functions.none) 0 j := by
  obtain ⟨-, -, -, -, hunclosed⟩ :=
    runs_paired Settings.empty "2)" Bindings.empty Functions.none
  exact ⟨⟨_, compile_unopened⟩, hunclosed ⟨_, compile_unopened⟩⟩

/-- Not every run pairs its records. -/
theorem not_paired_evaluate_unopened :
    ¬ Paired (evaluate Settings.empty "2)" Bindings.empty Functions.none) := by
  intro h
  obtain ⟨t?, hok⟩ := (wellNested_evaluate_iff _ _).1 h.wellNested
  exact nomatch compile_unopened.symm.trans hok

end Trace

end StreamFormula
