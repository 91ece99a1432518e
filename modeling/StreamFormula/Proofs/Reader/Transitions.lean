import StreamFormula.Proofs.Reader.Grammar

/-!
# Transitions of a reader

What one token does to a reader, with one constructor per transition: `Reader.Step` for the tokens
that go on and `Reader.Rejects` for those that do not. Both say exactly what `Reader.step` computes
(`step_eq_ok_iff`, `step_eq_error_iff`), so a law of readers is a case analysis over them and no
later proof unfolds the step.

A run splits at the token where it stops. `Reader.Takes` is a run over tokens that all go on; either
a reader takes all of its tokens, or it takes those before the first rejected one
(`takes_or_rejects`), and the two cases determine the run (`Takes.run`, `Takes.run_rejects`).
-/

namespace StreamFormula

namespace Reader

variable {limit : Option Nat}

/-- A token that can neither go on with a term nor close anything. -/
def Begins (token : Token) : Prop := token.symbol? = some .openParen ∨ token.symbol? = none

/-- A token that goes on, with the reader afterwards. -/
inductive Step (limit : Option Nat) : Reader → Token → Reader → Prop where
  | number {level : Level} {after? : Option Token} {groups : List Group} {depth : Nat} (w : Word)
      (hw : w.kind = .number) :
      Step limit ⟨.operand level after?, groups, depth⟩ (.word w)
        (factor level groups depth (.atom (.number w.text)))
  | stream {level : Level} {after? : Option Token} {groups : List Group} {depth : Nat} (w : Word)
      (hw : w.kind = .stream) :
      Step limit ⟨.operand level after?, groups, depth⟩ (.word w)
        (factor level groups depth (.atom (.stream w.text)))
  | handle {level : Level} {after? : Option Token} {groups : List Group} {depth : Nat} (w : Word)
      (hw : w.kind = .handle) :
      Step limit ⟨.operand level after?, groups, depth⟩ (.word w)
        ⟨.callOpening level w, groups, depth⟩
  | opening {level : Level} {after? : Option Token} {groups : List Group} {depth : Nat} (n : Nat)
      (hd : Permits limit depth) :
      Step limit ⟨.operand level after?, groups, depth⟩ (.symbol .openParen n)
        ⟨.operand .empty none, ⟨.symbol .openParen n, level⟩ :: groups, depth + 1⟩
  | sign {level : Level} {groups : List Group} {depth : Nat} (s : Sign) (n : Nat)
      (hd : Permits limit depth) :
      Step limit ⟨.operand level none, groups, depth⟩ (.symbol s.symbol n)
        ⟨.operand { level with signs := s :: level.signs } none, groups, depth + 1⟩
  | sum {sum? : Option HalfTree} {term : Tree} {groups : List Group} {depth : Nat} (op : BinaryOp)
      (n : Nat) (hop : op.phrase = .sum) :
      Step limit ⟨.operator sum? term, groups, depth⟩ (.symbol op.symbol n)
        ⟨.operand ⟨some ⟨op, HalfTree.complete sum? term⟩, none, []⟩ (some (.symbol op.symbol n)),
          groups, depth⟩
  | product {sum? : Option HalfTree} {term : Tree} {groups : List Group} {depth : Nat}
      (op : BinaryOp) (n : Nat) (hop : op.phrase = .term) :
      Step limit ⟨.operator sum? term, groups, depth⟩ (.symbol op.symbol n)
        ⟨.operand ⟨sum?, some ⟨op, term⟩, []⟩ (some (.symbol op.symbol n)), groups, depth⟩
  | closing {sum? : Option HalfTree} {term : Tree} {group : Group} {groups : List Group}
      {depth : Nat} (n : Nat) :
      Step limit ⟨.operator sum? term, group :: groups, depth⟩ (.symbol .closeParen n)
        (factor group.outer groups (depth - 1) (HalfTree.complete sum? term))
  | callOpening {level : Level} {handle : Word} {groups : List Group} {depth : Nat} (n : Nat) :
      Step limit ⟨.callOpening level handle, groups, depth⟩ (.symbol .openParen n)
        ⟨.callArgument level handle, groups, depth⟩
  | callArgument {level : Level} {handle : Word} {groups : List Group} {depth : Nat} (w : Word)
      (hw : w.kind = .number) :
      Step limit ⟨.callArgument level handle, groups, depth⟩ (.word w)
        ⟨.callClosing level handle w.text, groups, depth⟩
  | callClosing {level : Level} {handle : Word} {argument : String} {groups : List Group}
      {depth : Nat} (n : Nat) :
      Step limit ⟨.callClosing level handle argument, groups, depth⟩ (.symbol .closeParen n)
        (factor level groups depth (.atom (.call handle.text argument)))

/-- A token that does not go on, with the fault found there. -/
inductive Rejects (limit : Option Nat) : Reader → Token → ReadFault → Prop where
  | tooDeepGroup {level : Level} {after? : Option Token} {groups : List Group} {depth : Nat}
      (n : Nat) (hd : ¬ Permits limit depth) :
      Rejects limit ⟨.operand level after?, groups, depth⟩ (.symbol .openParen n)
        (.tooDeep (.symbol .openParen n))
  | tooDeepSign {level : Level} {groups : List Group} {depth : Nat} (s : Sign) (n : Nat)
      (hd : ¬ Permits limit depth) :
      Rejects limit ⟨.operand level none, groups, depth⟩ (.symbol s.symbol n)
        (.tooDeep (.symbol s.symbol n))
  | operatorRun {level : Level} {previous token : Token} {groups : List Group} {depth : Nat}
      (ht : token.isOperator = true) :
      Rejects limit ⟨.operand level (some previous), groups, depth⟩ token
        (.operatorRun previous token)
  | misplacedProduct {level : Level} {groups : List Group} {depth : Nat} (op : BinaryOp) (n : Nat)
      (hop : op.phrase = .term) :
      Rejects limit ⟨.operand level none, groups, depth⟩ (.symbol op.symbol n)
        (.unexpectedToken (.symbol op.symbol n))
  | misplacedClosing {level : Level} {after? : Option Token} {groups : List Group} {depth : Nat}
      (n : Nat) :
      Rejects limit ⟨.operand level after?, groups, depth⟩ (.symbol .closeParen n)
        (.unexpectedToken (.symbol .closeParen n))
  | trailing {sum? : Option HalfTree} {term : Tree} {depth : Nat} {token : Token}
      (ht : Begins token) :
      Rejects limit ⟨.operator sum? term, [], depth⟩ token (.unexpectedToken token)
  | unopened {sum? : Option HalfTree} {term : Tree} {depth : Nat} (n : Nat) :
      Rejects limit ⟨.operator sum? term, [], depth⟩ (.symbol .closeParen n)
        (.unopened (.symbol .closeParen n))
  | unclosed {sum? : Option HalfTree} {term : Tree} {group : Group} {groups : List Group}
      {depth : Nat} {token : Token} (ht : Begins token) :
      Rejects limit ⟨.operator sum? term, group :: groups, depth⟩ token (.unclosed group.opening)
  | callNotOpened {level : Level} {handle : Word} {groups : List Group} {depth : Nat}
      {token : Token} (ht : token.symbol? ≠ some .openParen) :
      Rejects limit ⟨.callOpening level handle, groups, depth⟩ token (.callNotOpened handle)
  | argumentMissing {level : Level} {handle : Word} {groups : List Group} {depth : Nat}
      {token : Token} (ht : ∀ w : Word, token = .word w → w.kind ≠ .number) :
      Rejects limit ⟨.callArgument level handle, groups, depth⟩ token (.argumentMissing handle)
  | callNotClosed {level : Level} {handle : Word} {argument : String} {groups : List Group}
      {depth : Nat} {token : Token} (ht : token.symbol? ≠ some .closeParen) :
      Rejects limit ⟨.callClosing level handle argument, groups, depth⟩ token
        (.callNotClosed handle)

/-! ### Entering -/

theorem enter_of_permits {depth : Nat} (h : Permits limit depth) (token : Token)
    (inner : Nat → Reader) : enter limit depth token inner = .ok (inner (depth + 1)) := by
  cases limit with
  | none => rfl
  | some n =>
    have hn : ¬ n ≤ depth := Nat.not_le.2 (permits_some.1 h)
    simp [enter, hn]

theorem enter_of_not_permits {depth : Nat} (h : ¬ Permits limit depth) (token : Token)
    (inner : Nat → Reader) : enter limit depth token inner = .error (.tooDeep token) := by
  cases limit with
  | none => exact absurd (permits_none depth) h
  | some n =>
    have hn : n ≤ depth := Nat.not_lt.1 fun hlt ↦ h (permits_some.2 hlt)
    simp [enter, hn]

theorem beginFactor_sign (level : Level) (groups : List Group) (depth : Nat) (s : Sign) (n : Nat) :
    beginFactor limit level groups depth (.symbol s.symbol n) =
      enter limit depth (.symbol s.symbol n) fun d ↦
        ⟨.operand { level with signs := s :: level.signs } none, groups, d⟩ := by
  cases s <;> rfl

/-! ### Single steps -/

theorem Step.step_eq {r r' : Reader} {token : Token} (h : Step limit r token r') :
    r.step limit token = .ok r' := by
  cases h with
  -- words and parentheses are no operators, so what stands before them does not matter
  | @number level after? groups depth w hw | @stream level after? groups depth w hw
  | @handle level after? groups depth w hw =>
    cases after? <;> simp [step, beginFactor, hw]
  | @opening level after? groups depth n hd =>
    cases after? <;> exact enter_of_permits hd _ _
  | sign s n hd =>
    rw [step]
    exact (beginFactor_sign _ _ _ s n).trans (enter_of_permits hd _ _)
  | sum op n hop =>
    cases op with
    | add | subtract => rfl
    | multiply | divide => exact nomatch hop
  | product op n hop =>
    cases op with
    | multiply | divide => rfl
    | add | subtract => exact nomatch hop
  | closing n | callOpening n | callClosing n => rfl
  | callArgument w hw => simp [step, hw]

theorem Rejects.step_eq {r : Reader} {token : Token} {fault : ReadFault}
    (h : Rejects limit r token fault) : r.step limit token = .error fault := by
  cases h with
  | @tooDeepGroup level after? groups depth n hd =>
    cases after? <;> exact enter_of_not_permits hd _ _
  | tooDeepSign s n hd =>
    rw [step]
    exact (beginFactor_sign _ _ _ s n).trans (enter_of_not_permits hd _ _)
  | operatorRun ht => simp [step, ht]
  | misplacedProduct op n hop =>
    cases op with
    | multiply | divide => rfl
    | add | subtract => exact nomatch hop
  | @misplacedClosing level after? groups depth n => cases after? <;> rfl
  | unopened n => rfl
  | trailing ht | unclosed ht => rcases ht with ht | ht <;> simp [step, continueTerm, ht]
  | callNotOpened ht | callNotClosed ht => simp [step, ht]
  | @argumentMissing level handle groups depth token ht =>
    cases token with
    | symbol s n => rfl
    | word w => simp [step, ht w rfl]

/-- At the place of a factor each token goes on or is rejected. -/
theorem exists_step_or_rejects_operand (limit : Option Nat) (level : Level) (after? : Option Token)
    (groups : List Group) (depth : Nat) (token : Token) :
    (∃ r, Step limit ⟨.operand level after?, groups, depth⟩ token r) ∨
      ∃ fault, Rejects limit ⟨.operand level after?, groups, depth⟩ token fault := by
  cases token with
  | word w =>
    cases hw : w.kind with
    | number => exact .inl ⟨_, .number w hw⟩
    | stream => exact .inl ⟨_, .stream w hw⟩
    | handle => exact .inl ⟨_, .handle w hw⟩
  | symbol s n =>
    cases after? with
    -- right after a binary operator even a sign is one operator too many, at any depth
    | some previous =>
      cases s with
      | plus | minus | star | slash => exact .inr ⟨_, .operatorRun rfl⟩
      | closeParen => exact .inr ⟨_, .misplacedClosing n⟩
      | openParen =>
        by_cases hd : Permits limit depth
        · exact .inl ⟨_, .opening n hd⟩
        · exact .inr ⟨_, .tooDeepGroup n hd⟩
    | none =>
      by_cases hd : Permits limit depth
      · cases s with
        | plus => exact .inl ⟨_, .sign .plus n hd⟩
        | minus => exact .inl ⟨_, .sign .minus n hd⟩
        | star => exact .inr ⟨_, .misplacedProduct .multiply n rfl⟩
        | slash => exact .inr ⟨_, .misplacedProduct .divide n rfl⟩
        | openParen => exact .inl ⟨_, .opening n hd⟩
        | closeParen => exact .inr ⟨_, .misplacedClosing n⟩
      · cases s with
        | plus => exact .inr ⟨_, .tooDeepSign .plus n hd⟩
        | minus => exact .inr ⟨_, .tooDeepSign .minus n hd⟩
        | star => exact .inr ⟨_, .misplacedProduct .multiply n rfl⟩
        | slash => exact .inr ⟨_, .misplacedProduct .divide n rfl⟩
        | openParen => exact .inr ⟨_, .tooDeepGroup n hd⟩
        | closeParen => exact .inr ⟨_, .misplacedClosing n⟩

/-- Behind a finished term each token goes on or is rejected. -/
theorem exists_step_or_rejects_operator (limit : Option Nat) (sum? : Option HalfTree) (term : Tree)
    (groups : List Group) (depth : Nat) (token : Token) :
    (∃ r, Step limit ⟨.operator sum? term, groups, depth⟩ token r) ∨
      ∃ fault, Rejects limit ⟨.operator sum? term, groups, depth⟩ token fault := by
  -- what can only begin a factor is blamed on the innermost open parenthesis, if there is one
  have hbegins : Begins token → ∃ fault, Rejects limit ⟨.operator sum? term, groups, depth⟩ token
      fault := by
    intro ht
    cases groups with
    | nil => exact ⟨_, .trailing ht⟩
    | cons group groups => exact ⟨_, .unclosed ht⟩
  cases token with
  | word w => exact .inr (hbegins (.inr rfl))
  | symbol s n =>
    cases s with
    | plus => exact .inl ⟨_, .sum .add n rfl⟩
    | minus => exact .inl ⟨_, .sum .subtract n rfl⟩
    | star => exact .inl ⟨_, .product .multiply n rfl⟩
    | slash => exact .inl ⟨_, .product .divide n rfl⟩
    | openParen => exact .inr (hbegins (.inl rfl))
    | closeParen =>
      cases groups with
      | nil => exact .inr ⟨_, .unopened n⟩
      | cons group groups => exact .inl ⟨_, .closing n⟩

theorem exists_eq_symbol_of_symbol? {token : Token} {s : Symbol} (h : token.symbol? = some s) :
    ∃ n, token = .symbol s n := by
  cases token with
  | word w => exact nomatch h
  | symbol s' n => exact ⟨n, Option.some.inj h ▸ rfl⟩

/-- Each token goes on or is rejected. -/
theorem exists_step_or_rejects (limit : Option Nat) (r : Reader) (token : Token) :
    (∃ r', Step limit r token r') ∨ ∃ fault, Rejects limit r token fault := by
  obtain ⟨expected, groups, depth⟩ := r
  cases expected with
  | operand level after? =>
    exact exists_step_or_rejects_operand limit level after? groups depth token
  | operator sum? term => exact exists_step_or_rejects_operator limit sum? term groups depth token
  | callOpening level handle =>
    by_cases ht : token.symbol? = some .openParen
    · obtain ⟨n, rfl⟩ := exists_eq_symbol_of_symbol? ht
      exact .inl ⟨_, .callOpening n⟩
    · exact .inr ⟨_, .callNotOpened ht⟩
  | callArgument level handle =>
    by_cases ht : ∃ w : Word, token = .word w ∧ w.kind = .number
    · obtain ⟨w, rfl, hw⟩ := ht
      exact .inl ⟨_, .callArgument w hw⟩
    · exact .inr ⟨_, .argumentMissing fun w hw hk ↦ ht ⟨w, hw, hk⟩⟩
  | callClosing level handle argument =>
    by_cases ht : token.symbol? = some .closeParen
    · obtain ⟨n, rfl⟩ := exists_eq_symbol_of_symbol? ht
      exact .inl ⟨_, .callClosing n⟩
    · exact .inr ⟨_, .callNotClosed ht⟩

/-- **A step goes on exactly along a transition.** -/
theorem step_eq_ok_iff {r r' : Reader} {token : Token} :
    r.step limit token = .ok r' ↔ Step limit r token r' := by
  constructor
  · intro h
    rcases exists_step_or_rejects limit r token with ⟨r'', hs⟩ | ⟨fault, hr⟩
    · obtain rfl := Except.ok.inj (hs.step_eq.symm.trans h)
      exact hs
    · exact nomatch hr.step_eq.symm.trans h
  · exact Step.step_eq

/-- **A step fails exactly with the fault that rejects its token.** -/
theorem step_eq_error_iff {r : Reader} {token : Token} {fault : ReadFault} :
    r.step limit token = .error fault ↔ Rejects limit r token fault := by
  constructor
  · intro h
    rcases exists_step_or_rejects limit r token with ⟨r', hs⟩ | ⟨fault', hr⟩
    · exact nomatch hs.step_eq.symm.trans h
    · obtain rfl := Except.error.inj (hr.step_eq.symm.trans h)
      exact hr
  · exact Rejects.step_eq

/-! ### Runs -/

/-- The reader takes all of the tokens. -/
inductive Takes (limit : Option Nat) : Reader → List Token → Reader → Prop where
  | nil {r : Reader} : Takes limit r [] r
  | cons {r r' r'' : Reader} {token : Token} {tokens : List Token} (h : Step limit r token r')
      (hs : Takes limit r' tokens r'') : Takes limit r (token :: tokens) r''

theorem Takes.single {r r' : Reader} {token : Token} (h : Step limit r token r') :
    Takes limit r [token] r' :=
  .cons h .nil

theorem Takes.append {r r' r'' : Reader} {tokens more : List Token} (h : Takes limit r tokens r')
    (h' : Takes limit r' more r'') : Takes limit r (tokens ++ more) r'' := by
  induction h with
  | nil => exact h'
  | cons hstep _ ih => exact .cons hstep (ih h')

/-- A run over tokens that follow others goes through a reader between them. -/
theorem takes_append_iff {r r'' : Reader} {tokens more : List Token} :
    Takes limit r (tokens ++ more) r'' ↔
      ∃ r', Takes limit r tokens r' ∧ Takes limit r' more r'' := by
  refine ⟨fun h ↦ ?_, fun ⟨r', h, h'⟩ ↦ h.append h'⟩
  induction tokens generalizing r with
  | nil => exact ⟨r, .nil, h⟩
  | cons token tokens ih =>
    cases h with
    | cons hs h =>
      obtain ⟨r', hleft, hright⟩ := ih h
      exact ⟨r', .cons hs hleft, hright⟩

/-- What each step keeps, of the tokens so far and the reader, any number of steps keeps. -/
theorem Takes.preserves {P : List Token → Reader → Prop}
    (hstep : ∀ {taken : List Token} {r r' : Reader} {token : Token},
      P taken r → Step limit r token r' → P (taken ++ [token]) r')
    {r r' : Reader} {tokens : List Token} (h : Takes limit r tokens r') {taken : List Token}
    (hP : P taken r) : P (taken ++ tokens) r' := by
  induction h generalizing taken with
  | nil => rwa [List.append_nil]
  | cons hs _ ih =>
    have h' := ih (hstep hP hs)
    rwa [List.append_assoc, List.singleton_append] at h'

/-- Tokens that are all taken leave a run to the reader after them. -/
theorem Takes.run_append {r r' : Reader} {tokens : List Token} (h : Takes limit r tokens r')
    (last : Token) (rest : List Token) :
    r.run limit last (tokens ++ rest) = r'.run limit last rest := by
  induction h with
  | nil => rfl
  | cons hs _ ih =>
    rw [List.cons_append, run, hs.step_eq]
    exact ih

theorem Takes.run {r r' : Reader} {tokens : List Token} (h : Takes limit r tokens r')
    (last : Token) : r.run limit last tokens = ⟨r'.finish last, [], r'.depth⟩ := by
  have h' := h.run_append last []
  rwa [List.append_nil] at h'

/-- A rejected token ends a run, whatever stands behind it and whatever the last token is. -/
theorem Takes.run_rejects {r r' : Reader} {tokens : List Token} {token : Token} {fault : ReadFault}
    (h : Takes limit r tokens r') (hr : Rejects limit r' token fault) (last : Token)
    (rest : List Token) :
    r.run limit last (tokens ++ token :: rest) = ⟨.error fault, token :: rest, r'.depth⟩ := by
  rw [h.run_append, Reader.run, hr.step_eq]

/-- **A run takes all tokens, or it stops at the first one that is rejected.** -/
theorem takes_or_rejects (limit : Option Nat) (r : Reader) (tokens : List Token) :
    (∃ r', Takes limit r tokens r') ∨
      ∃ taken token rest r' fault, tokens = taken ++ token :: rest ∧ Takes limit r taken r' ∧
        Rejects limit r' token fault := by
  induction tokens generalizing r with
  | nil => exact .inl ⟨r, .nil⟩
  | cons token tokens ih =>
    rcases exists_step_or_rejects limit r token with ⟨r', hs⟩ | ⟨fault, hr⟩
    · rcases ih r' with ⟨r'', ht⟩ | ⟨taken, t, rest, r'', fault, rfl, ht, hr⟩
      · exact .inl ⟨r'', .cons hs ht⟩
      · exact .inr ⟨token :: taken, t, rest, r'', fault, rfl, .cons hs ht, hr⟩
    · exact .inr ⟨[], token, tokens, r, fault, rfl, .nil, hr⟩

end Reader

/-- Tokens are read by a run that starts at no depth. -/
theorem Tree.ofTokens?_eq (limit : Option Nat) {tokens : List Token} (h : tokens ≠ []) :
    Tree.ofTokens? limit tokens =
      ((Reader.start 0).run limit (tokens.getLast h) tokens).result.map some := by
  rw [Tree.ofTokens?, List.getLast?_eq_some_getLast h]

/-- **Tokens are not read for one of two reasons**: the reader that took all of them is not at an
end, or one of them was rejected. -/
theorem Tree.exists_of_ofTokens?_eq_error {limit : Option Nat} {tokens : List Token}
    {fault : ReadFault} (h : Tree.ofTokens? limit tokens = .error fault) :
    (∃ r, ∃ last ∈ tokens, Reader.Takes limit (Reader.start 0) tokens r ∧
        r.finish last = .error fault) ∨
      ∃ taken token rest r, tokens = taken ++ token :: rest ∧
        Reader.Takes limit (Reader.start 0) taken r ∧ Reader.Rejects limit r token fault := by
  have hne : tokens ≠ [] := by rintro rfl; exact nomatch h
  rw [Tree.ofTokens?_eq limit hne] at h
  rcases Reader.takes_or_rejects limit (Reader.start 0) tokens with
    ⟨r, ht⟩ | ⟨taken, token, rest, r, fault', rfl, ht, hr⟩
  · rw [ht.run] at h
    refine .inl ⟨r, tokens.getLast hne, List.getLast_mem hne, ht, ?_⟩
    rcases hfinish : r.finish (tokens.getLast hne) with fault' | t
    · rw [hfinish] at h
      exact congrArg Except.error (Except.error.inj h)
    · rw [hfinish] at h
      exact nomatch h
  · rw [ht.run_rejects hr] at h
    obtain rfl := Except.error.inj h
    exact .inr ⟨taken, token, rest, r, rfl, ht, hr⟩

end StreamFormula
