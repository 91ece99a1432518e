import StreamFormula.Proofs.Reader.Transitions
import StreamFormula.Tree.Session

/-!
# Failing as early as possible

A reading that fails stops at the first token that no accepted formula could have there
(`Session.viable_of_read_eq_error`): the tokens it took are the beginning of an accepted formula,
those with the token at fault are not, and nothing behind that token changes the fault.

The reason is that a reader has no dead end. Whatever a reader expects, it can be led to the end of
a term with tokens that enter nothing (`Reader.exists_takes_operator`), and open parentheses can be
closed one after the other (`Reader.exists_takes_closing`), so no depth is too deep to finish from.
-/

namespace StreamFormula

variable {limit : Option Nat}

/-! ### Reading through to a verdict -/

/-- Tokens that leave a finished term and no open parenthesis are read as its sum. -/
theorem Reader.Takes.ofTokens?_eq_ok {tokens : List Token} {sum? : Option HalfTree} {term : Tree}
    {depth : Nat}
    (h : Takes limit (start 0) tokens ⟨.operator sum? term, [], depth⟩) :
    Tree.ofTokens? limit tokens = .ok (some (HalfTree.complete sum? term)) := by
  cases tokens with
  | nil => exact nomatch h
  | cons token tokens =>
    rw [Tree.ofTokens?_eq limit (List.cons_ne_nil token tokens), h.run]
    rfl

/-- A rejected token is reported whatever stands behind it. -/
theorem Reader.Takes.ofTokens?_eq_error {taken : List Token} {token : Token} {r : Reader}
    {fault : ReadFault} (h : Takes limit (start 0) taken r) (hr : Rejects limit r token fault)
    (rest : List Token) : Tree.ofTokens? limit (taken ++ token :: rest) = .error fault := by
  have hne : taken ++ token :: rest ≠ [] :=
    List.append_ne_nil_of_right_ne_nil _ (List.cons_ne_nil token rest)
  rw [Tree.ofTokens?_eq limit hne, h.run_rejects hr]
  rfl

namespace Session

/-- A reading that takes all tokens stands at the end of them. -/
theorem position_read_of_takes {s : Session} {r : Reader} (hne : s.tokens ≠ [])
    (h : Reader.Takes limit (Reader.start s.depth) s.rest r) :
    (s.read limit).2.position = s.tokens.length := by
  rw [read, List.getLast?_eq_some_getLast hne]
  simp only [h.run, List.length_nil, Nat.sub_zero]

/-- A reading that fails at a token stands in front of it. -/
theorem position_read_of_rejects {s : Session} {taken rest : List Token} {token : Token}
    {r : Reader} {fault : ReadFault} (htokens : s.rest = taken ++ token :: rest)
    (h : Reader.Takes limit (Reader.start s.depth) taken r)
    (hr : Reader.Rejects limit r token fault) :
    (s.read limit).2.position = s.position + taken.length := by
  have hlength : s.tokens.length - s.position = taken.length + (rest.length + 1) := by
    have h := congrArg List.length htokens
    rwa [Session.rest, List.length_drop, List.length_append, List.length_cons] at h
  have hne : s.tokens ≠ [] := by
    intro hnil
    rw [hnil, List.length_nil, Nat.zero_sub] at hlength
    omega
  rw [read, List.getLast?_eq_some_getLast hne, htokens]
  simp only [h.run_rejects hr, List.length_cons]
  omega

end Session

/-! ### No dead ends -/

namespace Reader

/-- A numeral that can stand wherever an operand is due. -/
def zero : Word := ⟨.number, "0", 0, by decide⟩

/-- Any reader can be led to the end of a term. -/
theorem exists_takes_operator (limit : Option Nat) (r : Reader) :
    ∃ more sum? term groups depth, Takes limit r more ⟨.operator sum? term, groups, depth⟩ := by
  obtain ⟨expected, groups, depth⟩ := r
  -- no sign and no grouping parenthesis is among these tokens, so the limit does not count
  cases expected with
  | operand level after? => exact ⟨_, _, _, _, _, .single (.number zero rfl)⟩
  | operator sum? term => exact ⟨_, _, _, _, _, .nil⟩
  | callOpening level handle =>
    exact ⟨_, _, _, _, _, .cons (.callOpening 0) (.cons (.callArgument zero rfl)
      (.single (.callClosing 0)))⟩
  | callArgument level handle =>
    exact ⟨_, _, _, _, _, .cons (.callArgument zero rfl) (.single (.callClosing 0))⟩
  | callClosing level handle argument => exact ⟨_, _, _, _, _, .single (.callClosing 0)⟩

/-- Open parentheses can be closed one after the other. -/
theorem exists_takes_closing (limit : Option Nat) (sum? : Option HalfTree) (term : Tree)
    (groups : List Group) (depth : Nat) :
    ∃ more sum?' term' depth', Takes limit ⟨.operator sum? term, groups, depth⟩ more
      ⟨.operator sum?' term', [], depth'⟩ := by
  induction groups generalizing sum? term depth with
  | nil => exact ⟨[], sum?, term, depth, .nil⟩
  | cons group groups ih =>
    obtain ⟨more, sum?', term', depth', h⟩ := ih group.outer.sum? _ _
    exact ⟨_, sum?', term', depth', .cons (.closing 0) h⟩

end Reader

/-! ### Viable tokens -/

/-- Tokens that an accepted formula begins with. -/
def Viable (tokens : List Token) : Prop :=
  ∃ more t, Tree.read (tokens ++ more) = .ok (some t)

/-- Tokens that a reader takes are viable, however deep they are nested. -/
theorem Reader.Takes.viable {tokens : List Token} {r : Reader}
    (h : Takes (some nestingLimit) (start 0) tokens r) : Viable tokens := by
  obtain ⟨toTerm, sum?, term, groups, depth, hterm⟩ := exists_takes_operator (some nestingLimit) r
  obtain ⟨toEnd, sum?', term', depth', hend⟩ :=
    exists_takes_closing (some nestingLimit) sum? term groups depth
  exact ⟨toTerm ++ toEnd, _, ((h.append (hterm.append hend))).ofTokens?_eq_ok⟩

/-- **A reading fails at the first token that cannot be right.** The tokens in front of it are the
beginning of an accepted formula. If it stops at a token, no accepted formula begins with the tokens
up to that one, and everything that begins with them fails in the same way. -/
theorem Session.viable_of_read_eq_error {tokens : List Token} {fault : ReadFault} {after : Session}
    (h : (Session.ofTokens tokens).read (some nestingLimit) = (.error fault, after)) :
    Viable (tokens.take after.position) ∧
      (after.position < tokens.length →
        ¬ Viable (tokens.take (after.position + 1)) ∧
          ∀ others, tokens.take (after.position + 1) <+: others →
            Tree.read others = .error fault) := by
  have hread : Tree.read tokens = .error fault := by
    rw [Tree.read, ← Session.read_ofTokens, h]
  have hafter : ((Session.ofTokens tokens).read (some nestingLimit)).2.position =
      after.position := by rw [h]
  rcases Reader.takes_or_rejects (some nestingLimit) (Reader.start 0) tokens with
    ⟨r, ht⟩ | ⟨taken, token, rest, r, fault', rfl, ht, hr⟩
  · have hne : tokens ≠ [] := by rintro rfl; exact nomatch hread
    rw [Session.position_read_of_takes (s := .ofTokens tokens) hne ht] at hafter
    rw [← hafter]
    refine ⟨?_, fun hlt ↦ absurd hlt (Nat.lt_irrefl _)⟩
    rw [show (Session.ofTokens tokens).tokens = tokens from rfl, List.take_length]
    exact ht.viable
  · obtain rfl : fault' = fault :=
      Except.error.inj ((ht.ofTokens?_eq_error hr rest).symm.trans hread)
    rw [Session.position_read_of_rejects (s := .ofTokens (taken ++ token :: rest))
      (Session.rest_ofTokens _) ht hr, Session.ofTokens, Nat.zero_add] at hafter
    have hprefix : (taken ++ token :: rest).take (taken.length + 1) = taken ++ [token] := by
      rw [List.take_length_add_append, List.take_succ_cons, List.take_zero]
    have hfail : ∀ others, taken ++ [token] <+: others → Tree.read others = .error fault' := by
      rintro others ⟨more, rfl⟩
      rw [List.append_assoc, List.singleton_append]
      exact ht.ofTokens?_eq_error hr more
    rw [← hafter, List.take_left, hprefix]
    refine ⟨ht.viable, fun _ ↦ ⟨?_, hfail⟩⟩
    rintro ⟨more, t, hmore⟩
    rw [hfail _ (List.prefix_append _ more)] at hmore
    exact nomatch hmore

/-- Of two operators in a row, the first one is still the beginning of an accepted formula. -/
theorem Session.viable_before_operator_run :
    (Session.ofTokens [.word Reader.zero, .symbol .plus 1, .symbol .star 2]).read
        (some nestingLimit) =
      (.error (.operatorRun (.symbol .plus 1) (.symbol .star 2)),
        ⟨[.word Reader.zero, .symbol .plus 1, .symbol .star 2], 2, 0⟩) ∧
      Viable [.word Reader.zero, .symbol .plus 1] ∧
      ¬ Viable [.word Reader.zero, .symbol .plus 1, .symbol .star 2] := by
  have h : (Session.ofTokens [.word Reader.zero, .symbol .plus 1, .symbol .star 2]).read
        (some nestingLimit) =
      (.error (.operatorRun (.symbol .plus 1) (.symbol .star 2)),
        ⟨[.word Reader.zero, .symbol .plus 1, .symbol .star 2], 2, 0⟩) := rfl
  obtain ⟨hviable, hstop⟩ := Session.viable_of_read_eq_error h
  exact ⟨h, hviable, (hstop (by decide)).1⟩

end StreamFormula
