import StreamFormula.Proofs.Reader.Nesting
import StreamFormula.Tree.Session

/-!
# Reading again and again

A session may be read any number of times, whatever came of the readings before. One reading takes
some tokens, from where the last one stopped, and stops at a reader (`Session.exists_read`); the
session afterwards is that reader's place and depth. So all that can be said of one reading, from
any place and any depth that is not beyond the limit, is said of the reader it stops at
(`Session.InBounds.readsWell`), and the bounds hold again afterwards.

A reading that takes no token changes nothing, and every other one takes at least one. So there are
no more of the latter than tokens, and after that all readings are the same
(`Session.reads_settle`).

Nothing but the place and the depth is left of the readings before: the next one reads the tokens
that are left as a session of their own would, begun at that depth (`Session.read_resumes`). Even the
end of the tokens looks the same, because as long as a token is left the last one of all is left.
-/

namespace StreamFormula

namespace Session

variable {limit : Option Nat} {n : Nat}

/-! ### One reading -/

theorem length_rest {s : Session} (hs : s.position ≤ s.tokens.length) :
    s.position + s.rest.length = s.tokens.length := by
  rw [rest, List.length_drop, Nat.add_sub_of_le hs]

/-- **What one reading does.** It takes some of the tokens that are left and stops at a reader,
whose place and depth are those of the session afterwards. -/
theorem exists_read (limit : Option Nat) {s : Session} (hne : s.tokens ≠ [])
    (hs : s.position ≤ s.tokens.length) :
    ∃ taken rest r, s.rest = taken ++ rest ∧
      Reader.Takes limit (Reader.start s.depth) taken r ∧
      (s.read limit).2 = ⟨s.tokens, s.position + taken.length, r.depth⟩ ∧
      ((rest = [] ∧ ∃ last, (s.read limit).1 = (r.finish last).map some) ∨
        ∃ token more fault, rest = token :: more ∧ Reader.Rejects limit r token fault ∧
          (s.read limit).1 = .error fault) := by
  have hlast := List.getLast?_eq_some_getLast hne
  have hlength := length_rest hs
  rcases Reader.takes_or_rejects limit (Reader.start s.depth) s.rest with
    ⟨r, ht⟩ | ⟨taken, token, more, r, fault, hrest, ht, hr⟩
  · refine ⟨s.rest, [], r, (List.append_nil _).symm, ht, ?_,
      .inl ⟨rfl, s.tokens.getLast hne, ?_⟩⟩
    · rw [read, hlast]
      simp only [ht.run, List.length_nil, Nat.sub_zero, hlength]
    · rw [read, hlast]
      simp only [ht.run]
  · have hplace : s.tokens.length - (token :: more).length = s.position + taken.length := by
      rw [hrest, List.length_append] at hlength
      omega
    refine ⟨taken, token :: more, r, hrest, ht, ?_, .inr ⟨token, more, fault, rfl, hr, ?_⟩⟩
    · rw [read, hlast, hrest]
      simp only [ht.run_rejects hr, hplace]
    · rw [read, hlast, hrest]
      simp only [ht.run_rejects hr]
      rfl

/-- Nothing is read where there are no tokens. -/
theorem read_of_tokens_eq_nil {s : Session} (h : s.tokens = []) : s.read limit = (.ok none, s) := by
  rw [read, h]
  rfl

/-- The next reading goes through this reader. -/
def Reaches (n : Nat) (s : Session) (r : Reader) : Prop :=
  ∃ taken, taken <+: s.rest ∧ Reader.Takes (some n) (Reader.start s.depth) taken r

/-- How often the next reading does something: enter a sign or a parenthesis, or leave one. -/
def tally (n : Nat) (count : Reader → Token → Nat) (s : Session) : Nat :=
  (Reader.start s.depth).tally (some n) count s.rest

/-- The place is one in the tokens, and the depth is no deeper than the limit. -/
structure InBounds (n : Nat) (s : Session) : Prop where
  position_le : s.position ≤ s.tokens.length
  depth_le : s.depth ≤ n

/-- What a reading, under a limit, makes of a session. -/
structure ReadsWell (n : Nat) (s : Session) : Prop where
  tokens_eq : (s.read (some n)).2.tokens = s.tokens
  /-- No token is read twice. -/
  position_le : s.position ≤ (s.read (some n)).2.position
  /-- The limit is kept all the way. -/
  depth_le : ∀ r, s.Reaches n r → r.depth ≤ n
  /-- Nothing is left at depth zero: each step leaves only what was counted, and counts what it
  enters and leaves. -/
  step_depth : ∀ r, s.Reaches n r → ∀ token r', r.step (some n) token = .ok r' →
    r.leaves token ≤ r.depth ∧ r'.depth + r.leaves token = r.depth + r.enters token
  /-- A reading that succeeds reads to the end and leaves all that it entered. -/
  of_ok : ∀ t?, s.tokens ≠ [] → (s.read (some n)).1 = .ok t? →
    (s.read (some n)).2.position = s.tokens.length ∧ (s.read (some n)).2.depth = s.depth
  /-- A reading that fails keeps counted what it entered and did not leave. -/
  of_error : ∀ fault, (s.read (some n)).1 = .error fault →
    s.tally n Reader.leaves ≤ s.tally n Reader.enters ∧
      (s.read (some n)).2.depth = s.depth + (s.tally n Reader.enters - s.tally n Reader.leaves)
  /-- A reading that stays where it is changes nothing. -/
  of_position_eq : (s.read (some n)).2.position = s.position → (s.read (some n)).2 = s

/-- Without tokens a reading changes nothing. -/
theorem InBounds.readsWell_of_tokens_eq_nil {s : Session} (hs : s.InBounds n) (h : s.tokens = []) :
    s.ReadsWell n where
  tokens_eq := by rw [read_of_tokens_eq_nil h]
  position_le := read_of_tokens_eq_nil h ▸ Nat.le_refl _
  depth_le := fun _ ⟨_, _, ht⟩ ↦ ht.depth_le hs.depth_le
  step_depth := fun _ ⟨_, _, ht⟩ _ _ hstep ↦ ht.step_depth (Reader.step_eq_ok_iff.1 hstep)
  of_ok _ hne := absurd h hne
  of_error fault herror := nomatch (congrArg Prod.fst (read_of_tokens_eq_nil h)).symm.trans herror
  of_position_eq _ := by rw [read_of_tokens_eq_nil h]

/-- **A reading stays in bounds.** -/
theorem InBounds.read {s : Session} (hs : s.InBounds n) : (s.read (some n)).2.InBounds n := by
  by_cases hne : s.tokens = []
  · rwa [read_of_tokens_eq_nil hne]
  obtain ⟨taken, rest, r, hrest, ht, hafter, -⟩ := exists_read (some n) hne hs.position_le
  have hlength := length_rest hs.position_le
  rw [hrest, List.length_append] at hlength
  rw [hafter]
  exact ⟨hlength ▸ Nat.add_le_add_left (Nat.le_add_right _ _) _, ht.depth_le hs.depth_le⟩

/-- **A session in bounds is read well.** -/
theorem InBounds.readsWell {s : Session} (hs : s.InBounds n) : s.ReadsWell n := by
  by_cases hne : s.tokens = []
  · exact hs.readsWell_of_tokens_eq_nil hne
  obtain ⟨taken, rest, r, hrest, ht, hafter, hstop⟩ := exists_read (some n) hne hs.position_le
  -- what is not taken is not counted
  have htally : ∀ count, s.tally n count = (Reader.start s.depth).tally (some n) count taken := by
    intro count
    rw [tally, hrest, ht.tally_append]
    rcases hstop with ⟨rfl, -⟩ | ⟨token, more, fault, rfl, hr, -⟩
    · rfl
    · rw [hr.tally_eq, Nat.add_zero]
  refine ⟨?tokens, ?position, fun q ⟨_, _, hq⟩ ↦ hq.depth_le hs.depth_le,
    fun q ⟨_, _, hq⟩ _ _ hstep ↦ hq.step_depth (Reader.step_eq_ok_iff.1 hstep),
    fun t? _ hok ↦ ?ok, fun fault _ ↦ ?error, fun h ↦ ?unmoved⟩
  case tokens => rw [hafter]
  case position =>
    rw [hafter]
    exact Nat.le_add_right _ _
  case ok =>
    rw [hafter]
    rcases hstop with ⟨rfl, last, hresult⟩ | ⟨token, more, fault, -, -, hresult⟩
    · rw [hresult] at hok
      rw [List.append_nil] at hrest
      refine ⟨hrest ▸ length_rest hs.position_le, ?_⟩
      cases hfinish : r.finish last with
      | error fault => exact nomatch hfinish ▸ hok
      | ok t => exact ht.depth_eq_of_finish_eq_ok hfinish
    · exact nomatch hok.symm.trans hresult
  case error =>
    rw [hafter, htally, htally]
    exact ht.depth_eq_tally
  case unmoved =>
    rw [hafter] at h ⊢
    obtain rfl := List.eq_nil_of_length_eq_zero (Nat.add_eq_left.1 h)
    cases ht
    rfl

/-! ### Any number of readings -/

/-- The session after a number of readings. -/
def after (limit : Option Nat) (s : Session) (k : Nat) : Session := (s.reads limit k).2

theorem after_succ (limit : Option Nat) (s : Session) (k : Nat) :
    s.after limit (k + 1) = ((s.after limit k).read limit).2 := by
  induction k generalizing s with
  | zero => rfl
  | succ k ih => exact ih (s.read limit).2

/-- Each result is that of the session after the readings before it. -/
theorem getElem?_reads (limit : Option Nat) (s : Session) {k m : Nat} (h : k < m) :
    (s.reads limit m).1[k]? = some ((s.after limit k).read limit).1 := by
  induction m generalizing s k with
  | zero => exact absurd h (Nat.not_lt_zero k)
  | succ m ih =>
    rw [reads, after]
    cases k with
    | zero => rfl
    | succ k => exact ih (s.read limit).2 (Nat.lt_of_succ_lt_succ h)

/-- Any number of readings keeps the tokens and the bounds. -/
theorem InBounds.after {s : Session} (hs : s.InBounds n) (k : Nat) :
    (s.after (some n) k).tokens = s.tokens ∧ (s.after (some n) k).InBounds n := by
  induction k with
  | zero => exact ⟨rfl, hs⟩
  | succ k ih =>
    obtain ⟨htokens, hbounds⟩ := ih
    rw [after_succ]
    exact ⟨hbounds.readsWell.tokens_eq.trans htokens, hbounds.read⟩

/-- Each reading has taken another token, unless one before it changed nothing. -/
theorem InBounds.le_position_after {s : Session} (hs : s.InBounds n) (k : Nat) :
    s.position + k ≤ (s.after (some n) k).position ∨
      s.after (some n) (k + 1) = s.after (some n) k := by
  induction k with
  | zero => exact .inl (Nat.le_refl _)
  | succ k ih =>
    have hreads := (hs.after k).2.readsWell
    have hsucc := after_succ (some n) s k
    by_cases heq : s.after (some n) (k + 1) = s.after (some n) k
    · rw [after_succ _ _ (k + 1), heq, ← hsucc]
      exact .inr heq
    · have hne : (s.after (some n) (k + 1)).position ≠ (s.after (some n) k).position :=
        fun h ↦ heq (hsucc.trans (hreads.of_position_eq (hsucc ▸ h)))
      have hle : (s.after (some n) k).position ≤ (s.after (some n) (k + 1)).position :=
        hsucc ▸ hreads.position_le
      have hk := ih.resolve_right heq
      exact .inl (by omega)

/-- Where a reading changes nothing, the ones after it change nothing either. -/
theorem after_of_after_succ_eq {s : Session} {k : Nat}
    (h : s.after limit (k + 1) = s.after limit k) {m : Nat} (hm : k ≤ m) :
    s.after limit m = s.after limit k := by
  induction hm with
  | refl => rfl
  | step _ ih => rw [after_succ, ih, ← after_succ, h]

/-- **Reading goes on only as long as there are tokens.** After as many readings as tokens nothing
changes any more. -/
theorem InBounds.after_eq {s : Session} (hs : s.InBounds n) {k : Nat} (hk : s.tokens.length ≤ k) :
    s.after (some n) k = s.after (some n) s.tokens.length := by
  refine after_of_after_succ_eq ?_ hk
  rcases hs.le_position_after s.tokens.length with hle | heq
  · -- all tokens are taken, so the next reading has nowhere to go
    obtain ⟨htokens, hbounds⟩ := hs.after s.tokens.length
    have hreads := hbounds.readsWell
    have hlow := hreads.position_le
    have hhigh := hbounds.read.position_le
    rw [hreads.tokens_eq, htokens] at hhigh
    rw [after_succ]
    exact hreads.of_position_eq (by omega)
  · exact heq

/-- **Reading again and again is safe, and it settles.** However often a list of tokens has been
read, and whatever came of it, the session is in bounds and the next reading keeps to the books; and
all readings after as many as there are tokens have the same result. -/
theorem reads_settle (tokens : List Token) :
    (∀ k, ((ofTokens tokens).after (some nestingLimit) k).tokens = tokens ∧
      ((ofTokens tokens).after (some nestingLimit) k).InBounds nestingLimit ∧
      ((ofTokens tokens).after (some nestingLimit) k).ReadsWell nestingLimit) ∧
    ∃ result, ∀ m k, tokens.length ≤ k → k < m →
      ((ofTokens tokens).reads (some nestingLimit) m).1[k]? = some result := by
  have hs : (ofTokens tokens).InBounds nestingLimit := ⟨Nat.zero_le _, Nat.zero_le _⟩
  refine ⟨fun k ↦ ?_, (((ofTokens tokens).after (some nestingLimit) tokens.length).read
    (some nestingLimit)).1, fun m k hk hm ↦ ?_⟩
  · obtain ⟨htokens, hbounds⟩ := hs.after k
    exact ⟨htokens, hbounds, hbounds.readsWell⟩
  · rw [getElem?_reads _ _ hm, hs.after_eq hk]
    rfl

/-- A parenthesis stays counted after the reading that failed inside it, and the next reading fails
at the same token. -/
example : (ofTokens [.symbol .openParen 0, .symbol .star 1]).reads (some nestingLimit) 2 =
    ([.error (.unexpectedToken (.symbol .star 1)), .error (.unexpectedToken (.symbol .star 1))],
      ⟨[.symbol .openParen 0, .symbol .star 1], 1, 1⟩) := rfl

/-! ### What is left -/

/-- A run leaves some of its tokens. -/
theorem length_rest_run_le (limit : Option Nat) (last : Token) (r : Reader) (tokens : List Token) :
    (r.run limit last tokens).rest.length ≤ tokens.length := by
  rcases Reader.takes_or_rejects limit r tokens with
    ⟨r', ht⟩ | ⟨taken, token, rest, r', fault, rfl, ht, hr⟩
  · rw [ht.run]
    exact Nat.zero_le _
  · rw [ht.run_rejects hr, List.length_append]
    exact Nat.le_add_left _ _

/-- The tokens that are left as a session of their own, as deep as this one. -/
def anew (s : Session) : Session := ⟨s.rest, 0, s.depth⟩

/-- **Reading on is reading what is left**, with the place counted on. -/
theorem read_eq_anew (limit : Option Nat) {s : Session} (hs : s.position < s.tokens.length) :
    (s.read limit).1 = (s.anew.read limit).1 ∧
      (s.read limit).2 = ⟨s.tokens, s.position + (s.anew.read limit).2.position,
        (s.anew.read limit).2.depth⟩ := by
  have hne : s.tokens ≠ [] := List.ne_nil_of_length_pos (Nat.zero_lt_of_lt hs)
  have hlast := List.getLast?_eq_some_getLast hne
  -- the last of all tokens is the last one of those that are left
  have hlast' : s.anew.tokens.getLast? = some (s.tokens.getLast hne) := by
    rw [anew, rest, List.getLast?_drop, if_neg (Nat.not_le.2 hs), hlast]
  have hlength := length_rest (Nat.le_of_lt hs)
  have hrun := length_rest_run_le limit (s.tokens.getLast hne) (Reader.start s.depth) s.rest
  simp only [read, hlast, hlast']
  refine ⟨rfl, congrArg (Session.mk s.tokens · _) ?_⟩
  show s.tokens.length - _ = s.position + (s.rest.length - _)
  rw [← hlength]
  exact Nat.add_sub_assoc hrun _

/-- At the end of its tokens a session fails for the end and stays there. -/
theorem read_of_rest_eq_nil (limit : Option Nat) {s : Session} (hne : s.tokens ≠ [])
    (hs : s.position = s.tokens.length) :
    s.read limit = (.error (.unexpectedEnd (s.tokens.getLast hne)), s) := by
  have hrest : s.rest = [] := by rw [rest, hs, List.drop_length]
  rw [read, List.getLast?_eq_some_getLast hne, hrest]
  obtain ⟨tokens, position, depth⟩ := s
  obtain rfl : position = tokens.length := hs
  rfl

/-- **A session can be read on as if it were new.** After any number of readings of some tokens,
whatever came of them, either tokens are left: then the next reading has the result, the depth and
the progress of a first reading of these tokens from the depth reached. Or none is left: then the
next reading fails for the end of the formula, at the last token of all, and changes nothing. -/
theorem read_resumes {tokens : List Token} (hne : tokens ≠ []) (k : Nat) {s : Session}
    (hs : (ofTokens tokens).after (some nestingLimit) k = s) :
    s.position ≤ tokens.length ∧
      (s.position < tokens.length → ∃ result after,
        (Session.mk (tokens.drop s.position) 0 s.depth).read (some nestingLimit) =
          (result, after) ∧
        s.read (some nestingLimit) =
          (result, ⟨tokens, s.position + after.position, after.depth⟩)) ∧
      (s.position = tokens.length → ∃ last fault, tokens.getLast? = some last ∧
        s.read (some nestingLimit) = (.error fault, s) ∧
        fault.diagnostic = ⟨.syntaxError, "Unexpected end of formula",
          some ⟨last.start, last.stop, some last.text⟩⟩) := by
  have hstart : (ofTokens tokens).InBounds nestingLimit := ⟨Nat.zero_le _, Nat.zero_le _⟩
  obtain ⟨htokens, hbounds⟩ := hstart.after k
  rw [hs] at htokens hbounds
  obtain rfl : s.tokens = tokens := htokens
  refine ⟨hbounds.position_le, fun hlt ↦ ?_, fun hend ↦ ?_⟩
  · obtain ⟨hresult, hafter⟩ := read_eq_anew (some nestingLimit) hlt
    exact ⟨_, _, rfl, Prod.ext hresult hafter⟩
  · exact ⟨_, _, List.getLast?_eq_some_getLast hne, read_of_rest_eq_nil _ hne hend, rfl⟩

/-- Behind a parenthesis that is not closed in time the rest is read as a formula, one deeper. -/
theorem read_resumes_behind_unclosed :
    ∃ tokens : List Token, Token.render tokens = "( 1 2" ∧ tokens ≠ [] ∧
      (ofTokens tokens).after (some nestingLimit) 1 = ⟨tokens, 2, 1⟩ ∧
      (Session.mk tokens 2 1).read (some nestingLimit) =
        (.ok (some (.atom (.number "2"))), ⟨tokens, 3, 1⟩) := by
  have hne : ([.symbol .openParen 0, .word ⟨.number, "1", 1, by decide⟩,
      .word ⟨.number, "2", 3, by decide⟩] : List Token) ≠ [] := List.cons_ne_nil _ _
  obtain ⟨-, hon, -⟩ := read_resumes hne 1 rfl
  obtain ⟨result, after, hnew, hread⟩ := hon (by decide)
  obtain ⟨rfl, rfl⟩ := Prod.mk.inj hnew
  exact ⟨_, by with_unfolding_all rfl, hne, rfl, hread⟩

end Session

end StreamFormula
