import Mathlib.Algebra.GroupWithZero.Nat
import StreamFormula.Proofs.Reader.Transitions

/-!
# How deep a reader is

A reader counts signs and parentheses up when it enters them and down when it leaves them. What it
has entered and not left can be read off what it holds (`Reader.nesting`), and the count goes along
with that, step by step (`Reader.Step.nesting_eq`). So the depth of a reader is the depth that it
started at and its nesting on top (`Reader.Takes.depth_eq`); nothing is ever left that was not
counted, and the subtractions in a step are exact (`Reader.Step.depth_eq`).

The limit has no other effect than to stop a run at the token that would exceed it
(`Reader.Takes.limited`, `Reader.Exceeds.rejects`). How much of a limit a run needs is its
`Reader.peak`.
-/

namespace StreamFormula

/-- How many signs stand in front of the factor that is due or being read. -/
def Expectation.signs : Expectation → Nat
  | operand level _ | callOpening level _ | callArgument level _ | callClosing level _ _ =>
    level.signs.length
  | operator _ _ => 0

namespace Reader

variable {limit : Option Nat}

/-! ### Entering and leaving -/

/-- The signs and parentheses that were entered and not left: the signs in front of the factor that
is due, and each open parenthesis together with the signs in front of it. -/
def nesting (r : Reader) : Nat :=
  r.expected.signs + (r.groups.map fun group ↦ group.outer.signs.length + 1).sum

/-- How many signs and parentheses a reader enters with a token that it takes: each symbol at the
place of a factor is one. -/
def enters (r : Reader) (token : Token) : Nat :=
  match r.expected, token with
  | .operand _ _, .symbol _ _ => 1
  | _, _ => 0

/-- How many signs and parentheses a reader leaves with a token that it takes: the parenthesis that
is closed, and the signs in front of the factor that is finished. -/
def leaves (r : Reader) (token : Token) : Nat :=
  match r.expected, token, r.groups with
  | .operand level _, .word w, _ => if w.kind = .handle then 0 else level.signs.length
  | .operator _ _, .symbol .closeParen _, group :: _ => group.outer.signs.length + 1
  | .callClosing level _ _, _, _ => level.signs.length
  | _, _, _ => 0

/-- **A step keeps the books**: what is entered is open from then on, and what is left was open. -/
theorem Step.nesting_eq {r r' : Reader} {token : Token} (h : Step limit r token r') :
    r'.nesting + r.leaves token = r.nesting + r.enters token := by
  cases h with
  | number w hw | stream w hw | handle w hw =>
    simp [nesting, leaves, enters, factor, Expectation.signs, hw, Nat.add_comm]
  | opening n hd => simp [nesting, leaves, enters, Expectation.signs, Level.empty]; omega
  | sign s n hd => simp [nesting, leaves, enters, Expectation.signs]; omega
  | sum op n hop =>
    cases op <;> simp [nesting, leaves, enters, Expectation.signs, BinaryOp.symbol]
  | product op n hop =>
    cases op <;> simp [nesting, leaves, enters, Expectation.signs, BinaryOp.symbol]
  | closing n => simp [nesting, leaves, enters, factor, Expectation.signs, Nat.add_comm]
  | callOpening n | callArgument w hw => simp [nesting, leaves, enters, Expectation.signs]
  | callClosing n => simp [nesting, leaves, enters, factor, Expectation.signs, Nat.add_comm]

/-- What a step leaves was open. -/
theorem Step.leaves_le_nesting {r r' : Reader} {token : Token} (h : Step limit r token r') :
    r.leaves token ≤ r.nesting := by
  cases h with
  | number w hw | stream w hw | handle w hw => simp [nesting, leaves, Expectation.signs, hw]
  | opening n hd | sign s n hd => exact Nat.zero_le _
  | sum op n hop | product op n hop => cases op <;> exact Nat.zero_le _
  | closing n => simp [nesting, leaves, Expectation.signs]
  | callOpening n | callArgument w hw => exact Nat.zero_le _
  | callClosing n => simp [nesting, leaves, Expectation.signs]

/-- **The depth goes along with what is entered and left**, and never below zero. -/
theorem Step.depth_eq {r r' : Reader} {token : Token} (h : Step limit r token r')
    (hr : r.nesting ≤ r.depth) : r'.depth + r.leaves token = r.depth + r.enters token := by
  have hle := Nat.le_trans h.leaves_le_nesting hr
  cases h with
  | number w hw | stream w hw =>
    simp only [leaves, hw, reduceCtorEq, if_false] at hle ⊢
    simp only [factor, enters]
    omega
  | handle w hw => simp [leaves, enters, hw]
  | opening n hd | sign s n hd => rfl
  | sum op n hop | product op n hop => cases op <;> rfl
  | closing n =>
    simp only [leaves] at hle ⊢
    simp only [factor, enters]
    omega
  | callOpening n | callArgument w hw => rfl
  | callClosing n =>
    simp only [leaves] at hle ⊢
    simp only [factor, enters]
    omega

/-- The sum of what a run does with the tokens that it takes. -/
def tally (limit : Option Nat) (count : Reader → Token → Nat) (r : Reader) : List Token → Nat
  | [] => 0
  | token :: tokens =>
    match r.step limit token with
    | .ok r' => count r token + r'.tally limit count tokens
    | .error _ => 0

theorem Step.tally_cons {r r' : Reader} {token : Token} (h : Step limit r token r')
    (count : Reader → Token → Nat) (tokens : List Token) :
    r.tally limit count (token :: tokens) = count r token + r'.tally limit count tokens := by
  rw [tally, h.step_eq]

/-- A run that ends behind some tokens has done what it did with them. -/
theorem Takes.tally_append {r r' : Reader} {tokens : List Token} (h : Takes limit r tokens r')
    (count : Reader → Token → Nat) (rest : List Token) :
    r.tally limit count (tokens ++ rest) =
      r.tally limit count tokens + r'.tally limit count rest := by
  induction h with
  | nil => rw [List.nil_append, tally, Nat.zero_add]
  | cons hs _ ih =>
    rw [List.cons_append, hs.tally_cons, hs.tally_cons, ih, Nat.add_assoc]

/-- Nothing is done with a rejected token or behind it. -/
theorem Rejects.tally_eq {r : Reader} {token : Token} {fault : ReadFault}
    (h : Rejects limit r token fault) (count : Reader → Token → Nat) (rest : List Token) :
    r.tally limit count (token :: rest) = 0 := by
  rw [tally, h.step_eq]

/-- **A run keeps the books**, as its steps do. -/
theorem Takes.nesting_eq {r r' : Reader} {tokens : List Token} (h : Takes limit r tokens r') :
    r'.nesting + r.tally limit leaves tokens = r.nesting + r.tally limit enters tokens := by
  induction h with
  | nil => rfl
  | cons hs _ ih =>
    have hstep := hs.nesting_eq
    rw [hs.tally_cons, hs.tally_cons]
    omega

/-- The depth of a reader and its nesting change alike. -/
theorem Takes.depth_add_nesting {r r' : Reader} {tokens : List Token} (h : Takes limit r tokens r')
    (hr : r.nesting ≤ r.depth) : r'.depth + r.nesting = r.depth + r'.nesting := by
  induction h with
  | nil => rfl
  | cons hs _ ih =>
    have hdepth := hs.depth_eq hr
    have hnesting := hs.nesting_eq
    have := ih (by omega)
    omega

/-- **A reader is as deep as it began, and by its nesting deeper.** -/
theorem Takes.depth_eq {base : Nat} {tokens : List Token} {r : Reader}
    (h : Takes limit (start base) tokens r) : r.depth = base + r.nesting :=
  h.depth_add_nesting (Nat.zero_le base)

/-- A reader that is finished holds nothing open. -/
theorem nesting_of_finish_eq_ok {r : Reader} {last : Token} {t : Tree} (h : r.finish last = .ok t) :
    r.nesting = 0 := by
  obtain ⟨expected, groups, depth⟩ := r
  cases expected with
  | operator sum? term =>
    cases groups with
    | nil => rfl
    | cons group groups => exact nomatch h
  | operand | callOpening | callArgument | callClosing => exact nomatch h

/-- A run that ends well is back at the depth that it started at. -/
theorem Takes.depth_eq_of_finish_eq_ok {base : Nat} {tokens : List Token} {r : Reader} {last : Token}
    {t : Tree} (h : Takes limit (start base) tokens r) (hfinish : r.finish last = .ok t) :
    r.depth = base := by
  rw [h.depth_eq, nesting_of_finish_eq_ok hfinish, Nat.add_zero]

/-- What a run has entered and not left is counted on top of the depth that it started at. -/
theorem Takes.depth_eq_tally {base : Nat} {tokens : List Token} {r : Reader}
    (h : Takes limit (start base) tokens r) :
    (start base).tally limit leaves tokens ≤ (start base).tally limit enters tokens ∧
      r.depth = base + ((start base).tally limit enters tokens -
        (start base).tally limit leaves tokens) := by
  have hopen : r.nesting + (start base).tally limit leaves tokens =
      (start base).tally limit enters tokens := h.nesting_eq.trans (Nat.zero_add _)
  rw [← hopen, Nat.add_sub_cancel]
  exact ⟨Nat.le_add_left _ _, h.depth_eq⟩

/-- What a run leaves has been counted before, so the depth goes down by just that. -/
theorem Takes.step_depth {base : Nat} {tokens : List Token} {r r' : Reader} {token : Token}
    (h : Takes limit (start base) tokens r) (hs : Step limit r token r') :
    r.leaves token ≤ r.depth ∧ r'.depth + r.leaves token = r.depth + r.enters token := by
  have hnesting : r.nesting ≤ r.depth := h.depth_eq ▸ Nat.le_add_left _ _
  exact ⟨Nat.le_trans hs.leaves_le_nesting hnesting, hs.depth_eq hnesting⟩

/-! ### Limits -/

/-- An opening parenthesis, or the symbol of a sign. -/
def Nests (token : Token) : Prop :=
  token.symbol? = some .openParen ∨ ∃ s : Sign, token.symbol? = some s.symbol

/-- **Only what is entered makes a reader deeper**: a sign or a parenthesis at the place of a
factor, by one, and where the limit permits it. -/
theorem Step.of_depth_lt {r r' : Reader} {token : Token} (h : Step limit r token r')
    (hlt : r.depth < r'.depth) :
    (∃ level after?, r.expected = .operand level after?) ∧ Nests token ∧
      Permits limit r.depth ∧ r'.depth = r.depth + 1 := by
  cases h with
  | opening n hd => exact ⟨⟨_, _, rfl⟩, .inl rfl, hd, rfl⟩
  | sign s n hd => exact ⟨⟨_, _, rfl⟩, .inr ⟨s, rfl⟩, hd, rfl⟩
  | number w hw | stream w hw | callClosing n =>
    exact absurd (Nat.lt_of_lt_of_le hlt (Nat.sub_le _ _)) (Nat.lt_irrefl _)
  | closing n =>
    exact absurd (Nat.lt_of_lt_of_le hlt (Nat.le_trans (Nat.sub_le _ _) (Nat.sub_le _ _)))
      (Nat.lt_irrefl _)
  | handle | sum | product | callOpening | callArgument => exact absurd hlt (Nat.lt_irrefl _)

/-- **A limit is kept.** -/
theorem Takes.depth_le {n : Nat} {r r' : Reader} {tokens : List Token}
    (h : Takes (some n) r tokens r') (hr : r.depth ≤ n) : r'.depth ≤ n := by
  induction h with
  | nil => exact hr
  | @cons r r' r'' token tokens hs _ ih =>
    refine ih ?_
    rcases Nat.lt_or_ge r.depth r'.depth with hlt | hge
    · obtain ⟨-, -, hpermits, heq⟩ := hs.of_depth_lt hlt
      exact heq ▸ permits_some.1 hpermits
    · exact Nat.le_trans hge hr

/-- Under another limit a step is the same, or it is one too deep. -/
theorem Step.limited {r r' : Reader} {token : Token} (h : Step limit r token r')
    (limit' : Option Nat) :
    Step limit' r token r' ∨
      ¬ Permits limit' r.depth ∧ r'.depth = r.depth + 1 ∧
        Rejects limit' r token (.tooDeep token) := by
  cases h with
  | @opening level after? groups depth n hd =>
    by_cases hd' : Permits limit' depth
    · exact .inl (.opening n hd')
    · exact .inr ⟨hd', rfl, .tooDeepGroup n hd'⟩
  | @sign level groups depth s n hd =>
    by_cases hd' : Permits limit' depth
    · exact .inl (.sign s n hd')
    · exact .inr ⟨hd', rfl, .tooDeepSign s n hd'⟩
  | number w hw => exact .inl (.number w hw)
  | stream w hw => exact .inl (.stream w hw)
  | handle w hw => exact .inl (.handle w hw)
  | sum op n hop => exact .inl (.sum op n hop)
  | product op n hop => exact .inl (.product op n hop)
  | closing n => exact .inl (.closing n)
  | callOpening n => exact .inl (.callOpening n)
  | callArgument w hw => exact .inl (.callArgument w hw)
  | callClosing n => exact .inl (.callClosing n)

/-- A run under a limit is a run without one. -/
theorem Takes.unlimited {r r' : Reader} {tokens : List Token} (h : Takes limit r tokens r') :
    Takes none r tokens r' := by
  induction h with
  | nil => exact .nil
  | cons hs _ ih =>
    rcases hs.limited none with hs' | ⟨hnot, -⟩
    · exact .cons hs' ih
    · exact absurd (permits_none _) hnot

/-! ### Peaks -/

/-- The largest depth in a run. -/
def peak (limit : Option Nat) (r : Reader) : List Token → Nat
  | [] => r.depth
  | token :: tokens =>
    match r.step limit token with
    | .ok r' => max r.depth (r'.peak limit tokens)
    | .error _ => r.depth

theorem Step.peak_cons {r r' : Reader} {token : Token} (h : Step limit r token r')
    (tokens : List Token) : r.peak limit (token :: tokens) = max r.depth (r'.peak limit tokens) := by
  rw [peak, h.step_eq]

theorem depth_le_peak (limit : Option Nat) (r : Reader) (tokens : List Token) :
    r.depth ≤ r.peak limit tokens := by
  cases tokens with
  | nil => exact Nat.le_refl _
  | cons token tokens =>
    rw [peak]
    split
    · exact Nat.le_max_left _ _
    · exact Nat.le_refl _

theorem Takes.peak_append {r r' : Reader} {tokens : List Token} (h : Takes limit r tokens r')
    (rest : List Token) :
    r.peak limit (tokens ++ rest) = max (r.peak limit tokens) (r'.peak limit rest) := by
  induction h with
  | nil => exact (Nat.max_eq_right (depth_le_peak limit _ rest)).symm
  | cons hs _ ih => rw [List.cons_append, hs.peak_cons, hs.peak_cons, ih, Nat.max_assoc]

/-- A limit that lets a run through does not change its peak. -/
theorem Takes.peak_unlimited {r r' : Reader} {tokens : List Token} (h : Takes limit r tokens r') :
    r.peak none tokens = r.peak limit tokens := by
  induction h with
  | nil => rfl
  | cons hs _ ih =>
    rcases hs.limited none with hs' | ⟨hnot, -⟩
    · rw [hs.peak_cons, hs'.peak_cons, ih]
    · exact absurd (permits_none _) hnot

/-- The depth at the end of a run is one of its depths. -/
theorem Takes.depth_le_peak {r r' : Reader} {tokens : List Token} (h : Takes limit r tokens r') :
    r'.depth ≤ r.peak limit tokens := by
  have hpeak := h.peak_append []
  rw [List.append_nil] at hpeak
  rw [hpeak]
  exact Nat.le_max_right _ _

/-- A rejected token makes no run deeper, and neither does what stands behind it. -/
theorem Rejects.peak_cons {r : Reader} {token : Token} {fault : ReadFault}
    (h : Rejects limit r token fault) (rest : List Token) :
    r.peak limit (token :: rest) = r.depth := by
  rw [peak, h.step_eq]

/-- What is rejected without a limit is rejected for the same reason under each. -/
theorem Rejects.limited {r : Reader} {token : Token} {fault : ReadFault}
    (h : Rejects none r token fault) (limit' : Option Nat) : Rejects limit' r token fault := by
  cases h with
  | tooDeepGroup n hd | tooDeepSign s n hd => exact absurd (permits_none _) hd
  | operatorRun ht => exact .operatorRun ht
  | misplacedProduct op n hop => exact .misplacedProduct op n hop
  | misplacedClosing n => exact .misplacedClosing n
  | trailing ht => exact .trailing ht
  | unopened n => exact .unopened n
  | unclosed ht => exact .unclosed ht
  | callNotOpened ht => exact .callNotOpened ht
  | argumentMissing ht => exact .argumentMissing ht
  | callNotClosed ht => exact .callNotClosed ht

/-- **A limit lets a run through as far as its peak.** -/
theorem Takes.limited {r r' : Reader} {tokens : List Token} (h : Takes none r tokens r') {n : Nat}
    (hn : r.peak none tokens ≤ n) : Takes (some n) r tokens r' := by
  induction h with
  | nil => exact .nil
  | @cons r r' r'' token tokens hs _ ih =>
    rw [hs.peak_cons] at hn
    rcases hs.limited (some n) with hs' | ⟨hnot, hdepth, -⟩
    · exact .cons hs' (ih (Nat.le_trans (Nat.le_max_right _ _) hn))
    · rw [permits_some, Nat.not_lt] at hnot
      have hpeak := Reader.depth_le_peak none r' tokens
      omega

/-- The token with which a run without a limit first gets deeper than `n`, with the tokens in front
of it. -/
structure Exceeds (n : Nat) (r : Reader) (taken : List Token) (token : Token) : Prop where
  peak_le : r.peak none taken ≤ n
  step : ∃ q q', Takes none r taken q ∧ Step none q token q' ∧ q.depth = n ∧ q'.depth = n + 1

/-- **A run that gets too deep does so at some token.** -/
theorem exists_exceeds {n : Nat} {r : Reader} {tokens : List Token} (hr : r.depth ≤ n)
    (hn : n < r.peak none tokens) :
    ∃ taken token rest, tokens = taken ++ token :: rest ∧ Exceeds n r taken token := by
  induction tokens generalizing r with
  | nil => exact absurd hr (Nat.not_le.2 hn)
  | cons token tokens ih =>
    rcases exists_step_or_rejects none r token with ⟨r', hs⟩ | ⟨fault, hrejects⟩
    · rw [hs.peak_cons] at hn
      rcases Nat.lt_or_ge n r'.depth with hlt | hle
      · obtain ⟨-, -, -, hdepth⟩ := hs.of_depth_lt (Nat.lt_of_le_of_lt hr hlt)
        exact ⟨[], token, tokens, rfl, hr, r, r', .nil, hs, by omega, by omega⟩
      · have hpeak : n < r'.peak none tokens := by omega
        obtain ⟨taken, t, rest, rfl, hlow, q, q', ht, hstep, hdepth⟩ := ih hle hpeak
        refine ⟨token :: taken, t, rest, rfl, ?_, q, q', .cons hs ht, hstep, hdepth⟩
        rw [hs.peak_cons]
        exact Nat.max_le.2 ⟨hr, hlow⟩
    · rw [hrejects.peak_cons] at hn
      exact absurd hr (Nat.not_le.2 hn)

/-- **A limit stops a run at the token that gets too deep**, for its depth. -/
theorem Exceeds.rejects {n : Nat} {r : Reader} {taken : List Token} {token : Token}
    (h : Exceeds n r taken token) :
    ∃ q, Takes (some n) r taken q ∧ Rejects (some n) q token (.tooDeep token) := by
  obtain ⟨hlow, q, q', ht, hs, hdepth, hdepth'⟩ := h
  refine ⟨q, ht.limited hlow, ?_⟩
  rcases hs.limited (some n) with hs' | ⟨-, -, hrejects⟩
  · obtain ⟨-, -, hpermits, -⟩ := hs'.of_depth_lt (by omega)
    rw [permits_some] at hpermits
    omega
  · exact hrejects

/-! ### Runs inside a context -/

/-- The reader further inside: with more open parentheses around it, and deeper. -/
def within (outer : List Group) (base : Nat) (r : Reader) : Reader :=
  ⟨r.expected, r.groups ++ outer, base + r.depth⟩

theorem factor_within (outer : List Group) (base : Nat) (level : Level) (groups : List Group)
    {depth : Nat} (t : Tree) (h : level.signs.length ≤ depth) :
    (factor level groups depth t).within outer base =
      factor level (groups ++ outer) (base + depth) t := by
  simp only [within, factor, Nat.add_sub_assoc h]

/-- A step does not look further out than it has to. -/
theorem Step.within {r r' : Reader} {token : Token} (h : Step none r token r')
    (hr : r.nesting ≤ r.depth) (outer : List Group) (base : Nat) :
    Step none (r.within outer base) token (r'.within outer base) := by
  have hle := Nat.le_trans h.leaves_le_nesting hr
  cases h with
  | number w hw =>
    rw [factor_within _ _ _ _ _ (by simpa [leaves, hw] using hle)]
    exact .number w hw
  | stream w hw =>
    rw [factor_within _ _ _ _ _ (by simpa [leaves, hw] using hle)]
    exact .stream w hw
  | handle w hw => exact .handle w hw
  | opening n hd => exact .opening n (permits_none _)
  | sign s n hd => exact .sign s n (permits_none _)
  | sum op n hop => exact .sum op n hop
  | product op n hop => exact .product op n hop
  | closing n =>
    simp only [leaves] at hle
    rw [factor_within _ _ _ _ _ (by omega), ← Nat.add_sub_assoc (by omega)]
    exact .closing n
  | callOpening n => exact .callOpening n
  | callArgument w hw => exact .callArgument w hw
  | callClosing n =>
    rw [factor_within _ _ _ _ _ (by simpa [leaves] using hle)]
    exact .callClosing n

/-- **A run is the same in any context**, only deeper. -/
theorem Takes.within {r r' : Reader} {tokens : List Token} (h : Takes none r tokens r')
    (hr : r.nesting ≤ r.depth) (outer : List Group) (base : Nat) :
    Takes none (r.within outer base) tokens (r'.within outer base) ∧
      (r.within outer base).peak none tokens = base + r.peak none tokens := by
  induction h with
  | nil => exact ⟨.nil, rfl⟩
  | cons hs _ ih =>
    have hdepth := hs.depth_eq hr
    have hnesting := hs.nesting_eq
    obtain ⟨htakes, hpeak⟩ := ih (by omega)
    have hs' := hs.within hr outer base
    refine ⟨.cons hs' htakes, ?_⟩
    rw [hs'.peak_cons, hs.peak_cons, hpeak, ← Nat.add_max_add_left]
    rfl

end Reader

end StreamFormula
