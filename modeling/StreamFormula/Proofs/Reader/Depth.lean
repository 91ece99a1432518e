import StreamFormula.Proofs.Reader.Contents

/-!
# How deep trees are

The limit is kept by a count that a reader holds, and nothing in a tree says that it was kept. What
it means for the tree is a matter of how a path goes down from the root: a step into the operand of
a sign was counted when the sign was entered, and between two counted places a path can step right
at most twice, once into the last term of a sum and once into the last factor of that term. So steps
of these two kinds are bounded (`Derives.path_le`), and the bound is attained
(`exists_derives_path_right`).

Steps to the left cost nothing. A sum or a product of many operands is a chain to the left, as long
as there are operators for it (`Tree.count_left_le`, `exists_derives_path_left`).
-/

namespace StreamFormula

/-! ### Paths -/

/-- A step from a node of a tree to a node below it. -/
inductive Branch where
  | left
  | right
  /-- To the operand of a sign. -/
  | operand
  deriving DecidableEq

namespace Tree

/-- The tree below a node in one direction. -/
def child? : Branch → Tree → Option Tree
  | .left, binary _ left _ => some left
  | .right, binary _ _ right => some right
  | .operand, signed _ operand => some operand
  | _, _ => none

/-- The tree at the end of a path. -/
def at? : List Branch → Tree → Option Tree
  | [], t => some t
  | branch :: path, t => (t.child? branch).bind (at? path)

variable {s t : Tree} {path : List Branch}

/-- No path goes on from a leaf. -/
theorem at?_atom_eq_some {a : Atom} (h : (atom a).at? path = some s) : path = [] := by
  cases path with
  | nil => rfl
  | cons branch path => cases branch <;> exact nomatch h

/-- From a binary node a path goes on to the left or to the right. -/
theorem at?_binary_eq_some {op : BinaryOp} {l r : Tree} (h : (binary op l r).at? path = some s) :
    path = [] ∨ (∃ rest, path = .left :: rest ∧ l.at? rest = some s) ∨
      ∃ rest, path = .right :: rest ∧ r.at? rest = some s := by
  cases path with
  | nil => exact .inl rfl
  | cons branch rest =>
    cases branch with
    | left => exact .inr (.inl ⟨rest, rfl, h⟩)
    | right => exact .inr (.inr ⟨rest, rfl, h⟩)
    | operand => exact nomatch h

/-- From a sign a path goes on to its operand. -/
theorem at?_signed_eq_some {sign : Sign} (h : (signed sign t).at? path = some s) :
    path = [] ∨ ∃ rest, path = .operand :: rest ∧ t.at? rest = some s := by
  cases path with
  | nil => exact .inl rfl
  | cons branch rest =>
    cases branch with
    | left | right => exact nomatch h
    | operand => exact .inr ⟨rest, rfl, h⟩

/-! ### Steps to the left -/

/-- Every step to the left passes an operator. -/
theorem count_left_le (h : t.at? path = some s) : path.count .left ≤ t.symbols.length := by
  induction t generalizing path with
  | atom a =>
    obtain rfl := at?_atom_eq_some h
    exact Nat.zero_le _
  | binary op l r ihl ihr =>
    rw [symbols, List.length_append, List.length_cons]
    rcases at?_binary_eq_some h with rfl | ⟨rest, rfl, hl⟩ | ⟨rest, rfl, hr⟩
    · exact Nat.zero_le _
    · have hle := ihl hl
      rw [List.count_cons_self]
      omega
    · have hle := ihr hr
      rw [List.count_cons_of_ne (by decide : Branch.right ≠ .left)]
      omega
  | signed sign t ih =>
    rw [symbols, List.length_cons]
    rcases at?_signed_eq_some h with rfl | ⟨rest, rfl, ht⟩
    · exact Nat.zero_le _
    · have hle := ih ht
      rw [List.count_cons_of_ne (by decide : Branch.operand ≠ .left)]
      omega

/-- A tree that was read has as many operators as its tokens. -/
theorem length_symbols_of_read {tokens : List Token} (h : Tree.read tokens = .ok (some t)) :
    t.symbols.length = tokens.countP Token.isOperator := by
  rw [symbols_of_read h, ← List.countP_eq_length_filter, List.countP_filterMap]
  refine List.countP_congr fun token _ ↦ ?_
  cases token <;> rfl

end Tree

/-! ### Steps that count -/

/-- How often a path can step right in a phrase before it comes to a factor. -/
def Phrase.rights : Phrase → Nat
  | factor => 0
  | term => 1
  | sum => 2

/-- **A limit bounds what a path does besides stepping left.** Each sign or parenthesis that may
still be entered at the depth of the phrase allows for one step into an operand or two to the
right. -/
theorem Derives.path_le {limit : Nat} {phrase : Phrase} {d : Nat} {tokens : List Token} {t : Tree}
    (h : Derives (some limit) phrase d tokens t) (hd : d ≤ limit) {path : List Branch} {s : Tree}
    (hs : t.at? path = some s) :
    2 * path.count .operand + path.count .right + 2 * d ≤ 2 * limit + phrase.rights := by
  induction h generalizing path with
  | number w hw | stream w hw | call handle argument m n hh ha =>
    obtain rfl := Tree.at?_atom_eq_some hs
    simp only [List.count_nil]
    omega
  | group m n hpermits _ ih =>
    have hle := ih (permits_some.1 hpermits) hs
    simp only [Phrase.rights] at hle ⊢
    omega
  | signed sign n hpermits _ ih =>
    rcases Tree.at?_signed_eq_some hs with rfl | ⟨rest, rfl, hrest⟩
    · simp only [List.count_nil]
      omega
    · have hle := ih (permits_some.1 hpermits) hrest
      rw [List.count_cons_self, List.count_cons_of_ne (by decide : Branch.operand ≠ .right)]
      omega
  | ofFactor _ ih | ofTerm _ ih =>
    have hle := ih hd hs
    simp only [Phrase.rights] at hle ⊢
    omega
  | product op n hop _ _ hright ihl ihr | sum op n hop _ _ hright ihl ihr =>
    rcases Tree.at?_binary_eq_some hs with rfl | ⟨rest, rfl, hl⟩ | ⟨rest, rfl, hr⟩
    · simp only [List.count_nil]
      omega
    · rw [List.count_cons_of_ne (by decide : Branch.left ≠ .operand),
        List.count_cons_of_ne (by decide : Branch.left ≠ .right)]
      exact ihl hd hl
    · have hle := ihr hd hr
      rw [List.count_cons_self, List.count_cons_of_ne (by decide : Branch.right ≠ .operand)]
      simp only [Phrase.rights] at hle ⊢
      omega

/-! ### Trees that are deep -/

/-- The numeral `1`. -/
def Word.one : Word := ⟨.number, "1", 0, by decide⟩

theorem Derives.one (limit : Option Nat) (d : Nat) :
    Derives limit .factor d [.word .one] (.atom (.number "1")) :=
  .number .one rfl

/-- `1+1+…+1` is as deep to the left as it is long. -/
theorem exists_derives_path_left (limit : Option Nat) (d n : Nat) :
    ∃ tokens t s, Derives limit .sum d tokens t ∧ t.at? (List.replicate n .left) = some s := by
  induction n with
  | zero => exact ⟨_, _, _, .ofTerm (.ofFactor (.one limit d)), rfl⟩
  | succ n ih =>
    obtain ⟨tokens, t, s, h, hs⟩ := ih
    exact ⟨_, _, s, .sum .add 0 rfl h (.ofFactor (.one limit d)) rfl, hs⟩

/-- A factor can be the last one of the last term of a sum. -/
theorem Derives.rightmost {limit : Option Nat} {d : Nat} {tokens : List Token} {t : Tree}
    (h : Derives limit .factor d tokens t) (hbegins : beginsWithOperator tokens = false) :
    ∃ sum u, Derives limit .sum d sum u ∧
      ∀ path, u.at? (.right :: .right :: path) = t.at? path :=
  ⟨_, _, .sum .add 0 rfl (.ofTerm (.ofFactor (.one limit d)))
    (.product .multiply 0 rfl (.ofFactor (.one limit d)) h hbegins) rfl, fun _ ↦ rfl⟩

/-- `1+1*(1+1*(…))` is as deep to the right as a limit allows. -/
theorem exists_derives_path_right (d k : Nat) :
    ∃ tokens t s, Derives (some (d + k)) .sum d tokens t ∧
      t.at? (List.replicate (2 * k + 2) .right) = some s := by
  induction k generalizing d with
  | zero =>
    obtain ⟨tokens, t, h, hpath⟩ := (Derives.one (some d) d).rightmost rfl
    exact ⟨tokens, t, _, h, hpath []⟩
  | succ k ih =>
    obtain ⟨inner, u, s, hinner, hs⟩ := ih (d + 1)
    rw [Nat.add_assoc, Nat.add_comm 1 k] at hinner
    obtain ⟨tokens, t, h, hpath⟩ :=
      (Derives.group 0 0 (permits_some.2 (by omega)) hinner).rightmost rfl
    exact ⟨tokens, t, s, h, (hpath _).trans hs⟩

/-! ### Trees that were read -/

/-- **What was read is deep only to the left.** On every path down from the root, steps into an
operand, counted twice, and steps to the right come to at most twice the limit on nesting and two
more, and some tree goes that far. Steps to the left come to at most the number of operators, and to
as many as one likes. -/
theorem Tree.deep_only_to_the_left :
    (∀ (tokens : List Token) (t : Tree), Tree.read tokens = .ok (some t) →
        ∀ (path : List Branch) (s : Tree), t.at? path = some s →
          2 * path.count .operand + path.count .right ≤ 514 ∧
            path.count .left ≤ tokens.countP Token.isOperator) ∧
      (∃ tokens t path s, Tree.read tokens = .ok (some t) ∧ t.at? path = some s ∧
        2 * path.count .operand + path.count .right = 514) ∧
      ∀ n, ∃ tokens t s, Tree.read tokens = .ok (some t) ∧
        t.at? (List.replicate n .left) = some s := by
  refine ⟨fun tokens t hread path s hs ↦ ⟨?_, ?_⟩, ?_, fun n ↦ ?_⟩
  · exact (ofTokens?_eq_ok_iff.1 hread).path_le (Nat.zero_le _) hs
  · exact length_symbols_of_read hread ▸ count_left_le hs
  · obtain ⟨tokens, t, s, h, hs⟩ := exists_derives_path_right 0 nestingLimit
    rw [Nat.zero_add] at h
    refine ⟨tokens, t, _, s, ofTokens?_eq_ok_iff.2 h, hs, ?_⟩
    rw [List.count_replicate_self, List.count_replicate, if_neg (by decide)]
    rfl
  · obtain ⟨tokens, t, s, h, hs⟩ := exists_derives_path_left (some nestingLimit) 0 n
    exact ⟨tokens, t, s, ofTokens?_eq_ok_iff.2 h, hs⟩

/-- In the tree of `1-(-2)` the path to the two steps right once and into one operand. -/
theorem Tree.deep_in_difference :
    ∃ tokens t, Tree.read tokens = .ok (some t) ∧
      t = .binary .subtract (.atom (.number "1")) (.signed .minus (.atom (.number "2"))) ∧
      t.at? [.right, .operand] = some (.atom (.number "2")) ∧
      2 * [Branch.right, .operand].count .operand + [Branch.right, .operand].count .right ≤ 514 ∧
      [Branch.right, .operand].count .left ≤ tokens.countP Token.isOperator := by
  have hread : Tree.read [.word ⟨.number, "1", 0, by decide⟩, .symbol .minus 1,
      .symbol .openParen 2, .symbol .minus 3, .word ⟨.number, "2", 4, by decide⟩,
      .symbol .closeParen 5] =
      .ok (some (.binary .subtract (.atom (.number "1")) (.signed .minus (.atom (.number "2"))))) :=
    rfl
  exact ⟨_, _, hread, rfl, rfl, deep_only_to_the_left.1 _ _ hread _ _ rfl⟩

end StreamFormula
