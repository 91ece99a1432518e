import StreamFormula.Proofs.Reader.Acceptance
import StreamFormula.Proofs.Reader.Correspondence
import StreamFormula.Proofs.Reader.Nesting
import StreamFormula.Proofs.Reader.Viability

/-!
# Trees of parenthesised parts

How deep the reading of some tokens gets is a number of its own, and together with the tree it is
all that matters of them once they stand in parentheses: `Tree.ReadTo` says both, without a limit.
A limit then lets the tokens through exactly if it is no less than that number
(`Tree.ReadTo.ofTokens?_eq`).

A parenthesis is read in any place of a factor, to the depth of its contents and one more on top of
the depth of the place (`Tree.ReadTo.takes_group`). The laws for a parenthesis alone, for two around
an operator and for one behind a sign put such places together.
-/

namespace StreamFormula

/-- Without a limit the tokens are read as the tree, and this is as deep as that gets. -/
def Tree.ReadTo (tokens : List Token) (t : Tree) (peak : Nat) : Prop :=
  ∃ sum? term, HalfTree.complete sum? term = t ∧
    Reader.Takes none (Reader.start 0) tokens ⟨.operator sum? term, [], 0⟩ ∧
    (Reader.start 0).peak none tokens = peak

namespace Tree

variable {tokens more : List Token} {t a b : Tree} {n p q : Nat}

/-! ### Limits -/

/-- What is read under a limit is read without one, and gets as deep. -/
theorem readTo_of_ofTokens?_eq_ok (h : ofTokens? (some n) tokens = .ok (some t)) :
    ReadTo tokens t ((Reader.start 0).peak (some n) tokens) := by
  obtain ⟨sum?, term, hterm, ht⟩ := (ofTokens?_eq_ok_iff.1 h).readBy []
  exact ⟨sum?, term, hterm, ht.unlimited, ht.peak_unlimited⟩

/-- **A limit lets tokens through as deep as it permits**, and no deeper. -/
theorem ReadTo.ofTokens?_eq (h : ReadTo tokens t p) (n : Nat) :
    (p ≤ n → ofTokens? (some n) tokens = .ok (some t)) ∧
      (n < p → ∃ token, ofTokens? (some n) tokens = .error (.tooDeep token)) := by
  obtain ⟨sum?, term, rfl, ht, rfl⟩ := h
  refine ⟨fun hle ↦ (ht.limited hle).ofTokens?_eq_ok, fun hlt ↦ ?_⟩
  obtain ⟨taken, token, rest, rfl, hexceeds⟩ := Reader.exists_exceeds (Nat.zero_le n) hlt
  obtain ⟨r, htaken, hrejects⟩ := hexceeds.rejects
  exact ⟨token, htaken.ofTokens?_eq_error hrejects rest⟩

end Tree

/-! ### The same tokens elsewhere -/

section Corresponds

variable {R : Token → Token → Prop} {limit : Option Nat}

/-- Corresponding tokens take corresponding readers as far and as deep. -/
theorem Reader.Corresponds.takes (hR : ∀ {t u}, R t u → t.SameKind u) {r r' s : Reader}
    {tokens tokens' : List Token} (h : Corresponds R r s) (ht : Takes limit r tokens r')
    (htokens : List.Forall₂ R tokens tokens') :
    ∃ s', Takes limit s tokens' s' ∧ Corresponds R r' s' ∧
      s.peak limit tokens' = r.peak limit tokens := by
  have hdepth : ∀ {r s : Reader}, Corresponds R r s → s.depth = r.depth := fun ⟨_, _, _⟩ ↦ rfl
  induction ht generalizing s tokens' with
  | nil =>
    cases htokens
    exact ⟨s, .nil, h, hdepth h⟩
  | cons hs _ ih =>
    cases htokens with
    | cons htoken htokens =>
      obtain ⟨s', hs', h'⟩ := h.step hR htoken hs
      obtain ⟨s'', ht'', h'', hpeak⟩ := ih h' htokens
      refine ⟨s'', .cons hs' ht'', h'', ?_⟩
      rw [hs'.peak_cons, hs.peak_cons, hpeak, hdepth h]

/-- Tokens of the same kinds and texts are read as the same tree, and get as deep. -/
theorem Tree.ReadTo.corresponds (hR : ∀ {t u}, R t u → t.SameKind u)
    (htext : ∀ {t u}, R t u → t.text = u.text) {tokens tokens' : List Token} {t : Tree} {p : Nat}
    (h : ReadTo tokens t p) (htokens : List.Forall₂ R tokens tokens') : ReadTo tokens' t p := by
  obtain ⟨sum?, term, rfl, ht, rfl⟩ := h
  obtain ⟨s, ht', h', hpeak⟩ := (Reader.corresponds_start 0).takes hR ht htokens
  obtain ⟨_, ⟨⟩ | ⟨hsum, hterm⟩, ⟨⟩⟩ := h'
  exact ⟨_, _, ((HalfTree.Corresponds.complete hsum hterm).eq htext).symm, ht', hpeak⟩

end Corresponds

/-! ### Parentheses in a place -/

namespace Tree

variable {tokens more : List Token} {t a b : Tree} {p q : Nat}

open Reader (Takes Step)

/-- **A parenthesis is read wherever a factor is due**, one deeper than its contents alone. -/
theorem ReadTo.takes_group (h : ReadTo tokens t p) (m n : Nat) (level : Level)
    (after? : Option Token) (groups : List Group) (depth : Nat) :
    Takes none ⟨.operand level after?, groups, depth⟩
        (.symbol .openParen m :: tokens ++ [.symbol .closeParen n])
        (Reader.factor level groups depth t) ∧
      Reader.peak none ⟨.operand level after?, groups, depth⟩
        (.symbol .openParen m :: tokens ++ [.symbol .closeParen n]) = depth + 1 + p := by
  obtain ⟨sum?, term, rfl, ht, rfl⟩ := h
  obtain ⟨hinner, hpeak⟩ := ht.within (Nat.zero_le 0) (⟨.symbol .openParen m, level⟩ :: groups)
    (depth + 1)
  have hopening : Step none ⟨.operand level after?, groups, depth⟩ (.symbol .openParen m)
      ((Reader.start 0).within (⟨.symbol .openParen m, level⟩ :: groups) (depth + 1)) :=
    .opening m (permits_none _)
  have hclosing : Step none
      (Reader.within (⟨.symbol .openParen m, level⟩ :: groups) (depth + 1)
        ⟨.operator sum? term, [], 0⟩) (.symbol .closeParen n)
      (Reader.factor level groups depth (HalfTree.complete sum? term)) := .closing n
  refine ⟨.cons hopening (hinner.append (.single hclosing)), ?_⟩
  rw [List.cons_append, hopening.peak_cons, hinner.peak_append, hpeak, hclosing.peak_cons]
  simp only [Reader.peak, Reader.factor, Reader.within]
  omega

/-- Parentheses leave nothing in the tree. -/
theorem ReadTo.group (h : ReadTo tokens t p) (m n : Nat) :
    ReadTo (.symbol .openParen m :: tokens ++ [.symbol .closeParen n]) t (p + 1) := by
  obtain ⟨htakes, hpeak⟩ := h.takes_group m n .empty none [] 0
  exact ⟨none, t, rfl, htakes, hpeak.trans (Nat.add_comm _ _)⟩

/-- An operator behind a term waits for the factor that makes the node of the two. -/
theorem exists_step_operator (op : BinaryOp) (n : Nat) (a : Tree) :
    ∃ level : Level, Step none ⟨.operator none a, [], 0⟩ (.symbol op.symbol n)
        ⟨.operand level (some (.symbol op.symbol n)), [], 0⟩ ∧
      ∀ b, Reader.factor level [] 0 b = ⟨.operator level.sum? (level.term b), [], 0⟩ ∧
        HalfTree.complete level.sum? (level.term b) = .binary op a b := by
  cases hop : op.phrase with
  | sum => exact ⟨⟨some ⟨op, a⟩, none, []⟩, .sum op n hop, fun b ↦ ⟨rfl, rfl⟩⟩
  | term => exact ⟨⟨none, some ⟨op, a⟩, []⟩, .product op n hop, fun b ↦ ⟨rfl, rfl⟩⟩
  | factor => cases op <;> exact nomatch hop

/-- Two parentheses around an operator are the node of the two trees. -/
theorem ReadTo.binary (ha : ReadTo tokens a p) (hb : ReadTo more b q) (op : BinaryOp)
    (k l m n o : Nat) :
    ReadTo ((.symbol .openParen k :: tokens ++ [.symbol .closeParen l]) ++ .symbol op.symbol m ::
      (.symbol .openParen n :: more ++ [.symbol .closeParen o])) (.binary op a b)
      (max p q + 1) := by
  obtain ⟨level, hop, hfactor⟩ := exists_step_operator op m a
  obtain ⟨hfactor, hcomplete⟩ := hfactor b
  obtain ⟨hleft, hleftPeak⟩ := ha.takes_group k l .empty none [] 0
  obtain ⟨hright, hrightPeak⟩ := hb.takes_group n o level (some (.symbol op.symbol m)) [] 0
  refine ⟨level.sum?, level.term b, hcomplete, hleft.append (.cons hop (hfactor ▸ hright)), ?_⟩
  have hafter : Reader.factor .empty [] 0 a = ⟨.operator none a, [], 0⟩ := rfl
  rw [Reader.start, hleft.peak_append, hleftPeak, hafter, hop.peak_cons, hrightPeak]
  show max (0 + 1 + p) (max 0 (0 + 1 + q)) = max p q + 1
  omega

/-- A sign in front of a parenthesis is a sign on its tree. -/
theorem ReadTo.signed (h : ReadTo tokens t p) (s : Sign) (k m n : Nat) :
    ReadTo (.symbol s.symbol k :: (.symbol .openParen m :: tokens ++ [.symbol .closeParen n]))
      (.signed s t) (p + 2) := by
  obtain ⟨htakes, hpeak⟩ := h.takes_group m n ⟨none, none, [s]⟩ none [] 1
  have hsign : Step none (Reader.start 0) (.symbol s.symbol k)
      ⟨.operand ⟨none, none, [s]⟩ none, [], 1⟩ := .sign s k (permits_none _)
  refine ⟨none, .signed s t, rfl, .cons hsign htakes, ?_⟩
  rw [hsign.peak_cons, hpeak]
  show max 0 (1 + 1 + p) = p + 2
  omega

end Tree

end StreamFormula
