import Mathlib.Data.List.Forall2
import StreamFormula.Proofs.Reader.Transitions

/-!
# Reading corresponding tokens

A reader decides by the kinds of tokens alone; their texts and offsets are only carried to where
they end up. So readings of two lists whose tokens correspond one by one, with equal kinds, go side
by side: both give trees, or both stop for the same reason (`Tree.ofTokens?_corresponds`), and what
the two carry corresponds again.

The correspondence is any relation `R` between tokens that implies equal kinds. What it says of
tokens is extended to all that is made of them, leaf by leaf and token by token. With a relation
that keeps texts as well the two trees are equal (`Tree.Corresponds.eq`), and two faults are worded
alike (`ReadFault.Corresponds.message_eq`).
-/

namespace StreamFormula

/-- The same symbol, or words of the same kind. -/
inductive Token.SameKind : Token → Token → Prop where
  | symbol (s : Symbol) (m n : Nat) : SameKind (.symbol s m) (.symbol s n)
  | word {w w' : Word} (h : w.kind = w'.kind) : SameKind (.word w) (.word w')

theorem Token.SameKind.refl (t : Token) : t.SameKind t := by
  cases t with
  | symbol s n => exact .symbol s n n
  | word w => exact .word rfl

theorem Token.SameKind.isOperator_eq {t u : Token} (h : SameKind t u) :
    t.isOperator = u.isOperator := by
  cases h <;> rfl

theorem Token.SameKind.symbol?_eq {t u : Token} (h : SameKind t u) : t.symbol? = u.symbol? := by
  cases h <;> rfl

/-! ### What corresponding tokens are made into -/

section Corresponds

variable (R : Token → Token → Prop)

/-- Leaves that were read from corresponding tokens. -/
inductive Atom.Corresponds : Atom → Atom → Prop where
  | number {w w' : Word} (h : R (.word w) (.word w')) :
      Corresponds (.number w.text) (.number w'.text)
  | stream {w w' : Word} (h : R (.word w) (.word w')) :
      Corresponds (.stream w.text) (.stream w'.text)
  | call {handle handle' argument argument' : Word} (hh : R (.word handle) (.word handle'))
      (ha : R (.word argument) (.word argument')) :
      Corresponds (.call handle.text argument.text) (.call handle'.text argument'.text)

/-- Trees of one form whose leaves correspond. -/
inductive Tree.Corresponds : Tree → Tree → Prop where
  | atom {a a' : Atom} (h : a.Corresponds R a') : Corresponds (.atom a) (.atom a')
  | binary {l l' r r' : Tree} (op : BinaryOp) (hl : Corresponds l l') (hr : Corresponds r r') :
      Corresponds (.binary op l r) (.binary op l' r')
  | signed {t t' : Tree} (s : Sign) (h : Corresponds t t') :
      Corresponds (.signed s t) (.signed s t')

/-- Half trees with the same operator and corresponding operands. -/
inductive HalfTree.Corresponds : HalfTree → HalfTree → Prop where
  | mk {l l' : Tree} (op : BinaryOp) (h : l.Corresponds R l') : Corresponds ⟨op, l⟩ ⟨op, l'⟩

/-- Levels that hold corresponding half trees and the same signs. -/
inductive Level.Corresponds : Level → Level → Prop where
  | mk {sum? sum?' product? product?' : Option HalfTree} (signs : List Sign)
      (hsum : Option.Rel (HalfTree.Corresponds R) sum? sum?')
      (hproduct : Option.Rel (HalfTree.Corresponds R) product? product?') :
      Corresponds ⟨sum?, product?, signs⟩ ⟨sum?', product?', signs⟩

/-- Groups that corresponding tokens opened within corresponding levels. -/
inductive Group.Corresponds : Group → Group → Prop where
  | mk {opening opening' : Token} {outer outer' : Level} (h : R opening opening')
      (houter : outer.Corresponds R outer') : Corresponds ⟨opening, outer⟩ ⟨opening', outer'⟩

/-- Expectations of the same token, with corresponding contents. -/
inductive Expectation.Corresponds : Expectation → Expectation → Prop where
  | operand {level level' : Level} {after? after?' : Option Token}
      (hlevel : level.Corresponds R level') (hafter : Option.Rel R after? after?') :
      Corresponds (.operand level after?) (.operand level' after?')
  | operator {sum? sum?' : Option HalfTree} {term term' : Tree}
      (hsum : Option.Rel (HalfTree.Corresponds R) sum? sum?') (hterm : term.Corresponds R term') :
      Corresponds (.operator sum? term) (.operator sum?' term')
  | callOpening {level level' : Level} {handle handle' : Word}
      (hlevel : level.Corresponds R level') (hh : R (.word handle) (.word handle')) :
      Corresponds (.callOpening level handle) (.callOpening level' handle')
  | callArgument {level level' : Level} {handle handle' : Word}
      (hlevel : level.Corresponds R level') (hh : R (.word handle) (.word handle')) :
      Corresponds (.callArgument level handle) (.callArgument level' handle')
  | callClosing {level level' : Level} {handle handle' argument argument' : Word}
      (hlevel : level.Corresponds R level') (hh : R (.word handle) (.word handle'))
      (ha : R (.word argument) (.word argument')) :
      Corresponds (.callClosing level handle argument.text)
        (.callClosing level' handle' argument'.text)

/-- Readers at the same depth with corresponding contents. -/
inductive Reader.Corresponds : Reader → Reader → Prop where
  | mk {expected expected' : Expectation} {groups groups' : List Group} (depth : Nat)
      (hexpected : expected.Corresponds R expected')
      (hgroups : List.Forall₂ (Group.Corresponds R) groups groups') :
      Corresponds ⟨expected, groups, depth⟩ ⟨expected', groups', depth⟩

/-- The same fault of corresponding tokens. -/
inductive ReadFault.Corresponds : ReadFault → ReadFault → Prop where
  | unexpectedEnd {t u : Token} (h : R t u) : Corresponds (.unexpectedEnd t) (.unexpectedEnd u)
  | tooDeep {t u : Token} (h : R t u) : Corresponds (.tooDeep t) (.tooDeep u)
  | operatorRun {previous previous' next next' : Token} (hprevious : R previous previous')
      (hnext : R next next') :
      Corresponds (.operatorRun previous next) (.operatorRun previous' next')
  | unexpectedToken {t u : Token} (h : R t u) :
      Corresponds (.unexpectedToken t) (.unexpectedToken u)
  | unopened {t u : Token} (h : R t u) : Corresponds (.unopened t) (.unopened u)
  | unclosed {t u : Token} (h : R t u) : Corresponds (.unclosed t) (.unclosed u)
  | callNotOpened {w w' : Word} (h : R (.word w) (.word w')) :
      Corresponds (.callNotOpened w) (.callNotOpened w')
  | argumentMissing {w w' : Word} (h : R (.word w) (.word w')) :
      Corresponds (.argumentMissing w) (.argumentMissing w')
  | callNotClosed {w w' : Word} (h : R (.word w) (.word w')) :
      Corresponds (.callNotClosed w) (.callNotClosed w')

/-- Readings that end alike: with corresponding trees, with nothing, or with corresponding
faults. -/
inductive ReadingsCorrespond :
    Except ReadFault (Option Tree) → Except ReadFault (Option Tree) → Prop where
  | tree {t t' : Tree} (h : t.Corresponds R t') : ReadingsCorrespond (.ok (some t)) (.ok (some t'))
  | nothing : ReadingsCorrespond (.ok none) (.ok none)
  | fault {fault fault' : ReadFault} (h : fault.Corresponds R fault') :
      ReadingsCorrespond (.error fault) (.error fault')

end Corresponds

variable {R : Token → Token → Prop}

/-! ### Steps side by side -/

theorem HalfTree.Corresponds.complete {half? half?' : Option HalfTree} {t t' : Tree}
    (h : Option.Rel (HalfTree.Corresponds R) half? half?') (ht : t.Corresponds R t') :
    (HalfTree.complete half? t).Corresponds R (HalfTree.complete half?' t') := by
  cases h with
  | none => exact ht
  | some h =>
    cases h with
    | mk op h => exact .binary op h ht

theorem Level.Corresponds.term {level level' : Level} {t t' : Tree}
    (h : level.Corresponds R level') (ht : t.Corresponds R t') :
    (level.term t).Corresponds R (level'.term t') := by
  cases h with
  | mk signs hsum hproduct =>
    have hsigns : (signs.foldl (fun t s ↦ .signed s t) t).Corresponds R
        (signs.foldl (fun t s ↦ .signed s t) t') := by
      induction signs generalizing t t' with
      | nil => exact ht
      | cons s signs ih => exact ih (.signed s ht)
    exact HalfTree.Corresponds.complete hproduct hsigns

theorem Level.corresponds_empty : Level.Corresponds R .empty .empty := .mk [] .none .none

namespace Reader

variable {limit : Option Nat}

theorem corresponds_start (depth : Nat) : Corresponds R (start depth) (start depth) :=
  .mk depth (.operand Level.corresponds_empty .none) .nil

theorem Corresponds.factor {level level' : Level} {groups groups' : List Group} {t t' : Tree}
    (hlevel : level.Corresponds R level')
    (hgroups : List.Forall₂ (Group.Corresponds R) groups groups') (ht : t.Corresponds R t')
    (depth : Nat) :
    Corresponds R (Reader.factor level groups depth t) (Reader.factor level' groups' depth t') := by
  have hterm := hlevel.term ht
  cases hlevel with
  | mk signs hsum hproduct => exact .mk _ (.operator hsum hterm) hgroups

/-- **Corresponding tokens take corresponding readers to corresponding readers.** -/
theorem Corresponds.step (hR : ∀ {t u}, R t u → t.SameKind u) {r r' s : Reader} {t u : Token}
    (h : Corresponds R r r') (ht : R t u) (hs : Step limit r t s) :
    ∃ s', Step limit r' u s' ∧ Corresponds R s s' := by
  have hkind := hR ht
  obtain ⟨depth, hexpected, hgroups⟩ := h
  cases hs with
  | number w hw =>
    obtain - | hkind := hkind
    obtain ⟨hlevel, -⟩ := hexpected
    exact ⟨_, .number _ (hkind ▸ hw), .factor hlevel hgroups (.atom (.number ht)) depth⟩
  | stream w hw =>
    obtain - | hkind := hkind
    obtain ⟨hlevel, -⟩ := hexpected
    exact ⟨_, .stream _ (hkind ▸ hw), .factor hlevel hgroups (.atom (.stream ht)) depth⟩
  | handle w hw =>
    obtain - | hkind := hkind
    obtain ⟨hlevel, -⟩ := hexpected
    exact ⟨_, .handle _ (hkind ▸ hw), .mk depth (.callOpening hlevel ht) hgroups⟩
  | opening n hd =>
    obtain ⟨_, _, m⟩ := hkind
    obtain ⟨hlevel, -⟩ := hexpected
    exact ⟨_, .opening m hd,
      .mk (depth + 1) (.operand Level.corresponds_empty .none) (.cons (.mk ht hlevel) hgroups)⟩
  | sign s n hd =>
    obtain ⟨_, _, m⟩ := hkind
    obtain ⟨⟨signs, hsum, hproduct⟩, ⟨⟩⟩ := hexpected
    exact ⟨_, .sign s m hd,
      .mk (depth + 1) (.operand (.mk (s :: signs) hsum hproduct) .none) hgroups⟩
  | sum op n hop =>
    obtain ⟨_, _, m⟩ := hkind
    obtain - | ⟨hsum, hterm⟩ := hexpected
    have hhalf := HalfTree.Corresponds.mk op (HalfTree.Corresponds.complete hsum hterm)
    exact ⟨_, .sum op m hop,
      .mk depth (.operand (.mk [] (.some hhalf) .none) (.some ht)) hgroups⟩
  | product op n hop =>
    obtain ⟨_, _, m⟩ := hkind
    obtain - | ⟨hsum, hterm⟩ := hexpected
    exact ⟨_, .product op m hop,
      .mk depth (.operand (.mk [] hsum (.some (.mk op hterm))) (.some ht)) hgroups⟩
  | closing n =>
    obtain ⟨_, _, m⟩ := hkind
    obtain - | ⟨hsum, hterm⟩ := hexpected
    obtain - | ⟨⟨hopening, houter⟩, hgroups⟩ := hgroups
    exact ⟨_, .closing m,
      .factor houter hgroups (HalfTree.Corresponds.complete hsum hterm) (depth - 1)⟩
  | callOpening n =>
    obtain ⟨_, _, m⟩ := hkind
    obtain - | - | ⟨hlevel, hh⟩ := hexpected
    exact ⟨_, .callOpening m, .mk depth (.callArgument hlevel hh) hgroups⟩
  | callArgument w hw =>
    obtain - | hkind := hkind
    obtain - | - | - | ⟨hlevel, hh⟩ := hexpected
    exact ⟨_, .callArgument _ (hkind ▸ hw), .mk depth (.callClosing hlevel hh ht) hgroups⟩
  | callClosing n =>
    obtain ⟨_, _, m⟩ := hkind
    obtain - | - | - | - | ⟨hlevel, hh, ha⟩ := hexpected
    exact ⟨_, .callClosing m, .factor hlevel hgroups (.atom (.call hh ha)) depth⟩

/-- **Where one of two corresponding tokens is rejected, so is the other**, for the same reason. -/
theorem Corresponds.rejects (hR : ∀ {t u}, R t u → t.SameKind u) {r r' : Reader} {t u : Token}
    {fault : ReadFault} (h : Corresponds R r r') (ht : R t u) (hr : Rejects limit r t fault) :
    ∃ fault', Rejects limit r' u fault' ∧ fault.Corresponds R fault' := by
  have hkind := hR ht
  obtain ⟨depth, hexpected, hgroups⟩ := h
  cases hr with
  | tooDeepGroup n hd =>
    obtain ⟨_, _, m⟩ := hkind
    obtain ⟨hlevel, -⟩ := hexpected
    exact ⟨_, .tooDeepGroup m hd, .tooDeep ht⟩
  | tooDeepSign s n hd =>
    obtain ⟨_, _, m⟩ := hkind
    obtain ⟨hlevel, ⟨⟩⟩ := hexpected
    exact ⟨_, .tooDeepSign s m hd, .tooDeep ht⟩
  | operatorRun hoperator =>
    obtain ⟨hlevel, ⟨hprevious⟩⟩ := hexpected
    exact ⟨_, .operatorRun (hkind.isOperator_eq ▸ hoperator), .operatorRun hprevious ht⟩
  | misplacedProduct op n hop =>
    obtain ⟨_, _, m⟩ := hkind
    obtain ⟨hlevel, ⟨⟩⟩ := hexpected
    exact ⟨_, .misplacedProduct op m hop, .unexpectedToken ht⟩
  | misplacedClosing n =>
    obtain ⟨_, _, m⟩ := hkind
    obtain ⟨hlevel, -⟩ := hexpected
    exact ⟨_, .misplacedClosing m, .unexpectedToken ht⟩
  | trailing hbegins =>
    obtain - | ⟨hsum, hterm⟩ := hexpected
    obtain ⟨⟩ := hgroups
    rw [Begins, hkind.symbol?_eq] at hbegins
    exact ⟨_, .trailing hbegins, .unexpectedToken ht⟩
  | unopened n =>
    obtain ⟨_, _, m⟩ := hkind
    obtain - | ⟨hsum, hterm⟩ := hexpected
    obtain ⟨⟩ := hgroups
    exact ⟨_, .unopened m, .unopened ht⟩
  | unclosed hbegins =>
    obtain - | ⟨hsum, hterm⟩ := hexpected
    obtain - | ⟨⟨hopening, houter⟩, hgroups⟩ := hgroups
    rw [Begins, hkind.symbol?_eq] at hbegins
    exact ⟨_, .unclosed hbegins, .unclosed hopening⟩
  | callNotOpened hsymbol =>
    obtain - | - | ⟨hlevel, hh⟩ := hexpected
    exact ⟨_, .callNotOpened (hkind.symbol?_eq ▸ hsymbol), .callNotOpened hh⟩
  | argumentMissing hword =>
    obtain - | - | - | ⟨hlevel, hh⟩ := hexpected
    refine ⟨_, .argumentMissing fun w' hw' ↦ ?_, .argumentMissing hh⟩
    subst hw'
    obtain - | hkind := hkind
    exact hkind ▸ hword _ rfl
  | callNotClosed hsymbol =>
    obtain - | - | - | - | ⟨hlevel, hh, ha⟩ := hexpected
    exact ⟨_, .callNotClosed (hkind.symbol?_eq ▸ hsymbol), .callNotClosed hh⟩

/-! ### Runs side by side -/

/-- Corresponding readers at the end of their tokens end alike. -/
theorem Corresponds.finish {r r' : Reader} {last last' : Token} (h : Corresponds R r r')
    (hlast : R last last') :
    ReadingsCorrespond R ((r.finish last).map some) ((r'.finish last').map some) := by
  obtain ⟨depth, hexpected, hgroups⟩ := h
  cases hexpected with
  | operand hlevel hafter => exact .fault (.unexpectedEnd hlast)
  | operator hsum hterm =>
    cases hgroups with
    | nil => exact .tree (HalfTree.Corresponds.complete hsum hterm)
    | cons hgroup hgroups =>
      obtain ⟨hopening, houter⟩ := hgroup
      exact .fault (.unclosed hopening)
  | callOpening hlevel hh => exact .fault (.callNotOpened hh)
  | callArgument hlevel hh => exact .fault (.argumentMissing hh)
  | callClosing hlevel hh ha => exact .fault (.callNotClosed hh)

/-- **Runs over corresponding tokens end alike**, whatever stops them. -/
theorem Corresponds.run (hR : ∀ {t u}, R t u → t.SameKind u) {r r' : Reader} {last last' : Token}
    {tokens tokens' : List Token} (h : Corresponds R r r') (hlast : R last last')
    (htokens : List.Forall₂ R tokens tokens') :
    ReadingsCorrespond R ((r.run limit last tokens).result.map some)
      ((r'.run limit last' tokens').result.map some) := by
  induction htokens generalizing r r' with
  | nil => exact h.finish hlast
  | @cons token token' tokens tokens' htoken _ ih =>
    rcases exists_step_or_rejects limit r token with ⟨s, hs⟩ | ⟨fault, hr⟩
    · obtain ⟨s', hs', h'⟩ := h.step hR htoken hs
      rw [Reader.run, hs.step_eq, Reader.run, hs'.step_eq]
      exact ih h'
    · obtain ⟨fault', hr', hfault⟩ := h.rejects hR htoken hr
      rw [Reader.run, hr.step_eq, Reader.run, hr'.step_eq]
      exact .fault hfault

end Reader

/-- The last ones of corresponding tokens correspond. -/
theorem forall₂_getLast? {tokens tokens' : List Token} (h : List.Forall₂ R tokens tokens') :
    Option.Rel R tokens.getLast? tokens'.getLast? := by
  rw [List.getLast?_eq_head?_reverse, List.getLast?_eq_head?_reverse]
  have hreverse := List.forall₂_reverse_iff.2 h
  generalize tokens.reverse = ts, tokens'.reverse = us at hreverse
  cases hreverse with
  | nil => exact .none
  | cons ht _ => exact .some ht

/-- **Corresponding tokens are read alike.** -/
theorem Tree.ofTokens?_corresponds (limit : Option Nat) (hR : ∀ {t u}, R t u → t.SameKind u)
    {tokens tokens' : List Token} (h : List.Forall₂ R tokens tokens') :
    ReadingsCorrespond R (Tree.ofTokens? limit tokens) (Tree.ofTokens? limit tokens') := by
  have hlast := forall₂_getLast? h
  rw [Tree.ofTokens?, Tree.ofTokens?]
  generalize tokens.getLast? = last?, tokens'.getLast? = last?' at hlast
  cases hlast with
  | none => exact .nothing
  | some hlast => exact (Reader.corresponds_start 0).run hR hlast h

/-! ### Correspondences that keep texts -/

section Texts

variable (htext : ∀ {t u}, R t u → t.text = u.text)

include htext

theorem Atom.Corresponds.eq {a a' : Atom} (h : a.Corresponds R a') : a = a' := by
  cases h with
  | number h => exact congrArg Atom.number (htext h)
  | stream h => exact congrArg Atom.stream (htext h)
  | call hh ha => exact congrArg₂ Atom.call (htext hh) (htext ha)

/-- A tree does not tell where its tokens stood. -/
theorem Tree.Corresponds.eq {t t' : Tree} (h : t.Corresponds R t') : t = t' := by
  induction h with
  | atom h => exact congrArg Tree.atom (h.eq htext)
  | binary op _ _ ihl ihr => exact congrArg₂ (Tree.binary op) ihl ihr
  | signed s _ ih => exact congrArg (Tree.signed s) ih

/-- The wording of a fault does not tell where its tokens stand. -/
theorem ReadFault.Corresponds.message_eq {fault fault' : ReadFault}
    (h : fault.Corresponds R fault') : fault.message = fault'.message := by
  cases h with
  | operatorRun hprevious hnext =>
    exact congrArg₂ (fun previous next ↦ "Unexpected operator after '" ++ previous ++ "': " ++ next)
      (htext hprevious) (htext hnext)
  | unexpectedToken h => exact congrArg ("Unexpected token: " ++ ·) (htext h)
  | unexpectedEnd | tooDeep | unopened | unclosed | callNotOpened | argumentMissing
  | callNotClosed => rfl

/-- The text that a fault underlines does not tell where its tokens stand. -/
theorem ReadFault.Corresponds.text_span_eq {fault fault' : ReadFault}
    (h : fault.Corresponds R fault') : fault.span.text = fault'.span.text := by
  cases h with
  | operatorRun hprevious hnext =>
    exact congrArg₂ (fun previous next ↦ some (previous ++ next)) (htext hprevious) (htext hnext)
  | unexpectedEnd h | tooDeep h | unexpectedToken h | unopened h | unclosed h
  | callNotOpened h | argumentMissing h | callNotClosed h => exact congrArg some (htext h)

end Texts

end StreamFormula
