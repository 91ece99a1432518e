import StreamFormula.Proofs.Reader.Transitions

/-!
# What readers accept

A reader accepts exactly the phrases of the grammar, with the tree that the grammar gives
(`Tree.read_eq_ok_iff_derives`).

That a phrase is read (`Derives.readBy`) is an induction on its derivation. The induction needs the
phrase in the place where it stands, so `Phrase.ReadBy` says for each kind of phrase what a reader
in front of it looks like after it, with any groups and any unfinished level around.

That nothing else is read is an invariant of single steps, `Reader.Holds`: what a reader holds is
what the grammar makes of the tokens so far. An unfinished level has no phrase of its own; it is
described by what it is waiting for (`Level.Awaits`): every factor that may follow completes it.
-/

namespace StreamFormula

variable {limit : Option Nat}

/-! ### Phrases are read -/

/-- A reader in front of a phrase of the given kind takes it and holds its tree. -/
def Phrase.ReadBy (limit : Option Nat) (d : Nat) (tokens : List Token) (t : Tree) : Phrase → Prop
  | factor => ∀ (level : Level) (after? : Option Token) (groups : List Group),
      (after?.isSome → beginsWithOperator tokens = false) →
        Reader.Takes limit ⟨.operand level after?, groups, d⟩ tokens
          (Reader.factor level groups d t)
  | term => ∀ (sum? : Option HalfTree) (after? : Option Token) (groups : List Group),
      (after?.isSome → beginsWithOperator tokens = false) →
        Reader.Takes limit ⟨.operand ⟨sum?, none, []⟩ after?, groups, d⟩ tokens
          ⟨.operator sum? t, groups, d⟩
  | sum => ∀ groups : List Group, ∃ sum? term, HalfTree.complete sum? term = t ∧
      Reader.Takes limit ⟨.operand .empty none, groups, d⟩ tokens ⟨.operator sum? term, groups, d⟩

/-- A sign in front of a factor belongs to it. -/
theorem Reader.factor_signed (level : Level) (groups : List Group) (d : Nat) (s : Sign) (t : Tree) :
    factor { level with signs := s :: level.signs } groups (d + 1) t =
      factor level groups d (.signed s t) := by
  simp [factor, Level.term]

/-- **Every phrase is read**, in any place where it may stand. -/
theorem Derives.readBy {phrase : Phrase} {d : Nat} {tokens : List Token} {t : Tree}
    (h : Derives limit phrase d tokens t) : phrase.ReadBy limit d tokens t := by
  induction h with
  | number w hw => exact fun _ _ _ _ ↦ .single (.number w hw)
  | stream w hw => exact fun _ _ _ _ ↦ .single (.stream w hw)
  | call handle argument m n hh ha =>
    exact fun _ _ _ _ ↦ .cons (.handle handle hh) <| .cons (.callOpening m) <|
      .cons (.callArgument argument ha) <| .single (.callClosing n)
  | @group d tokens t m n hd _ ih =>
    intro level after? groups _
    obtain ⟨sum?, term, rfl, hinner⟩ := ih (⟨.symbol .openParen m, level⟩ :: groups)
    exact (Reader.Takes.cons (.opening m hd) hinner).append (.single (.closing n))
  | @signed d tokens t s n hd _ ih =>
    intro level after? groups hafter
    -- a sign is an operator, so it cannot stand right after one
    obtain rfl : after? = none := by
      cases after? with
      | none => rfl
      | some previous => exact nomatch s.isOperator_symbol.symm.trans (hafter rfl)
    rw [← Reader.factor_signed]
    exact .cons (.sign s n hd) (ih _ none groups nofun)
  | ofFactor _ ih => exact fun sum? after? groups hafter ↦ ih ⟨sum?, none, []⟩ after? groups hafter
  | @product d left right l r op n hop hl _ hright ihl ihr =>
    intro sum? after? groups hafter
    have hleft := ihl sum? after? groups fun ha ↦
      (beginsWithOperator_append hl.ne_nil _).symm.trans (hafter ha)
    exact hleft.append (.cons (.product op n hop)
      (ihr ⟨sum?, some ⟨op, l⟩, []⟩ (some (.symbol op.symbol n)) groups fun _ ↦ hright))
  | ofTerm _ ih => exact fun groups ↦ ⟨none, _, rfl, ih none none groups nofun⟩
  | @sum d left right l r op n hop hl _ hright ihl ihr =>
    intro groups
    obtain ⟨sum?, term, rfl, hleft⟩ := ihl groups
    refine ⟨some ⟨op, HalfTree.complete sum? term⟩, r, rfl, hleft.append (.cons (.sum op n hop) ?_)⟩
    exact ihr (some ⟨op, _⟩) (some (.symbol op.symbol n)) groups fun _ ↦ hright

/-! ### What a reader holds -/

/-- The tokens are a sum that ends in the given term, after the half tree that waits for it. -/
inductive ReadsTerm (limit : Option Nat) (d : Nat) :
    List Token → Option HalfTree → Tree → Prop where
  | alone {tokens : List Token} {term : Tree} (h : Derives limit .term d tokens term) :
      ReadsTerm limit d tokens none term
  | after {left right : List Token} {l term : Tree} (op : BinaryOp) (n : Nat)
      (hop : op.phrase = .sum) (hl : Derives limit .sum d left l)
      (hr : Derives limit .term d right term) (hright : beginsWithOperator right = false) :
      ReadsTerm limit d (left ++ .symbol op.symbol n :: right) (some ⟨op, l⟩) term

/-- What was read is a sum. -/
theorem ReadsTerm.sum {d : Nat} {tokens : List Token} {sum? : Option HalfTree} {term : Tree}
    (h : ReadsTerm limit d tokens sum? term) :
    Derives limit .sum d tokens (HalfTree.complete sum? term) := by
  cases h with
  | alone h => exact .ofTerm h
  | after op n hop hl hr hright => exact .sum op n hop hl hr hright

/-- A sum goes on with a factor of its last term. -/
theorem ReadsTerm.product {d : Nat} {tokens right : List Token} {sum? : Option HalfTree}
    {term r : Tree} (h : ReadsTerm limit d tokens sum? term) (op : BinaryOp) (n : Nat)
    (hop : op.phrase = .term) (hr : Derives limit .factor d right r)
    (hright : beginsWithOperator right = false) :
    ReadsTerm limit d (tokens ++ .symbol op.symbol n :: right) sum? (.binary op term r) := by
  cases h with
  | alone h => exact .alone (.product op n hop h hr hright)
  | @after left right' l term op' n' hop' hl hr' hright' =>
    rw [List.append_assoc, List.cons_append]
    refine .after op' n' hop' hl (.product op n hop hr' hr hright) ?_
    rwa [beginsWithOperator_append hr'.ne_nil]

/-- A level that has read tokens turns every factor that may follow into a term. -/
def Level.Awaits (limit : Option Nat) (d : Nat) (level : Level) (tokens : List Token)
    (afterOperator : Bool) : Prop :=
  ∀ {factor : List Token} {t : Tree}, Derives limit .factor (d + level.signs.length) factor t →
    (afterOperator = true → beginsWithOperator factor = false) →
      ReadsTerm limit d (tokens ++ factor) level.sum? (level.term t)

theorem Level.awaits_empty (limit : Option Nat) (d : Nat) :
    Level.Awaits limit d .empty [] false :=
  fun h _ ↦ .alone (.ofFactor h)

/-- After a sign a level waits for the rest of the signed factor. -/
theorem Level.Awaits.sign {d : Nat} {level : Level} {tokens : List Token}
    (h : level.Awaits limit d tokens false) (s : Sign) (n : Nat)
    (hd : Permits limit (d + level.signs.length)) :
    Level.Awaits limit d { level with signs := s :: level.signs } (tokens ++ [.symbol s.symbol n])
      false := by
  intro factor t hf _
  rw [List.append_assoc, List.singleton_append]
  exact h (.signed s n hd hf) nofun

/-- After an operator between terms a level waits for the first factor of the next one. -/
theorem ReadsTerm.awaits_sum {d : Nat} {tokens : List Token} {sum? : Option HalfTree} {term : Tree}
    (h : ReadsTerm limit d tokens sum? term) (op : BinaryOp) (n : Nat) (hop : op.phrase = .sum) :
    Level.Awaits limit d ⟨some ⟨op, HalfTree.complete sum? term⟩, none, []⟩
      (tokens ++ [.symbol op.symbol n]) true := by
  intro factor t hf hafter
  rw [List.append_assoc, List.singleton_append]
  exact .after op n hop h.sum (.ofFactor hf) (hafter rfl)

/-- After an operator between factors a level waits for the next factor. -/
theorem ReadsTerm.awaits_product {d : Nat} {tokens : List Token} {sum? : Option HalfTree}
    {term : Tree} (h : ReadsTerm limit d tokens sum? term) (op : BinaryOp) (n : Nat)
    (hop : op.phrase = .term) :
    Level.Awaits limit d ⟨sum?, some ⟨op, term⟩, []⟩ (tokens ++ [.symbol op.symbol n]) true := by
  intro factor t hf hafter
  rw [List.append_assoc, List.singleton_append]
  exact h.product op n hop hf (hafter rfl)

/-- The tokens up to the innermost open parenthesis, with the depth behind it. -/
inductive Opens (limit : Option Nat) (base : Nat) : List Token → List Group → Nat → Prop where
  | nil : Opens limit base [] [] base
  | cons {before tokens : List Token} {groups : List Group} {d : Nat} {level : Level}
      {afterOperator : Bool} (n : Nat) (h : Opens limit base before groups d)
      (hl : level.Awaits limit d tokens afterOperator)
      (hd : Permits limit (d + level.signs.length)) :
      Opens limit base (before ++ (tokens ++ [.symbol .openParen n]))
        (⟨.symbol .openParen n, level⟩ :: groups) (d + level.signs.length + 1)

/-- What a reader holds is what the grammar makes of the tokens so far: those up to the innermost
open parenthesis, and those of the level inside it. -/
inductive Reader.Holds (limit : Option Nat) (base : Nat) : List Token → Reader → Prop where
  | operand {before tokens : List Token} {groups : List Group} {d : Nat} {level : Level}
      {after? : Option Token} (h : Opens limit base before groups d)
      (hl : level.Awaits limit d tokens after?.isSome)
      (hafter : ∀ previous ∈ after?, tokens.getLast? = some previous) :
      Holds limit base (before ++ tokens)
        ⟨.operand level after?, groups, d + level.signs.length⟩
  | operator {before tokens : List Token} {groups : List Group} {d : Nat} {sum? : Option HalfTree}
      {term : Tree} (h : Opens limit base before groups d)
      (ht : ReadsTerm limit d tokens sum? term) :
      Holds limit base (before ++ tokens) ⟨.operator sum? term, groups, d⟩
  | callOpening {before tokens : List Token} {groups : List Group} {d : Nat} {level : Level}
      {afterOperator : Bool} (handle : Word) (h : Opens limit base before groups d)
      (hl : level.Awaits limit d tokens afterOperator) (hh : handle.kind = .handle) :
      Holds limit base (before ++ (tokens ++ [.word handle]))
        ⟨.callOpening level handle, groups, d + level.signs.length⟩
  | callArgument {before tokens : List Token} {groups : List Group} {d : Nat} {level : Level}
      {afterOperator : Bool} (handle : Word) (m : Nat) (h : Opens limit base before groups d)
      (hl : level.Awaits limit d tokens afterOperator) (hh : handle.kind = .handle) :
      Holds limit base (before ++ (tokens ++ [.word handle, .symbol .openParen m]))
        ⟨.callArgument level handle, groups, d + level.signs.length⟩
  | callClosing {before tokens : List Token} {groups : List Group} {d : Nat} {level : Level}
      {afterOperator : Bool} (handle argument : Word) (m : Nat)
      (h : Opens limit base before groups d) (hl : level.Awaits limit d tokens afterOperator)
      (hh : handle.kind = .handle) (ha : argument.kind = .number) :
      Holds limit base (before ++ (tokens ++ [.word handle, .symbol .openParen m, .word argument]))
        ⟨.callClosing level handle argument.text, groups, d + level.signs.length⟩

namespace Reader

/-- A factor that may follow completes a level. -/
theorem Holds.factor {base d : Nat} {before tokens factor : List Token} {groups : List Group}
    {level : Level} {afterOperator : Bool} {t : Tree} (h : Opens limit base before groups d)
    (hl : level.Awaits limit d tokens afterOperator)
    (hf : Derives limit .factor (d + level.signs.length) factor t)
    (hafter : beginsWithOperator factor = false) :
    Holds limit base (before ++ (tokens ++ factor))
      (Reader.factor level groups (d + level.signs.length) t) := by
  have hd : d + level.signs.length - level.signs.length = d := Nat.add_sub_cancel ..
  rw [Reader.factor, hd]
  exact .operator h (hl hf fun _ ↦ hafter)

theorem Holds.start (limit : Option Nat) (base : Nat) :
    Holds limit base [] (Reader.start base) := by
  have h : Holds limit base ([] ++ []) (Reader.start base) :=
    .operand .nil (Level.awaits_empty limit base) nofun
  exact h

/-- **A step keeps what the reader holds in accord with the grammar.** -/
theorem Holds.step {base : Nat} {taken : List Token} {r r' : Reader} {token : Token}
    (h : Holds limit base taken r) (hs : Step limit r token r') :
    Holds limit base (taken ++ [token]) r' := by
  cases h with
  | @operand before tokens groups d level after? ho hl hafter =>
    rw [List.append_assoc]
    cases hs with
    | number w hw => exact .factor ho hl (.number w hw) rfl
    | stream w hw => exact .factor ho hl (.stream w hw) rfl
    | handle w hw => exact .callOpening w ho hl hw
    | opening n hd =>
      have h' : Holds limit base (_ ++ []) ⟨.operand .empty none, _, _⟩ :=
        .operand (.cons n ho hl hd) (Level.awaits_empty limit _) nofun
      rwa [List.append_nil] at h'
    | sign s n hd => exact .operand ho (hl.sign s n hd) nofun
  | @operator before tokens groups d sum? term ho ht =>
    rw [List.append_assoc]
    cases hs with
    | sum op n hop => exact .operand ho (ht.awaits_sum op n hop) (by simp)
    | product op n hop => exact .operand ho (ht.awaits_product op n hop) (by simp)
    | closing n =>
      cases ho with
      | @cons before' tokens' groups d level afterOperator m ho hl hd =>
        -- the sum inside becomes a factor of the level that the parenthesis interrupted
        have hgroup : Derives limit .factor (d + level.signs.length) _ _ := .group m n hd ht.sum
        have h' := Holds.factor ho hl hgroup rfl
        simpa only [List.append_assoc, List.nil_append, List.cons_append,
          Nat.add_sub_cancel] using h'
  | @callOpening before tokens groups d level afterOperator handle ho hl hh =>
    cases hs with
    | callOpening n =>
      rw [List.append_assoc, List.append_assoc]
      exact .callArgument handle n ho hl hh
  | @callArgument before tokens groups d level afterOperator handle m ho hl hh =>
    cases hs with
    | callArgument w hw =>
      rw [List.append_assoc, List.append_assoc]
      exact .callClosing handle w m ho hl hh hw
  | @callClosing before tokens groups d level afterOperator handle argument m ho hl hh ha =>
    cases hs with
    | callClosing n =>
      rw [List.append_assoc, List.append_assoc]
      exact .factor ho hl (.call handle argument m n hh ha) rfl

/-- What a reader from the start holds is what the grammar makes of the tokens it took. -/
theorem Takes.holds {base : Nat} {tokens : List Token} {r : Reader}
    (h : Takes limit (start base) tokens r) : Holds limit base tokens r :=
  h.preserves (P := Holds limit base) Holds.step (Holds.start limit base)

/-- **Runs accept exactly the sums of the grammar.** -/
theorem run_start_eq_ok_iff {base : Nat} {last : Token} {tokens : List Token} {t : Tree} :
    ((start base).run limit last tokens).result = .ok t ↔ Derives limit .sum base tokens t := by
  constructor
  · intro h
    rcases takes_or_rejects limit (start base) tokens with
      ⟨r, ht⟩ | ⟨taken, token, rest, r, fault, rfl, ht, hr⟩
    · rw [ht.run last] at h
      -- only a finished term with no open parenthesis around it ends a run well
      cases ht.holds with
      | operand | callOpening | callArgument | callClosing => exact nomatch h
      | operator ho hterm =>
        cases ho with
        | cons => exact nomatch h
        | nil =>
          obtain rfl := Except.ok.inj h
          exact hterm.sum
    · rw [ht.run_rejects hr last rest] at h
      exact nomatch h
  · intro h
    obtain ⟨sum?, term, rfl, ht⟩ := h.readBy []
    rw [start, ht.run last]
    rfl

end Reader

/-! ### Reading -/

/-- Reading tokens gives a tree exactly where the grammar does, and the same one. -/
theorem Tree.ofTokens?_eq_ok_iff {tokens : List Token} {t : Tree} :
    Tree.ofTokens? limit tokens = .ok (some t) ↔ Derives limit .sum 0 tokens t := by
  cases tokens with
  | nil => exact ⟨nofun, fun h ↦ absurd rfl h.ne_nil⟩
  | cons token tokens =>
    rw [Tree.ofTokens?_eq limit (List.cons_ne_nil token tokens), ← Reader.run_start_eq_ok_iff]
    cases ((Reader.start 0).run limit _ (token :: tokens)).result with
    | ok t' => simp [Except.map]
    | error fault => simp [Except.map]

/-- Tokens are never read as nothing, unless there are none. -/
theorem Tree.ofTokens?_ne_ok_none {tokens : List Token} (h : tokens ≠ []) :
    Tree.ofTokens? limit tokens ≠ .ok none := by
  rw [Tree.ofTokens?_eq limit h]
  cases ((Reader.start 0).run limit _ tokens).result <;> simp [Except.map]

/-- **Reading is the grammar.** Tokens are read as a tree exactly if they are a sum of the grammar
with that tree; the tree is then the only one they have; and tokens that are no sum at all are
refused. -/
theorem Tree.read_eq_ok_iff_derives (tokens : List Token) :
    (∀ t, Tree.read tokens = .ok (some t) ↔ Derives (some nestingLimit) .sum 0 tokens t) ∧
      (∀ t t', Derives (some nestingLimit) .sum 0 tokens t →
        Derives (some nestingLimit) .sum 0 tokens t' → t = t') ∧
      (tokens ≠ [] → (∀ t, ¬ Derives (some nestingLimit) .sum 0 tokens t) →
        ∃ fault, Tree.read tokens = .error fault) := by
  refine ⟨fun t ↦ Tree.ofTokens?_eq_ok_iff, fun t t' h h' ↦ ?_, fun hne hno ↦ ?_⟩
  · have hread := Tree.ofTokens?_eq_ok_iff.2 h
    rw [Tree.ofTokens?_eq_ok_iff.2 h'] at hread
    exact (Option.some.inj (Except.ok.inj hread)).symm
  · rcases hread : Tree.read tokens with fault | t?
    · exact ⟨fault, rfl⟩
    · cases t? with
      | none => exact absurd hread (Tree.ofTokens?_ne_ok_none hne)
      | some t => exact absurd (Tree.ofTokens?_eq_ok_iff.1 hread) (hno t)

end StreamFormula
