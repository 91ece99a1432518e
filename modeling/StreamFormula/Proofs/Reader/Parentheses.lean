import StreamFormula.Proofs.Reader.Acceptance
import StreamFormula.Proofs.Reader.Viability
import StreamFormula.Proofs.Text.Scanning

/-!
# Which parenthesis is to blame

A closing parenthesis is blamed exactly if the tokens in front of it are a formula, and an opening
one exactly if what it holds is complete up to a place where neither a closing parenthesis nor an
operator stands (`Tree.blamed_parentheses`). Both are said of the tokens alone. That a parenthesis
closes another one is a matter of counting them (`Balanced`), and that the other one groups, and
does not belong to a call, shows in the token in front of it (`ClosesGroup`).

A reader does not count. It holds the groups that are open, and what stands between a parenthesis
and the one that closes it leaves them as they were (`Balanced.takes`), whether the two are those of
a group or of a call. The rest is where the reader stands: in front of a parenthesis it waits for
that of a call just behind a handle (`Reader.Takes.callOpening_iff`).
-/

namespace StreamFormula

/-! ### Matching parentheses -/

/-- Tokens whose parentheses match, those of calls included. -/
inductive Balanced : List Token → Prop where
  | nil : Balanced []
  | cons {token : Token} {tokens : List Token} (hopen : token.symbol? ≠ some .openParen)
      (hclose : token.symbol? ≠ some .closeParen) (h : Balanced tokens) :
      Balanced (token :: tokens)
  | parentheses {inner tokens : List Token} (m n : Nat) (hinner : Balanced inner)
      (h : Balanced tokens) :
      Balanced (.symbol .openParen m :: (inner ++ .symbol .closeParen n :: tokens))

/-- The last one of the tokens is a handle. -/
def EndsInHandle (tokens : List Token) : Prop :=
  ∃ w : Word, tokens.getLast? = some (.word w) ∧ w.kind = .handle

/-- The parenthesis at `j` closes the one at `i`, and that one is no call's: the parentheses between
them match, and no handle stands in front. -/
inductive ClosesGroup : List Token → Nat → Nat → Prop where
  | mk {before inner after : List Token} (m n : Nat) (hbefore : ¬ EndsInHandle before)
      (hinner : Balanced inner) :
      ClosesGroup (before ++ .symbol .openParen m :: (inner ++ .symbol .closeParen n :: after))
        before.length (before.length + 1 + inner.length)

namespace Balanced

variable {tokens more : List Token}

theorem append (h : Balanced tokens) (h' : Balanced more) : Balanced (tokens ++ more) := by
  induction h with
  | nil => exact h'
  | cons hopen hclose _ ih => exact .cons hopen hclose ih
  | parentheses m n hinner _ _ ih =>
    rw [List.cons_append, List.append_assoc, List.cons_append]
    exact .parentheses m n hinner ih

theorem word_cons (w : Word) (h : Balanced tokens) : Balanced (.word w :: tokens) :=
  .cons nofun nofun h

/-- Operators are no parentheses. -/
theorem operator_cons {s : Symbol} (hs : s.isOperator = true) (n : Nat) (h : Balanced tokens) :
    Balanced (.symbol s n :: tokens) := by
  refine .cons ?_ ?_ h <;> rintro ⟨⟩ <;> exact nomatch hs

end Balanced

variable {limit : Option Nat}

/-- Parentheses match in every phrase. -/
theorem Derives.balanced {phrase : Phrase} {d : Nat} {tokens : List Token} {t : Tree}
    (h : Derives limit phrase d tokens t) : Balanced tokens := by
  induction h with
  | number w hw | stream w hw => exact .word_cons w .nil
  | call handle argument m n hh ha =>
    have hargument : Balanced [.word argument] := .word_cons argument .nil
    exact .word_cons handle (.parentheses m n hargument .nil)
  | group m n hd _ ih => exact .parentheses m n ih .nil
  | signed s n hd _ ih => exact .operator_cons s.isOperator_symbol n ih
  | ofFactor _ ih | ofTerm _ ih => exact ih
  | product op n hop _ _ hright ihl ihr | sum op n hop _ _ hright ihl ihr =>
    exact ihl.append (.operator_cons op.isOperator_symbol n ihr)

/-! ### Parentheses and readers -/

/-- Whether this is due between the parentheses of a call. -/
def Expectation.InCall : Expectation → Prop
  | callArgument _ _ | callClosing _ _ _ => True
  | operand _ _ | operator _ _ | callOpening _ _ => False

namespace Reader

variable {r r' : Reader} {token : Token}

/-- A token that is no parenthesis opens and closes nothing. -/
theorem Step.groups_eq (h : Step limit r token r') (hopen : token.symbol? ≠ some .openParen)
    (hclose : token.symbol? ≠ some .closeParen) :
    r'.groups = r.groups ∧ (r'.expected.InCall ↔ r.expected.InCall) := by
  cases h with
  | opening | callOpening => exact absurd rfl hopen
  | closing | callClosing => exact absurd rfl hclose
  | number | stream | handle | sign | sum | product | callArgument => exact ⟨rfl, Iff.rfl⟩

/-- An opening parenthesis is one of a group or of a call. -/
theorem Step.of_opening (h : Step limit r token r') (ht : token.symbol? = some .openParen) :
    (∃ level after?, r.expected = .operand level after? ∧ r'.expected = .operand .empty none ∧
        r'.groups = ⟨token, level⟩ :: r.groups) ∨
      ∃ level handle, r.expected = .callOpening level handle ∧
        r'.expected = .callArgument level handle ∧ r'.groups = r.groups := by
  cases h with
  | opening n hd => exact .inl ⟨_, _, rfl, rfl, rfl⟩
  | callOpening n => exact .inr ⟨_, _, rfl, rfl, rfl⟩
  | sign s n hd => cases s <;> exact nomatch ht
  | sum op n hop | product op n hop => cases op <;> exact nomatch ht
  | number | stream | handle | closing | callArgument | callClosing => exact nomatch ht

/-- A closing parenthesis is one of the innermost group or of a call. -/
theorem Step.of_closing (h : Step limit r token r') (ht : token.symbol? = some .closeParen) :
    ((∃ sum? term group, r.expected = .operator sum? term ∧ r.groups = group :: r'.groups) ∨
        ∃ level handle argument, r.expected = .callClosing level handle argument ∧
          r.groups = r'.groups) ∧
      ¬ r'.expected.InCall := by
  cases h with
  | closing n => exact ⟨.inl ⟨_, _, _, rfl, rfl⟩, id⟩
  | callClosing n => exact ⟨.inr ⟨_, _, _, rfl, rfl⟩, id⟩
  | sign s n hd => cases s <;> exact nomatch ht
  | sum op n hop | product op n hop => cases op <;> exact nomatch ht
  | number | stream | handle | opening | callOpening | callArgument => exact nomatch ht

/-- An opening and a closing parenthesis are of one kind, and cancel out, if what is between them
opens and closes nothing. -/
theorem Step.closed {r₁ r₂ : Reader} {opening closing : Token} (h : Step limit r opening r₁)
    (h' : Step limit r₂ closing r') (hopening : opening.symbol? = some .openParen)
    (hclosing : closing.symbol? = some .closeParen) (hgroups : r₂.groups = r₁.groups)
    (hcall : r₂.expected.InCall ↔ r₁.expected.InCall) :
    r'.groups = r.groups ∧ (r'.expected.InCall ↔ r.expected.InCall) := by
  obtain ⟨hclosed, hnot⟩ := h'.of_closing hclosing
  rcases h.of_opening hopening with
    ⟨level, after?, hoperand, hinner, hopened⟩ | ⟨level, handle, hcalled, hinner, hopened⟩
  · rw [hinner] at hcall
    rcases hclosed with ⟨sum?, term, group, -, hout⟩ | ⟨level, handle, argument, hout, -⟩
    · rw [hopened, hout] at hgroups
      rw [hoperand]
      exact ⟨(List.cons.inj hgroups).2, iff_of_false hnot id⟩
    · rw [hout] at hcall
      exact (hcall.1 trivial).elim
  · rw [hinner] at hcall
    rcases hclosed with ⟨sum?, term, group, hout, -⟩ | ⟨level, handle, argument, -, hout⟩
    · rw [hout] at hcall
      exact (hcall.2 trivial).elim
    · rw [hopened, hout] at hgroups
      rw [hcalled]
      exact ⟨hgroups, iff_of_false hnot id⟩

end Reader

/-- **Matching parentheses leave a reader with the groups that it had**, and in a call if it was in
one. -/
theorem Balanced.takes {tokens : List Token} (h : Balanced tokens) {r r' : Reader}
    (ht : Reader.Takes limit r tokens r') :
    r'.groups = r.groups ∧ (r'.expected.InCall ↔ r.expected.InCall) := by
  induction h generalizing r r' with
  | nil =>
    cases ht
    exact ⟨rfl, Iff.rfl⟩
  | cons hopen hclose _ ih =>
    cases ht with
    | cons hs ht =>
      obtain ⟨hgroups, hcall⟩ := hs.groups_eq hopen hclose
      obtain ⟨hgroups', hcall'⟩ := ih ht
      exact ⟨hgroups'.trans hgroups, hcall'.trans hcall⟩
  | parentheses m n _ _ ihinner ih =>
    cases ht with
    | cons hopening ht =>
      obtain ⟨r₁, hinner, ht⟩ := Reader.takes_append_iff.1 ht
      cases ht with
      | cons hclosing ht =>
        obtain ⟨hgroups, hcall⟩ := ihinner hinner
        obtain ⟨hpair, hpair'⟩ := hopening.closed hclosing rfl rfl hgroups hcall
        obtain ⟨hgroups', hcall'⟩ := ih ht
        exact ⟨hgroups'.trans hpair, hcall'.trans hpair'⟩

namespace Reader

variable {base : Nat}

/-- Only a handle makes a reader wait for the parenthesis of a call. -/
theorem Step.callOpening_iff {r r' : Reader} {token : Token} (h : Step limit r token r') :
    (∃ level handle, r'.expected = .callOpening level handle) ↔
      ∃ w : Word, token = .word w ∧ w.kind = .handle := by
  cases h with
  | handle w hw => exact ⟨fun _ ↦ ⟨w, rfl, hw⟩, fun _ ↦ ⟨_, _, rfl⟩⟩
  | number w hw | stream w hw => simp [factor, hw]
  | callArgument w hw => simp [hw]
  | closing | callClosing => simp [factor]
  | opening | sign | sum | product | callOpening => simp

/-- **The parenthesis of a call is waited for behind a handle**, and nowhere else. -/
theorem Takes.callOpening_iff {tokens : List Token} {r : Reader}
    (h : Takes limit (start base) tokens r) :
    (∃ level handle, r.expected = .callOpening level handle) ↔ EndsInHandle tokens := by
  rcases List.eq_nil_or_concat tokens with rfl | ⟨before, token, rfl⟩
  · cases h
    simp [start, EndsInHandle]
  · rw [List.concat_eq_append] at h ⊢
    obtain ⟨r', -, hlast⟩ := takes_append_iff.1 h
    cases hlast with
    | cons hs hnil =>
      cases hnil
      simpa [EndsInHandle] using hs.callOpening_iff

/-- Behind a grouping parenthesis and matching ones, its group is the innermost one. -/
theorem Takes.exists_groups_eq {before inner : List Token} {m : Nat} {r : Reader}
    (h : Takes limit (start base) (before ++ .symbol .openParen m :: inner) r)
    (hbefore : ¬ EndsInHandle before) (hinner : Balanced inner) :
    ¬ r.expected.InCall ∧
      ∃ level groups, r.groups = ⟨.symbol .openParen m, level⟩ :: groups := by
  obtain ⟨r₁, hleft, hright⟩ := takes_append_iff.1 h
  cases hright with
  | cons hs ht =>
    obtain ⟨hgroups, hcall⟩ := hinner.takes ht
    rcases hs.of_opening rfl with
      ⟨level, after?, -, hexpected, hopened⟩ | ⟨level, handle, hexpected, -, -⟩
    · rw [hcall, hexpected]
      exact ⟨id, level, r₁.groups, hgroups.trans hopened⟩
    · exact absurd (hleft.callOpening_iff.1 ⟨level, handle, hexpected⟩) hbefore

/-- The innermost group of a reader was opened by a grouping parenthesis, and those behind it
match. -/
theorem Takes.exists_opening {tokens : List Token} {sum? : Option HalfTree} {term : Tree}
    {group : Group} {groups : List Group} {depth : Nat}
    (h : Takes limit (start base) tokens ⟨.operator sum? term, group :: groups, depth⟩) :
    ∃ before inner m, tokens = before ++ .symbol .openParen m :: inner ∧
      group.opening = .symbol .openParen m ∧ ¬ EndsInHandle before ∧ Balanced inner := by
  cases h.holds with
  | @operator outer inner _ _ _ _ ho ht =>
    cases ho with
    | @cons before tokens _ _ level _ m ho hl hd =>
      have htokens : before ++ (tokens ++ [.symbol .openParen m]) ++ inner =
          (before ++ tokens) ++ .symbol .openParen m :: inner := by simp
      rw [htokens] at h ⊢
      refine ⟨before ++ tokens, inner, m, rfl, rfl, fun hends ↦ ?_, ht.sum.balanced⟩
      -- behind a handle it would have been the parenthesis of a call, which is still open
      obtain ⟨r₁, hleft, hright⟩ := takes_append_iff.1 h
      obtain ⟨_, _, hexpected⟩ := hleft.callOpening_iff.2 hends
      cases hright with
      | cons hs hin =>
        rcases hs.of_opening rfl with ⟨_, _, hoperand, -, -⟩ | ⟨_, _, -, hargument, -⟩
        · exact nomatch hexpected.symm.trans hoperand
        · have hcall := (ht.sum.balanced.takes hin).2
          rw [hargument] at hcall
          exact hcall.2 trivial

end Reader

/-- In front of the parenthesis that closes a group, the group is the innermost one and its contents
are read. -/
theorem ClosesGroup.exists_takes {accepted : List Token} {i j : Nat} {tree : Tree}
    (h : ClosesGroup accepted i j) (hread : Tree.ofTokens? limit accepted = .ok (some tree)) :
    ∃ m sum? term level groups depth, i < j ∧ accepted[i]? = some (.symbol .openParen m) ∧
      Reader.Takes limit (.start 0) (accepted.take j)
        ⟨.operator sum? term, ⟨.symbol .openParen m, level⟩ :: groups, depth⟩ := by
  obtain ⟨sum?, term, -, ht⟩ := (Tree.ofTokens?_eq_ok_iff.1 hread).readBy []
  cases h with
  | @mk before inner after m n hbefore hinner =>
    have hsplit : before ++ .symbol .openParen m :: (inner ++ .symbol .closeParen n :: after) =
        (before ++ .symbol .openParen m :: inner) ++ .symbol .closeParen n :: after := by simp
    have hlength : (before ++ .symbol .openParen m :: inner).length =
        before.length + 1 + inner.length := by simp; omega
    rw [hsplit] at ht ⊢
    obtain ⟨⟨expected, groups, depth⟩, hbelow, hclosing⟩ := Reader.takes_append_iff.1 ht
    obtain ⟨hcall, level, outer, rfl⟩ := hbelow.exists_groups_eq hbefore hinner
    rw [← hlength, List.take_left]
    cases hclosing with
    | cons hs _ =>
      rcases (hs.of_closing rfl).1 with ⟨_, _, _, rfl, -⟩ | ⟨_, _, _, rfl, -⟩
      · exact ⟨m, _, _, _, _, _, by omega, by simp, hbelow⟩
      · exact (hcall trivial).elim

/-! ### Faults -/

/-- The wordings that are about parentheses of groups tell the fault. -/
theorem ReadFault.of_message {fault : ReadFault} :
    (fault.message = "Opening parenthesis not found" → ∃ t, fault = .unopened t) ∧
      (fault.message = "Closing parenthesis not found" → ∃ t, fault = .unclosed t) := by
  cases fault with
  | unopened t => exact ⟨fun _ ↦ ⟨t, rfl⟩, fun h ↦ absurd h (by dsimp only [message]; simp)⟩
  | unclosed t => exact ⟨fun h ↦ absurd h (by dsimp only [message]; simp), fun _ ↦ ⟨t, rfl⟩⟩
  | operatorRun | unexpectedToken =>
    -- the tokens of these wordings stand behind a text that begins differently
    dsimp only [message]
    refine ⟨fun h ↦ ?_, fun h ↦ ?_⟩ <;>
    · have hhead := congrArg (fun text : String ↦ text.toList.head?) h
      simp at hhead
  | unexpectedEnd | tooDeep | callNotOpened | argumentMissing | callNotClosed =>
    dsimp only [message]
    exact ⟨fun h ↦ absurd h (by simp), fun h ↦ absurd h (by simp)⟩

/-- The tokens that can neither go on with a term nor close anything. -/
theorem Reader.begins_iff {token : Token} :
    Begins token ↔ token.symbol? ≠ some .closeParen ∧ token.isOperator = false := by
  cases token with
  | word w => exact iff_of_true (.inr rfl) ⟨nofun, rfl⟩
  | symbol s n => cases s <;> simp [Begins, Token.symbol?, Symbol.isOperator]

namespace Tree

open Reader (Takes)

variable {tokens : List Token}

/-- A closing parenthesis is at fault behind tokens that are read. -/
theorem ofTokens?_eq_unopened_iff {closing : Token} :
    ofTokens? limit tokens = .error (.unopened closing) ↔
      ∃ taken rest t, tokens = taken ++ closing :: rest ∧ closing.symbol? = some .closeParen ∧
        ofTokens? limit taken = .ok (some t) := by
  constructor
  · intro h
    rcases exists_of_ofTokens?_eq_error h with
      ⟨⟨expected, groups, depth⟩, last, -, -, hfinish⟩ | ⟨taken, token, rest, r, rfl, ht, hr⟩
    · -- at the end of the tokens nothing is closed
      cases expected with
      | operator sum? term => cases groups <;> exact nomatch hfinish
      | operand | callOpening | callArgument | callClosing => exact nomatch hfinish
    · cases hr with
      | unopened n => exact ⟨taken, rest, _, rfl, rfl, ht.ofTokens?_eq_ok⟩
  · rintro ⟨taken, rest, t, rfl, hclosing, h⟩
    obtain ⟨n, rfl⟩ := Reader.exists_eq_symbol_of_symbol? hclosing
    obtain ⟨sum?, term, -, ht⟩ := (ofTokens?_eq_ok_iff.1 h).readBy []
    exact ht.ofTokens?_eq_error (.unopened n) rest

/-- An opening parenthesis is at fault where its group is the innermost one, its contents are read,
and neither an operator nor a closing parenthesis follows. -/
theorem ofTokens?_eq_unclosed_iff {opening : Token} :
    ofTokens? limit tokens = .error (.unclosed opening) ↔
      ∃ taken rest sum? term level groups depth, tokens = taken ++ rest ∧
        Takes limit (.start 0) taken ⟨.operator sum? term, ⟨opening, level⟩ :: groups, depth⟩ ∧
        ∀ u ∈ rest.head?, Reader.Begins u := by
  constructor
  · intro h
    rcases exists_of_ofTokens?_eq_error h with
      ⟨⟨expected, groups, depth⟩, last, -, ht, hfinish⟩ | ⟨taken, token, rest, r, rfl, ht, hr⟩
    · cases expected with
      | operator sum? term =>
        cases groups with
        | nil => exact nomatch hfinish
        | cons group groups =>
          obtain ⟨⟩ := hfinish
          exact ⟨tokens, [], _, _, _, _, _, (List.append_nil tokens).symm, ht, nofun⟩
      | operand | callOpening | callArgument | callClosing => exact nomatch hfinish
    · cases hr with
      | unclosed hbegins =>
        refine ⟨taken, token :: rest, _, _, _, _, _, rfl, ht, ?_⟩
        rintro _ ⟨⟩
        exact hbegins
  · rintro ⟨taken, rest, sum?, term, level, groups, depth, rfl, ht, hrest⟩
    cases rest with
    | cons token rest => exact ht.ofTokens?_eq_error (.unclosed (hrest token rfl)) rest
    | nil =>
      have hne : taken ≠ [] := by rintro rfl; exact nomatch ht
      rw [List.append_nil, ofTokens?_eq limit hne, ht.run]
      rfl

/-- Reading the tokens fails with the wording, and the token is underlined. -/
def Blames (tokens : List Token) (message : String) (t : Token) : Prop :=
  ∃ fault, read tokens = .error fault ∧
    fault.diagnostic = ⟨.syntaxError, message, some ⟨t.start, t.stop, some t.text⟩⟩

/-- What blames a token is a fault with the wording that underlines from the token on. -/
theorem Blames.exists_fault {message : String} {t : Token} (h : Blames tokens message t) :
    ∃ fault, read tokens = .error fault ∧ fault.message = message ∧ fault.span.start = t.start := by
  obtain ⟨fault, hread, hdiagnostic⟩ := h
  have hspan : fault.span = ⟨t.start, t.stop, some t.text⟩ :=
    Option.some.inj (congrArg Diagnostic.span hdiagnostic)
  exact ⟨fault, hread, congrArg Diagnostic.message hdiagnostic, congrArg Span.start hspan⟩

variable {i : Nat} {t : Token}

/-- **A closing parenthesis is blamed if what stands in front of it is a formula.** -/
theorem blames_closing_iff (hnodup : (tokens.map Token.start).Nodup) (hi : tokens[i]? = some t) :
    Blames tokens "Opening parenthesis not found" t ↔
      t.symbol? = some .closeParen ∧ ∃ tree, read (tokens.take i) = .ok (some tree) := by
  constructor
  · intro h
    obtain ⟨fault, hread, hmessage, hstart⟩ := h.exists_fault
    obtain ⟨closing, rfl⟩ := ReadFault.of_message.1 hmessage
    obtain ⟨taken, rest, tree, rfl, hclosing, htaken⟩ := ofTokens?_eq_unopened_iff.1 hread
    have hat : (taken ++ closing :: rest)[taken.length]? = some closing := by simp
    obtain rfl : i = taken.length := Token.index_eq_of_start_eq hnodup hi hat hstart.symm
    obtain rfl := Option.some.inj (hi.symm.trans hat)
    rw [List.take_left]
    exact ⟨hclosing, tree, htaken⟩
  · rintro ⟨hclosing, tree, hread⟩
    obtain ⟨hlt, rfl⟩ := List.getElem?_eq_some_iff.1 hi
    refine ⟨_, ofTokens?_eq_unopened_iff.2 ⟨_, tokens.drop (i + 1), tree, ?_, hclosing, hread⟩, rfl⟩
    rw [← List.drop_eq_getElem_cons hlt, List.take_append_drop]

/-- **An opening parenthesis is blamed if what it holds is complete and then goes on with neither an
operator nor a closing parenthesis.** -/
theorem blames_opening_iff (hnodup : (tokens.map Token.start).Nodup) (hi : tokens[i]? = some t) :
    Blames tokens "Closing parenthesis not found" t ↔
      t.symbol? = some .openParen ∧ ∃ j, i < j ∧ j ≤ tokens.length ∧
        (∃ n accepted tree, tokens.take j ++ [.symbol .closeParen n] <+: accepted ∧
          read accepted = .ok (some tree) ∧ ClosesGroup accepted i j) ∧
        ∀ u ∈ tokens[j]?, u.symbol? ≠ some .closeParen ∧ u.isOperator = false := by
  constructor
  · intro h
    obtain ⟨fault, hread, hmessage, hstart⟩ := h.exists_fault
    obtain ⟨opening, rfl⟩ := ReadFault.of_message.2 hmessage
    obtain ⟨taken, rest, sum?, term, level, groups, depth, rfl, ht, hrest⟩ :=
      ofTokens?_eq_unclosed_iff.1 hread
    obtain ⟨before, inner, m, rfl, rfl, hbefore, hinner⟩ := ht.exists_opening
    have hat : (before ++ .symbol .openParen m :: inner ++ rest)[before.length]? =
        some (.symbol .openParen m) := by simp
    obtain rfl : i = before.length := Token.index_eq_of_start_eq hnodup hi hat hstart.symm
    obtain rfl := Option.some.inj (hi.symm.trans hat)
    have hlength : (before ++ .symbol .openParen m :: inner).length =
        before.length + 1 + inner.length := by simp; omega
    -- with its closing parenthesis the group is complete, so the tokens can be led to an end
    obtain ⟨more, tree, haccepted⟩ := (ht.append (.single (.closing 0))).viable
    have hcloses : ClosesGroup
        (before ++ .symbol .openParen m :: (inner ++ .symbol .closeParen 0 :: more))
        before.length (before.length + 1 + inner.length) := .mk m 0 hbefore hinner
    refine ⟨rfl, before.length + 1 + inner.length, by omega, ?_,
      ⟨0, _, tree, ?_, haccepted, ?_⟩, ?_⟩
    · rw [List.length_append, hlength]
      exact Nat.le_add_right _ _
    · rw [← hlength, List.take_left]
      exact List.prefix_append _ _
    · simpa using hcloses
    · rw [← hlength, List.getElem?_append_right (Nat.le_refl _), Nat.sub_self,
        ← List.head?_eq_getElem?]
      exact fun u hu ↦ Reader.begins_iff.1 (hrest u hu)
  · rintro ⟨-, j, -, hj, ⟨n, accepted, tree, ⟨more, hprefix⟩, haccepted, hcloses⟩, hfollows⟩
    obtain ⟨m, sum?, term, level, groups, depth, hij, hopening, ht⟩ :=
      hcloses.exists_takes haccepted
    have hcut : accepted.take j = tokens.take j := by
      rw [← hprefix, List.append_assoc, List.take_left' (List.length_take_of_le hj)]
    have hat : tokens[i]? = some (.symbol .openParen m) := by
      rw [← hopening, ← List.getElem?_take_of_lt hij, ← hcut, List.getElem?_take_of_lt hij]
    obtain rfl := Option.some.inj (hi.symm.trans hat)
    rw [hcut] at ht
    refine ⟨_, ofTokens?_eq_unclosed_iff.2 ⟨tokens.take j, tokens.drop j, _, _, _, _, _,
      (List.take_append_drop j tokens).symm, ht, fun u hu ↦ ?_⟩, rfl⟩
    rw [List.head?_drop] at hu
    exact Reader.begins_iff.2 (hfollows u hu)

/-- **The parenthesis that is blamed.** In tokens that start at different places, as those of a text
do, a closing parenthesis is blamed exactly if the tokens in front of it are a formula. An opening
one is blamed exactly if some place behind it is such that a parenthesis there would close its group
in a formula, while neither that parenthesis nor an operator stands there. -/
theorem blamed_parentheses :
    (∀ formula tokens, Token.scan formula = .ok tokens → (tokens.map Token.start).Nodup) ∧
      ∀ tokens : List Token, (tokens.map Token.start).Nodup → ∀ i t, tokens[i]? = some t →
        (Blames tokens "Opening parenthesis not found" t ↔
          t.symbol? = some .closeParen ∧ ∃ tree, read (tokens.take i) = .ok (some tree)) ∧
        (Blames tokens "Closing parenthesis not found" t ↔
          t.symbol? = some .openParen ∧ ∃ j, i < j ∧ j ≤ tokens.length ∧
            (∃ n accepted tree, tokens.take j ++ [.symbol .closeParen n] <+: accepted ∧
              read accepted = .ok (some tree) ∧ ClosesGroup accepted i j) ∧
            ∀ u ∈ tokens[j]?, u.symbol? ≠ some .closeParen ∧ u.isOperator = false) :=
  ⟨fun _ _ h ↦ (Token.scan_eq_ok_iff_layout.1 h).nodup_start, fun _ hnodup _ _ hi ↦
    ⟨blames_closing_iff hnodup hi, blames_opening_iff hnodup hi⟩⟩

/-- The parentheses of a call are not taken for those of a group: the group around the call is
blamed where the call ends. Without the group there is one closing parenthesis too many. -/
theorem blamed_parentheses_around_call :
    (∃ tokens, Token.scan "(@A(1) 2" = .ok tokens ∧ (tokens.map Token.start).Nodup ∧
      tokens[0]? = some (.symbol .openParen 0) ∧
      Blames tokens "Closing parenthesis not found" (.symbol .openParen 0)) ∧
    ∃ tokens, Token.scan "@A(1))" = .ok tokens ∧ (tokens.map Token.start).Nodup ∧
      tokens[4]? = some (.symbol .closeParen 5) ∧
      Blames tokens "Opening parenthesis not found" (.symbol .closeParen 5) := by
  obtain ⟨hnodup, hblamed⟩ := blamed_parentheses
  have hscan : Token.scan "(@A(1) 2" = .ok [.symbol .openParen 0,
      .word ⟨.handle, "@A", 1, by decide⟩, .symbol .openParen 3, .word ⟨.number, "1", 4, by decide⟩,
      .symbol .closeParen 5, .word ⟨.number, "2", 7, by decide⟩] := by with_unfolding_all rfl
  have hscan' : Token.scan "@A(1))" = .ok [.word ⟨.handle, "@A", 0, by decide⟩,
      .symbol .openParen 2, .word ⟨.number, "1", 3, by decide⟩, .symbol .closeParen 4,
      .symbol .closeParen 5] := by with_unfolding_all rfl
  have hcall : Balanced [.word ⟨.handle, "@A", 1, by decide⟩, .symbol .openParen 3,
      .word ⟨.number, "1", 4, by decide⟩, .symbol .closeParen 5] :=
    .word_cons _ (.parentheses 3 5 (.word_cons _ .nil) .nil)
  have hcloses :
      ClosesGroup ([] ++ .symbol .openParen 0 :: (_ ++ .symbol .closeParen 6 :: [])) 0 5 :=
    .mk 0 6 (by simp [EndsInHandle]) hcall
  refine ⟨⟨_, hscan, hnodup _ _ hscan, rfl, ((hblamed _ (hnodup _ _ hscan) 0 _ rfl).2).2
    ⟨rfl, 5, by decide, by decide, ⟨6, _, _, List.prefix_rfl, rfl, hcloses⟩, ?_⟩⟩,
    ⟨_, hscan', hnodup _ _ hscan', rfl, ((hblamed _ (hnodup _ _ hscan') 4 _ rfl).1).2
      ⟨rfl, _, rfl⟩⟩⟩
  decide

end Tree

end StreamFormula
