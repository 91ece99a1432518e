import StreamFormula.Proofs.Formula.Composition
import StreamFormula.Proofs.Reader.Contents
import StreamFormula.Proofs.Reader.Limit

/-!
# The bracketed text of a tree as a formula

The bracketed text of a tree says everything about it, and with parentheses in the place of brackets
it is nearly a formula: only the argument of a call may not be in parentheses of its own. Without
those brackets (`dropCallBrackets`) it is one, and it is read as the tree again, as far as the limit
permits (`Tree.read_formula`). So every tree up to that depth is the tree of some formula.

Brackets around every node make the formula one of parenthesised parts. `Tree.plain` says so, with
the outermost parentheses left out: that the text is respelled as `plain` in parentheses
(`Tree.formula_eq`) is about characters alone, and what `plain` is read to
(`Tree.exists_scan_plain`) puts trees together as their nodes do.
-/

namespace StreamFormula

/-! ### Parentheses for brackets -/

/-- The characters without the brackets that stand right inside parentheses: an opening one behind
`(`, or a closing one in front of `)`. `previous?` is the character in front of them all. -/
def dropCallBrackets : Option Char → List Char → List Char
  | _, [] => []
  | previous?, c :: cs =>
    if (c = '[' ∧ previous? = some '(') ∨ (c = ']' ∧ cs.head? = some ')') then
      dropCallBrackets (some c) cs
    else c :: dropCallBrackets (some c) cs

/-- A parenthesis in the place of a bracket. -/
def roundBracket (c : Char) : Char := if c = '[' then '(' else if c = ']' then ')' else c

/-- The characters with parentheses for brackets, and without those around arguments. -/
def respell (previous? : Option Char) (cs : List Char) : List Char :=
  (dropCallBrackets previous? cs).map roundBracket

/-- The bracketed text of a tree, respelled as a formula. -/
def Tree.formula (t : Tree) : String := String.ofList (respell none t.text.toList)

section Respell

variable {previous? : Option Char} {cs rest : List Char} {c : Char}

theorem respell_cons (hopening : c ≠ '[') (hclosing : c ≠ ']') :
    respell previous? (c :: cs) = c :: respell (some c) cs := by
  simp [respell, dropCallBrackets, roundBracket, hopening, hclosing]

theorem respell_opening (h : previous? ≠ some '(') :
    respell previous? ('[' :: cs) = '(' :: respell (some '[') cs := by
  simp [respell, dropCallBrackets, roundBracket, h]

theorem respell_closing (h : cs.head? ≠ some ')') :
    respell previous? (']' :: cs) = ')' :: respell (some ']') cs := by
  simp [respell, dropCallBrackets, roundBracket, h]

theorem respell_argument_opening :
    respell previous? ('(' :: '[' :: cs) = '(' :: respell (some '[') cs := by
  simp [respell, dropCallBrackets, roundBracket]

theorem respell_argument_closing :
    respell previous? (']' :: ')' :: cs) = ')' :: respell (some ')') cs := by
  simp [respell, dropCallBrackets, roundBracket]

/-- Legal characters are no brackets. -/
theorem exists_respell_append (h : ∀ c ∈ cs, isLegal c = true) (previous? : Option Char)
    (rest : List Char) : ∃ last?, respell previous? (cs ++ rest) = cs ++ respell last? rest := by
  induction cs generalizing previous? with
  | nil => exact ⟨previous?, rfl⟩
  | cons c cs ih =>
    obtain ⟨hc, hcs⟩ := List.forall_mem_cons.1 h
    have hopening : c ≠ '[' := by rintro rfl; exact absurd hc (by decide)
    have hclosing : c ≠ ']' := by rintro rfl; exact absurd hc (by decide)
    obtain ⟨last?, hlast⟩ := ih hcs (some c)
    refine ⟨last?, ?_⟩
    rw [List.cons_append, respell_cons hopening hclosing, hlast, List.cons_append]

end Respell

/-! ### Words -/

/-- A text that fits a kind of word is scanned as one. -/
theorem WordKind.Spells.exists_scan {kind : WordKind} {text : String}
    (h : kind.Spells text.toList) :
    ∃ w : Word, w.kind = kind ∧ w.text = text ∧ Token.scan text = .ok [.word w] := by
  have hne : text ≠ "" := by
    rintro rfl
    exact Bool.false_ne_true (fits_iff_spells.2 h)
  have hfits : ∀ t ∈ [Token.word ⟨kind, text, 0, hne⟩], t.Fits := List.forall_mem_singleton.2 h
  have hscan := Token.scan_render hfits
  rw [Token.render, List.map_singleton, String.intercalate_singleton] at hscan
  exact ⟨⟨kind, text, 0, hne⟩, rfl, rfl, hscan⟩

theorem WordKind.Spells.isLegal {kind : WordKind} {text : String} (h : kind.Spells text.toList) :
    ∀ c ∈ text.toList, StreamFormula.isLegal c = true := by
  obtain ⟨w, rfl, rfl, -⟩ := h.exists_scan
  exact fun c hc ↦ Token.isLegal_of_mem_text (t := .word w) h hc

/-! ### Trees -/

/-- The formula of a leaf, as it is read. -/
def Atom.plain : Atom → String
  | number text | stream text => text
  | call handle argument => handle ++ "(" ++ argument ++ ")"

namespace Tree

open Formula (parenthesize)

/-- The formula of a tree, every node in parentheses but the outermost. -/
def plain : Tree → String
  | atom a => a.plain
  | binary op left right => parenthesize left.plain ++ op.symbol.text ++ parenthesize right.plain
  | signed sign operand => sign.symbol.text ++ parenthesize operand.plain

/-- How deep the parentheses of the formula of a tree are, those around all of it included. A sign
counts as well as the parentheses behind it, and those of a call do not count. -/
def depth : Tree → Nat
  | atom _ => 1
  | binary _ left right => 1 + max left.depth right.depth
  | signed _ operand => 2 + operand.depth

/-- The texts of all leaves are such as a scanner reads. -/
def WellSpelled (t : Tree) : Prop := ∀ word ∈ t.words, word.1.Spells word.2.toList

instance (t : Tree) : Decidable t.WellSpelled :=
  inferInstanceAs (Decidable (∀ word ∈ t.words, word.1.Spells word.2.toList))

theorem wellSpelled_binary {op : BinaryOp} {l r : Tree} :
    (binary op l r).WellSpelled ↔ l.WellSpelled ∧ r.WellSpelled := by
  rw [WellSpelled, words_binary]
  exact List.forall_mem_append

variable {t : Tree}

/-- A leaf in brackets is its formula in parentheses. -/
theorem respell_atom {a : Atom} (h : (atom a).WellSpelled) {previous? : Option Char}
    {rest : List Char} (hprevious : previous? ≠ some '(') (hrest : rest.head? ≠ some ')') :
    respell previous? (a.brackets ++ rest) =
      (parenthesize a.plain).toList ++ respell (some ']') rest := by
  cases a with
  | number text | stream text =>
    have htext := (h _ (List.mem_singleton_self _)).isLegal
    obtain ⟨last?, hlast⟩ := exists_respell_append htext (some '[') (']' :: rest)
    rw [Atom.brackets, List.cons_append, List.cons_append, List.append_assoc,
      List.singleton_append, respell_opening hprevious, hlast, respell_closing hrest]
    simp [Atom.plain, parenthesize]
  | call handle argument =>
    obtain ⟨hhandle, hargument⟩ := List.forall_mem_cons.1 h
    have hargument := hargument _ (List.mem_singleton_self _)
    have hbrackets : (Atom.call handle argument).brackets ++ rest =
        '[' :: (handle.toList ++ '(' :: '[' :: (argument.toList ++ ']' :: ')' :: ']' :: rest)) := by
      simp [Atom.brackets]
    obtain ⟨handleLast?, hlast⟩ := exists_respell_append hhandle.isLegal (some '[')
      ('(' :: '[' :: (argument.toList ++ ']' :: ')' :: ']' :: rest))
    obtain ⟨argumentLast?, hlast'⟩ := exists_respell_append hargument.isLegal (some '[')
      (']' :: ')' :: ']' :: rest)
    rw [hbrackets, respell_opening hprevious, hlast, respell_argument_opening, hlast',
      respell_argument_closing, respell_closing hrest]
    simp [Atom.plain, parenthesize]

/-- **A tree in brackets is its formula in parentheses**, unless it stands in a call. -/
theorem respell_brackets (h : t.WellSpelled) {previous? : Option Char}
    {rest : List Char} (hprevious : previous? ≠ some '(') (hrest : rest.head? ≠ some ')') :
    respell previous? (t.brackets ++ rest) =
      (parenthesize t.plain).toList ++ respell (some ']') rest := by
  induction t generalizing previous? rest with
  | atom a => exact respell_atom h hprevious hrest
  | binary op l r ihl ihr =>
    obtain ⟨hl, hr⟩ := wellSpelled_binary.1 h
    have hoperator : op.symbol.char ≠ '[' ∧ op.symbol.char ≠ ']' ∧ op.symbol.char ≠ '(' ∧
        op.symbol.char ≠ ')' := by cases op <;> decide
    obtain ⟨hopening, hclosing, hopen, hclose⟩ := hoperator
    have htext : (binary op l r).brackets ++ rest =
        '[' :: (l.brackets ++ op.symbol.char :: (r.brackets ++ ']' :: rest)) := by
      simp [brackets]
    rw [htext, respell_opening hprevious, ihl hl (by simp) (by simpa using hclose),
      respell_cons hopening hclosing, ihr hr (by simpa using hopen) (by simp),
      respell_closing hrest]
    simp [plain, parenthesize]
  | signed s t ih =>
    have hsign : s.symbol.char ≠ '[' ∧ s.symbol.char ≠ ']' ∧ s.symbol.char ≠ '(' := by
      cases s <;> decide
    obtain ⟨hopening, hclosing, hopen⟩ := hsign
    have htext : (signed s t).brackets ++ rest =
        '[' :: s.symbol.char :: (t.brackets ++ ']' :: rest) := by
      simp [brackets]
    rw [htext, respell_opening hprevious, respell_cons hopening hclosing,
      ih h (by simpa using hopen) (by simp), respell_closing hrest]
    simp [plain, parenthesize]

/-- The formula of a tree is the one that it is read as, in parentheses. -/
theorem formula_eq (h : t.WellSpelled) : t.formula = parenthesize t.plain := by
  have hprevious : (none : Option Char) ≠ some '(' := nofun
  have hrest : ([] : List Char).head? ≠ some ')' := nofun
  have hrespell := respell_brackets h hprevious hrest
  rw [List.append_nil] at hrespell
  rw [formula, toList_text, hrespell]
  simp [respell, dropCallBrackets]

/-- Calls are the only parentheses in a bracketed text, and only their arguments lose brackets. -/
example : (signed .minus (binary .add (atom (.stream "A")) (atom (.call "@F" "1")))).formula =
    "(-((A)+(@F(1))))" := by decide

/-! ### Reading -/

/-- A word that is a leaf by itself is read as that leaf. -/
theorem readTo_of_step {w : Word} {a : Atom}
    (hs : Reader.Step none (Reader.start 0) (.word w) (Reader.factor .empty [] 0 (.atom a))) :
    ReadTo [.word w] (.atom a) 0 := by
  refine ⟨none, .atom a, rfl, .single hs, ?_⟩
  rw [hs.peak_cons]
  rfl

theorem readTo_call {handle argument : Word} (hhandle : handle.kind = .handle)
    (hargument : argument.kind = .number) (m n : Nat) :
    ReadTo [.word handle, .symbol .openParen m, .word argument, .symbol .closeParen n]
      (.atom (.call handle.text argument.text)) 0 := by
  obtain ⟨htakes, hpeak⟩ := Reader.takes_call .empty none [] 0 hhandle hargument m n
  exact ⟨none, _, rfl, htakes, hpeak⟩

/-- **The formula of a leaf is read as the leaf.** -/
theorem exists_scan_atom {a : Atom} (h : (atom a).WellSpelled) :
    ∃ tokens, Token.scan a.plain = .ok tokens ∧ ReadTo tokens (atom a) 0 := by
  cases a with
  | number text =>
    obtain ⟨w, hkind, rfl, hscan⟩ := (h _ (List.mem_singleton_self _)).exists_scan
    exact ⟨_, hscan, readTo_of_step (.number w hkind)⟩
  | stream name =>
    obtain ⟨w, hkind, rfl, hscan⟩ := (h _ (List.mem_singleton_self _)).exists_scan
    exact ⟨_, hscan, readTo_of_step (.stream w hkind)⟩
  | call handle argument =>
    obtain ⟨hhandle, hargument⟩ := List.forall_mem_cons.1 h
    obtain ⟨v, hv, rfl, hscanv⟩ := hhandle.exists_scan
    obtain ⟨w, hw, rfl, hscanw⟩ := (hargument _ (List.mem_singleton_self _)).exists_scan
    obtain ⟨opened, hopened, hshape⟩ := Token.exists_scan_append_symbol hscanv .openParen hscanw
    obtain ⟨closed, hclosed, hshape'⟩ :=
      Token.exists_scan_append_symbol hopened .closeParen Token.scan_empty
    rw [String.append_empty] at hclosed
    refine ⟨closed, hclosed, (readTo_call hv hw 0 0).of_shapes ?_⟩
    rw [hshape', hshape]
    rfl

/-- **The formula of a tree is read as the tree**, one level less deep than in parentheses. -/
theorem exists_scan_plain (h : t.WellSpelled) :
    ∃ tokens depth, Token.scan t.plain = .ok tokens ∧ ReadTo tokens t depth ∧
      depth + 1 = t.depth := by
  induction t with
  | atom a =>
    obtain ⟨tokens, hscan, hread⟩ := exists_scan_atom h
    exact ⟨tokens, 0, hscan, hread, rfl⟩
  | binary op l r ihl ihr =>
    obtain ⟨hl, hr⟩ := wellSpelled_binary.1 h
    obtain ⟨ts, p, hscanl, hreadl, hp⟩ := ihl hl
    obtain ⟨us, q, hscanr, hreadr, hq⟩ := ihr hr
    obtain ⟨tokens, hscan, hshape⟩ := Formula.exists_scan_binary hscanl op hscanr
    refine ⟨tokens, max p q + 1, hscan, (hreadl.binary hreadr op 0 0 0 0 0).of_shapes hshape, ?_⟩
    rw [depth, ← hp, ← hq]
    omega
  | signed s t ih =>
    obtain ⟨ts, p, hscant, hreadt, hp⟩ := ih h
    obtain ⟨tokens, hscan, hshape⟩ := Formula.exists_scan_signed s hscant
    refine ⟨tokens, p + 2, hscan, (hreadt.signed s 0 0 0).of_shapes hshape, ?_⟩
    rw [depth, ← hp]
    omega

/-- **The bracketed text of a tree can be read again.** Let the leaves of the tree be spelled like
words. Its text, with parentheses for brackets and without those around arguments, is scanned, and
the tokens are read as the tree up to a depth of 256, and as too deep beyond that. -/
theorem read_formula (h : t.WellSpelled) :
    ∃ tokens, Token.scan t.formula = .ok tokens ∧
      (t.depth ≤ 256 → Tree.read tokens = .ok (some t)) ∧
      (256 < t.depth → ∃ fault span, Tree.read tokens = .error fault ∧
        fault.diagnostic = ⟨.syntaxError, "Formula is nested too deeply", some span⟩) := by
  obtain ⟨ts, p, hplain, hread, hp⟩ := exists_scan_plain h
  obtain ⟨tokens, hscan, hshape⟩ := Formula.exists_scan_parenthesize hplain
  have hformula : ReadTo tokens t t.depth := hp ▸ (hread.group 0 0).of_shapes hshape
  obtain ⟨hlow, hhigh⟩ := hformula.ofTokens?_eq nestingLimit
  refine ⟨tokens, formula_eq h ▸ hscan, hlow, fun hlt ↦ ?_⟩
  obtain ⟨token, htoken⟩ := hhigh hlt
  exact ⟨.tooDeep token, token.span, htoken, rfl⟩

/-- A call behind 127 signs in an operand is as deep as can be, and behind 128 it is too deep. -/
theorem read_formula_signs :
    (∃ tokens, Token.scan (binary .add (atom (.stream "Oil"))
        ((signed .minus)^[127] (atom (.call "@FPD" "1")))).formula = .ok tokens ∧
      Tree.read tokens = .ok (some (binary .add (atom (.stream "Oil"))
        ((signed .minus)^[127] (atom (.call "@FPD" "1")))))) ∧
      ∃ tokens fault span,
        Token.scan ((signed .minus)^[128] (atom (.call "@FPD" "1"))).formula = .ok tokens ∧
        Tree.read tokens = .error fault ∧
        fault.diagnostic = ⟨.syntaxError, "Formula is nested too deeply", some span⟩ := by
  have hcall : (atom (.call "@FPD" "1")).WellSpelled := by decide
  have hsigns : ∀ n, ((signed .minus)^[n] (atom (.call "@FPD" "1"))).WellSpelled ∧
      ((signed .minus)^[n] (atom (.call "@FPD" "1"))).depth = 1 + 2 * n := by
    intro n
    induction n with
    | zero => exact ⟨hcall, rfl⟩
    | succ n ih =>
      rw [Function.iterate_succ_apply']
      refine ⟨ih.1, ?_⟩
      rw [depth, ih.2]
      omega
  obtain ⟨hspelled, hdepth⟩ := hsigns 127
  obtain ⟨hspelled', hdepth'⟩ := hsigns 128
  have hsum : (binary .add (atom (.stream "Oil"))
      ((signed .minus)^[127] (atom (.call "@FPD" "1")))).WellSpelled :=
    wellSpelled_binary.2 ⟨by decide, hspelled⟩
  obtain ⟨ts, hscan, hlow, -⟩ := read_formula hsum
  obtain ⟨us, hscan', -, hhigh⟩ := read_formula hspelled'
  obtain ⟨fault, span, hread, hdiagnostic⟩ := hhigh (by omega)
  refine ⟨⟨ts, hscan, hlow ?_⟩, us, fault, span, hscan', hread, hdiagnostic⟩
  rw [depth, hdepth]
  decide

end Tree

end StreamFormula
