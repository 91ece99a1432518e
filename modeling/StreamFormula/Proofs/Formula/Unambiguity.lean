import StreamFormula.Proofs.Formula.Brackets
import StreamFormula.Proofs.Formula.Failures

/-!
# Bracketed texts tell trees apart

The bracketed text of a tree determines it, provided that the leaves are spelled like words. It need
not be read again for that, and no tree is too deep: the text comes apart in one way only. The
character behind the opening bracket says what a node is (`NodeKind.ofLead`), a word ends at the
first character that no word has, and an operand ends where its own text does.

So the induction is about texts in front of any others: the bracketed texts are a code in which no
text begins with another one (`Tree.brackets_append_inj`).
-/

namespace StreamFormula

/-! ### Words -/

namespace WordKind.Spells

variable {kind kind' : WordKind} {text text' : String} {c : Char}

/-- The characters of a word begin words. -/
theorem notMem_of_ofFirst?_eq_none (h : kind.Spells text.toList) (hc : ofFirst? c = none) :
    c ∉ text.toList := by
  intro hmem
  rcases htext : text.toList with - | ⟨d, ds⟩
  · exact nomatch htext ▸ hmem
  · rw [htext] at hmem
    obtain ⟨hfirst, hcontinues⟩ := spells_cons_iff.1 (htext ▸ h)
    rcases List.mem_cons.1 hmem with rfl | hmem
    · exact nomatch hc.symm.trans hfirst
    · have hsome := isSome_ofFirst?_of_continues (hcontinues c hmem)
      rw [hc] at hsome
      exact nomatch hsome

/-- **A word ends where a character stands that no word has.** -/
theorem append_cons_inj (h : kind.Spells text.toList) (h' : kind'.Spells text'.toList)
    (hc : ofFirst? c = none) {rest rest' : List Char}
    (heq : text.toList ++ c :: rest = text'.toList ++ c :: rest') :
    text = text' ∧ rest = rest' := by
  have hsplit : ∀ {word : List Char} (tail : List Char), c ∉ word →
      (word ++ c :: tail).takeWhile (· != c) = word ∧
        (word ++ c :: tail).dropWhile (· != c) = c :: tail := by
    intro word tail hword
    have hne : ∀ d ∈ word, (d != c) = true := fun d hd ↦ by
      rw [bne_iff_ne]
      rintro rfl
      exact hword hd
    rw [List.takeWhile_append_of_pos hne, List.dropWhile_append_of_pos hne]
    simp
  obtain ⟨htake, hdrop⟩ := hsplit rest (h.notMem_of_ofFirst?_eq_none hc)
  obtain ⟨htake', hdrop'⟩ := hsplit rest' (h'.notMem_of_ofFirst?_eq_none hc)
  rw [heq] at htake hdrop
  exact ⟨String.toList_inj.1 (htake.symm.trans htake'),
    (List.cons.inj (hdrop.symm.trans hdrop')).2⟩

/-- So does a word in brackets. -/
theorem bracketed_inj (h : kind.Spells text.toList) (h' : kind'.Spells text'.toList)
    {rest rest' : List Char}
    (heq : '[' :: text.toList ++ [']'] ++ rest = '[' :: text'.toList ++ [']'] ++ rest') :
    text = text' ∧ rest = rest' := by
  have hinner : text.toList ++ ']' :: rest = text'.toList ++ ']' :: rest' := by
    simpa using heq
  exact h.append_cons_inj h' rfl hinner

end WordKind.Spells

/-! ### Operators -/

@[simp] theorem BinaryOp.char_symbol_inj {a b : BinaryOp} :
    a.symbol.char = b.symbol.char ↔ a = b :=
  ⟨by cases a <;> cases b <;> decide, fun h ↦ h ▸ rfl⟩

@[simp] theorem Sign.char_symbol_inj {a b : Sign} : a.symbol.char = b.symbol.char ↔ a = b :=
  ⟨by cases a <;> cases b <;> decide, fun h ↦ h ▸ rfl⟩

/-! ### Kinds of nodes -/

/-- What a node is. -/
inductive NodeKind where
  /-- A leaf that begins with a word of some kind. -/
  | leaf (first : WordKind)
  /-- A sign in front of its operand. -/
  | signed
  /-- An operator between its operands. -/
  | binary
  deriving DecidableEq

/-- What a node is that has this character behind its opening bracket. -/
def NodeKind.ofLead (lead : Char) : NodeKind :=
  match WordKind.ofFirst? lead with
  | some kind => leaf kind
  | none => if lead = '[' then binary else signed

/-- The first character of a word says of which kind it is. -/
theorem WordKind.Spells.exists_ofLead_eq {kind : WordKind} {text : String}
    (h : kind.Spells text.toList) :
    ∃ lead tail, text.toList = lead :: tail ∧ NodeKind.ofLead lead = .leaf kind := by
  rcases htext : text.toList with - | ⟨lead, tail⟩
  · rw [htext] at h
    exact (Bool.false_ne_true (WordKind.fits_iff_spells.2 h)).elim
  · obtain ⟨hfirst, -⟩ := WordKind.spells_cons_iff.1 (htext ▸ h)
    exact ⟨lead, tail, rfl, by rw [NodeKind.ofLead, hfirst]⟩

/-- What a leaf is. -/
def Atom.nodeKind : Atom → NodeKind
  | number _ => .leaf .number
  | stream _ => .leaf .stream
  | call _ _ => .leaf .handle

namespace Tree

/-- What the outermost node of a tree is. -/
def nodeKind : Tree → NodeKind
  | atom a => a.nodeKind
  | binary _ _ _ => .binary
  | signed _ _ => .signed

variable {a b t : Tree} {rest rest' : List Char}

theorem exists_brackets_eq_cons (t : Tree) : ∃ tail, t.brackets = '[' :: tail := by
  cases t with
  | atom a => cases a <;> exact ⟨_, rfl⟩
  | binary op l r => exact ⟨_, rfl⟩
  | signed s t => exact ⟨_, rfl⟩

/-- **The character behind the opening bracket says what a node is.** -/
theorem exists_brackets_eq (h : t.WellSpelled) :
    ∃ lead tail, t.brackets = '[' :: lead :: tail ∧ NodeKind.ofLead lead = t.nodeKind := by
  cases t with
  | atom a =>
    cases a with
    | number text | stream text | call text argument =>
      obtain ⟨lead, tail, htext, hlead⟩ := (h _ List.mem_cons_self).exists_ofLead_eq
      exact ⟨lead, _, by rw [brackets, Atom.brackets, htext]; rfl, hlead⟩
  | binary op l r =>
    obtain ⟨tail, hl⟩ := exists_brackets_eq_cons l
    exact ⟨'[', _, by rw [brackets, hl]; rfl, rfl⟩
  | signed s t => cases s <;> exact ⟨_, _, rfl, rfl⟩

/-- Texts that begin alike are of nodes of one kind. -/
theorem nodeKind_eq_of_brackets_append_eq (ha : a.WellSpelled) (hb : b.WellSpelled)
    (h : a.brackets ++ rest = b.brackets ++ rest') : a.nodeKind = b.nodeKind := by
  obtain ⟨lead, tail, htext, hlead⟩ := exists_brackets_eq ha
  obtain ⟨lead', tail', htext', hlead'⟩ := exists_brackets_eq hb
  rw [htext, htext'] at h
  obtain ⟨rfl, -⟩ := List.cons.inj (List.cons.inj h).2
  exact hlead.symm.trans hlead'

/-! ### Unique decomposition -/

/-- The brackets of leaves come apart in one way. -/
theorem brackets_append_inj_atom {x y : Atom} (hx : (atom x).WellSpelled)
    (hy : (atom y).WellSpelled) (h : x.brackets ++ rest = y.brackets ++ rest') :
    x = y ∧ rest = rest' := by
  have hkind : x.nodeKind = y.nodeKind := nodeKind_eq_of_brackets_append_eq hx hy h
  cases x with
  | number text =>
    cases y with
    | number text' =>
      obtain ⟨rfl, rfl⟩ := (hx _ List.mem_cons_self).bracketed_inj (hy _ List.mem_cons_self) h
      exact ⟨rfl, rfl⟩
    | stream _ | call _ _ => cases hkind
  | stream name =>
    cases y with
    | stream name' =>
      obtain ⟨rfl, rfl⟩ := (hx _ List.mem_cons_self).bracketed_inj (hy _ List.mem_cons_self) h
      exact ⟨rfl, rfl⟩
    | number _ | call _ _ => cases hkind
  | call handle argument =>
    cases y with
    | call handle' argument' =>
      obtain ⟨hhandle, hargument⟩ := List.forall_mem_cons.1 hx
      obtain ⟨hhandle', hargument'⟩ := List.forall_mem_cons.1 hy
      have htext : handle.toList ++ '(' :: '[' :: (argument.toList ++ ']' :: ')' :: ']' :: rest) =
          handle'.toList ++ '(' :: '[' :: (argument'.toList ++ ']' :: ')' :: ']' :: rest') := by
        simpa [Atom.brackets] using h
      obtain ⟨rfl, hopened⟩ := hhandle.append_cons_inj hhandle' rfl htext
      obtain ⟨-, hinner⟩ := List.cons.inj hopened
      obtain ⟨rfl, hclosed⟩ := (hargument _ (List.mem_singleton_self _)).append_cons_inj
        (hargument' _ (List.mem_singleton_self _)) rfl hinner
      exact ⟨rfl, (List.cons.inj (List.cons.inj hclosed).2).2⟩
    | number _ | stream _ => cases hkind

/-- **A bracketed text in front of any others is that of one tree**, and ends at one place. -/
theorem brackets_append_inj (ha : a.WellSpelled) (hb : b.WellSpelled)
    (h : a.brackets ++ rest = b.brackets ++ rest') : a = b ∧ rest = rest' := by
  induction a generalizing b rest rest' with
  | atom x =>
    have hkind := nodeKind_eq_of_brackets_append_eq ha hb h
    cases b with
    | atom y =>
      obtain ⟨rfl, rfl⟩ := brackets_append_inj_atom ha hb h
      exact ⟨rfl, rfl⟩
    | binary _ _ _ | signed _ _ => cases x <;> cases hkind
  | binary op l r ihl ihr =>
    have hkind := nodeKind_eq_of_brackets_append_eq ha hb h
    cases b with
    | binary op' l' r' =>
      obtain ⟨hl, hr⟩ := wellSpelled_binary.1 ha
      obtain ⟨hl', hr'⟩ := wellSpelled_binary.1 hb
      have hoperands : l.brackets ++ op.symbol.char :: (r.brackets ++ ']' :: rest) =
          l'.brackets ++ op'.symbol.char :: (r'.brackets ++ ']' :: rest') := by
        simpa [brackets] using h
      -- The left operand ends where the operator of this node stands, and not at one inside it.
      obtain ⟨rfl, hoperator⟩ := ihl hl hl' hoperands
      obtain ⟨hop, hright⟩ := List.cons.inj hoperator
      obtain ⟨rfl, hclosed⟩ := ihr hr hr' hright
      obtain rfl := BinaryOp.char_symbol_inj.1 hop
      exact ⟨rfl, (List.cons.inj hclosed).2⟩
    | atom y => cases y <;> cases hkind
    | signed _ _ => cases hkind
  | signed s t ih =>
    have hkind := nodeKind_eq_of_brackets_append_eq ha hb h
    cases b with
    | signed s' t' =>
      have hoperand : s.symbol.char :: (t.brackets ++ ']' :: rest) =
          s'.symbol.char :: (t'.brackets ++ ']' :: rest') := by
        simpa [brackets] using h
      obtain ⟨hsign, hinner⟩ := List.cons.inj hoperand
      obtain ⟨rfl, hclosed⟩ := ih ha (show t'.WellSpelled from hb) hinner
      obtain rfl := Sign.char_symbol_inj.1 hsign
      exact ⟨rfl, (List.cons.inj hclosed).2⟩
    | atom y => cases y <;> cases hkind
    | binary _ _ _ => cases hkind

/-- What compiles is spelled like words. -/
theorem wellSpelled_of_compile {s : Settings} {formula : String}
    (h : Formula.compile s formula = .ok (some t)) : t.WellSpelled := by
  intro word hword
  obtain ⟨x, hx, hword⟩ := mem_words.1 hword
  exact (Formula.admitted_of_compile h x hx word hword).1

/-- **The bracketed text of a tree determines it.** Two trees whose leaves are spelled like words
are equal if their texts are, and the trees that formulas compile to are spelled in that way. -/
theorem text_eq_iff_of_wellSpelled :
    (∀ a b : Tree, a.WellSpelled → b.WellSpelled → (a.text = b.text ↔ a = b)) ∧
      ∀ s formula t, Formula.compile s formula = .ok (some t) → t.WellSpelled := by
  refine ⟨fun a b ha hb ↦ ⟨fun h ↦ ?_, congrArg text⟩, fun s formula t ↦ wellSpelled_of_compile⟩
  have hbrackets : a.brackets ++ [] = b.brackets ++ [] := by
    rw [← toList_text, ← toList_text, h]
  exact (brackets_append_inj ha hb hbrackets).1

/-- A difference and a sign behind another one stay apart, and a formula compiles to the former. -/
theorem text_ne_of_difference :
    Formula.compile ⟨[.oil]⟩ "-.-@FPD(1)" =
        .ok (some (binary .subtract (signed .minus (atom (.number ".")))
          (atom (.call "@FPD" "1")))) ∧
      (binary .subtract (signed .minus (atom (.number "."))) (atom (.call "@FPD" "1"))).text ≠
        (signed .minus (binary .subtract (atom (.number ".")) (atom (.call "@FPD" "1")))).text := by
  obtain ⟨htext, hspelled⟩ := text_eq_iff_of_wellSpelled
  have hcompile : Formula.compile ⟨[.oil]⟩ "-.-@FPD(1)" =
      .ok (some (binary .subtract (signed .minus (atom (.number ".")))
        (atom (.call "@FPD" "1")))) := by
    with_unfolding_all rfl
  refine ⟨hcompile, fun h ↦ ?_⟩
  have heq := (htext _ _ (hspelled _ _ _ hcompile) (by decide)).1 h
  exact nomatch heq

/-- Leaves that are no words can make up for an operator. -/
example : (atom (.number "[1]+[2]")).text =
    (binary .add (atom (.number "1")) (atom (.number "2"))).text := by decide

end Tree

end StreamFormula
