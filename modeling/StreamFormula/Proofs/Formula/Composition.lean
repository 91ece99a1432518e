import Mathlib.Logic.Function.Iterate
import StreamFormula.Proofs.Formula.Alike
import StreamFormula.Proofs.Reader.Composition
import StreamFormula.Proofs.Text.Concatenation

/-!
# Formulas made of parenthesised formulas

Parentheses around a formula keep it together: the text of a formula in parentheses, of two around
an operator, or of one behind a sign compiles to the trees of the formulas put together in the same
way, as long as that does not nest too deeply (`Formula.compile_parenthesized`).

Nothing but depth can go wrong, so the three laws are about formulas up to the limit.
`Formula.ReadsTo` says that all of a formula's tokens are admitted and that without a limit they are
read as a tree, to some depth. Parentheses, operators and signs keep that, with a depth that can be
computed, and compiling compares the depth to the limit (`Formula.ReadsTo.compile_eq`).
-/

namespace StreamFormula

/-- Tokens of the same shapes are read as the same tree, and get as deep. -/
theorem Tree.ReadTo.of_shapes {tokens tokens' : List Token} {t : Tree} {p : Nat}
    (h : ReadTo tokens t p) (hshape : tokens.map Token.shape = tokens'.map Token.shape) :
    ReadTo tokens' t p :=
  h.corresponds Token.sameKind_of_shape_eq Token.text_eq_of_shape_eq
    (Token.forall₂_shape_iff.2 hshape)

namespace Formula

/-- How deep the reading of a formula gets. -/
def nesting (formula : String) : Nat :=
  match Token.scan formula with
  | .ok tokens => (Reader.start 0).peak (some nestingLimit) tokens
  | .error _ => 0

/-- The text of a formula in parentheses. -/
def parenthesize (formula : String) : String := "(" ++ formula ++ ")"

/-- Compiling fails, and the complaint is that the formula is nested too deeply. -/
def TooDeep (s : Settings) (formula : String) : Prop :=
  ∃ fault span, compile s formula = .error fault ∧
    fault.failure = .diagnostic ⟨.syntaxError, "Formula is nested too deeply", some span⟩

/-- The formula's tokens are admitted, and without a limit they are read as the tree, to this
depth. -/
def ReadsTo (s : Settings) (formula : String) (t : Tree) (depth : Nat) : Prop :=
  ∃ tokens, Token.scan formula = .ok tokens ∧
    (∀ token ∈ tokens, token.refusal? s.vocabulary = none) ∧ Tree.ReadTo tokens t depth

variable {s : Settings} {f g formula : String} {t a b : Tree} {p q : Nat}

/-- What compiles to a tree is right up to the limit, too. -/
theorem readsTo_of_compile_eq_ok (h : compile s f = .ok (some t)) : ReadsTo s f t (nesting f) := by
  obtain ⟨tokens, hscan, hadmitted, hread⟩ := compile_eq_ok_iff.1 h
  refine ⟨tokens, hscan, hadmitted, ?_⟩
  rw [nesting, hscan]
  exact Tree.readTo_of_ofTokens?_eq_ok hread

/-- **A formula that is right up to the limit compiles, or it is nested too deeply.** -/
theorem ReadsTo.compile_eq (h : ReadsTo s f t p) :
    (p ≤ nestingLimit → compile s f = .ok (some t)) ∧ (nestingLimit < p → TooDeep s f) := by
  obtain ⟨tokens, hscan, hadmitted, hread⟩ := h
  obtain ⟨hlow, hhigh⟩ := hread.ofTokens?_eq nestingLimit
  refine ⟨fun hle ↦ compile_eq_ok_iff.2 ⟨tokens, hscan, hadmitted, hlow hle⟩, fun hlt ↦ ?_⟩
  obtain ⟨token, htoken⟩ := hhigh hlt
  refine ⟨.misread (.tooDeep token), token.span, compile_eq_error_iff.2 (.inr ?_), rfl⟩
  exact ⟨tokens, hscan, .inr ⟨_, Vocabulary.firstRefused?_eq_none_iff.2 hadmitted, htoken, rfl⟩⟩

/-- The depth of a formula that is right is its nesting, unless the limit cuts it off. -/
theorem ReadsTo.nesting_eq (h : ReadsTo s f t p) (hp : p ≤ nestingLimit) : nesting f = p := by
  obtain ⟨tokens, hscan, -, sum?, term, -, ht, rfl⟩ := h
  rw [nesting, hscan, (ht.limited hp).peak_unlimited]

/-! ### Putting formulas together -/

/-- Only the shapes of tokens matter for what is admitted, too. -/
theorem ReadsTo.of_shapes {tokens tokens' : List Token} (hscan : Token.scan formula = .ok tokens')
    (hshape : tokens.map Token.shape = tokens'.map Token.shape)
    (hadmitted : ∀ token ∈ tokens, token.refusal? s.vocabulary = none)
    (hread : Tree.ReadTo tokens t p) : ReadsTo s formula t p := by
  refine ⟨tokens', hscan, Vocabulary.firstRefused?_eq_none_iff.1 ?_, hread.of_shapes hshape⟩
  have hrefused := s.vocabulary.firstRefused?_alike hshape
  rw [Vocabulary.firstRefused?_eq_none_iff.2 hadmitted] at hrefused
  generalize s.vocabulary.firstRefused? tokens' = refused? at hrefused
  cases hrefused
  rfl

/-- The tokens of a formula in parentheses, but for their offsets. -/
theorem exists_scan_parenthesize {tokens : List Token} (h : Token.scan f = .ok tokens) :
    ∃ tokens', Token.scan (parenthesize f) = .ok tokens' ∧
      (Token.symbol .openParen 0 :: tokens ++ [Token.symbol .closeParen 0]).map Token.shape =
        tokens'.map Token.shape := by
  obtain ⟨opened, hopened, hshape⟩ := Token.exists_scan_append_symbol Token.scan_empty .openParen h
  obtain ⟨closed, hclosed, hshape'⟩ :=
    Token.exists_scan_append_symbol hopened .closeParen Token.scan_empty
  have htext : "" ++ Symbol.openParen.text ++ f ++ Symbol.closeParen.text ++ "" =
      parenthesize f := by
    rw [String.empty_append, String.append_empty]
    rfl
  rw [htext] at hclosed
  refine ⟨closed, hclosed, ?_⟩
  rw [hshape', hshape, List.map_append]
  rfl

/-- The tokens of two formulas in parentheses around an operator, but for their offsets. -/
theorem exists_scan_binary {ts us : List Token} (hf : Token.scan f = .ok ts) (op : BinaryOp)
    (hg : Token.scan g = .ok us) :
    ∃ tokens, Token.scan (parenthesize f ++ op.symbol.text ++ parenthesize g) = .ok tokens ∧
      ((Token.symbol .openParen 0 :: ts ++ [Token.symbol .closeParen 0]) ++
        Token.symbol op.symbol 0 ::
          (Token.symbol .openParen 0 :: us ++ [Token.symbol .closeParen 0])).map Token.shape =
        tokens.map Token.shape := by
  obtain ⟨ts', hf', hshapef⟩ := exists_scan_parenthesize hf
  obtain ⟨us', hg', hshapeg⟩ := exists_scan_parenthesize hg
  obtain ⟨tokens, hscan, hshape⟩ := Token.exists_scan_append_symbol hf' op.symbol hg'
  refine ⟨tokens, hscan, ?_⟩
  rw [hshape, ← hshapef, ← hshapeg, List.map_append]
  rfl

/-- The tokens of a formula in parentheses behind a sign, but for their offsets. -/
theorem exists_scan_signed {tokens : List Token} (sign : Sign) (h : Token.scan f = .ok tokens) :
    ∃ tokens', Token.scan (sign.symbol.text ++ parenthesize f) = .ok tokens' ∧
      (Token.symbol sign.symbol 0 ::
        (Token.symbol .openParen 0 :: tokens ++ [Token.symbol .closeParen 0])).map Token.shape =
        tokens'.map Token.shape := by
  obtain ⟨grouped, hgrouped, hshape⟩ := exists_scan_parenthesize h
  obtain ⟨tokens', hscan, hshape'⟩ :=
    Token.exists_scan_append_symbol Token.scan_empty sign.symbol hgrouped
  rw [String.empty_append] at hscan
  refine ⟨tokens', hscan, ?_⟩
  rw [hshape', ← hshape]
  rfl

/-- Symbols are always admitted, so parentheses are admitted with what they contain. -/
theorem refusal?_parenthesized {v : Vocabulary} {tokens : List Token}
    (h : ∀ token ∈ tokens, token.refusal? v = none) :
    ∀ token ∈ Token.symbol .openParen 0 :: tokens ++ [Token.symbol .closeParen 0],
      token.refusal? v = none :=
  List.forall_mem_cons.2 ⟨rfl, List.forall_mem_append.2 ⟨h, List.forall_mem_singleton.2 rfl⟩⟩

/-- A formula in parentheses is one deeper. -/
theorem ReadsTo.parenthesize (h : ReadsTo s f t p) : ReadsTo s (parenthesize f) t (p + 1) := by
  obtain ⟨tokens, hscan, hadmitted, hread⟩ := h
  obtain ⟨tokens', hscan', hshape⟩ := exists_scan_parenthesize hscan
  exact .of_shapes hscan' hshape (refusal?_parenthesized hadmitted) (hread.group 0 0)

/-- Each of any number of parentheses is one deeper. -/
theorem ReadsTo.iterate_parenthesize (h : ReadsTo s f t p) (n : Nat) :
    ReadsTo s (Formula.parenthesize^[n] f) t (p + n) := by
  induction n with
  | zero => exact h
  | succ n ih =>
    rw [Function.iterate_succ_apply']
    exact ih.parenthesize

/-- Two formulas in parentheses, around an operator, are one deeper than the deeper of the two. -/
theorem ReadsTo.binary (hf : ReadsTo s f a p) (hg : ReadsTo s g b q) (op : BinaryOp) :
    ReadsTo s (Formula.parenthesize f ++ op.symbol.text ++ Formula.parenthesize g) (.binary op a b)
      (max p q + 1) := by
  obtain ⟨ts, hscanf, hadmittedf, hreadf⟩ := hf
  obtain ⟨us, hscang, hadmittedg, hreadg⟩ := hg
  obtain ⟨tokens, hscan, hshape⟩ := exists_scan_binary hscanf op hscang
  refine .of_shapes hscan hshape ?_ (hreadf.binary hreadg op 0 0 0 0 0)
  exact List.forall_mem_append.2 ⟨refusal?_parenthesized hadmittedf,
    List.forall_mem_cons.2 ⟨rfl, refusal?_parenthesized hadmittedg⟩⟩

/-- A sign in front of the parentheses is one more. -/
theorem ReadsTo.signed (h : ReadsTo s f t p) (sign : Sign) :
    ReadsTo s (sign.symbol.text ++ Formula.parenthesize f) (.signed sign t) (p + 2) := by
  obtain ⟨tokens, hscan, hadmitted, hread⟩ := h
  obtain ⟨tokens', hscan', hshape⟩ := exists_scan_signed sign hscan
  refine .of_shapes hscan' hshape ?_ (hread.signed sign 0 0 0)
  exact List.forall_mem_cons.2 ⟨rfl, refusal?_parenthesized hadmitted⟩

/-- **Formulas in parentheses are put together as their trees are**, up to the limit of depth, and
beyond it they are nested too deeply. -/
theorem compile_parenthesized (hf : compile s f = .ok (some a)) (hg : compile s g = .ok (some b)) :
    ((nesting f ≤ 255 → compile s (parenthesize f) = .ok (some a)) ∧
      (255 < nesting f → TooDeep s (parenthesize f))) ∧
    (∀ op : BinaryOp,
      (nesting f ≤ 255 → nesting g ≤ 255 →
        compile s (parenthesize f ++ op.symbol.text ++ parenthesize g) =
          .ok (some (.binary op a b))) ∧
      (255 < nesting f ∨ 255 < nesting g →
        TooDeep s (parenthesize f ++ op.symbol.text ++ parenthesize g))) ∧
    ∀ sign : Sign,
      (nesting f ≤ 254 →
        compile s (sign.symbol.text ++ parenthesize f) = .ok (some (.signed sign a))) ∧
      (254 < nesting f → TooDeep s (sign.symbol.text ++ parenthesize f)) := by
  have hf' := readsTo_of_compile_eq_ok hf
  have hg' := readsTo_of_compile_eq_ok hg
  have hlimit : nestingLimit = 256 := rfl
  refine ⟨?_, fun op ↦ ?_, fun sign ↦ ?_⟩
  · obtain ⟨hlow, hhigh⟩ := hf'.parenthesize.compile_eq
    exact ⟨fun hle ↦ hlow (by omega), fun hlt ↦ hhigh (by omega)⟩
  · obtain ⟨hlow, hhigh⟩ := (hf'.binary hg' op).compile_eq
    exact ⟨fun hle hle' ↦ hlow (by omega), fun hlt ↦ hhigh (by omega)⟩
  · obtain ⟨hlow, hhigh⟩ := (hf'.signed sign).compile_eq
    exact ⟨fun hle ↦ hlow (by omega), fun hlt ↦ hhigh (by omega)⟩

/-- A numeral can be put together with others, but not one that is in 256 parentheses already. -/
theorem compile_parenthesized_numerals :
    compile .empty "1" = .ok (some (.atom (.number "1"))) ∧
      compile .empty "(1)/(2)" =
        .ok (some (.binary .divide (.atom (.number "1")) (.atom (.number "2")))) ∧
      compile .empty "-(1)" = .ok (some (.signed .minus (.atom (.number "1")))) ∧
      compile .empty (parenthesize^[256] "1") = .ok (some (.atom (.number "1"))) ∧
      TooDeep .empty (parenthesize (parenthesize^[256] "1")) ∧
      TooDeep .empty (parenthesize (parenthesize^[256] "1") ++ "+" ++ "(2)") := by
  have hone : compile .empty "1" = .ok (some (.atom (.number "1"))) := by with_unfolding_all rfl
  have htwo : compile .empty "2" = .ok (some (.atom (.number "2"))) := by with_unfolding_all rfl
  have hnesting : nesting "1" = 0 := by with_unfolding_all rfl
  have hnesting' : nesting "2" = 0 := by with_unfolding_all rfl
  have hreads := (readsTo_of_compile_eq_ok hone).iterate_parenthesize 256
  rw [hnesting] at hreads
  have hdeep := hreads.compile_eq.1 (Nat.le_refl _)
  have hnesting'' := hreads.nesting_eq (Nat.le_refl _)
  obtain ⟨-, hbinary, hsigned⟩ := compile_parenthesized hone htwo
  obtain ⟨⟨-, hgroup⟩, hbinary', -⟩ := compile_parenthesized hdeep htwo
  exact ⟨hone, (hbinary .divide).1 (by omega) (by omega), (hsigned .minus).1 (by omega), hdeep,
    hgroup (by omega), (hbinary' .add).2 (by omega)⟩

end Formula

end StreamFormula
