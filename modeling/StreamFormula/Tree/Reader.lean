import StreamFormula.Tree.Basic

/-!
# Reading tokens as a tree

The grammar is the usual one of sums of products of factors. A factor is a numeral, a stream, a call
`@F(number)`, a parenthesised sum, or a sign in front of a factor. Two rules go beyond it: right
after a binary operator no other operator may stand, not even a sign, and signs and parentheses
together nest at most `nestingLimit` deep. The parentheses of a call are part of the call.

The reader takes one token at a time and never looks ahead, so a fault is found at the first token
that cannot go on (`Reader.run` stops there), and whether it is found does not hang on what follows.
What is unfinished is kept as data: a `Level` holds what one pair of parentheses has so far, and the
`groups` are the parentheses still open, each with the level that was interrupted, innermost first.
There is no state in which an operator or a sign waits in the wrong place.
-/

namespace StreamFormula

/-- How deep signs and parentheses nest at most. -/
def nestingLimit : Nat := 256

/-- Why tokens cannot be read as a tree. -/
inductive ReadFault where
  /-- The tokens end where an operand has to follow; `last` is the last token of all. -/
  | unexpectedEnd (last : Token)
  /-- A sign or parenthesis one level too deep. -/
  | tooDeep (token : Token)
  /-- An operator right after a binary operator. -/
  | operatorRun (previous next : Token)
  /-- A token that nothing can begin or go on with. -/
  | unexpectedToken (token : Token)
  /-- A closing parenthesis where none is open. -/
  | unopened (closing : Token)
  /-- A parenthesis that is not closed where its contents end. -/
  | unclosed (opening : Token)
  /-- A handle without a parenthesis after it. -/
  | callNotOpened (handle : Word)
  /-- A call without a numeral as its argument. -/
  | argumentMissing (handle : Word)
  /-- A call that is not closed after its argument. -/
  | callNotClosed (handle : Word)
  deriving DecidableEq

namespace ReadFault

/-- The wording of a fault. -/
def message : ReadFault → String
  | unexpectedEnd _ => "Unexpected end of formula"
  | tooDeep _ => "Formula is nested too deeply"
  | operatorRun previous next =>
    "Unexpected operator after '" ++ previous.text ++ "': " ++ next.text
  | unexpectedToken token => "Unexpected token: " ++ token.text
  | unopened _ => "Opening parenthesis not found"
  | unclosed _ => "Closing parenthesis not found"
  | callNotOpened _ => "Expected opening parenthesis"
  | argumentMissing _ => "Function input not found"
  | callNotClosed _ => "Expected closing parenthesis"

/-- What to underline. Two operators in a row are underlined together. -/
def span : ReadFault → Span
  | unexpectedEnd token | tooDeep token | unexpectedToken token | unopened token
  | unclosed token => token.span
  | operatorRun previous next => ⟨previous.start, next.stop, some (previous.text ++ next.text)⟩
  | callNotOpened handle | argumentMissing handle | callNotClosed handle =>
    (Token.word handle).span

/-- The diagnostic of a fault always has something to underline. -/
def diagnostic (fault : ReadFault) : Diagnostic := ⟨.syntaxError, fault.message, some fault.span⟩

end ReadFault

/-! ### Unfinished formulas -/

/-- A binary node that lacks its right operand. -/
structure HalfTree where
  op : BinaryOp
  left : Tree
  deriving DecidableEq

/-- The tree that a right operand makes of a node that waits for it, if one waits. -/
def HalfTree.complete : Option HalfTree → Tree → Tree
  | none, right => right
  | some half, right => .binary half.op half.left right

/-- What one level of parentheses holds where a factor is due. -/
structure Level where
  /-- A sum that waits for its right term. -/
  sum? : Option HalfTree
  /-- A product that waits for its right factor. -/
  product? : Option HalfTree
  /-- The signs in front of the factor, the innermost first. -/
  signs : List Sign
  deriving DecidableEq

/-- The start of a formula or of a parenthesis. -/
def Level.empty : Level := ⟨none, none, []⟩

/-- The term that a factor finishes or goes on with: signs bind it first, then the product. -/
def Level.term (level : Level) (factor : Tree) : Tree :=
  HalfTree.complete level.product? (level.signs.foldl (fun t s ↦ .signed s t) factor)

/-- A parenthesis that is still open. -/
structure Group where
  opening : Token
  /-- What its level held when the parenthesis began. -/
  outer : Level
  deriving DecidableEq

/-- What has to come next, with what the current level holds. -/
inductive Expectation where
  /-- A factor; `after?` is a binary operator right before it. -/
  | operand (level : Level) (after? : Option Token)
  /-- An operator, a closing parenthesis or the end; `term` is finished so far. -/
  | operator (sum? : Option HalfTree) (term : Tree)
  /-- The parenthesis of a call. -/
  | callOpening (level : Level) (handle : Word)
  /-- The argument of a call. -/
  | callArgument (level : Level) (handle : Word)
  /-- The end of a call. -/
  | callClosing (level : Level) (handle : Word) (argument : String)
  deriving DecidableEq

/-- A formula in the middle of being read. -/
structure Reader where
  expected : Expectation
  /-- The parentheses still open, the innermost first. -/
  groups : List Group
  /-- How many signs and parentheses have been entered and not left, on top of those that were
  counted before. -/
  depth : Nat
  deriving DecidableEq

namespace Reader

/-- The start of a formula, with the depth counted so far. -/
def start (depth : Nat) : Reader := ⟨.operand .empty none, [], depth⟩

/-! ### Steps -/

/-- A finished factor leaves the signs in front of it and becomes part of a term. -/
def factor (level : Level) (groups : List Group) (depth : Nat) (t : Tree) : Reader where
  expected := .operator level.sum? (level.term t)
  groups := groups
  depth := depth - level.signs.length

/-- One sign or parenthesis more, unless the limit is reached. -/
def enter (limit : Option Nat) (depth : Nat) (token : Token) (inner : Nat → Reader) :
    Except ReadFault Reader :=
  if limit.any (· ≤ depth) then .error (.tooDeep token) else .ok (inner (depth + 1))

/-- The step at a factor's place, where no operator stands right before. -/
def beginFactor (limit : Option Nat) (level : Level) (groups : List Group) (depth : Nat) :
    Token → Except ReadFault Reader
  | .word w =>
    match w.kind with
    | .number => .ok (factor level groups depth (.atom (.number w.text)))
    | .stream => .ok (factor level groups depth (.atom (.stream w.text)))
    | .handle => .ok ⟨.callOpening level w, groups, depth⟩
  | .symbol s n =>
    match s with
    | .openParen => enter limit depth (.symbol s n) fun d ↦
        ⟨.operand .empty none, ⟨.symbol s n, level⟩ :: groups, d⟩
    | .plus => enter limit depth (.symbol s n) fun d ↦
        ⟨.operand { level with signs := .plus :: level.signs } none, groups, d⟩
    | .minus => enter limit depth (.symbol s n) fun d ↦
        ⟨.operand { level with signs := .minus :: level.signs } none, groups, d⟩
    | .star | .slash | .closeParen => .error (.unexpectedToken (.symbol s n))

/-- The step after a finished term. -/
def continueTerm (sum? : Option HalfTree) (term : Tree) (groups : List Group) (depth : Nat)
    (token : Token) : Except ReadFault Reader :=
  match token.symbol? with
  | some .plus =>
    .ok ⟨.operand ⟨some ⟨.add, HalfTree.complete sum? term⟩, none, []⟩ (some token), groups, depth⟩
  | some .minus =>
    .ok ⟨.operand ⟨some ⟨.subtract, HalfTree.complete sum? term⟩, none, []⟩ (some token),
      groups, depth⟩
  | some .star => .ok ⟨.operand ⟨sum?, some ⟨.multiply, term⟩, []⟩ (some token), groups, depth⟩
  | some .slash => .ok ⟨.operand ⟨sum?, some ⟨.divide, term⟩, []⟩ (some token), groups, depth⟩
  | some .closeParen =>
    match groups with
    | [] => .error (.unopened token)
    | group :: groups =>
      .ok (factor group.outer groups (depth - 1) (HalfTree.complete sum? term))
  | some .openParen | none =>
    match groups with
    | [] => .error (.unexpectedToken token)
    | group :: _ => .error (.unclosed group.opening)

/-- Takes one token. -/
def step (limit : Option Nat) (r : Reader) (token : Token) : Except ReadFault Reader :=
  match r.expected with
  | .operand level after? =>
    match after? with
    | some previous =>
      if token.isOperator then .error (.operatorRun previous token)
      else beginFactor limit level r.groups r.depth token
    | none => beginFactor limit level r.groups r.depth token
  | .operator sum? term => continueTerm sum? term r.groups r.depth token
  | .callOpening level handle =>
    if token.symbol? = some .openParen then .ok ⟨.callArgument level handle, r.groups, r.depth⟩
    else .error (.callNotOpened handle)
  | .callArgument level handle =>
    match token with
    | .word w =>
      if w.kind = .number then .ok ⟨.callClosing level handle w.text, r.groups, r.depth⟩
      else .error (.argumentMissing handle)
    | .symbol _ _ => .error (.argumentMissing handle)
  | .callClosing level handle argument =>
    if token.symbol? = some .closeParen then
      .ok (factor level r.groups r.depth (.atom (.call handle.text argument)))
    else .error (.callNotClosed handle)

/-- The tree at the end of the tokens, of which `last` is the last. -/
def finish (last : Token) (r : Reader) : Except ReadFault Tree :=
  match r.expected with
  | .operand _ _ => .error (.unexpectedEnd last)
  | .operator sum? term =>
    match r.groups with
    | [] => .ok (HalfTree.complete sum? term)
    | group :: _ => .error (.unclosed group.opening)
  | .callOpening _ handle => .error (.callNotOpened handle)
  | .callArgument _ handle => .error (.argumentMissing handle)
  | .callClosing _ handle _ => .error (.callNotClosed handle)

end Reader

/-! ### Runs -/

/-- What came of reading, and where it stopped. -/
structure Reading where
  result : Except ReadFault Tree
  /-- The tokens that were not taken, the one at fault first. -/
  rest : List Token
  /-- The depth at the end. -/
  depth : Nat

/-- Takes all tokens, or as many as can be taken. -/
def Reader.run (limit : Option Nat) (last : Token) (r : Reader) : List Token → Reading
  | [] => ⟨r.finish last, [], r.depth⟩
  | token :: tokens =>
    match r.step limit token with
    | .ok r' => r'.run limit last tokens
    | .error fault => ⟨.error fault, token :: tokens, r.depth⟩

/-- The tree of a list of tokens; no tokens make no tree. -/
def Tree.ofTokens? (limit : Option Nat) (tokens : List Token) : Except ReadFault (Option Tree) :=
  match tokens.getLast? with
  | none => .ok none
  | some last => ((Reader.start 0).run limit last tokens).result.map some

/-- The tree of a list of tokens, under the usual limit. -/
def Tree.read (tokens : List Token) : Except ReadFault (Option Tree) :=
  Tree.ofTokens? (some nestingLimit) tokens

end StreamFormula
