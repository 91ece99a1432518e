import StreamFormula.Proofs.Reader.Correspondence

/-!
# What a reading owes to the kinds of its tokens

Reading tokens is filling a form. The *form* is a tree or a fault in which places stand for tokens,
and filling it puts the tokens at these places. All lists with the same kinds fill the same form
(`Tree.exists_form_fills`), so they are read alike: into trees of one shape, or with the same fault.
Whatever texts and offsets come out are those of the tokens at the same places. This goes for
diagnostics too, which are put together from fixed parts and the texts of tokens, whatever these may
be (`FaultForm.fill_diagnostic`).

The form is what becomes of *marked* tokens. These have the kinds of the given ones and tell their
places twice, by where they start and by the length of their texts, of which a tree keeps the second
alone. Readings of marked tokens and of any others of the same kinds correspond, and `form` reads
the places off the marks again.
-/

namespace StreamFormula

/-! ### Forms -/

/-- A tree with the places of tokens as its leaves. -/
inductive TreeForm where
  | number (place : Nat)
  | stream (place : Nat)
  | call (handle argument : Nat)
  | binary (op : BinaryOp) (left right : TreeForm)
  | signed (sign : Sign) (operand : TreeForm)
  deriving DecidableEq

/-- A fault at the places of tokens. -/
inductive FaultForm where
  | unexpectedEnd (last : Nat)
  | tooDeep (place : Nat)
  | operatorRun (previous next : Nat)
  | unexpectedToken (place : Nat)
  | unopened (closing : Nat)
  | unclosed (opening : Nat)
  | callNotOpened (handle : Nat)
  | argumentMissing (handle : Nat)
  | callNotClosed (handle : Nat)
  deriving DecidableEq

/-- What a reading ends with. -/
inductive ReadingForm where
  | tree (form : TreeForm)
  | nothing
  | fault (form : FaultForm)
  deriving DecidableEq

/-- A part of a wording: one that is always the same, or the text of a token. -/
inductive WordingPart where
  | fixed (text : String)
  | token (place : Nat)
  deriving DecidableEq

/-- A diagnostic with the places of tokens. It underlines from the start of the first one to the end
of the last. -/
structure DiagnosticForm where
  message : List WordingPart
  first : Nat
  last : Nat
  text : List WordingPart
  deriving DecidableEq

/-- A diagnostic that underlines one token. -/
def DiagnosticForm.ofPlace (place : Nat) (message : List WordingPart) : DiagnosticForm :=
  ⟨message, place, place, [.token place]⟩

/-- The diagnostic of a fault. -/
def FaultForm.diagnostic : FaultForm → DiagnosticForm
  | unexpectedEnd last => .ofPlace last [.fixed "Unexpected end of formula"]
  | tooDeep place => .ofPlace place [.fixed "Formula is nested too deeply"]
  | operatorRun previous next =>
    ⟨[.fixed "Unexpected operator after '", .token previous, .fixed "': ", .token next],
      previous, next, [.token previous, .token next]⟩
  | unexpectedToken place => .ofPlace place [.fixed "Unexpected token: ", .token place]
  | unopened closing => .ofPlace closing [.fixed "Opening parenthesis not found"]
  | unclosed opening => .ofPlace opening [.fixed "Closing parenthesis not found"]
  | callNotOpened handle => .ofPlace handle [.fixed "Expected opening parenthesis"]
  | argumentMissing handle => .ofPlace handle [.fixed "Function input not found"]
  | callNotClosed handle => .ofPlace handle [.fixed "Expected closing parenthesis"]

/-! ### Filling them -/

section Fill

variable (tokens : List Token)

/-- The word at a place, if one stands there. -/
def wordAt? (place : Nat) : Option Word :=
  match tokens[place]? with
  | some (.word w) => some w
  | some (.symbol _ _) | none => none

/-- The tree with the texts of the tokens at its places. -/
def TreeForm.fill : TreeForm → Option Tree
  | number place => do
    let token ← tokens[place]?
    return .atom (.number token.text)
  | stream place => do
    let token ← tokens[place]?
    return .atom (.stream token.text)
  | call handle argument => do
    let handle ← tokens[handle]?
    let argument ← tokens[argument]?
    return .atom (.call handle.text argument.text)
  | binary op left right => do
    let left ← left.fill
    let right ← right.fill
    return .binary op left right
  | signed sign operand => do
    let operand ← operand.fill
    return .signed sign operand

/-- The fault of the tokens at its places. -/
def FaultForm.fill : FaultForm → Option ReadFault
  | unexpectedEnd last => tokens[last]?.map .unexpectedEnd
  | tooDeep place => tokens[place]?.map .tooDeep
  | operatorRun previous next => do
    let previous ← tokens[previous]?
    let next ← tokens[next]?
    return .operatorRun previous next
  | unexpectedToken place => tokens[place]?.map .unexpectedToken
  | unopened closing => tokens[closing]?.map .unopened
  | unclosed opening => tokens[opening]?.map .unclosed
  | callNotOpened handle => (wordAt? tokens handle).map .callNotOpened
  | argumentMissing handle => (wordAt? tokens handle).map .argumentMissing
  | callNotClosed handle => (wordAt? tokens handle).map .callNotClosed

/-- The wording with the texts of the tokens at its places. -/
def WordingPart.fill : List WordingPart → Option String
  | [] => some ""
  | fixed text :: parts => do
    let rest ← fill parts
    return text ++ rest
  | token place :: parts => do
    let token ← tokens[place]?
    let rest ← fill parts
    return token.text ++ rest

/-- The diagnostic with the texts and offsets of the tokens at its places. -/
def DiagnosticForm.fill (form : DiagnosticForm) : Option Diagnostic := do
  let message ← WordingPart.fill tokens form.message
  let first ← tokens[form.first]?
  let last ← tokens[form.last]?
  let text ← WordingPart.fill tokens form.text
  return ⟨.syntaxError, message, some ⟨first.start, last.stop, some text⟩⟩

/-- The tokens make the reading of its form: a tree, nothing, or a fault and its diagnostic. -/
inductive ReadingForm.Fills : ReadingForm → Except ReadFault (Option Tree) → Prop where
  | tree {form : TreeForm} {t : Tree} (h : form.fill tokens = some t) :
      Fills (.tree form) (.ok (some t))
  | nothing : Fills .nothing (.ok none)
  | fault {form : FaultForm} {found : ReadFault} (h : form.fill tokens = some found)
      (hdiagnostic : form.diagnostic.fill tokens = some found.diagnostic) :
      Fills (.fault form) (.error found)

end Fill

variable {tokens others : List Token}

theorem wordAt?_eq_some_iff {place : Nat} {w : Word} :
    wordAt? tokens place = some w ↔ tokens[place]? = some (.word w) := by
  unfold wordAt?
  rcases tokens[place]? with - | ⟨s, n⟩ | w' <;> simp

theorem DiagnosticForm.fill_ofPlace {place : Nat} {token : Token} {message : List WordingPart}
    {text : String} (hplace : tokens[place]? = some token)
    (hmessage : WordingPart.fill tokens message = some text) :
    (ofPlace place message).fill tokens = some ⟨.syntaxError, text, some token.span⟩ := by
  simp [ofPlace, fill, WordingPart.fill, hplace, hmessage, Token.span]

/-- **A fault is worded and underlined by its form.** -/
theorem FaultForm.fill_diagnostic {form : FaultForm} {fault : ReadFault}
    (h : form.fill tokens = some fault) :
    form.diagnostic.fill tokens = some fault.diagnostic := by
  cases form with
  | operatorRun previous next =>
    simp only [fill, Option.bind_eq_bind, Option.bind_eq_some_iff] at h
    obtain ⟨t, ht, u, hu, ⟨⟩⟩ := h
    have hmessage : WordingPart.fill tokens (operatorRun previous next).diagnostic.message =
        some (ReadFault.operatorRun t u).message := by
      show _ = some ("Unexpected operator after '" ++ t.text ++ "': " ++ u.text)
      simp [diagnostic, WordingPart.fill, ht, hu, String.append_assoc]
    rw [DiagnosticForm.fill, hmessage]
    simp [diagnostic, WordingPart.fill, ht, hu, ReadFault.diagnostic, ReadFault.span]
  | unexpectedToken place =>
    obtain ⟨t, ht, rfl⟩ := Option.map_eq_some_iff.1 h
    have hmessage : WordingPart.fill tokens [.fixed "Unexpected token: ", .token place] =
        some ("Unexpected token: " ++ t.text) := by
      simp [WordingPart.fill, ht]
    exact DiagnosticForm.fill_ofPlace ht hmessage
  | unexpectedEnd place | tooDeep place | unopened place | unclosed place =>
    obtain ⟨t, ht, rfl⟩ := Option.map_eq_some_iff.1 h
    exact DiagnosticForm.fill_ofPlace ht rfl
  | callNotOpened place | argumentMissing place | callNotClosed place =>
    obtain ⟨w, hw, rfl⟩ := Option.map_eq_some_iff.1 h
    exact DiagnosticForm.fill_ofPlace (wordAt?_eq_some_iff.1 hw) rfl

/-! ### Marked tokens -/

/-- A token of the same kind that tells the place, by its start and, in a word, by the length of the
text. -/
def Token.mark (place : Nat) : Token → Token
  | symbol s _ => symbol s place
  | word w => word ⟨w.kind, String.ofList (List.replicate (place + 1) 'x'), place, by
      simp [List.replicate_succ]⟩

/-- The place of a marked word, by its text. -/
def placeOfText (text : String) : Nat := text.length - 1

/-- The form of a tree of marked tokens. -/
def Tree.form : Tree → TreeForm
  | atom (.number text) => .number (placeOfText text)
  | atom (.stream name) => .stream (placeOfText name)
  | atom (.call handle argument) => .call (placeOfText handle) (placeOfText argument)
  | binary op left right => .binary op left.form right.form
  | signed sign operand => .signed sign operand.form

/-- The form of a fault of marked tokens. -/
def ReadFault.form : ReadFault → FaultForm
  | unexpectedEnd last => .unexpectedEnd last.start
  | tooDeep token => .tooDeep token.start
  | operatorRun previous next => .operatorRun previous.start next.start
  | unexpectedToken token => .unexpectedToken token.start
  | unopened closing => .unopened closing.start
  | unclosed opening => .unclosed opening.start
  | callNotOpened handle => .callNotOpened handle.start
  | argumentMissing handle => .argumentMissing handle.start
  | callNotClosed handle => .callNotClosed handle.start

/-- The form of a reading of marked tokens. -/
def ReadingForm.ofResult : Except ReadFault (Option Tree) → ReadingForm
  | .ok (some t) => tree t.form
  | .ok none => nothing
  | .error found => fault found.form

/-- The token tells the place of the other one. -/
structure Token.Marks (tokens : List Token) (marked t : Token) : Prop where
  sameKind : marked.SameKind t
  getElem?_start : tokens[marked.start]? = some t
  /-- The text of a word tells what its start tells. -/
  placeOfText_eq : ∀ w : Word, marked = .word w → placeOfText w.text = w.start

/-- Tokens of the same kinds are marked alike. -/
theorem Token.forall₂_marks (h : List.Forall₂ SameKind tokens others) :
    List.Forall₂ (Marks others) (tokens.mapIdx mark) others := by
  obtain ⟨hlength, hkinds⟩ := List.forall₂_iff_get.1 h
  refine List.forall₂_iff_get.2 ⟨List.length_mapIdx.trans hlength, fun i hi ho ↦ ?_⟩
  rw [List.length_mapIdx] at hi
  have hkind := hkinds i hi ho
  simp only [List.get_eq_getElem, List.getElem_mapIdx] at hkind ⊢
  have hat : others[i]? = some others[i] := List.getElem?_eq_getElem ho
  generalize tokens[i] = token, others[i] = other at hkind hat
  cases hkind with
  | symbol s m n => exact ⟨.symbol s i n, hat, nofun⟩
  | word hword =>
    refine ⟨.word hword, hat, ?_⟩
    rintro _ ⟨⟩
    simp [placeOfText]

/-! ### Filling the form -/

/-- A marked word tells where the other one stands. -/
theorem Token.Marks.getElem?_placeOfText {w w' : Word} (h : Marks tokens (.word w) (.word w')) :
    tokens[placeOfText w.text]? = some (.word w') := by
  rw [h.placeOfText_eq w rfl]
  exact h.getElem?_start

theorem Token.Marks.wordAt?_start {w w' : Word} (h : Marks tokens (.word w) (.word w')) :
    wordAt? tokens w.start = some w' := by
  have hat : tokens[w.start]? = some (.word w') := h.getElem?_start
  rw [wordAt?, hat]

/-- The tree of the tokens fills the form of the marked tree. -/
theorem Tree.Corresponds.fill_form {marked t : Tree}
    (h : marked.Corresponds (Token.Marks tokens) t) : marked.form.fill tokens = some t := by
  induction h with
  | atom h =>
    cases h with
    | number h | stream h => simp [form, TreeForm.fill, h.getElem?_placeOfText]
    | call hh ha =>
      simp [form, TreeForm.fill, hh.getElem?_placeOfText, ha.getElem?_placeOfText]
  | binary op _ _ ihl ihr => simp [form, TreeForm.fill, ihl, ihr]
  | signed s _ ih => simp [form, TreeForm.fill, ih]

/-- The fault of the tokens fills the form of the marked fault. -/
theorem ReadFault.Corresponds.fill_form {marked fault : ReadFault}
    (h : marked.Corresponds (Token.Marks tokens) fault) :
    marked.form.fill tokens = some fault := by
  cases h with
  | operatorRun hprevious hnext =>
    simp [form, FaultForm.fill, hprevious.getElem?_start, hnext.getElem?_start]
  | unexpectedEnd h | tooDeep h | unexpectedToken h | unopened h | unclosed h =>
    simp [form, FaultForm.fill, h.getElem?_start]
  | callNotOpened h | argumentMissing h | callNotClosed h =>
    simp [form, FaultForm.fill, h.wordAt?_start]

/-- Readings of tokens fill the forms of readings of marked ones. -/
theorem ReadingsCorrespond.fills_ofResult {marked result : Except ReadFault (Option Tree)}
    (h : ReadingsCorrespond (Token.Marks tokens) marked result) :
    (ReadingForm.ofResult marked).Fills tokens result := by
  cases h with
  | tree h => exact .tree h.fill_form
  | nothing => exact .nothing
  | fault h => exact .fault h.fill_form (FaultForm.fill_diagnostic h.fill_form)

/-- **Reading looks at kinds alone.** There is one form for all lists of tokens that have the kinds
of the given ones, whatever their texts and offsets, and reading a list of them fills the form with
its tokens. So all of them have trees, of one shape and with the texts at the same places as leaves;
or all are empty; or none can be read, and then the fault is the same and the diagnostic has the
texts and offsets of the tokens at the same places. -/
theorem Tree.exists_form_fills (tokens : List Token) :
    ∃ form : ReadingForm, ∀ others, List.Forall₂ Token.SameKind tokens others →
      form.Fills others (Tree.read others) :=
  ⟨.ofResult (Tree.read (tokens.mapIdx Token.mark)), fun _ h ↦
    (Tree.ofTokens?_corresponds _ Token.Marks.sameKind (Token.forall₂_marks h)).fills_ofResult⟩

/-- Two calls with other names and numerals are one tree, and two numerals side by side one fault,
with other texts and offsets, even if these fit no formula. -/
theorem Tree.exists_form_of_unlike_texts :
    (∃ tokens others : List Token, List.Forall₂ Token.SameKind tokens others ∧
      ∃ form : ReadingForm,
        form.Fills tokens (.ok (some (.atom (.call "@Old" "2")))) ∧
        form.Fills others (.ok (some (.atom (.call "?" "many"))))) ∧
    ∃ tokens others : List Token, List.Forall₂ Token.SameKind tokens others ∧
      ∃ (form : ReadingForm) (fault fault' : ReadFault),
        form.Fills tokens (.error fault) ∧ form.Fills others (.error fault') ∧
        fault.diagnostic = ⟨.syntaxError, "Unexpected token: 2", some ⟨2, 3, some "2"⟩⟩ ∧
        fault'.diagnostic = ⟨.syntaxError, "Unexpected token: two", some ⟨0, 3, some "two"⟩⟩ := by
  constructor
  · have hkinds : List.Forall₂ Token.SameKind
        [.word ⟨.handle, "@Old", 0, by decide⟩, .symbol .openParen 4,
          .word ⟨.number, "2", 5, by decide⟩, .symbol .closeParen 6]
        [.word ⟨.handle, "?", 9, by decide⟩, .symbol .openParen 9,
          .word ⟨.number, "many", 3, by decide⟩, .symbol .closeParen 0] :=
      .cons (.word rfl) (.cons (.symbol ..) (.cons (.word rfl) (.cons (.symbol ..) .nil)))
    exact ⟨_, _, hkinds, (exists_form_fills _).imp fun form hform ↦
      ⟨hform _ (List.forall₂_same.2 fun t _ ↦ .refl t), hform _ hkinds⟩⟩
  · have hkinds : List.Forall₂ Token.SameKind
        [.word ⟨.number, "1", 0, by decide⟩, .word ⟨.number, "2", 2, by decide⟩]
        [.word ⟨.number, "one", 4, by decide⟩, .word ⟨.number, "two", 0, by decide⟩] :=
      .cons (.word rfl) (.cons (.word rfl) .nil)
    exact ⟨_, _, hkinds, (exists_form_fills _).imp fun form hform ↦
      ⟨_, _, hform _ (List.forall₂_same.2 fun t _ ↦ .refl t), hform _ hkinds, rfl, rfl⟩⟩

end StreamFormula
