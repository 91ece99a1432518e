import Mathlib.Algebra.GroupWithZero.Nat
import StreamFormula.Proofs.Text.Scanning

/-!
# Rendered tokens are scanned back

`Token.render` keeps the tokens and gives up their offsets, and one blank between neighbours is
enough for that: whatever tokens of fitting texts are rendered, scanning finds the same tokens, in
the places where rendering put them (`Token.scan_render`). Nothing is asked of the offsets that the
tokens had before, and nothing of the grammar.

`Token.placed` says what these places are, one token after the other; `Token.start_getElem_placed`
says it of one token, as a sum over the tokens before it. That they are a layout of the rendered
text (`Token.layout_placed`) peels the text from the front, like every other fact about layouts.
-/

namespace StreamFormula

/-- A blank goes on with no word. -/
theorem WordKind.continues_of_isBlank {c : Char} (h : isBlank c = true) (kind : WordKind) :
    kind.continues c = false := by
  rw [Bool.eq_false_iff]
  intro hcontinues
  have hsome := isSome_ofFirst?_of_continues hcontinues
  rw [ofFirst?_of_isBlank h] at hsome
  exact nomatch hsome

namespace Token

/-- A blank keeps a token apart from what follows. -/
theorem continues_of_isBlank {c : Char} (h : isBlank c = true) (t : Token) :
    t.continues c = false := by
  cases t with
  | symbol s n => rfl
  | word w => rw [continues_word, WordKind.continues_of_isBlank h]

/-! ### The same token elsewhere -/

/-- The token at another offset. -/
def moveTo (start : Nat) : Token → Token
  | symbol s _ => symbol s start
  | word w => word { w with start := start }

/-- What a token is, wherever it stands: its kind, and the text of a word. -/
def shape : Token → Symbol ⊕ (WordKind × String)
  | symbol s _ => .inl s
  | word w => .inr (w.kind, w.text)

@[simp] theorem start_moveTo (n : Nat) (t : Token) : (t.moveTo n).start = n := by cases t <;> rfl

@[simp] theorem text_moveTo (n : Nat) (t : Token) : (t.moveTo n).text = t.text := by
  cases t <;> rfl

@[simp] theorem shape_moveTo (n : Nat) (t : Token) : (t.moveTo n).shape = t.shape := by
  cases t <;> rfl

@[simp] theorem fits_moveTo (n : Nat) (t : Token) : (t.moveTo n).Fits ↔ t.Fits := by
  cases t <;> rfl

theorem stop_moveTo (n : Nat) (t : Token) : (t.moveTo n).stop = n + t.text.length := by
  rw [stop_eq_start_add_length, start_moveTo, text_moveTo]

/-- Tokens of one shape are one token at two offsets. -/
theorem eq_moveTo_of_shape_eq {t u : Token} (h : t.shape = u.shape) : u = t.moveTo u.start := by
  cases t with
  | symbol s m =>
    cases u with
    | symbol s' n => exact Sum.inl.inj h ▸ rfl
    | word w' => exact nomatch h
  | word w =>
    cases u with
    | symbol s' n => exact nomatch h
    | word w' =>
      obtain ⟨kind, text, start, hne⟩ := w
      obtain ⟨kind', text', start', hne'⟩ := w'
      obtain ⟨rfl, rfl⟩ := Prod.mk.inj (Sum.inr.inj h)
      rfl

/-- A token that fits, in front of a blank or of the end, heads its text. -/
theorem heads_moveTo {t : Token} (h : t.Fits) (n : Nat) (rest : List Char)
    (hrest : ∀ c ∈ rest.head?, isBlank c = true) :
    (t.moveTo n).Heads n (t.text.toList ++ rest) rest where
  start_eq := start_moveTo n t
  text_eq := by rw [text_moveTo]
  fits := (fits_moveTo n t).2 h
  maximal c hc := continues_of_isBlank (hrest c hc) _

/-! ### The places of rendered tokens -/

/-- The tokens in the places where `render` puts them, in a text that begins at `origin`. -/
def placed : Nat → List Token → List Token
  | _, [] => []
  | origin, t :: ts => t.moveTo origin :: placed (origin + t.text.length + 1) ts

@[simp] theorem placed_nil (origin : Nat) : placed origin [] = [] := rfl

@[simp] theorem placed_cons (origin : Nat) (t : Token) (ts : List Token) :
    placed origin (t :: ts) = t.moveTo origin :: placed (origin + t.text.length + 1) ts := rfl

/-- What does not hang on offsets is kept. -/
theorem map_placed {β : Type} {f : Token → β} (hf : ∀ n t, f (t.moveTo n) = f t) (origin : Nat)
    (tokens : List Token) : (placed origin tokens).map f = tokens.map f := by
  induction tokens generalizing origin with
  | nil => rfl
  | cons t ts ih => rw [placed_cons, List.map_cons, List.map_cons, hf, ih]

/-- Placed tokens are rendered as before. -/
theorem render_placed (origin : Nat) (tokens : List Token) :
    render (placed origin tokens) = render tokens := by
  rw [render, map_placed text_moveTo, render]

/-- Each token is placed behind the texts of those before it, with a blank behind each. -/
theorem start_getElem_placed (origin : Nat) (tokens : List Token) (i : Nat)
    (hi : i < (placed origin tokens).length) :
    (placed origin tokens)[i].start =
      origin + ((tokens.take i).map fun t ↦ t.text.length + 1).sum := by
  induction tokens generalizing origin i with
  | nil => exact nomatch hi
  | cons t ts ih =>
    cases i with
    | zero => simp
    | succ i =>
      simp only [placed_cons, List.getElem_cons_succ, List.take_succ_cons, List.map_cons,
        List.sum_cons, ih]
      omega

/-- **Tokens of fitting texts lie in their rendered text.** -/
theorem layout_placed {tokens : List Token} (h : ∀ t ∈ tokens, t.Fits) (origin : Nat) :
    Layout origin ([' '].intercalate (tokens.map fun t ↦ t.text.toList))
      (placed origin tokens) := by
  induction tokens generalizing origin with
  | nil => exact layout_nil_iff.2 rfl
  | cons t ts ih =>
    obtain ⟨ht, hts⟩ := List.forall_mem_cons.1 h
    cases ts with
    | nil =>
      have hheads := heads_moveTo ht origin [] nofun
      rw [List.append_nil] at hheads
      rw [List.map_singleton, List.intercalate_singleton]
      exact hheads.layout_cons_iff.2 (layout_nil_iff.2 rfl)
    | cons u us =>
      have hne : (u :: us).map (fun t ↦ t.text.toList) ≠ [] := List.cons_ne_nil _ _
      rw [List.map_cons, List.intercalate_cons_of_ne_nil hne, List.append_assoc,
        List.singleton_append]
      have hheads := heads_moveTo ht origin
        (' ' :: [' '].intercalate ((u :: us).map fun t ↦ t.text.toList))
        fun c hc ↦ Option.some.inj hc ▸ rfl
      rw [placed_cons, hheads.layout_cons_iff, layout_blank_iff rfl, stop_moveTo]
      exact ih hts _

/-- **Rendered tokens are scanned back**, each in its place. -/
theorem scan_render {tokens : List Token} (h : ∀ t ∈ tokens, t.Fits) :
    scan (render tokens) = .ok (placed 0 tokens) := by
  rw [scan_eq_ok_iff_layout, toList_render]
  exact layout_placed h 0

end Token

end StreamFormula
