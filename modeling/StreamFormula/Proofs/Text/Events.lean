import Mathlib.Data.List.Nodup
import StreamFormula.Proofs.Text.Rendering

/-!
# Scanning one event at a time

A fault is an event like a token, and a scanner goes on behind it. So the events of a text are known
without a scanner: blank out the illegal characters, take the tokens of what is left, add the
illegal characters themselves, and put everything in the order of offsets (`Piece.merge`). Requests
to one scanner are answered by these events one after the other, and by nothing once they are all
gone; what has not been asked for yet is what the scanner still has, so the tokens from there on are
those of the remaining events (`Scanner.requests_merge`).

An illegal character takes one place in the text and is kept apart from the words next to it, as a
blank is. That is why the events can be peeled from the front like a layout: a blank, an illegal
character, or a token (`Pieces`). They come out in order, and there is only one order by offsets
(`Pieces.eq_merge`).
-/

namespace StreamFormula

/-! ### Illegal characters -/

/-- A legal character as it is, and a blank for any other. -/
def blankOut (c : Char) : Char := if isLegal c then c else ' '

/-- The illegal characters of a text, whose first character has the offset `origin`. -/
def unreadables (origin : Nat) (text : List Char) : List UnreadableCharacter :=
  (text.zipIdx origin).filterMap fun (c, i) ↦ if isLegal c then none else some ⟨i, c⟩

theorem blankOut_of_isLegal {c : Char} (h : isLegal c = true) : blankOut c = c := if_pos h

theorem blankOut_of_not_isLegal {c : Char} (h : isLegal c = false) : blankOut c = ' ' := by
  rw [blankOut, h, if_neg Bool.false_ne_true]

theorem isLegal_of_isBlank {c : Char} (h : isBlank c = true) : isLegal c = true := by
  rw [isLegal_eq, h, Bool.or_true]

/-- Blanking out changes no legal text. -/
theorem map_blankOut_of_isLegal {text : List Char} (h : ∀ c ∈ text, isLegal c = true) :
    text.map blankOut = text := by
  rw [List.map_congr_left fun c hc ↦ blankOut_of_isLegal (h c hc), List.map_id']

theorem unreadables_append (origin : Nat) (text rest : List Char) :
    unreadables origin (text ++ rest) =
      unreadables origin text ++ unreadables (origin + text.length) rest := by
  simp only [unreadables, List.zipIdx_append, List.filterMap_append]

/-- A legal text has no illegal characters. -/
theorem unreadables_of_isLegal {text : List Char} (h : ∀ c ∈ text, isLegal c = true)
    (origin : Nat) : unreadables origin text = [] := by
  refine List.filterMap_eq_nil_iff.2 fun ⟨c, i⟩ hc ↦ ?_
  exact if_pos (h c (List.fst_mem_of_mem_zipIdx hc))

theorem unreadables_cons_of_isLegal {c : Char} (h : isLegal c = true) (origin : Nat)
    (text : List Char) : unreadables origin (c :: text) = unreadables (origin + 1) text := by
  simp only [unreadables, List.zipIdx_cons, List.filterMap_cons, h, if_true]

theorem unreadables_cons_of_not_isLegal {c : Char} (h : isLegal c = false) (origin : Nat)
    (text : List Char) :
    unreadables origin (c :: text) = ⟨origin, c⟩ :: unreadables (origin + 1) text := by
  simp only [unreadables, List.zipIdx_cons, List.filterMap_cons, h, Bool.false_eq_true, if_false]

/-- Without illegal characters behind it, a token is still as long as it can be. -/
theorem Token.Heads.map_blankOut {t : Token} {origin : Nat} {text rest : List Char}
    (h : t.Heads origin text rest) : t.Heads origin (text.map blankOut) (rest.map blankOut) where
  start_eq := h.start_eq
  text_eq := by
    rw [h.text_eq, List.map_append, map_blankOut_of_isLegal fun c ↦ isLegal_of_mem_text h.fits]
  fits := h.fits
  maximal d hd := by
    rw [List.head?_map, Option.mem_def, Option.map_eq_some_iff] at hd
    obtain ⟨c, hc, rfl⟩ := hd
    cases hlegal : isLegal c with
    | true =>
      rw [blankOut_of_isLegal hlegal]
      exact h.maximal c hc
    | false =>
      rw [blankOut_of_not_isLegal hlegal]
      exact continues_of_isBlank rfl t

/-! ### Pieces -/

/-- What a text holds besides blanks. -/
inductive Piece where
  | token (token : Token)
  | unreadable (character : UnreadableCharacter)
  deriving DecidableEq

namespace Piece

/-- The offset of the first character. -/
def start : Piece → Nat
  | token t => t.start
  | unreadable u => u.offset

/-- What a scanner makes of the piece. -/
def event : Piece → ScanEvent
  | token t => .ok t
  | unreadable u => .error (.unreadable u)

/-- The token of a piece that is one. -/
def token? : Piece → Option Token
  | token t => some t
  | unreadable _ => none

/-- The illegal character of a piece that is one. -/
def unreadable? : Piece → Option UnreadableCharacter
  | token _ => none
  | unreadable u => some u

/-- Tokens and illegal characters together, in the order of their offsets. -/
def merge (tokens : List Token) (characters : List UnreadableCharacter) : List Piece :=
  (tokens.map token ++ characters.map unreadable).mergeSort fun p q ↦ p.start ≤ q.start

/-- Pieces are the tokens among them and the illegal characters among them. -/
theorem perm_append (pieces : List Piece) :
    pieces.Perm ((pieces.filterMap token?).map token ++
      (pieces.filterMap unreadable?).map unreadable) := by
  induction pieces with
  | nil => exact .nil
  | cons p pieces ih =>
    cases p with
    | token t => exact ih.cons (token t)
    | unreadable u => exact (ih.cons (unreadable u)).trans List.perm_middle.symm

theorem pairwise_merge (tokens : List Token) (characters : List UnreadableCharacter) :
    (merge tokens characters).Pairwise fun p q ↦ p.start ≤ q.start := by
  have htrans : ∀ p q r : Piece, decide (p.start ≤ q.start) = true →
      decide (q.start ≤ r.start) = true → decide (p.start ≤ r.start) = true := by
    intro p q r hpq hqr
    exact decide_eq_true (Nat.le_trans (of_decide_eq_true hpq) (of_decide_eq_true hqr))
  have htotal : ∀ p q : Piece,
      (decide (p.start ≤ q.start) || decide (q.start ≤ p.start)) = true := by
    intro p q
    simpa using Nat.le_total p.start q.start
  exact (List.pairwise_mergeSort htrans htotal _).imp of_decide_eq_true

/-- The tokens of pieces, unless there is an illegal character, which stops at the first one. -/
theorem mapM_event (pieces : List Piece) :
    (pieces.map event).mapM id =
      match pieces.findSome? unreadable? with
      | some u => .error (.unreadable u)
      | none => .ok (pieces.filterMap token?) := by
  induction pieces with
  | nil => rfl
  | cons p pieces ih =>
    cases p with
    | token t =>
      rw [List.map_cons, List.mapM_cons, ih]
      show _ = match pieces.findSome? unreadable? with
        | some u => Except.error (ScanFault.unreadable u)
        | none => Except.ok (t :: pieces.filterMap token?)
      cases pieces.findSome? unreadable? <;> rfl
    | unreadable u => rfl

end Piece

/-- The pieces of a text, whose first character has the offset `origin`: they follow one another,
and they are the tokens that are there without the illegal characters, and these characters. -/
structure Pieces (origin : Nat) (text : List Char) (pieces : List Piece) : Prop where
  origin_le : ∀ p ∈ pieces, origin ≤ p.start
  ordered : pieces.Pairwise fun p q ↦ p.start < q.start
  layout : Layout origin (text.map blankOut) (pieces.filterMap Piece.token?)
  unreadables_eq : pieces.filterMap Piece.unreadable? = unreadables origin text

namespace Pieces

variable {origin : Nat} {text rest : List Char} {pieces : List Piece} {c : Char}

theorem nil (origin : Nat) : Pieces origin [] [] :=
  ⟨nofun, .nil, layout_nil_iff.2 rfl, rfl⟩

/-- A blank in front adds nothing. -/
theorem blank_cons (hc : isBlank c = true) (h : Pieces (origin + 1) text pieces) :
    Pieces origin (c :: text) pieces where
  origin_le p hp := Nat.le_of_succ_le (h.origin_le p hp)
  ordered := h.ordered
  layout := by
    rw [List.map_cons, blankOut_of_isLegal (isLegal_of_isBlank hc), layout_blank_iff hc]
    exact h.layout
  unreadables_eq := by
    rw [unreadables_cons_of_isLegal (isLegal_of_isBlank hc), h.unreadables_eq]

/-- A piece in front of those that begin behind it. -/
theorem ordered_cons {p : Piece} {after : Nat} (hp : p.start = origin) (hafter : origin < after)
    (h : Pieces after rest pieces) :
    (∀ q ∈ p :: pieces, origin ≤ q.start) ∧
      (p :: pieces).Pairwise fun q r ↦ q.start < r.start := by
  have hlt : ∀ q ∈ pieces, origin < q.start := fun q hq ↦
    Nat.lt_of_lt_of_le hafter (h.origin_le q hq)
  refine ⟨List.forall_mem_cons.2 ⟨Nat.le_of_eq hp.symm, fun q hq ↦ Nat.le_of_lt (hlt q hq)⟩, ?_⟩
  exact List.pairwise_cons.2 ⟨fun q hq ↦ hp ▸ hlt q hq, h.ordered⟩

/-- An illegal character in front is a piece, and as good as a blank for the tokens. -/
theorem unreadable_cons (hc : isLegal c = false) (h : Pieces (origin + 1) text pieces) :
    Pieces origin (c :: text) (.unreadable ⟨origin, c⟩ :: pieces) := by
  obtain ⟨hle, hordered⟩ := h.ordered_cons (p := .unreadable ⟨origin, c⟩) rfl (Nat.lt_succ_self _)
  refine ⟨hle, hordered, ?_, ?_⟩
  · rw [List.map_cons, blankOut_of_not_isLegal hc]
    exact (layout_blank_iff rfl).2 h.layout
  · rw [unreadables_cons_of_not_isLegal hc, ← h.unreadables_eq]
    rfl

/-- A token in front is a piece. -/
theorem token_cons {t : Token} (ht : t.Heads origin text rest) (h : Pieces t.stop rest pieces) :
    Pieces origin text (.token t :: pieces) := by
  obtain ⟨hle, hordered⟩ :=
    h.ordered_cons (p := .token t) ht.start_eq (ht.start_eq ▸ t.start_lt_stop)
  refine ⟨hle, hordered, ht.map_blankOut.layout_cons_iff.2 h.layout, ?_⟩
  show pieces.filterMap Piece.unreadable? = unreadables origin text
  have hstop : origin + t.text.toList.length = t.stop := by
    rw [String.length_toList, t.stop_eq_start_add_length, ht.start_eq]
  rw [h.unreadables_eq, ht.text_eq, unreadables_append,
    unreadables_of_isLegal fun c ↦ Token.isLegal_of_mem_text ht.fits, List.nil_append, hstop]

/-- Pieces of one text that begin at the same offset are the same. -/
theorem eq_of_start_eq (h : Pieces origin text pieces) {p q : Piece} (hp : p ∈ pieces)
    (hq : q ∈ pieces) (hstart : p.start = q.start) : p = q := by
  have hnodup : (pieces.map Piece.start).Nodup :=
    List.pairwise_map.2 (h.ordered.imp fun hlt ↦ Nat.ne_of_lt hlt)
  exact List.inj_on_of_nodup_map hnodup hp hq hstart

/-- **The pieces of a text are its tokens and its illegal characters in the order of offsets.** -/
theorem eq_merge (h : Pieces origin text pieces) :
    pieces = Piece.merge (pieces.filterMap Piece.token?) (unreadables origin text) := by
  have hperm : pieces.Perm
      (Piece.merge (pieces.filterMap Piece.token?) (unreadables origin text)) := by
    rw [← h.unreadables_eq]
    exact (Piece.perm_append pieces).trans (List.mergeSort_perm _ _).symm
  refine hperm.eq_of_pairwise (fun p q hp hq hle hge ↦ ?_)
    (h.ordered.imp fun hlt ↦ Nat.le_of_lt hlt) (Piece.pairwise_merge _ _)
  exact h.eq_of_start_eq hp (hperm.mem_iff.2 hq) (Nat.le_antisymm hle hge)

end Pieces

namespace Scanner

/-! ### Events -/

theorem events_congr {s s' : Scanner} (h : s.next = s'.next) : s.events = s'.events := by
  rcases hnext : s'.next with - | ⟨event, after⟩
  · rw [events_of_next_eq_none (h.trans hnext), events_of_next_eq_none hnext]
  · rw [events_of_next_eq_some (h.trans hnext), events_of_next_eq_some hnext]

/-- **The events of a text are its pieces**, the first one in front. -/
theorem exists_pieces (origin : Nat) (text : List Char) :
    ∃ pieces, Pieces origin text pieces ∧ events ⟨origin, text⟩ = pieces.map Piece.event := by
  match text with
  | [] => exact ⟨[], .nil origin, events_of_next_eq_none rfl⟩
  | c :: cs =>
    cases hc : isBlank c with
    | true =>
      obtain ⟨pieces, h, hevents⟩ := exists_pieces (origin + 1) cs
      refine ⟨pieces, h.blank_cons hc, ?_⟩
      rw [events_congr (next_of_isBlank hc origin cs), hevents]
    | false =>
      cases hlegal : isLegal c with
      | false =>
        obtain ⟨pieces, h, hevents⟩ := exists_pieces (origin + 1) cs
        refine ⟨.unreadable ⟨origin, c⟩ :: pieces, h.unreadable_cons hlegal, ?_⟩
        have hnext := next_of_not_isBlank hc origin cs
        rw [read_of_not_isLegal hlegal] at hnext
        rw [events_of_next_eq_some hnext, hevents]
        rfl
      | true =>
        obtain ⟨t, after, hread⟩ := exists_read_eq_ok hlegal hc origin cs
        obtain ⟨hheads, hafter⟩ := read_eq_ok_iff.1 hread
        have hlt : after.rest.length < cs.length + 1 := hheads.length_lt
        obtain ⟨pieces, h, hevents⟩ := exists_pieces after.offset after.rest
        refine ⟨.token t :: pieces, .token_cons hheads (hafter ▸ h), ?_⟩
        have hnext := next_of_not_isBlank hc origin cs
        rw [hread] at hnext
        rw [events_of_next_eq_some hnext, hevents]
        rfl
termination_by text.length

/-! ### Requests -/

/-- **Requests are answered by the events one after the other**, and leave the other events. Past
the end there is no event, and nothing changes. -/
theorem requests_eq (n : Nat) (s : Scanner) :
    (s.requests n).1 = (List.range n).map (s.events[·]?) ∧
      (s.requests n).2.events = s.events.drop n := by
  induction n generalizing s with
  | zero => exact ⟨rfl, rfl⟩
  | succ n ih =>
    rw [List.range_succ_eq_map, List.map_cons, List.map_map, requests]
    rcases hnext : s.next with - | ⟨event, s'⟩
    · obtain ⟨hanswers, hevents⟩ := ih s
      rw [events_of_next_eq_none hnext] at hanswers hevents ⊢
      exact ⟨congrArg (none :: ·) hanswers, hevents.trans List.drop_nil⟩
    · obtain ⟨hanswers, hevents⟩ := ih s'
      rw [events_of_next_eq_some hnext]
      exact ⟨congrArg (some event :: ·) hanswers, hevents⟩

/-- **Scanning goes on behind a fault, and one event at a time is as good as all at once.** With
blanks in the place of its illegal characters a formula has tokens; its events are these and the
illegal characters, in the order of their offsets, where an illegal character is a syntax error that
underlines it. Requests to one scanner are answered by the events, and by nothing past their end.
After any number of requests, the tokens that the scanner still finds are those of the remaining
events, or the first illegal character among them. -/
theorem requests_merge (formula : String) :
    ∃ tokens pieces, Token.scan (String.ofList (formula.toList.map blankOut)) = .ok tokens ∧
      pieces = Piece.merge tokens (unreadables 0 formula.toList) ∧
      (∀ n, ((ofString formula).requests n).1 =
        (List.range n).map fun k ↦ pieces[k]?.map Piece.event) ∧
      (∀ n, ((ofString formula).requests n).2.tokens =
        match (pieces.drop n).findSome? Piece.unreadable? with
        | some u => .error (.unreadable u)
        | none => .ok ((pieces.drop n).filterMap Piece.token?)) ∧
      ∀ u ∈ unreadables 0 formula.toList, (ScanFault.unreadable u).failure =
        .diagnostic ⟨.syntaxError, "Invalid character: " ++ String.singleton u.char,
          some ⟨u.offset, u.offset + 1, some (String.singleton u.char)⟩⟩ := by
  obtain ⟨pieces, hpieces, hevents⟩ := exists_pieces 0 formula.toList
  refine ⟨pieces.filterMap Piece.token?, pieces, ?_, hpieces.eq_merge, fun n ↦ ?_, fun n ↦ ?_,
    fun u _ ↦ rfl⟩
  · rw [Token.scan_eq_ok_iff_layout, String.toList_ofList]
    exact hpieces.layout
  · rw [(requests_eq n (ofString formula)).1, ofString, hevents]
    simp only [List.getElem?_map]
  · rw [tokens, (requests_eq n (ofString formula)).2, ofString, hevents, ← List.map_drop,
      Piece.mapM_event]

/-- An illegal character between two letters keeps them apart, and past the end nothing comes. -/
example : ((ofString "a#b").requests 4).1 =
    [some (.ok (.word ⟨.stream, "a", 0, by decide⟩)), some (.error (.unreadable ⟨1, '#'⟩)),
      some (.ok (.word ⟨.stream, "b", 2, by decide⟩)), none] := by decide

end Scanner

end StreamFormula
