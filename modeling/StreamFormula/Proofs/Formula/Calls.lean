import StreamFormula.Formula.Evaluate
import StreamFormula.Proofs.Evaluation.Callers
import StreamFormula.Proofs.Formula.Stages
import StreamFormula.Proofs.Reader.Acceptance

/-!
# The calls of a formula

The calls that are written in a formula can be read off its tokens: each handle, with the number
behind its parenthesis (`Token.writtenCalls`). Evaluating the formula makes these calls, each once
and in the order of the text, up to the call that the caller fails or to another failure
(`Formula.evaluate_calls_written`). Precedence and parentheses give the tree its shape and leave the
order of the leaves alone, and a tree makes its calls from left to right.

That a phrase writes the calls of its tree is shown for any text behind it
(`Token.Writes`), since the tokens of a call are looked for ahead of its handle.
-/

namespace StreamFormula

namespace Token

/-- The word of a token that is a handle. -/
def handle? : Token → Option Word
  | symbol _ _ => none
  | word w => if w.kind = .handle then some w else none

/-- The argument of a call, from the tokens behind its handle. -/
def argument? : List Token → Option Word
  | symbol .openParen _ :: word w :: _ => if w.kind = .number then some w else none
  | _ => none

/-- The calls among tokens: each handle, with its argument. -/
def writtenCalls : List Token → List (Word × Word)
  | [] => []
  | token :: tokens =>
    match token.handle?, argument? tokens with
    | some handle, some argument => (handle, argument) :: writtenCalls tokens
    | _, _ => writtenCalls tokens

theorem writtenCalls_cons_of_handle?_eq_none {token : Token} (h : token.handle? = none)
    (tokens : List Token) : writtenCalls (token :: tokens) = writtenCalls tokens := by
  simp only [writtenCalls, h]

/-- The tokens write these calls, whatever stands behind them, and have no handle besides. -/
structure Writes (tokens : List Token) (calls : List (Word × Word)) : Prop where
  writtenCalls_append (rest : List Token) :
    writtenCalls (tokens ++ rest) = calls ++ writtenCalls rest
  handles_eq : calls.map Prod.fst = tokens.filterMap handle?

namespace Writes

variable {tokens more : List Token} {calls calls' : List (Word × Word)}

theorem nil : Writes [] [] := ⟨fun _ ↦ rfl, rfl⟩

theorem append (h : Writes tokens calls) (h' : Writes more calls') :
    Writes (tokens ++ more) (calls ++ calls') where
  writtenCalls_append rest := by
    rw [List.append_assoc, h.writtenCalls_append, h'.writtenCalls_append, List.append_assoc]
  handles_eq := by
    rw [List.map_append, List.filterMap_append, h.handles_eq, h'.handles_eq]

/-- A token that is no handle writes nothing. -/
theorem cons {token : Token} (htoken : token.handle? = none) (h : Writes tokens calls) :
    Writes (token :: tokens) calls where
  writtenCalls_append rest := by
    rw [List.cons_append, writtenCalls_cons_of_handle?_eq_none htoken, h.writtenCalls_append]
  handles_eq := by
    rw [List.filterMap_cons_none htoken, h.handles_eq]

/-- The tokens of a call write it. -/
theorem call {handle argument : Word} (hhandle : handle.kind = .handle)
    (hargument : argument.kind = .number) (m n : Nat) :
    Writes [.word handle, .symbol .openParen m, .word argument, .symbol .closeParen n]
      [(handle, argument)] := by
  constructor
  · intro rest
    simp [writtenCalls, handle?, argument?, hhandle, hargument]
  · simp [handle?, hhandle, hargument]

end Writes

end Token

/-- **A phrase writes the calls of its tree**, in the same order. -/
theorem Derives.writes {limit : Option Nat} {phrase : Phrase} {d : Nat} {tokens : List Token}
    {t : Tree} (h : Derives limit phrase d tokens t) :
    ∃ calls, Token.Writes tokens calls ∧
      calls.map (fun call ↦ (call.1.text, call.2.text)) = t.invocations := by
  induction h with
  | number w hw | stream w hw => exact ⟨[], .cons (by simp [Token.handle?, hw]) .nil, rfl⟩
  | call handle argument m n hhandle hargument =>
    exact ⟨[(handle, argument)], .call hhandle hargument m n, rfl⟩
  | group m n hd _ ih =>
    obtain ⟨calls, hwrites, hcalls⟩ := ih
    refine ⟨calls ++ [], (hwrites.cons rfl).append (.cons rfl .nil), ?_⟩
    rw [List.append_nil, hcalls]
  | signed s n hd _ ih =>
    obtain ⟨calls, hwrites, hcalls⟩ := ih
    exact ⟨calls, hwrites.cons rfl, hcalls⟩
  | ofFactor _ ih | ofTerm _ ih => exact ih
  | product op n hop _ _ hright ihl ihr | sum op n hop _ _ hright ihl ihr =>
    obtain ⟨calls, hwrites, hcalls⟩ := ihl
    obtain ⟨calls', hwrites', hcalls'⟩ := ihr
    refine ⟨calls ++ calls', hwrites.append (hwrites'.cons rfl), ?_⟩
    rw [List.map_append, hcalls, hcalls', Tree.invocations_binary]

/-- The calls among the tokens that were read are those of the tree, and each handle has one. -/
theorem Tree.writtenCalls_of_read {tokens : List Token} {t? : Option Tree}
    (h : Tree.read tokens = .ok t?) :
    (Token.writtenCalls tokens).map (fun call ↦ (call.1.text, call.2.text)) =
        t?.elim [] Tree.invocations ∧
      (Token.writtenCalls tokens).map Prod.fst = tokens.filterMap Token.handle? := by
  cases t? with
  | none =>
    obtain rfl : tokens = [] := by
      by_contra hne
      exact Tree.ofTokens?_ne_ok_none hne h
    exact ⟨rfl, rfl⟩
  | some t =>
    obtain ⟨calls, hwrites, hcalls⟩ := (Tree.ofTokens?_eq_ok_iff.1 h).writes
    have hwritten := hwrites.writtenCalls_append []
    rw [List.append_nil, Token.writtenCalls, List.append_nil] at hwritten
    rw [hwritten]
    exact ⟨hcalls, hwrites.handles_eq⟩

namespace Formula

variable {s : Settings} {formula : String} {t? : Option Tree}

/-- What compiles makes the calls of its tree, and blanks alone make none. -/
theorem callsInOrder (h : compile s formula = .ok t?) (b : Bindings) (c : Caller) :
    (evaluateWith s formula b c).CallsInOrder (fun d ↦ .evaluate (.raised d)) c []
      (t?.elim [] Tree.invocations) := by
  rw [evaluateWith, h]
  cases t? with
  | none => exact .ofExcept _
  | some t =>
    have hvalue := (t.callsInOrder b c []).bind fun x _ ↦ .ofExcept (.ok (some x))
    rw [List.append_nil] at hvalue
    exact hvalue.mapError FormulaFault.evaluate

/-- **The calls of a formula are made once each and in the order of the text.** A formula that
compiles has tokens, and the calls written among them are its handles with their arguments. Let it
be evaluated for any caller, even one that remembers the calls before. The calls that are made are
the first of those written; they are all of them if there is a value; and a call that the caller
fails is the last one, and its failure is that of the formula. A caller's functions are the case of
a caller that forgets. -/
theorem evaluate_calls_written (h : compile s formula = .ok t?) (b : Bindings) :
    ∃ tokens, Token.scan formula = .ok tokens ∧
      (Token.writtenCalls tokens).map Prod.fst = tokens.filterMap Token.handle? ∧
      (∀ fs : Functions, evaluateWith s formula b fs.caller = evaluate s formula b fs) ∧
      ∀ c : Caller,
        (∃ made rest, Token.writtenCalls tokens = made ++ rest ∧
          List.Forall₂ (fun written call ↦ Denotes (written.1.text, written.2.text) call) made
            (evaluateWith s formula b c).calls ∧
          ∀ x?, (evaluateWith s formula b c).result = .ok x? → rest = []) ∧
        ∀ before call after d, (evaluateWith s formula b c).calls = before ++ call :: after →
          c before call = .error d → after = [] ∧
            ∃ fault, (evaluateWith s formula b c).result = .error fault ∧
              fault.failure = .diagnostic d := by
  obtain ⟨tokens, hscan, -, hread⟩ := compile_eq_ok_iff.1 h
  obtain ⟨hwritten, hhandles⟩ := Tree.writtenCalls_of_read hread
  refine ⟨tokens, hscan, hhandles, evaluateWith_caller s formula b, fun c ↦ ?_⟩
  obtain ⟨⟨made, rest, hparts, hdenotes, hrest⟩, hraised⟩ := callsInOrder h b c
  rw [hparts, List.map_eq_append_iff] at hwritten
  obtain ⟨made, rest, happend, rfl, rfl⟩ := hwritten
  refine ⟨⟨made, rest, happend, List.forall₂_map_left_iff.1 hdenotes, fun x? hx? ↦ ?_⟩,
    fun before call after d hcalls hd ↦ ?_⟩
  · exact List.map_eq_nil_iff.1 (hrest x? hx?)
  · obtain ⟨hafter, hfault⟩ := hraised before call after d hcalls hd
    exact ⟨hafter, .evaluate (.raised d), hfault, rfl⟩

/-- A caller that fails its second call gets no third one, and its failure is passed on. -/
theorem evaluate_calls_written_refusing :
    compile ⟨[.oil]⟩ "@FPD(1)-Oil*(@FPD(2)-@FPD(1))" =
        .ok (some (.binary .subtract (.atom (.call "@FPD" "1"))
          (.binary .multiply (.atom (.stream "Oil"))
            (.binary .subtract (.atom (.call "@FPD" "2")) (.atom (.call "@FPD" "1")))))) ∧
      ∃ (x y : Float) (fault : FormulaFault),
        evaluateWith ⟨[.oil]⟩ "@FPD(1)-Oil*(@FPD(2)-@FPD(1))" (Bindings.empty.insert .oil 1)
            (fun past _ ↦ if past.isEmpty then .ok 0 else .error ⟨.mathError, "Only once", none⟩) =
          ⟨.error fault, [⟨.fpd, x⟩, ⟨.fpd, y⟩]⟩ ∧
        Decimal.read? "1" = some x ∧ Decimal.read? "2" = some y ∧
        fault.failure = .diagnostic ⟨.mathError, "Only once", none⟩ := by
  have hcompile : compile ⟨[.oil]⟩ "@FPD(1)-Oil*(@FPD(2)-@FPD(1))" =
      .ok (some (.binary .subtract (.atom (.call "@FPD" "1"))
        (.binary .multiply (.atom (.stream "Oil"))
          (.binary .subtract (.atom (.call "@FPD" "2")) (.atom (.call "@FPD" "1")))))) := by
    with_unfolding_all rfl
  have hcalls : ∃ x y, (evaluateWith ⟨[.oil]⟩ "@FPD(1)-Oil*(@FPD(2)-@FPD(1))"
      (Bindings.empty.insert .oil 1)
      (fun past _ ↦ if past.isEmpty then .ok 0 else .error ⟨.mathError, "Only once", none⟩)).calls =
        [⟨.fpd, x⟩, ⟨.fpd, y⟩] ∧ Decimal.read? "1" = some x ∧ Decimal.read? "2" = some y :=
    ⟨_, _, by with_unfolding_all rfl, by with_unfolding_all rfl, by with_unfolding_all rfl⟩
  obtain ⟨x, y, hcalls, hx, hy⟩ := hcalls
  obtain ⟨tokens, -, -, -, hcaller⟩ :=
    evaluate_calls_written hcompile (Bindings.empty.insert .oil 1)
  obtain ⟨-, fault, hresult, hfailure⟩ :=
    (hcaller _).2 [⟨.fpd, x⟩] ⟨.fpd, y⟩ [] ⟨.mathError, "Only once", none⟩ hcalls rfl
  refine ⟨hcompile, x, y, fault, ?_, hx, hy, hfailure⟩
  rw [← hcalls, ← hresult]

end Formula

end StreamFormula
