import StreamFormula.Vocabulary

/-!
# Bindings

The values of streams while a formula is evaluated. Each stream is bound to at most one number, so
bindings are a function, and a later binding of a stream takes the place of an earlier one
(`get?_insert`). Two bindings are compared as numbers are: `0.0` agrees with `-0.0`, and a value
that is no number agrees with nothing.
-/

namespace StreamFormula

/-- The values that streams are bound to. -/
structure Bindings where
  /-- The value of a stream, if it is bound. -/
  get? : Stream → Option Float

namespace Bindings

/-- No stream is bound. -/
def empty : Bindings := ⟨fun _ ↦ none⟩

/-- One binding more, which takes the place of an earlier one. -/
def insert (b : Bindings) (stream : Stream) (value : Float) : Bindings :=
  ⟨fun s ↦ if s = stream then some value else b.get? s⟩

/-- The bindings of a list; of several for one stream the last counts. -/
def ofList (pairs : List (Stream × Float)) : Bindings :=
  pairs.foldl (fun b p ↦ b.insert p.1 p.2) empty

/-- The bound streams with their values, in registry order. -/
def toList (b : Bindings) : List (Stream × Float) :=
  Stream.all.filterMap fun s ↦ (b.get? s).map fun x ↦ (s, x)

/-- How many streams are bound. -/
def size (b : Bindings) : Nat := b.toList.length

/-- Whether no stream is bound. -/
def isEmpty (b : Bindings) : Bool := b.toList.isEmpty

/-- Both bind the same streams, to numbers that compare equal. -/
def beq (a b : Bindings) : Bool := Stream.all.all fun s ↦ a.get? s == b.get? s

instance : BEq Bindings := ⟨beq⟩

@[simp] theorem get?_empty (s : Stream) : empty.get? s = none := rfl

theorem get?_insert (b : Bindings) (stream s : Stream) (value : Float) :
    (b.insert stream value).get? s = if s = stream then some value else b.get? s := rfl

@[simp] theorem get?_insert_self (b : Bindings) (s : Stream) (value : Float) :
    (b.insert s value).get? s = some value := if_pos rfl

theorem get?_insert_of_ne (b : Bindings) {stream s : Stream} (value : Float) (h : s ≠ stream) :
    (b.insert stream value).get? s = b.get? s := if_neg h

theorem mem_toList {b : Bindings} {s : Stream} {x : Float} :
    (s, x) ∈ b.toList ↔ b.get? s = some x := by
  simp [toList]

end Bindings

end StreamFormula
