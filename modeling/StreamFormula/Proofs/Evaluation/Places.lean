import StreamFormula.Evaluation.Caller
import StreamFormula.Proofs.Reader.Contents

/-!
# The order of evaluation

Evaluation comes to the nodes of a tree from left to right, and to an operator after its operands.
`Tree.places` lists them in that order. A node alone does not say what its value is, since a caller
may remember: a `Place` is a node together with the calls that were made before it, and with these
it has a value, or a failure.

The first failure along the places is that of the tree (`Tree.result_eq_error_iff`), and where there
is none every place has a value. Since operands come first, the place that fails first is a leaf, or
an operator whose operands have values (`Tree.exists_failsFirst`). So a tree that has no value fails
for one of its leaves, and then the calls of that leaf are the last ones, or for one of its
operators (`Tree.evaluateWith_eq_error`).
-/

namespace StreamFormula

variable {b : Bindings} {c : Caller} {past : List Call} {t : Tree} {fault : EvalFault}

/-- A node of a tree, with the calls that were made before it. -/
structure Place where
  past : List Call
  node : Tree

namespace Place

/-- What the node evaluates to in its place. -/
def value (b : Bindings) (c : Caller) (p : Place) : Except EvalFault Float :=
  (p.node.evaluateWith b c p.past).result

/-- The failure of the node in its place, if it fails. -/
def fault? (b : Bindings) (c : Caller) (p : Place) : Option EvalFault :=
  match p.value b c with
  | .ok _ => none
  | .error fault => some fault

/-- The node is a binary operator, and its operands have these values. -/
def Operands (b : Bindings) (c : Caller) (p : Place) (op : BinaryOp) (x y : Float) : Prop :=
  ∃ left right, p.node = .binary op left right ∧
    (left.evaluateWith b c p.past).result = .ok x ∧
    (right.evaluateWith b c (p.past ++ (left.evaluateWith b c p.past).calls)).result = .ok y

theorem fault?_eq_some_iff {p : Place} :
    p.fault? b c = some fault ↔ p.value b c = .error fault := by
  unfold fault?
  rcases p.value b c with fault' | x
  · simp
  · simp

theorem fault?_eq_none_iff {p : Place} : p.fault? b c = none ↔ ∃ x, p.value b c = .ok x := by
  unfold fault?
  rcases p.value b c with fault | x
  · simp
  · simp

/-- An operator with operands is applied to them. -/
theorem Operands.value_eq {p : Place} {op : BinaryOp} {x y : Float} (h : p.Operands b c op x y) :
    p.value b c = op.apply x y := by
  obtain ⟨left, right, hnode, hleft, hright⟩ := h
  rw [value, hnode, Tree.evaluateWith, Evaluation.bind_of_ok hleft, Evaluation.bind_of_ok hright]
  rfl

end Place

namespace Tree

/-- The nodes of a tree in the order of their evaluation. -/
def places (b : Bindings) (c : Caller) : List Call → Tree → List Place
  | past, atom a => [⟨past, atom a⟩]
  | past, binary op left right =>
    left.places b c past ++ right.places b c (past ++ (left.evaluateWith b c past).calls) ++
      [⟨past, binary op left right⟩]
  | past, signed sign operand => operand.places b c past ++ [⟨past, signed sign operand⟩]

/-- **The first failure along the places is the failure of the tree.** -/
theorem findSome?_places (b : Bindings) (c : Caller) (past : List Call) (t : Tree) :
    (t.places b c past).findSome? (Place.fault? b c) = Place.fault? b c ⟨past, t⟩ := by
  induction t generalizing past with
  | atom a => exact List.findSome?_singleton
  | binary op l r ihl ihr =>
    rw [places, List.findSome?_append, List.findSome?_append, List.findSome?_singleton, ihl, ihr]
    simp only [Place.fault?, Place.value, evaluateWith]
    rcases hl : (l.evaluateWith b c past).result with fault | x
    · rw [Evaluation.bind_of_error hl]
      rfl
    · rw [Evaluation.bind_of_ok hl]
      rcases hr : (r.evaluateWith b c (past ++ (l.evaluateWith b c past).calls)).result with
        fault | y
      · rw [Evaluation.bind_of_error hr]
        rfl
      · rfl
  | signed s t ih =>
    rw [places, List.findSome?_append, List.findSome?_singleton, ih]
    simp only [Place.fault?, Place.value, evaluateWith]
    rcases ht : (t.evaluateWith b c past).result with fault | x
    · rw [Evaluation.bind_of_error ht]
      rfl
    · rfl

/-- Where a tree has a value, every place has one. -/
theorem exists_value_of_result_eq_ok {x : Float} (h : (t.evaluateWith b c past).result = .ok x) :
    ∀ p ∈ t.places b c past, ∃ y, p.value b c = .ok y := by
  have hnone : (t.places b c past).findSome? (Place.fault? b c) = none := by
    rw [findSome?_places, Place.fault?_eq_none_iff]
    exact ⟨x, h⟩
  exact fun p hp ↦ Place.fault?_eq_none_iff.1 (List.findSome?_eq_none_iff.1 hnone p hp)

end Tree

/-! ### First failures -/

/-- The place fails, and all places before it have values. -/
def FailsFirst (b : Bindings) (c : Caller) (places : List Place) (p : Place) (fault : EvalFault) :
    Prop :=
  ∃ before after, places = before ++ p :: after ∧ (∀ q ∈ before, ∃ x, q.value b c = .ok x) ∧
    p.value b c = .error fault

/-- Searching the places for a failure finds what fails first. -/
theorem failsFirst_iff {places : List Place} :
    (∃ p, FailsFirst b c places p fault) ↔ places.findSome? (Place.fault? b c) = some fault := by
  simp only [FailsFirst, List.findSome?_eq_some_iff, Place.fault?_eq_some_iff,
    Place.fault?_eq_none_iff]
  constructor
  · rintro ⟨p, before, after, hplaces, hbefore, hp⟩
    exact ⟨before, p, after, hplaces, hp, hbefore⟩
  · rintro ⟨before, p, after, hplaces, hp, hbefore⟩
    exact ⟨p, before, after, hplaces, hbefore, hp⟩

theorem FailsFirst.value_eq {places : List Place} {p : Place} (h : FailsFirst b c places p fault) :
    p.value b c = .error fault := by
  obtain ⟨-, -, -, -, hp⟩ := h
  exact hp

theorem FailsFirst.mem {places : List Place} {p : Place} (h : FailsFirst b c places p fault) :
    p ∈ places := by
  obtain ⟨before, after, rfl, -⟩ := h
  exact List.mem_append_right _ List.mem_cons_self

/-- What stands behind a first failure makes no difference. -/
theorem FailsFirst.append {places : List Place} {p : Place} (h : FailsFirst b c places p fault)
    (back : List Place) : FailsFirst b c (places ++ back) p fault := by
  obtain ⟨before, after, rfl, hp⟩ := h
  exact ⟨before, after ++ back, by rw [List.append_assoc, List.cons_append], hp⟩

/-- Values in front of a first failure make no difference. -/
theorem FailsFirst.prepend {places front : List Place} {p : Place}
    (h : FailsFirst b c places p fault) (hfront : ∀ q ∈ front, ∃ x, q.value b c = .ok x) :
    FailsFirst b c (front ++ places) p fault := by
  obtain ⟨before, after, rfl, hbefore, hp⟩ := h
  exact ⟨front ++ before, after, (List.append_assoc ..).symm,
    List.forall_mem_append.2 ⟨hfront, hbefore⟩, hp⟩

namespace Tree

/-- A tree fails as its first place to fail does. -/
theorem result_eq_error_iff :
    (t.evaluateWith b c past).result = .error fault ↔
      ∃ p, FailsFirst b c (t.places b c past) p fault := by
  rw [failsFirst_iff, findSome?_places, Place.fault?_eq_some_iff, Place.value]

/-- **What fails first is a leaf or an operator**: operands that fail come before it. Nothing is
called after it, so its calls are the last ones. -/
theorem exists_failsFirst (h : (t.evaluateWith b c past).result = .error fault) :
    ∃ p, FailsFirst b c (t.places b c past) p fault ∧
      past ++ (t.evaluateWith b c past).calls =
        p.past ++ (p.node.evaluateWith b c p.past).calls ∧
      ((∃ a, p.node = .atom a) ∨
        ∃ op x y, p.Operands b c op x y ∧ op.apply x y = .error fault) := by
  induction t generalizing past with
  | atom a => exact ⟨⟨past, atom a⟩, ⟨[], [], rfl, nofun, h⟩, rfl, .inl ⟨a, rfl⟩⟩
  | binary op l r ihl ihr =>
    -- the failure is that of the left operand, else of the right one, else of the operator itself
    rcases Evaluation.result_bind_eq_error_iff.1 h with hl | ⟨x, hl, hrest⟩
    · obtain ⟨p, hp, hcalls, hkind⟩ := ihl hl
      rw [evaluateWith, Evaluation.bind_of_error hl]
      exact ⟨p, (hp.append _).append _, hcalls, hkind⟩
    · have hleft := exists_value_of_result_eq_ok hl
      rcases Evaluation.result_bind_eq_error_iff.1 hrest with hr | ⟨y, hr, happly⟩
      · obtain ⟨p, hp, hcalls, hkind⟩ := ihr hr
        rw [evaluateWith, Evaluation.bind_of_ok hl, Evaluation.bind_of_error hr]
        rw [List.append_assoc] at hcalls
        exact ⟨p, (hp.prepend hleft).append _, hcalls, hkind⟩
      · have hright := exists_value_of_result_eq_ok hr
        exact ⟨⟨past, binary op l r⟩,
          ⟨_, [], rfl, List.forall_mem_append.2 ⟨hleft, hright⟩, h⟩, rfl,
          .inr ⟨op, x, y, ⟨l, r, rfl, hl, hr⟩, happly⟩⟩
  | signed s t ih =>
    rcases Evaluation.result_bind_eq_error_iff.1 h with ht | ⟨x, -, hpure⟩
    · obtain ⟨p, hp, hcalls, hkind⟩ := ih ht
      rw [evaluateWith, Evaluation.bind_of_error ht]
      exact ⟨p, hp.append _, hcalls, hkind⟩
    · cases hpure

/-- The leaves and the operators of a place are those of the tree. -/
theorem subset_of_mem_places {p : Place} (hp : p ∈ t.places b c past) :
    p.node.atoms ⊆ t.atoms ∧ p.node.symbols ⊆ t.symbols := by
  induction t generalizing past with
  | atom a =>
    obtain rfl := List.mem_singleton.1 hp
    exact ⟨List.Subset.refl _, List.Subset.refl _⟩
  | binary op l r ihl ihr =>
    rcases List.mem_append.1 hp with hp | hp
    · rcases List.mem_append.1 hp with hp | hp
      · obtain ⟨hatoms, hsymbols⟩ := ihl hp
        exact ⟨List.subset_append_of_subset_left _ hatoms,
          List.subset_append_of_subset_left _ hsymbols⟩
      · obtain ⟨hatoms, hsymbols⟩ := ihr hp
        exact ⟨List.subset_append_of_subset_right _ hatoms,
          List.subset_append_of_subset_right _ (List.subset_cons_of_subset _ hsymbols)⟩
    · obtain rfl := List.mem_singleton.1 hp
      exact ⟨List.Subset.refl _, List.Subset.refl _⟩
  | signed s t ih =>
    rcases List.mem_append.1 hp with hp | hp
    · obtain ⟨hatoms, hsymbols⟩ := ih hp
      exact ⟨hatoms, List.subset_cons_of_subset _ hsymbols⟩
    · obtain rfl := List.mem_singleton.1 hp
      exact ⟨List.Subset.refl _, List.Subset.refl _⟩

/-- **A failure has a place in the tree**: a leaf, after whose calls nothing is called, or an
operator. -/
theorem evaluateWith_eq_error (h : (t.evaluateWith b c past).result = .error fault) :
    (∃ a ∈ t.atoms, ∃ before,
        past ++ (t.evaluateWith b c past).calls =
          before ++ (a.evaluate b (c.functions before)).calls ∧
        (a.evaluate b (c.functions before)).result = .error fault) ∨
      ∃ op x y, BinaryOp.symbol op ∈ t.symbols ∧ op.apply x y = .error fault := by
  obtain ⟨⟨before, node⟩, hfirst, hcalls, hkind⟩ := exists_failsFirst h
  obtain ⟨hatoms, hsymbols⟩ := subset_of_mem_places hfirst.mem
  rcases hkind with ⟨a, rfl⟩ | ⟨op, x, y, ⟨l, r, rfl, -, -⟩, happly⟩
  · exact .inl ⟨a, hatoms (List.mem_singleton_self a), before, hcalls, hfirst.value_eq⟩
  · have hop : op.symbol ∈ (binary op l r).symbols := List.mem_append_right _ List.mem_cons_self
    exact .inr ⟨op, x, y, hsymbols hop, happly⟩

end Tree

end StreamFormula
