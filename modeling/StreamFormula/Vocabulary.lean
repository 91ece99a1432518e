/-!
# The vocabulary of formulas

A formula names input *streams* by their spelling (`Oil`) and calls *built-in functions* by a
handle (`@FPD`). Both registries are fixed and ordered, and look-ups search that order, so a
spelling is known exactly when some entry has it (`Stream.ofName?_eq_some_iff`,
`Builtin.ofSymbol?_eq_some_iff`). Which entries one formula may use is a `Vocabulary`; functions are
offered as soon as one stream is selected.
-/

namespace StreamFormula

/-- A named input series that a formula can read. -/
inductive Stream where
  | oil
  | gas
  | water
  deriving DecidableEq

/-- A function that a formula can call through its handle. -/
inductive Builtin where
  | fpd
  deriving DecidableEq

/-! ### Streams -/

namespace Stream

/-- All streams, in registry order. -/
def all : List Stream := [oil, gas, water]

/-- The spelling of a stream inside a formula. -/
def name : Stream → String
  | oil => "Oil"
  | gas => "Gas"
  | water => "Water"

/-- The spelling of a stream in documents. -/
def code : Stream → String
  | oil => "OIL"
  | gas => "GAS"
  | water => "WATER"

/-- The stream of an exact formula spelling. -/
def ofName? (text : String) : Option Stream := all.find? fun s ↦ s.name == text

/-- The stream of an exact document spelling. -/
def ofCode? (text : String) : Option Stream := all.find? fun s ↦ s.code == text

@[simp] theorem mem_all (s : Stream) : s ∈ all := by cases s <;> decide

@[simp] theorem ofName?_name (s : Stream) : ofName? s.name = some s := by cases s <;> decide

@[simp] theorem ofCode?_code (s : Stream) : ofCode? s.code = some s := by cases s <;> decide

theorem ofName?_eq_some_iff {text : String} {s : Stream} : ofName? text = some s ↔ s.name = text :=
  ⟨fun h ↦ by simpa using List.find?_some h, fun h ↦ h ▸ ofName?_name s⟩

@[simp] theorem name_inj {a b : Stream} : a.name = b.name ↔ a = b :=
  ⟨by cases a <;> cases b <;> simp [name], congrArg name⟩

theorem ofCode?_eq_some_iff {text : String} {s : Stream} : ofCode? text = some s ↔ s.code = text :=
  ⟨fun h ↦ by simpa using List.find?_some h, fun h ↦ h ▸ ofCode?_code s⟩

/-- The streams of a selection, each once and in registry order. -/
def select (selected : List Stream) : List Stream := all.filter (· ∈ selected)

@[simp] theorem mem_select {s : Stream} {selected : List Stream} :
    s ∈ select selected ↔ s ∈ selected := by simp [select]

end Stream

/-! ### Built-in functions -/

namespace Builtin

/-- All functions, in registry order. -/
def all : List Builtin := [fpd]

/-- The registry name of a function, without the leading `@`. -/
def name : Builtin → String
  | fpd => "FPD"

/-- The handle that calls a function in a formula. -/
def symbol (f : Builtin) : String := "@" ++ f.name

/-- The function of an exact registry name. -/
def ofName? (text : String) : Option Builtin := all.find? fun f ↦ f.name == text

/-- The function of an exact handle. -/
def ofSymbol? (text : String) : Option Builtin := all.find? fun f ↦ f.symbol == text

@[simp] theorem mem_all (f : Builtin) : f ∈ all := by cases f; decide

@[simp] theorem ofName?_name (f : Builtin) : ofName? f.name = some f := by cases f; decide

@[simp] theorem ofSymbol?_symbol (f : Builtin) : ofSymbol? f.symbol = some f := by cases f; decide

theorem ofName?_eq_some_iff {text : String} {f : Builtin} :
    ofName? text = some f ↔ f.name = text :=
  ⟨fun h ↦ by simpa using List.find?_some h, fun h ↦ h ▸ ofName?_name f⟩

theorem ofSymbol?_eq_some_iff {text : String} {f : Builtin} :
    ofSymbol? text = some f ↔ f.symbol = text :=
  ⟨fun h ↦ by simpa using List.find?_some h, fun h ↦ h ▸ ofSymbol?_symbol f⟩

/-- The functions of a selection, each once and in registry order. -/
def select (selected : List Builtin) : List Builtin := all.filter (· ∈ selected)

@[simp] theorem mem_select {f : Builtin} {selected : List Builtin} :
    f ∈ select selected ↔ f ∈ selected := by simp [select]

/-- The functions offered with the selected input streams: all of them once one is selected. -/
def available (inputs : List Stream) : List Builtin := if inputs.isEmpty then [] else all

theorem mem_available {f : Builtin} {inputs : List Stream} :
    f ∈ available inputs ↔ inputs ≠ [] := by
  cases inputs <;> simp [available]

end Builtin

/-- The streams and functions that a formula may use. -/
structure Vocabulary where
  /-- The streams that a formula may read. -/
  streams : List Stream
  /-- The functions that a formula may call. -/
  functions : List Builtin

end StreamFormula
