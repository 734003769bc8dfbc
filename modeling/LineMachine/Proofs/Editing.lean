import LineMachine.Proofs.Faulting

namespace LineMachine.Table

variable {ν : Type}

/-- A call of a table operation, or a line that the standard instructions answer in a program of
some length. -/
inductive Edit (ν : Type) where
  | declareInteger (name : Text)
  | declareList (name : Text)
  | setInteger (name : Text) (amount : ν)
  | setList (name : Text) (items : List (Value ν))
  | execute (line : Line) (length : Nat)

/-- The table that a call leaves; a failed call leaves the table as it was. -/
def settled (table : Table ν) : Except Cause (Table ν) → Table ν
  | .ok after => after
  | .error _ => table

theorem size_eq_signature (table : Table ν) : table.size = table.signature.length := by
  simp [size, signature]

/-- What one edit keeps and adds. -/
structure Edits (table after : Table ν) (declared : Bool) : Prop where
  formed : after.WellFormed
  signature : table.signature <+: after.signature
  size : after.size = table.size + declared.toNat

/-- An edit that changes nothing. -/
theorem Edits.refl {table : Table ν} (formed : table.WellFormed) : Edits table table false :=
  ⟨formed, List.prefix_refl _, rfl⟩

section Calls

variable {table : Table ν} (formed : table.WellFormed)
include formed

theorem declare_edits (name : Text) (value : Value ν) :
    Edits table (table.settled (table.declare name value.kind value))
      (table.declare name value.kind value).isOk := by
  rw [formed.declare_eq]
  cases found : table.find? name with
  | some symbol => exact Edits.refl formed
  | none =>
    refine ⟨formed.push found rfl, ?_, ?_⟩
    · simp [settled]
    · simp [settled, size, push, Except.isOk, Except.toBool]

theorem set_edits (name : Text) (value : Value ν) :
    Edits table (table.settled (table.set name value.kind value)) false := by
  rw [formed.set_eq]
  cases refused : table.refusal? name value.kind with
  | some cause => exact Edits.refl formed
  | none =>
    refine ⟨formed.put refused, ?_, ?_⟩
    · simp [settled]
    · simp [settled, size, put]
end Calls

variable [Number ν]

/-- The table after an edit. -/
def edit (table : Table ν) : Edit ν → Table ν
  | .declareInteger name => table.settled (table.declareInteger name)
  | .declareList name => table.settled (table.declareList name)
  | .setInteger name amount => table.settled (table.setInteger name amount)
  | .setList name items => table.settled (table.setList name items)
  | .execute line length => (Standard.set.dispatch line table length).table

/-- The edit is a declaration and succeeds. -/
def declares (table : Table ν) : Edit ν → Bool
  | .declareInteger name => (table.declareInteger name).isOk
  | .declareList name => (table.declareList name).isOk
  | .setInteger .. | .setList .. => false
  | .execute line length =>
    (Standard.operation? line.command == some .integer ||
      Standard.operation? line.command == some .list) &&
      (Standard.set.dispatch line table length).verdict.isOk

/-- The table after a sequence of edits. -/
def edited (table : Table ν) (edits : List (Edit ν)) : Table ν := edits.foldl edit table

/-- The number of successful declarations in a sequence of edits. -/
def declarations (table : Table ν) : List (Edit ν) → Nat
  | [] => 0
  | first :: rest => (table.declares first).toNat + (table.edit first).declarations rest

section Execution

variable {table : Table ν} (formed : table.WellFormed)
include formed

/-- A line that the standard instructions answer is an edit. -/
theorem execute_edits (line : Line) (length : Nat) :
    Edits table (Standard.set.dispatch line table length).table
      (table.declares (.execute line length)) := by
  have answer := Standard.dispatch_answer formed line length
  rw [declares]
  refine ⟨answer.wellFormed formed, answer.signature, ?_⟩
  generalize Standard.set.dispatch line table length = reply at answer
  cases answer with
  | blank empty => simp [Standard.operation?_blank empty, Reply.ofVerdict]
  | refused cause => simp [Reply.fail, Reply.ofVerdict, Except.isOk, Except.toBool]
  | performed operation named enough =>
    have signature : (operation.effect table line.arguments).table.signature = _ :=
      Operation.effect_signature enough
    rw [Effect.reply, size_eq_signature, signature, List.length_append, ← size_eq_signature, named]
    cases operation with
    | integer | list =>
      obtain ⟨name, given⟩ := List.length_eq_one_iff.mp enough
      simp [given, Operation.declared?, Except.isOk, Except.toBool]
    | _ => simp [Operation.declared?]

theorem edit_edits (change : Edit ν) : Edits table (table.edit change) (table.declares change) := by
  cases change with
  | declareInteger name => exact declare_edits formed name (.number (Number.ofInt 0))
  | declareList name => exact declare_edits formed name (.list [])
  | setInteger name amount => exact set_edits formed name (.number amount)
  | setList name items => exact set_edits formed name (.list items)
  | execute line length => exact execute_edits formed line length

end Execution

/-- A sequence of edits keeps the table well formed and counts its declarations. -/
theorem edited_edits {table : Table ν} (formed : table.WellFormed) (edits : List (Edit ν)) :
    (table.edited edits).WellFormed ∧
      (table.edited edits).size = table.size + table.declarations edits := by
  induction edits generalizing table with
  | nil => exact ⟨formed, rfl⟩
  | cons first rest inductionHypothesis =>
    have firstEdit := edit_edits formed first
    obtain ⟨restFormed, restSize⟩ := inductionHypothesis firstEdit.formed
    refine ⟨restFormed, ?_⟩
    rw [edited, List.foldl_cons, ← edited, restSize, firstEdit.size, declarations]
    omega

end LineMachine.Table

namespace LineMachine.Machine

variable {ν : Type} [Number ν]

/-- The table of a machine has been edited from the empty table, as long as the machine has had
standard instructions only. -/
theorem edited_kept :
    Kept (· = Standard.set) fun machine : Machine ν =>
      ∃ edits, machine.table = Table.empty.edited edits := by
  apply Kept.of_table fun table : Table ν => ∃ edits, table = Table.empty.edited edits
  rintro set table rfl line length ⟨edits, rfl⟩
  exact ⟨edits ++ [.execute line length], by simp [Table.edited, Table.edit]⟩

end LineMachine.Machine

namespace LineMachine.Table

/-- The index is exact, the names are distinct and every symbol holds what its kind says. -/
structure Represented (table : Table Int64) : Prop where
  index : ∀ name place, table.place? name = some place ↔
    ∃ symbol, table.symbols[place]? = some symbol ∧ symbol.name = name
  names : (table.symbols.map Symbol.name).Nodup
  contents : ∀ symbol ∈ table.symbols,
    (symbol.kind = .integer ∧ ∃ amount : Int64, symbol.value = .number amount ∧
      -9223372036854775808 ≤ amount.toInt ∧ amount.toInt ≤ 9223372036854775807) ∨
    (symbol.kind = .list ∧ ∃ items, symbol.value = .list items)

theorem WellFormed.represented {table : Table Int64} (formed : table.WellFormed) :
    table.Represented where
  index := formed.index_iff
  names := formed.names_nodup
  contents symbol member := by
    rw [← formed.kinds symbol member]
    cases symbol.value with
    | number amount =>
      exact .inl ⟨rfl, amount, rfl, amount.le_toInt, Int.le_of_lt_add_one amount.toInt_lt⟩
    | list items => exact .inr ⟨rfl, items, rfl⟩

/-- No standard instruction breaks an assumption on the table. An instruction fails exactly when one
of its checks does, and then the table is untouched. -/
structure Safe (table : Table Int64) : Prop where
  unbroken : ∀ line length defect,
    (Standard.set.dispatch line table length).verdict ≠ .error (.ofCause (.broken defect))
  checked : ∀ (line : Line) (length : Nat) (operation : Operation),
    Standard.operation? line.command = some operation →
    line.arguments.length = operation.arity →
    match operation.failure? line.arguments table length with
    | some cause => Standard.set.dispatch line table length = .fail table cause
    | none => ∃ action, (Standard.set.dispatch line table length).verdict = .ok (some action)

theorem WellFormed.safe {table : Table Int64} (formed : table.WellFormed) : table.Safe where
  unbroken line length := (Standard.dispatch_answer formed line length).not_broken
  checked line length operation named enough := by
    rw [Standard.dispatch_operation formed named enough]
    cases operation.failure? line.arguments table length with
    | some cause => rfl
    | none => exact ⟨_, rfl⟩

/-- Every table that edits make of the empty one is represented exactly, has one symbol for each
declaration that succeeded, keeps its names and kinds under one more edit and is safe for every
standard instruction. Every machine with standard instructions has such a table. -/
theorem edited_representation :
    (∀ edits : List (Edit Int64),
      let table := Table.empty.edited edits
      table.Represented ∧ table.size = Table.empty.declarations edits ∧
      (∀ next, table.signature <+: (table.edit next).signature) ∧ table.Safe) ∧
    ∀ (filename : Text) (tracing : Bool) (lines : List Text) (places : List Nat)
      (machine : Machine Int64),
      Machine.History (· = Standard.set) (.load filename tracing lines) places machine →
      ∃ edits, machine.table = Table.empty.edited edits := by
  constructor
  · intro edits table
    obtain ⟨formed, size⟩ := edited_edits wellFormed_empty edits
    exact ⟨formed.represented, size.trans (Nat.zero_add _),
      fun next => (edit_edits formed next).signature, formed.safe⟩
  · intro filename tracing lines places machine history
    exact Machine.edited_kept.history history ⟨[], rfl⟩

/-- Of seven edits only two declare a name: the others set a value or fail. -/
theorem edited_representation_attempts :
    let line := fun source : String => Line.parse [] (utf8 source) 1
    let edits : List (Edit Int64) :=
      [.declareInteger (utf8 "x"), .declareList (utf8 "x"), .setList (utf8 "x") [],
        .execute (line "LIST l") 1, .execute (line "MERGE x l") 1, .execute (line "HEAD l l") 1,
        .execute (line "HEAD l x") 1]
    let table := Table.empty.edited edits
    table.Represented ∧ table.size = 2 ∧ table.text = utf8 "x (int) = 0\nl (list) = [0]\n" := by
  intro line edits table
  obtain ⟨counted, text⟩ : Table.empty.declarations edits = 2 ∧
      table.text = utf8 "x (int) = 0\nl (list) = [0]\n" := by
    decide +kernel
  obtain ⟨represented, size, -⟩ := edited_representation.1 edits
  exact ⟨represented, size.trans counted, text⟩

end LineMachine.Table
