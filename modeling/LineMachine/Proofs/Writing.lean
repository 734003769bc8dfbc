import LineMachine.Proofs.Dispatch

namespace LineMachine

namespace Table

variable {ν : Type} {table : Table ν} {name other : Text}

/-- Writing leaves every symbol in place and changes the value of one. -/
@[simp] theorem find?_put (table : Table ν) (name other : Text) (value : Value ν) :
    (table.put name value).find? other =
      (table.find? other).map fun symbol => if other = name then { symbol with value } else symbol := by
  have sameName (symbol : Symbol ν) :
      (if symbol.name = name then { symbol with value } else symbol).name = symbol.name := by
    split <;> rfl
  simp only [find?, put, List.find?_map, Function.comp_def, sameName]
  cases found : table.symbols.find? fun symbol => symbol.name == other with
  | none => rfl
  | some symbol =>
    have named : symbol.name = other := by simpa using List.find?_some found
    rw [Option.map_some, Option.map_some, named]

@[simp] theorem refusal?_put (table : Table ν) (name other : Text) (value : Value ν) (kind : Kind) :
    (table.put name value).refusal? other kind = table.refusal? other kind := by
  rw [refusal?, refusal?, find?_put]
  cases table.find? other with
  | none => rfl
  | some symbol => by_cases same : other = name <;> simp [same]

/-- A declared name holds what was written under it. -/
theorem valueOf_put_self (declared : (table.find? name).isSome) (value : Value ν) :
    (table.put name value).valueOf name = value := by
  obtain ⟨symbol, found⟩ := Option.isSome_iff_exists.mp declared
  simp [valueOf, found]

theorem valueOf_put_of_ne (different : other ≠ name) (value : Value ν) :
    (table.put name value).valueOf other = table.valueOf other := by
  simp [valueOf, different]

theorem itemsOf_put_self (declared : (table.find? name).isSome) (items : List (Value ν)) :
    (table.put name (.list items)).itemsOf name = items := by
  obtain ⟨symbol, found⟩ := Option.isSome_iff_exists.mp declared
  simp [itemsOf, found, Value.items?]

theorem itemsOf_put_of_ne (different : other ≠ name) (value : Value ν) :
    (table.put name value).itemsOf other = table.itemsOf other := by
  simp [itemsOf, different]

theorem amountOf_put_self [Number ν] (declared : (table.find? name).isSome) (amount : ν) :
    (table.put name (.number amount)).amountOf name = amount := by
  obtain ⟨symbol, found⟩ := Option.isSome_iff_exists.mp declared
  simp [amountOf, found, Value.amount?]

theorem amountOf_put_of_ne [Number ν] (different : other ≠ name) (value : Value ν) :
    (table.put name value).amountOf other = table.amountOf other := by
  simp [amountOf, different]

/-- Values under different names can be written in any order. -/
theorem put_comm (table : Table ν) (different : other ≠ name) (first second : Value ν) :
    (table.put name first).put other second = (table.put other second).put name first := by
  simp only [put, List.map_map, Table.mk.injEq, and_true]
  apply List.map_congr_left
  intro symbol _
  by_cases same : symbol.name = name
  · simp [same, different.symm]
  · by_cases sameOther : symbol.name = other <;> simp [same, sameOther, different]

/-- The last value that is written counts. -/
@[simp] theorem put_put (table : Table ν) (name : Text) (first second : Value ν) :
    (table.put name first).put name second = table.put name second := by
  simp only [put, List.map_map, Table.mk.injEq, and_true]
  apply List.map_congr_left
  intro symbol _
  by_cases same : symbol.name = name <;> simp [same]

/-- A name that is admitted under a kind is declared. -/
theorem declared_of_admitted {kind : Kind} (admitted : table.refusal? name kind = none) :
    (table.find? name).isSome := by
  rw [refusal?] at admitted
  cases found : table.find? name with
  | none => simp [found] at admitted
  | some symbol => rfl

namespace WellFormed

/-- Writing what a name holds changes nothing. -/
theorem put_valueOf (formed : table.WellFormed) (name : Text) :
    table.put name (table.valueOf name) = table := by
  have unchanged : (table.symbols.map fun symbol =>
      if symbol.name = name then { symbol with value := table.valueOf name } else symbol) =
        table.symbols := by
    refine (List.map_congr_left fun symbol member => ?_).trans (List.map_id _)
    by_cases same : symbol.name = name
    · have found := formed.find?_eq_some member
      simp [valueOf, ← same, found]
    · simp [same]
  rw [Table.put, unchanged]

/-- A name that is admitted as a list holds its items. -/
theorem valueOf_list (formed : table.WellFormed) (admitted : table.refusal? name .list = none) :
    table.valueOf name = .list (table.itemsOf name) := by
  obtain ⟨symbol, found, isList, -⟩ := formed.getKind_admitted admitted
  have kind := formed.kinds symbol (find?_mem found)
  cases held : symbol.value with
  | list items => simp [valueOf, itemsOf, found, held, Value.items?]
  | number amount => simp [held, Value.kind, isList] at kind

/-- A name that is admitted as a number holds its amount. -/
theorem valueOf_integer [Number ν] (formed : table.WellFormed)
    (admitted : table.refusal? name .integer = none) :
    table.valueOf name = .number (table.amountOf name) := by
  obtain ⟨symbol, found, isInteger, -⟩ := formed.getKind_admitted admitted
  have kind := formed.kinds symbol (find?_mem found)
  cases held : symbol.value with
  | number amount => simp [valueOf, amountOf, found, held, Value.amount?]
  | list items => simp [held, Value.kind, isInteger] at kind

theorem put_itemsOf (formed : table.WellFormed) (admitted : table.refusal? name .list = none) :
    table.put name (.list (table.itemsOf name)) = table := by
  rw [← formed.valueOf_list admitted, formed.put_valueOf]

/-- A list that can be read is admitted as a list. -/
theorem admitted_of_list (formed : table.WellFormed) {items : List (Value ν)}
    (isList : table.list name = .ok items) :
    table.refusal? name .list = none ∧ table.itemsOf name = items := by
  rw [formed.list_eq] at isList
  cases refused : table.refusal? name .list with
  | some cause => simp [refused] at isList
  | none => exact ⟨rfl, by simpa [refused] using isList⟩

/-- A number that can be read is admitted as a number. -/
theorem admitted_of_integer [Number ν] (formed : table.WellFormed) {amount : ν}
    (isInteger : table.integer name = .ok amount) :
    table.refusal? name .integer = none ∧ table.amountOf name = amount := by
  rw [formed.integer_eq] at isInteger
  cases refused : table.refusal? name .integer with
  | some cause => simp [refused] at isInteger
  | none => exact ⟨rfl, by simpa [refused] using isInteger⟩

/-- A number that was written can be read. -/
theorem integer_put [Number ν] (formed : table.WellFormed)
    (admitted : table.refusal? name .integer = none) (amount : ν) :
    (table.put name (.number amount)).integer name = .ok amount := by
  have written : (table.put name (.number amount)).WellFormed := formed.put admitted
  simp [written.integer_eq, admitted, amountOf_put_self (declared_of_admitted admitted)]

/-- A symbol that can be read is the one that is found. -/
theorem find?_of_get (formed : table.WellFormed) {symbol : Symbol ν}
    (got : table.get name = .ok symbol) : table.find? name = some symbol := by
  rw [formed.get_eq] at got
  cases found : table.find? name with
  | none => simp [found] at got
  | some other => simpa [found] using got

end WellFormed
end Table

/-- A line asks for an operation on arguments. -/
structure Line.Asks (line : Line) (operation : Operation) (arguments : List Text) : Prop where
  command : line.command = operation.mnemonic
  given : line.arguments = arguments

instance (line : Line) (operation : Operation) (arguments : List Text) :
    Decidable (line.Asks operation arguments) :=
  decidable_of_iff (line.command = operation.mnemonic ∧ line.arguments = arguments)
    ⟨fun both => ⟨both.1, both.2⟩, fun asks => ⟨asks.command, asks.given⟩⟩

namespace Standard

variable {ν : Type} [Number ν] {table : Table ν}

/-- A mnemonic stands for its operation. -/
theorem operation?_mnemonic (operation : Operation) :
    operation? operation.mnemonic = some operation := by
  cases operation <;> decide

/-- A line is answered by the rule of the operation that it asks for. -/
theorem dispatch_asked (formed : table.WellFormed) {line : Line} {operation : Operation}
    {arguments : List Text} (asks : line.Asks operation arguments)
    (enough : arguments.length = operation.arity) (length : Nat) :
    set.dispatch line table length =
      match operation.failure? arguments table length with
      | some cause => .fail table cause
      | none => (operation.effect table arguments).reply line.position := by
  have named : operation? line.command = some operation := by
    rw [asks.command, operation?_mnemonic]
  rw [← asks.given] at enough ⊢
  exact dispatch_operation formed named enough length

end Standard
end LineMachine
