import LineMachine.Proofs.Language
import LineMachine.Proofs.Words

namespace LineMachine

variable {ν : Type}

namespace Table

/-- The store that a table stands for. -/
def store (table : Table ν) : Store ν := table.symbols.map fun symbol => (symbol.name, symbol.value)

/-- A name has in the store the value of the symbol that it finds. -/
theorem lookup_store (table : Table ν) (name : Text) :
    table.store.lookup name = (table.find? name).map Symbol.value := by
  rw [store, find?]
  induction table.symbols with
  | nil => rfl
  | cons first rest inductionHypothesis =>
    rw [List.map_cons, List.lookup_cons, List.find?_cons, inductionHypothesis]
    by_cases same : first.name = name
    · simp [same]
    · simp only [beq_eq_false_iff_ne.mpr same, beq_eq_false_iff_ne.mpr (Ne.symm same)]

@[simp] theorem store_push (table : Table ν) (name : Text) (kind : Kind) (value : Value ν) :
    (table.push name kind value).store = table.store ++ [(name, value)] := by
  simp [store, push]

@[simp] theorem store_put (table : Table ν) (name : Text) (value : Value ν) :
    (table.put name value).store = table.store.assign name value := by
  simp only [store, put, Store.assign, List.map_map]
  apply List.map_congr_left
  intro symbol _
  by_cases same : symbol.name = name <;> simp [same]

/-- A declared name holds its value. -/
theorem lookup_valueOf {table : Table ν} {name : Text} (declared : (table.find? name).isSome) :
    table.store.lookup name = some (table.valueOf name) := by
  obtain ⟨symbol, found⟩ := Option.isSome_iff_exists.mp declared
  simp [lookup_store, valueOf, found]

/-- The items under a name are those of the list that it holds. -/
theorem itemsOf_eq (table : Table ν) (name : Text) :
    table.itemsOf name = ((table.store.lookup name).bind Value.items?).getD [] := by
  rw [lookup_store, itemsOf]
  cases table.find? name <;> rfl

/-- Items are found only under a name that holds them. -/
theorem lookup_of_itemsOf {table : Table ν} {name : Text} {first : Value ν} {rest : List (Value ν)}
    (items : table.itemsOf name = first :: rest) :
    table.store.lookup name = some (.list (first :: rest)) := by
  rw [itemsOf_eq] at items
  cases held : table.store.lookup name with
  | none => simp [held] at items
  | some value =>
    cases value with
    | number amount => simp [held, Value.items?] at items
    | list content => simpa [held, Value.items?] using items

namespace WellFormed

variable {table : Table ν}

/-- The symbols of a well-formed table can be read off its store. -/
theorem symbols_eq (formed : table.WellFormed) :
    table.symbols = table.store.map fun (name, value) => ⟨name, value.kind, value⟩ := by
  rw [store, List.map_map]
  refine (List.map_id _).symm.trans (List.map_congr_left fun symbol member => ?_)
  simp [formed.kinds symbol member]

/-- A name that is admitted as a number holds one. -/
theorem lookup_amountOf [Number ν] (formed : table.WellFormed) {name : Text}
    (admitted : table.refusal? name .integer = none) :
    table.store.lookup name = some (.number (table.amountOf name)) := by
  obtain ⟨symbol, found, isInteger, -⟩ := formed.getKind_admitted admitted
  have kind := formed.kinds symbol (find?_mem found)
  cases held : symbol.value with
  | number amount => simp [lookup_store, amountOf, found, held, Value.amount?]
  | list items => simp [held, Value.kind, isInteger] at kind

/-- A name that is admitted as a list holds one. -/
theorem lookup_itemsOf (formed : table.WellFormed) {name : Text}
    (admitted : table.refusal? name .list = none) :
    table.store.lookup name = some (.list (table.itemsOf name)) := by
  obtain ⟨symbol, found, isList, -⟩ := formed.getKind_admitted admitted
  have kind := formed.kinds symbol (find?_mem found)
  cases held : symbol.value with
  | list items => simp [lookup_store, itemsOf, found, held, Value.items?]
  | number amount => simp [held, Value.kind, isList] at kind

end WellFormed
end Table

/-- The kind of fault that a requirement raises, if it is not met. -/
def Requirement.violation? (store : Store ν) (length : Nat) (requirement : Requirement) :
    Option FaultKind :=
  if requirement.isMet store length then none else some requirement.fault

/-- The first violation comes from the first requirement that is not met. -/
theorem Requirement.findSome?_violation? (store : Store ν) (length : Nat)
    (requirements : List Requirement) :
    requirements.findSome? (violation? store length) =
      (requirements.find? fun requirement => !requirement.isMet store length).map fault := by
  induction requirements with
  | nil => rfl
  | cons first rest inductionHypothesis =>
    rw [List.findSome?_cons, List.find?_cons, inductionHypothesis, violation?]
    cases first.isMet store length <;> rfl

namespace Check

/-- What a check of the machine asks for in the words of the language. -/
def requirements : Check → List Requirement
  | .fresh name => [.fresh name]
  | .declared name => [.declared name]
  | .kindOf name expected => [.declared name, .ofKind name expected]
  | .literal token => [.literal token]
  | .lineLiteral token => [.lineNumber token]
  | .lineWithin token => [.inProgram token]
  | .filled name => [.filled name]
  | .receives target source => [.declared target, .fitsHead target source]

variable {table : Table ν}

section

attribute [local simp] requirements Requirement.violation? Requirement.isMet Requirement.fault
  failure? Table.refusal? Table.lookup_store Cause.kind

/-- A check fails when one of its requirements is not met, and with the fault of the first of them.
The check of a head supposes that there is one. -/
theorem findSome?_violation? (formed : table.WellFormed) (length : Nat) {check : Check}
    (supposed : ∀ target source, check = .receives target source → table.itemsOf source ≠ []) :
    check.requirements.findSome? (Requirement.violation? table.store length) =
      (check.failure? table length).map Cause.kind := by
  cases check with
  | fresh name | declared name => cases found : table.find? name <;> simp [found]
  | kindOf name expected =>
    cases found : table.find? name with
    | none => simp [found]
    | some symbol =>
      have kind := formed.kinds symbol (Table.find?_mem found)
      by_cases same : symbol.kind = expected <;> simp [found, kind, same]
  | literal token => cases read : token.toInt64? <;> simp [read]
  | lineLiteral token =>
    cases read : token.toInt64? with
    | none => simp [read]
    | some line => by_cases positive : 1 ≤ line <;> simp [read, positive]
  | lineWithin token =>
    cases read : token.toInt64? with
    | none => simp [read]
    | some line => by_cases within : line ≤ length <;> simp [read, within]
  | filled name =>
    cases found : table.find? name with
    | none => simp [found, Table.itemsOf_eq]
    | some symbol =>
      cases held : symbol.value with
      | number amount => simp [found, held, Table.itemsOf_eq, Value.items?]
      | list items => cases items <;> simp [found, held, Table.itemsOf_eq, Value.items?]
  | receives target source =>
    obtain ⟨first, rest, items⟩ := List.exists_cons_of_ne_nil (supposed target source rfl)
    have source := Table.lookup_of_itemsOf items
    rw [Table.lookup_store] at source
    cases found : table.find? target with
    | none => simp [found, items]
    | some symbol =>
      have kind := formed.kinds symbol (Table.find?_mem found)
      by_cases same : symbol.kind = first.kind <;> simp [found, items, source, kind, same]

end

/-- A name that is found to be declared holds its value. -/
theorem lookup_of_declared {length : Nat} {name : Text}
    (passed : failure? table length (.declared name) = none) :
    table.store.lookup name = some (table.valueOf name) := by
  apply Table.lookup_valueOf
  simpa [failure?, Option.isSome_iff_ne_none] using passed

/-- Of several checks, the first requirement that is not met belongs to the first that fails. -/
theorem findSome?_requirements {length : Nat} {checks : List Check}
    (each : ∀ check ∈ checks,
      check.requirements.findSome? (Requirement.violation? table.store length) =
        (check.failure? table length).map Cause.kind) :
    (checks.flatMap requirements).findSome? (Requirement.violation? table.store length) =
      (checks.findSome? (failure? table length)).map Cause.kind := by
  induction checks with
  | nil => rfl
  | cons check rest inductionHypothesis =>
    rw [List.flatMap_cons, List.findSome?_append, each check (by simp),
      inductionHypothesis fun other member => each other (by simp [member]), List.findSome?_cons]
    cases check.failure? table length <;> rfl

end Check

namespace Operation

variable {operation : Operation} {arguments : List Text} {table : Table ν}

/-- The requirements of an operation are those of its checks. -/
theorem requirements_eq (operation : Operation) (arguments : List Text) :
    operation.requirements arguments = (operation.checks arguments).flatMap Check.requirements := by
  fun_cases checks operation arguments <;> simp_all [requirements, Check.requirements]

/-- Only a head asks whether something receives an item, after it has asked whether there is one. -/
theorem checks_receives {target source : Text}
    (member : Check.receives target source ∈ operation.checks arguments) :
    operation.checks arguments =
      [.kindOf source .list, .filled source] ++ [.receives target source] := by
  revert member
  fun_cases checks operation arguments with
  | case8 headSource headTarget =>
    intro member
    obtain ⟨rfl, rfl⟩ : target = headTarget ∧ source = headSource := by simpa using member
    rfl
  | _ => simp

/-- An operation is refused with the fault of the first requirement that is not met. -/
theorem findSome?_violation? (formed : table.WellFormed) (operation : Operation)
    (arguments : List Text) (length : Nat) :
    (operation.requirements arguments).findSome? (Requirement.violation? table.store length) =
      (operation.failure? arguments table length).map Cause.kind := by
  rw [requirements_eq, failure?]
  by_cases heads : ∀ target source,
      Check.receives target source ∈ operation.checks arguments → table.itemsOf source ≠ []
  · apply Check.findSome?_requirements
    intro check member
    exact Check.findSome?_violation? formed length fun target source same =>
      heads target source (same ▸ member)
  · -- A list without items is refused before its head is looked at.
    push Not at heads
    obtain ⟨target, source, member, noItems⟩ := heads
    let asked : List Check := [.kindOf source .list, .filled source]
    have refused : (asked.flatMap Check.requirements).findSome?
        (Requirement.violation? table.store length) =
          (asked.findSome? (Check.failure? table length)).map Cause.kind := by
      apply Check.findSome?_requirements
      intro check member
      exact Check.findSome?_violation? formed length fun target source same => by
        simp [asked, same] at member
    have stops : (asked.findSome? (Check.failure? table length)).isSome := by
      cases kind : table.refusal? source .list <;> simp [asked, Check.failure?, kind, noItems]
    obtain ⟨cause, failed⟩ := Option.isSome_iff_exists.mp stops
    rw [checks_receives member, List.flatMap_append, List.findSome?_append, List.findSome?_append,
      refused, failed]
    rfl

end Operation

/-- An effect in the words of the language. -/
def Effect.response (effect : Effect ν) : Response ν where
  store := effect.table.store
  printed := effect.printed
  verdict := .ok effect.action

variable [Number ν]

/-- The block of a well-formed table lists its store. -/
theorem Table.WellFormed.symbolBlock_eq {table : Table ν} (formed : table.WellFormed) :
    table.symbolBlock = table.store.block := by
  have lines : table.text = table.store.flatMap fun (name, value) =>
      (name ++ utf8 " (" ++ value.kind.name ++ utf8 ") = " ++ value.text).line := by
    rw [text, formed.symbols_eq, List.flatMap_map]
    rfl
  rw [symbolBlock, dump, Store.block, lines]

namespace Operation

variable {operation : Operation} {arguments : List Text} {table : Table ν}

/-- A branch whose checks have passed jumps on zero and on the empty list, and else passes. -/
theorem branch_performs {name token : Text} {line : Int}
    (held : table.store.lookup name = some (table.valueOf name))
    (read : token.toInt64? = some line) (positive : 1 ≤ line) :
    Performs table.store .branch [name, token]
      (branch.effect table [name, token]).response := by
  have target : ((line.toNat : Nat) : Int) - 1 = line - 1 := by omega
  simp only [effect, read, Option.getD_some, target]
  cases value : table.valueOf name with
  | number amount =>
    rw [value] at held
    by_cases zero : Number.toInt amount = 0
    · simpa [Value.isTrue, Number.isZero, zero, Effect.response] using
        Performs.jumpOnZero held zero read
    · simpa [Value.isTrue, Number.isZero, zero, Effect.response] using
        Performs.passNumber held zero
  | list items =>
    rw [value] at held
    cases items with
    | nil => simpa [Value.isTrue, Effect.response] using Performs.jumpOnEmpty held read
    | cons first rest => simpa [Value.isTrue, Effect.response] using Performs.passList held

/-- An effect whose checks have passed follows the rules of the language. -/
theorem effect_performs (formed : table.WellFormed) (enough : arguments.length = operation.arity)
    {length : Nat} (passed : operation.failure? arguments table length = none) :
    Performs table.store operation arguments (operation.effect table arguments).response := by
  rw [failure?, List.findSome?_eq_none_iff] at passed
  cases operation with
  | integer =>
    obtain ⟨name, rfl⟩ := List.length_eq_one_iff.mp enough
    simp only [effect, Effect.response, Table.store_push]
    exact .integer name
  | list =>
    obtain ⟨name, rfl⟩ := List.length_eq_one_iff.mp enough
    simp only [effect, Effect.response, Table.store_push]
    exact .list name
  | assign =>
    obtain ⟨name, token, rfl⟩ := List.length_eq_two.mp enough
    have literal := passed (.literal token) (by simp [checks])
    have readable : token.toInt64?.isSome := by
      simpa [Check.failure?, Option.isSome_iff_ne_none] using literal
    obtain ⟨number, read⟩ := Option.isSome_iff_exists.mp readable
    simp only [effect, Effect.response, Table.store_put, read, Option.getD_some]
    exact .assign read
  | changeSign =>
    obtain ⟨name, rfl⟩ := List.length_eq_one_iff.mp enough
    simp only [effect, Effect.response, Table.store_put]
    exact .changeSign (formed.lookup_amountOf (passed (.kindOf name .integer) (by simp [checks])))
  | add =>
    obtain ⟨target, source, rfl⟩ := List.length_eq_two.mp enough
    simp only [effect, Effect.response, Table.store_put]
    exact .add (formed.lookup_amountOf (passed (.kindOf target .integer) (by simp [checks])))
      (formed.lookup_amountOf (passed (.kindOf source .integer) (by simp [checks])))
  | copy =>
    obtain ⟨source, target, rfl⟩ := List.length_eq_two.mp enough
    simp only [effect, Effect.response, Table.store_put]
    exact .copy (formed.lookup_itemsOf (passed (.kindOf source .list) (by simp [checks])))
  | merge =>
    obtain ⟨source, target, rfl⟩ := List.length_eq_two.mp enough
    simp only [effect, Effect.response, Table.store_put]
    exact .merge (Check.lookup_of_declared (passed (.declared source) (by simp [checks])))
      (formed.lookup_itemsOf (passed (.kindOf target .list) (by simp [checks])))
  | head =>
    obtain ⟨source, target, rfl⟩ := List.length_eq_two.mp enough
    have filled : table.itemsOf source ≠ [] := by
      simpa [Check.failure?] using passed (.filled source) (by simp [checks])
    obtain ⟨first, rest, items⟩ := List.exists_cons_of_ne_nil filled
    simp only [effect, Effect.response, Table.store_put, items, List.headD_cons]
    exact .head (Table.lookup_of_itemsOf items)
  | tail =>
    obtain ⟨source, target, rfl⟩ := List.length_eq_two.mp enough
    simp only [effect, Effect.response, Table.store_put]
    exact .tail (formed.lookup_itemsOf (passed (.kindOf source .list) (by simp [checks])))
  | branch =>
    obtain ⟨name, token, rfl⟩ := List.length_eq_two.mp enough
    have held := Check.lookup_of_declared (passed (.declared name) (by simp [checks]))
    have numbered := passed (.lineLiteral token) (by simp [checks])
    cases read : token.toInt64? with
    | none => simp [Check.failure?, read] at numbered
    | some line =>
      have positive : 1 ≤ line := by simpa [Check.failure?, read] using numbered
      exact branch_performs held read positive
  | halt =>
    obtain rfl := List.length_eq_zero_iff.mp enough
    exact .halt
  | print =>
    obtain ⟨name, rfl⟩ := List.length_eq_one_iff.mp enough
    exact .print (Check.lookup_of_declared (passed (.declared name) (by simp [checks])))
  | printAll =>
    obtain rfl := List.length_eq_zero_iff.mp enough
    simp only [effect, Effect.response, formed.symbolBlock_eq]
    exact .printAll

/-- What an operation makes of its arguments is what the language says. -/
theorem executes (formed : table.WellFormed) (enough : arguments.length = operation.arity)
    (length : Nat) :
    Executes table.store length operation arguments
      (match operation.failure? arguments table length with
        | some cause => { store := table.store, verdict := .error cause.kind }
        | none => (operation.effect table arguments).response) := by
  have agrees := findSome?_violation? formed operation arguments length
  rw [Requirement.findSome?_violation?] at agrees
  cases failed : operation.failure? arguments table length with
  | some cause =>
    rw [failed, Option.map_some, Option.map_eq_some_iff] at agrees
    obtain ⟨requirement, first, sameFault⟩ := agrees
    dsimp only
    rw [← sameFault]
    exact .refused enough first
  | none =>
    rw [failed, Option.map_none, Option.map_eq_none_iff, List.find?_eq_none] at agrees
    refine .performed enough ?_ (effect_performs formed enough failed)
    intro requirement member
    simpa using agrees requirement member

end Operation

/-- A reply stands for a response: its table is well formed and stands for the store, it prints the
same, and it leads to the same place or reports a cause of the same kind. -/
structure Realizes (reply : Reply ν) (response : Response ν) : Prop where
  formed : reply.table.WellFormed
  store : reply.table.store = response.store
  printed : reply.printed = response.printed
  verdict : match response.verdict with
    | .ok action => reply.verdict = .ok (some action)
    | .error kind => ∃ cause, cause.kind = kind ∧ reply.verdict = .error (.ofCause cause)

namespace Standard

/-- The reply of the standard instruction set stands for the response of the language. -/
theorem dispatch_realizes {table : Table ν} (formed : table.WellFormed) (line : Line)
    (length : Nat) :
    ∃ response, Meaning line table.store length response ∧
      Realizes (set.dispatch line table length) response := by
  have answer := (dispatch_answer formed line length).wellFormed formed
  rw [dispatch_eq formed] at answer ⊢
  by_cases empty : line.isEmpty
  · simp only [empty, if_true] at answer ⊢
    exact ⟨_, .blank empty, ⟨formed, rfl, rfl, rfl⟩⟩
  · simp only [empty] at answer ⊢
    cases named : operation? line.command with
    | none => exact ⟨_, .unknown empty named, ⟨formed, rfl, rfl, _, rfl, rfl⟩⟩
    | some operation =>
      by_cases enough : line.arguments.length = operation.arity
      · have executes := operation.executes formed enough length
        simp only [named, enough, if_true] at answer ⊢
        refine ⟨_, .known named executes, ?_⟩
        cases failed : operation.failure? line.arguments table length with
        | some cause => exact ⟨formed, rfl, rfl, cause, rfl, rfl⟩
        | none =>
          rw [failed] at answer
          exact ⟨answer, rfl, rfl, rfl⟩
      · simp only [enough, if_false]
        exact ⟨_, .known named (.miscounted enough), ⟨formed, rfl, rfl, _, rfl, rfl⟩⟩

/-- One step refines the language. The language gives every line exactly one response, and the
reply of the standard instruction set stands for it; a line is blank exactly when it has nothing but
blanks before its comment. -/
theorem dispatch_refines_language {table : Table ν} (formed : table.WellFormed) (length : Nat) :
    (∀ line, ∃ response,
      (∀ other, Meaning line table.store length other ↔ other = response) ∧
        Realizes (set.dispatch line table length) response) ∧
    ∀ filename text number, (Line.parse filename text number).isEmpty ↔
      ∀ glyph ∈ (Line.code text).glyphs, glyph.isBlank := by
  constructor
  · intro line
    obtain ⟨response, meaning, realizes⟩ := dispatch_realizes formed line length
    refine ⟨response, fun other => ⟨fun also => also.unique meaning, ?_⟩, realizes⟩
    rintro rfl
    exact meaning
  · exact Line.parse_isEmpty_iff

/-- A list that is merged into itself becomes its own first item, and nothing else changes. -/
theorem dispatch_refines_language_merge :
    ∃ table : Table Int64, table.WellFormed ∧
      table.store = [(utf8 "l", .list [.number 7]), (utf8 "x", .number 5)] ∧
      (set.dispatch (.parse [] (utf8 "merge l l # itself") 1) table 1).table.store =
        [(utf8 "l", .list [.list [.number 7], .number 7]), (utf8 "x", .number 5)] := by
  have formed : Table.WellFormed (Table.push (Table.push .empty (utf8 "l") .list
      (.list [.number 7])) (utf8 "x") .integer (.number 5) : Table Int64) :=
    .push (.push Table.wellFormed_empty (by rfl) (by rfl)) (by rfl) (by rfl)
  obtain ⟨response, meaning, realizes⟩ :=
    (dispatch_refines_language formed 1).1 (.parse [] (utf8 "merge l l # itself") 1)
  have named : operation? (Line.parse [] (utf8 "merge l l # itself") 1).command = some .merge := by
    decide +kernel
  have merged := (meaning _).mp (.known named
    (.performed (by rfl) (by decide +kernel) (.merge (by rfl) (by rfl))))
  rw [← merged] at realizes
  exact ⟨_, formed, rfl, realizes.store⟩

end Standard

end LineMachine
