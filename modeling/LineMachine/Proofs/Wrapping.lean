import LineMachine.Proofs.Lockstep

namespace LineMachine

/-- A conversion between kinds of numbers that commutes with literals and arithmetic. -/
structure Conversion (ν μ : Type) [Number ν] [Number μ] where
  apply : ν → μ
  ofInt : ∀ number, apply (Number.ofInt number) = Number.ofInt number
  add : ∀ first second, apply (Number.add first second) = Number.add (apply first) (apply second)
  neg : ∀ amount, apply (Number.neg amount) = Number.neg (apply amount)

/-- An unbounded integer becomes the word that it wraps around to. -/
def Conversion.wrapping : Conversion Int Int64 where
  apply := Int64.ofInt
  ofInt _ := rfl
  add := Int64.ofInt_add
  neg := Int64.ofInt_neg

variable {ν μ : Type}

namespace Value

mutual

/-- The value with every number converted, at any depth. -/
def convert (f : ν → μ) : Value ν → Value μ
  | .number amount => .number (f amount)
  | .list items => .list (convertItems f items)

def convertItems (f : ν → μ) : List (Value ν) → List (Value μ)
  | [] => []
  | item :: rest => convert f item :: convertItems f rest

end

@[simp] theorem kind_convert (f : ν → μ) (value : Value ν) :
    (value.convert f).kind = value.kind := by
  cases value <;> rfl

@[simp] theorem convertItems_tail (f : ν → μ) (items : List (Value ν)) :
    convertItems f items.tail = (convertItems f items).tail := by
  cases items <;> rfl

end Value

/-- The symbol with its value converted. -/
def Symbol.convert (f : ν → μ) (symbol : Symbol ν) : Symbol μ :=
  ⟨symbol.name, symbol.kind, symbol.value.convert f⟩

namespace Store

variable (store : Store ν) (f : ν → μ)

/-- The store with every value converted. -/
def convert : Store μ := store.map fun (name, value) => (name, value.convert f)

@[simp] theorem lookup_convert (name : Text) :
    (store.convert f).lookup name = (store.lookup name).map (Value.convert f) := by
  induction store with
  | nil => rfl
  | cons first rest inductionHypothesis =>
    obtain ⟨other, value⟩ := first
    simp only [convert, List.map_cons, List.lookup_cons] at inductionHypothesis ⊢
    rw [inductionHypothesis]
    cases name == other <;> rfl

theorem assign_convert (name : Text) (value : Value ν) :
    (store.convert f).assign name (value.convert f) = (store.assign name value).convert f := by
  simp only [convert, assign, List.map_map]
  apply List.map_congr_left
  rintro ⟨other, held⟩ _
  by_cases same : other = name <;> simp [same]

theorem append_convert (name : Text) (value : Value ν) :
    store.convert f ++ [(name, value.convert f)] = Store.convert (store ++ [(name, value)]) f := by
  simp [convert]

end Store

/-- No requirement looks at the size of a number. -/
theorem Requirement.isMet_convert (store : Store ν) (f : ν → μ) (length : Nat)
    (requirement : Requirement) :
    requirement.isMet (store.convert f) length = requirement.isMet store length := by
  cases requirement with
  | fresh name | declared name => simp [isMet]
  | ofKind name kind => cases held : store.lookup name <;> simp [isMet, held]
  | filled name =>
    simp only [isMet, Store.lookup_convert]
    rcases store.lookup name with _ | (amount | (_ | ⟨first, rest⟩)) <;> rfl
  | fitsHead target source =>
    simp only [isMet, Store.lookup_convert]
    rcases store.lookup target with _ | value
    · rfl
    · rcases store.lookup source with _ | (amount | (_ | ⟨first, rest⟩)) <;>
        simp [Value.convert, Value.convertItems]
  | literal token | lineNumber token | inProgram token => rfl

/-- An operation tests a number: it is a branch, nothing speaks against it, and its name holds a
number. -/
def Operation.testsNumber (store : Store ν) (length : Nat) : Operation → List Text → Bool
  | .branch, [name, token] =>
    (branch.requirements [name, token]).all (·.isMet store length) &&
      (store.lookup name).any fun value => value.kind = .integer
  | _, _ => false

/-- The next step of the machine tests a number. -/
def Machine.testsNumber (machine : Machine ν) : Bool :=
  machine.status = .running && machine.program[machine.counter]?.any fun line =>
    (Standard.operation? line.command).any fun operation =>
      operation.testsNumber machine.table.store machine.program.size line.arguments

variable [Number ν] [Number μ]

/-- A response over other numbers. What is printed may show the numbers. -/
structure Response.Converts (conversion : Conversion ν μ) (response : Response ν)
    (other : Response μ) : Prop where
  store : other.store = response.store.convert conversion.apply
  verdict : other.verdict = response.verdict

section

variable {store : Store ν} {length : Nat} {operation : Operation} {arguments : List Text}
  {response : Response ν} (conversion : Conversion ν μ)

theorem Performs.converted (performs : Performs store operation arguments response)
    (untested : ∀ name token, operation = .branch → arguments = [name, token] →
      ∀ amount, store.lookup name ≠ some (.number amount)) :
    ∃ other, Performs (store.convert conversion.apply) operation arguments other ∧
      response.Converts conversion other := by
  have found {name : Text} {value : Value ν} (held : store.lookup name = some value) :
      (store.convert conversion.apply).lookup name = some (value.convert conversion.apply) := by
    rw [Store.lookup_convert, held, Option.map_some]
  have assigned := store.assign_convert conversion.apply
  cases performs with
  | integer name =>
    refine ⟨_, .integer name, ?_, rfl⟩
    rw [← store.append_convert, Value.convert, conversion.ofInt]
  | list name => exact ⟨_, .list name, store.append_convert _ name (.list []), rfl⟩
  | @assign name token number read =>
    refine ⟨_, .assign read, ?_, rfl⟩
    rw [← assigned, Value.convert, conversion.ofInt]
  | changeSign held =>
    refine ⟨_, .changeSign (found held), ?_, rfl⟩
    rw [← assigned, Value.convert, conversion.neg]
  | add held added =>
    refine ⟨_, .add (found held) (found added), ?_, rfl⟩
    rw [← assigned, Value.convert, conversion.add]
  | @copy source target items held =>
    exact ⟨_, .copy (found held), assigned target (.list items), rfl⟩
  | @merge source target value items held into =>
    exact ⟨_, .merge (found held) (found into), assigned target (.list (value :: items)), rfl⟩
  | head held => exact ⟨_, .head (found held), assigned _ _, rfl⟩
  | @tail source target items held =>
    refine ⟨_, .tail (found held), ?_, rfl⟩
    rw [← assigned, Value.convert, Value.convertItems_tail]
  | jumpOnZero held | passNumber held => exact absurd held (untested _ _ rfl rfl _)
  | jumpOnEmpty held read => exact ⟨_, .jumpOnEmpty (found held) read, rfl, rfl⟩
  | passList held => exact ⟨_, .passList (found held), rfl, rfl⟩
  | halt => exact ⟨_, .halt, rfl, rfl⟩
  | print held => exact ⟨_, .print (found held), rfl, rfl⟩
  | printAll => exact ⟨_, .printAll, rfl, rfl⟩

theorem Executes.converted (executes : Executes store length operation arguments response)
    (untested : operation.testsNumber store length arguments = false) :
    ∃ other, Executes (store.convert conversion.apply) length operation arguments other ∧
      response.Converts conversion other := by
  have sameMet := Requirement.isMet_convert store conversion.apply length
  cases executes with
  | miscounted wrong => exact ⟨_, .miscounted wrong, rfl, rfl⟩
  | refused enough first => exact ⟨_, .refused enough (by simpa only [sameMet] using first), rfl, rfl⟩
  | performed enough met performs =>
    obtain ⟨other, otherPerforms, converts⟩ := performs.converted conversion (by
      rintro name token rfl rfl amount held
      have allMet : (Operation.branch.requirements [name, token]).all (·.isMet store length) :=
        List.all_eq_true.mpr met
      simp [Operation.testsNumber, allMet, held, Value.kind] at untested)
    exact ⟨other, .performed enough (by simpa only [sameMet] using met) otherPerforms, converts⟩

/-- The language does the same over other numbers, unless it tests one. -/
theorem Meaning.converted {line : Line} (meaning : Meaning line store length response)
    (untested : ∀ operation, Standard.operation? line.command = some operation →
      operation.testsNumber store length line.arguments = false) :
    ∃ other, Meaning line (store.convert conversion.apply) length other ∧
      response.Converts conversion other := by
  cases meaning with
  | blank empty => exact ⟨_, .blank empty, rfl, rfl⟩
  | unknown instructed unnamed => exact ⟨_, .unknown instructed unnamed, rfl, rfl⟩
  | known named executes =>
    obtain ⟨other, otherExecutes, converts⟩ := executes.converted conversion (untested _ named)
    exact ⟨other, .known named otherExecutes, converts⟩

end

namespace Machine

/-- Two machines are at the same point of one program over different numbers. -/
structure Parallels (conversion : Conversion ν μ) (first : Machine ν) (second : Machine μ) :
    Prop where
  program : second.program = first.program
  counter : second.counter = first.counter
  status : second.status = first.status
  steps : second.steps = first.steps
  fault : second.fault.map Fault.site = first.fault.map Fault.site
  store : second.table.store = first.table.store.convert conversion.apply
  formed : first.table.WellFormed
  otherFormed : second.table.WellFormed

namespace Parallels

variable {conversion : Conversion ν μ} {first : Machine ν} {second : Machine μ}

theorem load (conversion : Conversion ν μ) (filename : Text) (tracing : Bool) (lines : List Text) :
    Parallels conversion (.load filename tracing lines) (.load filename tracing lines) :=
  ⟨rfl, rfl, rfl, rfl, rfl, rfl, Table.wellFormed_empty, Table.wellFormed_empty⟩

/-- The symbols are the same up to their numbers. -/
theorem symbols (parallels : Parallels conversion first second) :
    second.table.symbols = first.table.symbols.map (Symbol.convert conversion.apply) := by
  rw [parallels.otherFormed.symbols_eq, parallels.store, parallels.formed.symbols_eq]
  simp [Store.convert, Symbol.convert, Function.comp_def]

/-- The two machines test numbers at the same time. -/
theorem testsNumber (parallels : Parallels conversion first second) :
    second.testsNumber = first.testsNumber := by
  have sameTest (operation : Operation) (length : Nat) (arguments : List Text) :
      operation.testsNumber second.table.store length arguments =
        operation.testsNumber first.table.store length arguments := by
    rw [parallels.store]
    fun_cases Operation.testsNumber first.table.store length operation arguments with
    | case1 name token =>
      simp [Operation.testsNumber, Requirement.isMet_convert, Option.any_map]
    | case2 => rw [Operation.testsNumber]; assumption
  simp only [Machine.testsNumber, parallels.program, parallels.counter, parallels.status, sameTest]

/-- A step that tests no number keeps two machines at the same point. -/
theorem step (parallels : Parallels conversion first second)
    (untested : first.testsNumber = false) :
    Parallels conversion (first.step Standard.set) (second.step Standard.set) := by
  cases step_steppedBoth Standard.set Standard.set parallels.status parallels.counter
    (congrArg Array.size parallels.program) with
  | stopped unchanged otherUnchanged =>
    rw [unchanged, otherUnchanged]
    exact parallels
  | left completed otherCompleted =>
    obtain ⟨records, completed⟩ := completed
    obtain ⟨otherRecords, otherCompleted⟩ := otherCompleted
    rw [completed, otherCompleted]
    exact ⟨parallels.program, parallels.counter, rfl, parallels.steps, parallels.fault,
      parallels.store, parallels.formed, parallels.otherFormed⟩
  | executed running line otherLine current otherCurrent frame otherFrame turn otherTurn =>
    rw [parallels.program] at otherCurrent
    obtain rfl : line = otherLine := Option.some.inj (current.symm.trans otherCurrent)
    obtain ⟨response, meaning, realizes⟩ :=
      Standard.dispatch_realizes parallels.formed line first.program.size
    obtain ⟨otherResponse, otherMeaning, otherRealizes⟩ :=
      Standard.dispatch_realizes parallels.otherFormed line second.program.size
    obtain ⟨converted, convertedMeaning, converts⟩ := meaning.converted conversion
      fun operation named => by
        simpa [Machine.testsNumber, running, current, named] using untested
    rw [parallels.store, parallels.program] at otherMeaning
    obtain rfl := convertedMeaning.unique otherMeaning
    obtain ⟨counter, status, fault⟩ := turn.together parallels.formed parallels.otherFormed
      otherTurn realizes otherRealizes converts.verdict parallels.counter parallels.fault rfl
    refine ⟨?_, counter, status, ?_, fault, ?_, wellFormed_kept.step rfl parallels.formed,
      wellFormed_kept.step rfl parallels.otherFormed⟩
    · rw [otherFrame.program, frame.program, parallels.program]
    · rw [otherFrame.steps, frame.steps, parallels.steps]
    · rw [otherFrame.table, otherRealizes.store, converts.store, frame.table, realizes.store]

/-- Two machines stay at the same point for as long as they test no number. -/
theorem iterate (parallels : Parallels conversion first second) {count : Nat}
    (untested : ∀ earlier < count,
      ((Machine.step Standard.set)^[earlier] second).testsNumber = false) :
    Parallels conversion ((Machine.step Standard.set)^[count] first)
      ((Machine.step Standard.set)^[count] second) := by
  induction count with
  | zero => exact parallels
  | succ count inductionHypothesis =>
    have before := inductionHypothesis fun earlier inside =>
      untested earlier (Nat.lt_succ_of_lt inside)
    have untestedNow := untested count (Nat.lt_succ_self count)
    rw [before.testsNumber] at untestedNow
    rw [Function.iterate_succ_apply', Function.iterate_succ_apply']
    exact before.step untestedNow

end Parallels

/-- Wrapping around commutes with execution. As long as no branch tests a number, a program over
words and the same program over unbounded integers are at the same place, with the same status,
count and kind of fault, and the table of the words is the table of the integers with each integer,
at any depth, reduced into the range of a word. -/
theorem wrapped_in_lockstep (filename : Text) (tracing : Bool) (lines : List Text) (count : Nat)
    (untested : ∀ earlier < count, ((step Standard.set)^[earlier]
      (load filename tracing lines : Machine Int64)).testsNumber = false) :
    let words := (step Standard.set)^[count] (load filename tracing lines : Machine Int64)
    let integers := (step Standard.set)^[count] (load filename tracing lines : Machine Int)
    words.counter = integers.counter ∧ words.outcome.status = integers.outcome.status ∧
      words.outcome.steps = integers.outcome.steps ∧
      words.outcome.faultLine = integers.outcome.faultLine ∧
      words.outcome.fault.map (·.cause.kind) = integers.outcome.fault.map (·.cause.kind) ∧
      words.table.symbols = integers.table.symbols.map (Symbol.convert Int64.ofInt) ∧
      ∀ integer : Int, (Int64.ofInt integer).toInt = wrap integer := by
  intro words integers
  have parallels : Parallels .wrapping integers words :=
    (Parallels.load Conversion.wrapping filename tracing lines).iterate untested
  have sameKind : words.fault.map (·.cause.kind) = integers.fault.map (·.cause.kind) := by
    simpa [Function.comp_def, Fault.site] using congrArg (Option.map Prod.fst) parallels.fault
  refine ⟨parallels.counter, parallels.status, parallels.steps, ?_, sameKind, parallels.symbols,
    fun _ => Int64.toInt_ofInt⟩
  rw [outcome_faultLine, outcome_faultLine, parallels.fault]

/-- A loop around an empty list that doubles a number beyond every word and collects what it gets
in nested lists. -/
theorem wrapped_in_lockstep_doubling :
    let lines := [utf8 "LIST l", utf8 "LIST m", utf8 "INTEGER x", utf8 "ASSIGN x 9223372036854775807",
      utf8 "ADD x x", utf8 "MERGE x l", utf8 "CHS x", utf8 "MERGE l m", utf8 "TAIL l l",
      utf8 "IF l 5"]
    let integers := (step Standard.set)^[16] (load [] false lines : Machine Int)
    let words := (step Standard.set)^[16] (load [] false lines : Machine Int64)
    integers.table.symbols.map Symbol.text = [utf8 "l (list) = []",
      utf8 "m (list) = [[-36893488147419103228], [18446744073709551614]]",
      utf8 "x (int) = 36893488147419103228"] ∧
    words.table.symbols.map Symbol.text = [utf8 "l (list) = []", utf8 "m (list) = [[4], [-2]]",
      utf8 "x (int) = -4"] := by
  intro lines integers words
  obtain ⟨untested, exact, wrapped⟩ :
      (∀ earlier < 16, ((step Standard.set)^[earlier]
        (load [] false lines : Machine Int64)).testsNumber = false) ∧
      integers.table.symbols.map Symbol.text = [utf8 "l (list) = []",
        utf8 "m (list) = [[-36893488147419103228], [18446744073709551614]]",
        utf8 "x (int) = 36893488147419103228"] ∧
      (((step Standard.set)^[16] (load [] false lines : Machine Int)).table.symbols.map
        (Symbol.convert Int64.ofInt)).map Symbol.text =
          [utf8 "l (list) = []", utf8 "m (list) = [[4], [-2]]", utf8 "x (int) = -4"] := by
    decide +kernel
  obtain ⟨-, -, -, -, -, symbols, -⟩ := wrapped_in_lockstep [] false lines 16 untested
  refine ⟨exact, ?_⟩
  rw [symbols]
  exact wrapped

end Machine
end LineMachine
