import LineMachine.Proofs.Growth
import LineMachine.Proofs.Words
import LineMachine.Proofs.Writing

namespace LineMachine

/-- A text whose words are a mnemonic and arguments asks for that operation. -/
theorem Line.asks_parse {text : Text} {operation : Operation} {arguments : List Text}
    (words : (code text).words = operation.mnemonic :: arguments) (filename : Text) (number : Int) :
    (parse filename text number).Asks operation arguments where
  command := by
    rw [parse_command, words]
    exact operation.mnemonic_upper
  given := by
    rw [parse_arguments, words]
    rfl

namespace Machine

variable {ν : Type}

/-- The program spells instructions: the line at each place asks for the instruction there. -/
structure Spells (machine : Machine ν) (instructions : List (Operation × List Text)) : Prop where
  size : machine.program.size = instructions.length
  line : ∀ {place : Nat} {operation : Operation} {arguments : List Text},
    instructions[place]? = some (operation, arguments) →
      ∃ line, machine.program[place]? = some line ∧ line.Asks operation arguments

/-- A loaded program spells the instructions that are the words of its lines. -/
theorem spells_load (filename : Text) (tracing : Bool) {lines : List Text}
    {instructions : List (Operation × List Text)}
    (words : (lines.map fun text => (Line.code text).words) =
      instructions.map fun instruction => instruction.1.mnemonic :: instruction.2) :
    (load filename tracing lines : Machine ν).Spells instructions := by
  have sameLength := congrArg List.length words
  rw [List.length_map, List.length_map] at sameLength
  refine ⟨by simp [load, Line.parseAll, sameLength], ?_⟩
  intro place operation arguments instruction
  have there := congrArg (·[place]?) words
  simp only [List.getElem?_map, instruction, Option.map_some] at there
  obtain ⟨text, textAt, wordsOf⟩ := Option.map_eq_some_iff.mp there
  refine ⟨.parse filename text (place + 1), ?_, Line.asks_parse wordsOf filename _⟩
  rw [← Array.getElem?_toList, load, Line.parseAll_getElem?, textAt, Option.map_some]

/-- Where a running machine stands: its place in the program, its table, and what it has printed. -/
structure Standpoint (ν : Type) where
  place : Nat
  table : Table ν
  printed : List Text

structure StandsAt (machine : Machine ν) (standpoint : Standpoint ν) : Prop where
  running : machine.status = .running
  place : machine.counter = standpoint.place
  table : machine.table = standpoint.table
  printed : machine.printed.toList = standpoint.printed

variable [Number ν] {instructions : List (Operation × List Text)}

/-- An instruction whose checks pass has its effect on the machine. -/
theorem Spells.execute {machine : Machine ν} (spells : machine.Spells instructions)
    {standpoint : Standpoint ν} (stands : machine.StandsAt standpoint)
    (formed : standpoint.table.WellFormed) {operation : Operation} {arguments : List Text}
    (instruction : instructions[standpoint.place]? = some (operation, arguments))
    (enough : arguments.length = operation.arity)
    (passed : operation.failure? arguments standpoint.table instructions.length = none) :
    let effect := operation.effect standpoint.table arguments
    let after := machine.step Standard.set
    Walk (· = Standard.set) machine [standpoint.place] after ∧ after.Spells instructions ∧
      after.status = (if effect.action = .halt then .halted else .running) ∧
      after.counter = next standpoint.place effect.action ∧ after.table = effect.table ∧
      after.printed.toList = standpoint.printed ++ effect.printed := by
  intro effect after
  obtain ⟨line, current, asks⟩ := spells.line instruction
  rw [← stands.place] at current
  obtain ⟨inside, -⟩ := Array.getElem?_eq_some_iff.mp current
  have reply : Standard.set.dispatch line machine.table machine.program.size =
      effect.reply line.position := by
    rw [stands.table, spells.size, Standard.dispatch_asked formed asks enough, passed]
  cases step_stepped Standard.set machine with
  | stopped stopped => exact absurd stands.running stopped
  | left _ outside => omega
  | executed _ other otherCurrent frame turn =>
    obtain rfl : line = other := Option.some.inj (current.symm.trans otherCurrent)
    rw [reply] at frame turn
    rw [← spells.size] at passed
    obtain ⟨action, verdict, status, counter, printed⟩ :=
      turn.performed (Operation.effect_accepted enough passed line line.position)
    obtain rfl : effect.action = action := by simpa [Effect.reply] using verdict
    refine ⟨?_, ⟨?_, ?_⟩, status, ?_, frame.table, ?_⟩
    · rw [← stands.place]
      exact .line Standard.set rfl stands.running inside (.stay _)
    · rw [frame.program, spells.size]
    · rw [frame.program]
      exact spells.line
    · rw [counter, stands.place]
    · simp [after, printed, stands.printed, Effect.reply]

/-- A halting line leaves everything else as it is. -/
theorem Spells.halt {machine : Machine ν} (spells : machine.Spells instructions)
    {standpoint : Standpoint ν} (stands : machine.StandsAt standpoint)
    (formed : standpoint.table.WellFormed)
    (instruction : instructions[standpoint.place]? = some (.halt, [])) :
    ∃ after, Walk (· = Standard.set) machine [standpoint.place] after ∧ after.status = .halted ∧
      after.table = standpoint.table ∧ after.printed.toList = standpoint.printed := by
  obtain ⟨walked, -, status, -, table, printed⟩ := spells.execute stands formed instruction rfl rfl
  exact ⟨_, walked, status, table, by simpa [Operation.effect] using printed⟩

/-- Every machine that spells the instructions comes from the first standpoint to the second, along
the given places. -/
def Passage (instructions : List (Operation × List Text)) (first : Standpoint ν)
    (places : List Nat) (second : Standpoint ν) : Prop :=
  ∀ machine : Machine ν, machine.Spells instructions → machine.StandsAt first →
    ∃ after, Walk (· = Standard.set) machine places after ∧ after.Spells instructions ∧
      after.StandsAt second

namespace Passage

variable {first second third : Standpoint ν} {places more : List Nat}

theorem refl (standpoint : Standpoint ν) : Passage instructions standpoint [] standpoint :=
  fun machine spells stands => ⟨machine, .stay machine, spells, stands⟩

theorem trans (passage : Passage instructions first places second)
    (onward : Passage instructions second more third) :
    Passage instructions first (places ++ more) third := by
  intro machine spells stands
  obtain ⟨between, walked, betweenSpells, betweenStands⟩ := passage machine spells stands
  obtain ⟨after, walkedOn, afterSpells, afterStands⟩ := onward between betweenSpells betweenStands
  exact ⟨after, walked.trans walkedOn, afterSpells, afterStands⟩

/-- The passage over a line that does not halt. -/
theorem line {place : Nat} {table : Table ν} (formed : table.WellFormed) (printed : List Text)
    {operation : Operation} {arguments : List Text}
    (instruction : instructions[place]? = some (operation, arguments))
    (enough : arguments.length = operation.arity)
    (passed : operation.failure? arguments table instructions.length = none)
    (goesOn : (operation.effect table arguments).action ≠ .halt) :
    Passage instructions ⟨place, table, printed⟩ [place]
      { place := next place (operation.effect table arguments).action
        table := (operation.effect table arguments).table
        printed := printed ++ (operation.effect table arguments).printed } := by
  intro machine spells stands
  obtain ⟨walked, spellsOn, status, counter, tableAfter, printedAfter⟩ :=
    spells.execute stands formed instruction enough passed
  rw [if_neg goesOn] at status
  exact ⟨_, walked, spellsOn, status, counter, tableAfter, printedAfter⟩

section Operations

variable {place : Nat} {table : Table ν} {name token : Text}

attribute [local simp] Operation.failure? Operation.checks Check.failure? Operation.effect next

/-- The passage over the declaration of a number. -/
theorem declare (formed : table.WellFormed) (printed : List Text)
    (instruction : instructions[place]? = some (.integer, [name]))
    (absent : table.find? name = none) :
    Passage instructions ⟨place, table, printed⟩ [place]
      ⟨place + 1, table.push name .integer (.number (Number.ofInt 0)), printed⟩ := by
  simpa using line formed printed instruction rfl (by simp [absent]) (by simp)

/-- The passage over an assignment. -/
theorem assign (formed : table.WellFormed) (printed : List Text) {value : Int}
    (instruction : instructions[place]? = some (.assign, [name, token]))
    (admitted : table.refusal? name .integer = none) (read : token.toInt64? = some value) :
    Passage instructions ⟨place, table, printed⟩ [place]
      ⟨place + 1, table.put name (.number (Number.ofInt value)), printed⟩ := by
  simpa [read] using line formed printed instruction rfl (by simp [admitted, read]) (by simp)

/-- The passage over an addition. -/
theorem add (formed : table.WellFormed) (printed : List Text) {other : Text}
    (instruction : instructions[place]? = some (.add, [name, other]))
    (admitted : table.refusal? name .integer = none)
    (otherAdmitted : table.refusal? other .integer = none) :
    Passage instructions ⟨place, table, printed⟩ [place]
      { place := place + 1
        table := table.put name (.number (Number.add (table.amountOf name) (table.amountOf other)))
        printed } := by
  simpa using
    line formed printed instruction rfl (by simp [admitted, otherAdmitted]) (by simp)

/-- The passage over the print of one name. -/
theorem print (formed : table.WellFormed) (printed : List Text)
    (instruction : instructions[place]? = some (.print, [name]))
    (declared : (table.find? name).isSome) :
    Passage instructions ⟨place, table, printed⟩ [place]
      ⟨place + 1, table, printed ++ [(name ++ utf8 " = " ++ (table.valueOf name).text).line]⟩ := by
  simpa using line formed printed instruction rfl (by simp [declared]) (by simp)

/-- The passage over a branch, to the line that it names or to the next one. -/
theorem branch (formed : table.WellFormed) (printed : List Text) {number : Nat}
    (instruction : instructions[place]? = some (.branch, [name, token]))
    (declared : (table.find? name).isSome) (read : token.toInt64? = some (number + 1))
    (inside : number < instructions.length) :
    Passage instructions ⟨place, table, printed⟩ [place]
      ⟨if (table.valueOf name).isTrue then number else place + 1, table, printed⟩ := by
  have passed : Operation.branch.failure? [name, token] table instructions.length = none := by
    simp [declared, read]
    omega
  by_cases taken : (table.valueOf name).isTrue
  · simpa [taken, read] using line formed printed instruction rfl passed (by simp [taken])
  · simpa [taken] using line formed printed instruction rfl passed (by simp [taken])

end Operations
end Passage
end Machine
end LineMachine
