import LineMachine.Proofs.Feeding

namespace LineMachine

namespace Machine

variable {ν : Type}

/-- Two machines that differ at most in whether they trace and in their records. -/
def Alike (first second : Machine ν) : Prop :=
  ∃ tracing records, second = { first with tracing, records }

namespace Alike

variable {first second : Machine ν}

theorem traceLine (alike : first.Alike second) (line : Line) :
    (first.traceLine line).Alike (second.traceLine line) := by
  obtain ⟨tracing, records, rfl⟩ := alike
  obtain ⟨_, quiet⟩ := traceLine_eq first line
  obtain ⟨_, traced⟩ := traceLine_eq { first with tracing, records } line
  rw [quiet, traced]
  exact ⟨_, _, rfl⟩

theorem absorb (alike : first.Alike second) (reply : Reply ν) :
    (first.absorb reply).Alike (second.absorb reply) := by
  obtain ⟨tracing, records, rfl⟩ := alike
  exact ⟨_, _, rfl⟩

theorem follow (alike : first.Alike second) (line : Line)
    (verdict : Except Failure (Option Action)) :
    (first.follow line verdict).Alike (second.follow line verdict) := by
  obtain ⟨tracing, records, rfl⟩ := alike
  simp only [Machine.follow]
  split
  · exact ⟨_, _, rfl⟩
  · exact ⟨_, _, rfl⟩
  · exact ⟨_, _, rfl⟩
  · split <;> exact ⟨_, _, rfl⟩
  · exact ⟨_, _, rfl⟩

/-- The same line makes the same of both machines. -/
theorem execute (alike : first.Alike second) (set : InstructionSet ν) (line : Line) :
    (first.execute set line).Alike (second.execute set line) := by
  have counted : { first with steps := first.steps + 1 }.Alike
      { second with steps := second.steps + 1 } := by
    obtain ⟨tracing, records, rfl⟩ := alike
    exact ⟨tracing, records, rfl⟩
  -- The instruction set sees the table and the length of the program, and no record.
  have sameReply : set.dispatch line second.table second.program.size =
      set.dispatch line first.table first.program.size := by
    obtain ⟨tracing, records, rfl⟩ := alike
    rfl
  rw [Machine.execute, Machine.execute, sameReply]
  exact ((counted.traceLine line).absorb _).follow line _

theorem step (alike : first.Alike second) (set : InstructionSet ν) :
    (first.step set).Alike (second.step set) := by
  have sameStatus : second.status = first.status := by
    obtain ⟨_, _, rfl⟩ := alike
    rfl
  have sameLine : second.program[second.counter]? = first.program[first.counter]? := by
    obtain ⟨_, _, rfl⟩ := alike
    rfl
  rw [Machine.step, Machine.step, sameStatus, sameLine]
  split
  · split
    · exact alike.execute set _
    · obtain ⟨tracing, records, rfl⟩ := alike
      exact ⟨_, _, rfl⟩
  · exact alike

theorem iterate (alike : first.Alike second) (set : InstructionSet ν) (count : Nat) :
    ((Machine.step set)^[count] first).Alike ((Machine.step set)^[count] second) := by
  induction count with
  | zero => exact alike
  | succ count inductionHypothesis =>
    rw [Function.iterate_succ_apply', Function.iterate_succ_apply']
    exact inductionHypothesis.step set

/-- What does not show of a difference in logging. -/
theorem agree (alike : first.Alike second) :
    second.outcome = first.outcome ∧ second.table = first.table ∧
      second.printed = first.printed := by
  obtain ⟨tracing, records, rfl⟩ := alike
  exact ⟨rfl, rfl, rfl⟩

end Alike

theorem run_add [Number ν] (set : InstructionSet ν) {machine : Machine ν} {patience : Nat}
    (stopped : (machine.run set patience).status ≠ .running) (more : Nat) :
    machine.run set (more + patience) = machine.run set patience := by
  rw [run, run, resume_add set stopped]

end Machine

namespace Interpreter

variable {ν : Type}

/-- The record of a registered instruction. -/
def registration (name : Text) (arity : Int) : Log.Record where
  level := .debug
  category := Log.Category.system
  message := utf8 "Registered instruction: " ++ name.upper ++ 47 :: Text.ofInt arity

theorem register_eq (interpreter : Interpreter ν) (name : Text) (arity : Int)
    (handler : Handler ν) :
    interpreter.register name arity handler =
      { interpreter with
        instructions := interpreter.instructions.register name arity handler
        log := interpreter.log ++ (interpreter.logger.write (registration name arity)).toArray } :=
  note_eq _ _

/-- Registering instructions adds them to the set and their records to the log. -/
theorem registerAll_eq (entries : List (Instruction ν)) (interpreter : Interpreter ν) :
    entries.foldl (fun interpreter entry => interpreter.register entry.name entry.arity
        entry.handler) interpreter =
      { interpreter with
        instructions := entries.foldl (fun set entry => set.register entry.name entry.arity
          entry.handler) interpreter.instructions
        log := interpreter.log ++ (entries.filterMap fun entry =>
          interpreter.logger.write (registration entry.name entry.arity)).toArray } := by
  induction entries generalizing interpreter with
  | nil => simp
  | cons entry rest inductionHypothesis =>
    rw [List.foldl_cons, inductionHypothesis, register_eq, List.filterMap_cons]
    cases interpreter.logger.write (registration entry.name entry.arity) with
    | none => simp
    | some text => simp

variable [Number ν]

/-- A run of a source has the outcome of its machine. -/
theorem runSource_outcome (interpreter : Interpreter ν) (patience : Nat) (source : Text) :
    (interpreter.runSource patience source).2.outcome =
      ((Machine.step interpreter.instructions)^[patience]
        { interpreter.load source.programLines with ledger := interpreter.ledger }).outcome := by
  rw [← Machine.resume_eq_iterate interpreter.instructions patience rfl, runSource, note_eq]
  rfl

/-- An interpreter takes over the ledger of a run. -/
theorem runSource_ledger (interpreter : Interpreter ν) (patience : Nat) (source : Text) :
    (interpreter.runSource patience source).1.ledger =
      ((Machine.step interpreter.instructions)^[patience]
        { interpreter.load source.programLines with ledger := interpreter.ledger }).ledger := by
  rw [← Machine.resume_eq_iterate interpreter.instructions patience rfl, runSource, note_eq]
  rfl

/-- A run of a source leaves the settings, the logger and the instructions as they are. -/
theorem runSource_frame (interpreter : Interpreter ν) (patience : Nat) (source : Text) :
    (interpreter.runSource patience source).1.settings = interpreter.settings ∧
      (interpreter.runSource patience source).1.logger = interpreter.logger ∧
      (interpreter.runSource patience source).1.instructions = interpreter.instructions := by
  rw [runSource, note_eq]
  exact ⟨rfl, rfl, rfl⟩

/-- The interpreter runs a source until its machine stops. -/
def Concludes (interpreter : Interpreter ν) (source : Text) (after : Interpreter ν)
    (last : Machine ν) : Prop :=
  ∃ patience, interpreter.runSource patience source = (after, last) ∧ last.status ≠ .running

theorem concludes_of_stopped {interpreter : Interpreter ν} {patience : Nat} {source : Text}
    (stopped : (interpreter.runSource patience source).2.status ≠ .running) :
    interpreter.Concludes source (interpreter.runSource patience source).1
      (interpreter.runSource patience source).2 :=
  ⟨patience, rfl, stopped⟩

/-- A run that has come to a stop does not use more patience. -/
theorem runSource_add {interpreter : Interpreter ν} {patience : Nat} {source : Text}
    (stopped : (interpreter.runSource patience source).2.status ≠ .running) (more : Nat) :
    interpreter.runSource (more + patience) source = interpreter.runSource patience source := by
  rw [runSource, runSource, act, act, Machine.run_add _ stopped]

/-- A source has at most one conclusion. -/
theorem Concludes.unique {interpreter after other : Interpreter ν} {source : Text}
    {last otherLast : Machine ν} (first : interpreter.Concludes source after last)
    (second : interpreter.Concludes source other otherLast) : other = after ∧ otherLast = last := by
  obtain ⟨patience, ran, stopped⟩ := first
  obtain ⟨otherPatience, otherRan, otherStopped⟩ := second
  have same : interpreter.runSource otherPatience source =
      interpreter.runSource patience source := by
    have longer := runSource_add (by rwa [ran]) otherPatience
    have otherLonger := runSource_add (by rwa [otherRan]) patience
    rw [← otherLonger, Nat.add_comm, longer]
  exact Prod.mk.inj (otherRan.symm.trans (same.trans ran))

/-- A new interpreter has the standard instructions and their records, and nothing else yet. -/
theorem new_eq (settings : Settings) :
    (new settings : Interpreter ν) =
      { settings
        logger := settings.logger
        instructions := Standard.set
        log := (Standard.operations.filterMap fun operation =>
          settings.logger.write (registration operation.mnemonic operation.arity)).toArray } := by
  rw [new, registerStandard, registerAll_eq]
  simp [Standard.set, Standard.extend, Standard.instructions, bare, List.filterMap_map,
    Function.comp_def, Standard.instruction]

/-- The machine that a new interpreter runs. -/
theorem new_load (settings : Settings) (lines : List Text) :
    { (new settings : Interpreter ν).load lines with
      ledger := (new settings : Interpreter ν).ledger } =
      Machine.load settings.filename settings.trace lines := by
  rw [new_eq]
  rfl

/-- New interpreters that log differently give a source the same output, outcome and table. -/
theorem runSource_agree {first second : Settings} (sameName : first.filename = second.filename)
    (patience : Nat) (source : Text) :
    let ran := (new first : Interpreter ν).runSource patience source
    let otherRan := (new second : Interpreter ν).runSource patience source
    otherRan.1.output = ran.1.output ∧ otherRan.2.outcome = ran.2.outcome ∧
      otherRan.2.table = ran.2.table := by
  intro ran otherRan
  have alike : (Machine.load first.filename first.trace source.programLines : Machine ν).Alike
      (.load second.filename second.trace source.programLines) := by
    rw [sameName]
    exact ⟨_, _, rfl⟩
  obtain ⟨outcome, table, printed⟩ := (alike.iterate Standard.set patience).agree
  obtain ⟨output, ranTable, -⟩ := runSource_eq (new first : Interpreter ν) patience source
  obtain ⟨otherOutput, otherTable, -⟩ := runSource_eq (new second : Interpreter ν) patience source
  rw [new_instructions, new_load] at output ranTable otherOutput otherTable
  refine ⟨?_, ?_, ?_⟩
  · rw [otherOutput, output, table, printed, new_eq, new_eq]
  · rw [runSource_outcome, runSource_outcome, new_instructions, new_instructions, new_load,
      new_load, outcome]
  · rw [otherTable, ranTable, table]

/-- Logging never influences the program. Where a new interpreter brings a source to a conclusion,
one that is set to log differently brings it to one conclusion too, with the same output, outcome
and final table. -/
theorem logging_never_interferes {first second : Settings}
    (sameName : first.filename = second.filename) {source : Text} {after : Interpreter ν}
    {last : Machine ν} (concluded : (new first).Concludes source after last) :
    ∃ otherAfter otherLast,
      (∀ interpreter machine, (new second : Interpreter ν).Concludes source interpreter machine ↔
        interpreter = otherAfter ∧ machine = otherLast) ∧
      otherAfter.output = after.output ∧ otherLast.outcome = last.outcome ∧
      otherLast.table = last.table := by
  obtain ⟨patience, ran, stopped⟩ := concluded
  have agree := runSource_agree (ν := ν) sameName patience source
  rw [ran] at agree
  have sameStatus := congrArg Outcome.status agree.2.1
  have otherStopped : ((new second : Interpreter ν).runSource patience source).2.status ≠
      .running := fun running => stopped (sameStatus.symm.trans running)
  have otherConcluded := concludes_of_stopped otherStopped
  refine ⟨_, _, fun interpreter machine => ⟨otherConcluded.unique, ?_⟩, agree⟩
  rintro ⟨rfl, rfl⟩
  exact otherConcluded

/-- A loop that ends with a fault, once without a log and once with tracing and a category that
nobody knows. -/
theorem logging_never_interferes_loop :
    let source := utf8 "INTEGER x\nINTEGER y\nASSIGN x -1\nASSIGN y 1\nADD x y\nIF x 5\nHEAD x y\n"
    let quiet : Settings := { filename := utf8 "loop" }
    let loud : Settings :=
      { debug := true, trace := true, categories := [utf8 "nonsense"], filename := utf8 "loop" }
    ∃ (after otherAfter : Interpreter Int64) (last otherLast : Machine Int64),
      (new quiet).Concludes source after last ∧ (new loud).Concludes source otherAfter otherLast ∧
      after.log ≠ otherAfter.log ∧ last.outcome.faultLine = 7 ∧
      otherAfter.output = after.output ∧ otherLast.outcome = last.outcome ∧
      otherLast.table = last.table := by
  intro source quiet loud
  obtain ⟨stopped, otherStopped, line, differ⟩ :
      ((new quiet : Interpreter Int64).runSource 9 source).2.status ≠ .running ∧
      ((new loud : Interpreter Int64).runSource 9 source).2.status ≠ .running ∧
      ((new quiet : Interpreter Int64).runSource 9 source).2.outcome.faultLine = 7 ∧
      ((new quiet : Interpreter Int64).runSource 9 source).1.log ≠
        ((new loud : Interpreter Int64).runSource 9 source).1.log := by
    decide +kernel
  have concluded := concludes_of_stopped stopped
  have sameName : quiet.filename = loud.filename := rfl
  obtain ⟨otherAfter, otherLast, other, agree⟩ := logging_never_interferes sameName concluded
  obtain ⟨rfl, rfl⟩ := (other _ _).mp (concludes_of_stopped otherStopped)
  exact ⟨_, _, _, _, concluded, concludes_of_stopped otherStopped, differ, line, agree⟩

end Interpreter
end LineMachine
