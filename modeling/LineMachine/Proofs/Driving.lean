import LineMachine.Proofs.Independence
import Mathlib.Tactic.Simps.Basic

namespace LineMachine

namespace Machine

variable {ν : Type}

/-- The machine with texts and records from before its own. -/
@[simps]
def preceded (machine : Machine ν) (printed : Array Text) (records : Array Log.Record) :
    Machine ν :=
  { machine with
    printed := printed ++ machine.printed
    records := records ++ machine.records }

section Preceded

variable (machine : Machine ν) (printed : Array Text) (records : Array Log.Record)

theorem noteFlow_preceded (message : Text) :
    (machine.preceded printed records).noteFlow message =
      (machine.noteFlow message).preceded printed records := by
  simp only [noteFlow, note, preceded, Array.append_push]

theorem traceLine_preceded (line : Line) :
    (machine.preceded printed records).traceLine line =
      (machine.traceLine line).preceded printed records := by
  simp only [traceLine, preceded_tracing, preceded_counter, noteFlow_preceded]
  split <;> rfl

theorem absorb_preceded (reply : Reply ν) :
    (machine.preceded printed records).absorb reply =
      (machine.absorb reply).preceded printed records := by
  have longer {α : Type} (before after : Array α) (more : List α) :
      before ++ after ++ more = before ++ (after ++ more) := Array.toList_inj.mp (by simp)
  simp only [absorb, preceded, longer]

theorem raise_preceded (line : Line) (failure : Failure) :
    (machine.preceded printed records).raise line failure =
      (machine.raise line failure).preceded printed records := by
  simp only [raise, note, print, preceded, Array.append_push]

theorem follow_preceded (line : Line) (verdict : Except Failure (Option Action)) :
    (machine.preceded printed records).follow line verdict =
      (machine.follow line verdict).preceded printed records := by
  simp only [follow, raise_preceded, noteFlow_preceded, preceded_program, preceded_counter]
  split
  · rfl
  · rfl
  · rfl
  · split <;> rfl
  · exact noteFlow_preceded { machine with status := .halted } printed records _

theorem execute_preceded (set : InstructionSet ν) (line : Line) :
    (machine.preceded printed records).execute set line =
      (machine.execute set line).preceded printed records := by
  rw [execute, execute, ← follow_preceded, ← absorb_preceded, ← traceLine_preceded]
  rfl

/-- A step does not look back at what was printed and logged before. -/
theorem step_preceded (set : InstructionSet ν) :
    (machine.preceded printed records).step set =
      (machine.step set).preceded printed records := by
  simp only [step, preceded_status, preceded_program, preceded_counter, execute_preceded]
  split
  · split
    · rfl
    · exact noteFlow_preceded { machine with status := .completed } printed records _
  · rfl

end Preceded

/-- The line that the next step executes. -/
def line? (machine : Machine ν) : Option Line :=
  if machine.status = .running then machine.program[machine.counter]? else none

end Machine

variable {μ ν : Type}

/-- Instructions with a memory: what they do depends on it, and each line may change it. -/
structure Library (μ ν : Type) where
  instructions : μ → InstructionSet ν
  remember : μ → Line → Table ν → Nat → μ

/-- Instructions that remember nothing. -/
def Library.fixed (set : InstructionSet ν) : Library μ ν where
  instructions _ := set
  remember memory _ _ _ := memory

/-- A machine and the memory of its instructions. -/
structure Engine (μ ν : Type) where
  machine : Machine ν
  memory : μ

namespace Engine

variable (library : Library μ ν)

/-- A step of the machine with the instructions as they are by now. -/
def step (engine : Engine μ ν) : Engine μ ν where
  machine := engine.machine.step (library.instructions engine.memory)
  memory :=
    match engine.machine.line? with
    | some line =>
      library.remember engine.memory line engine.machine.table engine.machine.program.size
    | none => engine.memory

def wake (engine : Engine μ ν) : Engine μ ν := { engine with machine := engine.machine.wake }

/-- The machine goes on until it stops, for at most so many steps. -/
def resume (patience : Nat) (engine : Engine μ ν) : Engine μ ν :=
  (step library)^[patience] engine.wake

/-- The machine goes on until it stops and prints its final table. -/
def run [Number ν] (patience : Nat) (engine : Engine μ ν) : Engine μ ν :=
  let resumed := engine.resume library patience
  { resumed with machine := resumed.machine.printFinal }

/-- Nothing happens to a machine that has stopped, nor to the memory. -/
theorem step_of_stopped {engine : Engine μ ν} (stopped : engine.machine.status ≠ .running) :
    engine.step library = engine := by
  rw [step, Machine.step_of_stopped _ stopped, Machine.line?, if_neg stopped]

/-- Instructions without a memory drive the machine as a set does. -/
theorem iterate_fixed (set : InstructionSet ν) (count : Nat) (engine : Engine μ ν) :
    ((step (.fixed set))^[count] engine).machine = (Machine.step set)^[count] engine.machine := by
  have steps : Function.Semiconj Engine.machine (step (.fixed set : Library μ ν))
      (Machine.step set) := fun _ => rfl
  exact steps.iterate_right count engine

theorem resume_fixed (set : InstructionSet ν) (patience : Nat) (engine : Engine μ ν) :
    (engine.resume (.fixed set) patience).machine = engine.machine.resume set patience := by
  rw [resume, iterate_fixed, Machine.resume, Machine.drive_eq_iterate]
  rfl

/-- The engine with texts and records from before those of its machine. -/
def preceded (engine : Engine μ ν) (printed : Array Text) (records : Array Log.Record) :
    Engine μ ν :=
  { engine with machine := engine.machine.preceded printed records }

theorem step_preceded (engine : Engine μ ν) (printed : Array Text) (records : Array Log.Record) :
    (engine.preceded printed records).step library =
      (engine.step library).preceded printed records := by
  rw [step, preceded, Machine.step_preceded]
  rfl

theorem resume_preceded (patience : Nat) (engine : Engine μ ν) (printed : Array Text)
    (records : Array Log.Record) :
    (engine.preceded printed records).resume library patience =
      (engine.resume library patience).preceded printed records := by
  have woken : (engine.preceded printed records).wake = engine.wake.preceded printed records := by
    simp only [wake, preceded, Machine.wake, Machine.preceded_status, Machine.preceded_program,
      Machine.preceded_counter]
    split <;> rfl
  have iterated : Function.Semiconj (preceded · printed records) (step library) (step library) :=
    fun engine => (step_preceded library engine printed records).symm
  rw [resume, resume, woken]
  exact (iterated.iterate_right patience engine.wake).symm

/-- A completed machine stands behind its program, however the engine went on. -/
theorem settled_resume (patience : Nat) (engine : Engine μ ν) :
    (engine.resume library patience).machine.Settled :=
  Function.Iterate.rec (fun engine : Engine μ ν => engine.machine.Settled)
    (Machine.settled_wake engine.machine) (fun _ settled => settled.step _) patience

/-- An engine whose machine has come to a stop does not use more patience. -/
theorem resume_add {engine : Engine μ ν} {patience : Nat}
    (stopped : (engine.resume library patience).machine.status ≠ .running) (more : Nat) :
    engine.resume library (more + patience) = engine.resume library patience := by
  rw [resume] at stopped
  rw [resume, resume, Function.iterate_add_apply,
    Function.iterate_fixed (step_of_stopped library stopped)]

/-- The engine goes on to where its machine stops. -/
def Finishes (engine after : Engine μ ν) : Prop :=
  ∃ patience, engine.resume library patience = after ∧ after.machine.status ≠ .running

/-- An engine that has made a step goes on to where it goes without the step. -/
theorem finishes_step (engine after : Engine μ ν) :
    engine.Finishes library after ↔ (engine.step library).Finishes library after := by
  by_cases running : engine.machine.status = .running
  · have awake : engine.wake = engine := by
      rw [wake, Machine.wake, if_neg (by simp [running])]
    have settled : (engine.step library).machine.Settled :=
      Machine.Settled.step (fun completed => by simp [running] at completed) _
    -- A step completes the machine only where there is no line, so that nothing wakes it up.
    have stillAwake : (engine.step library).wake = engine.step library := by
      rw [wake, settled.wake_eq]
    have onward (patience : Nat) : engine.resume library (patience + 1) =
        (engine.step library).resume library patience := by
      rw [resume, resume, awake, stillAwake, Function.iterate_succ_apply]
    constructor
    · rintro ⟨patience, rfl, stopped⟩
      cases patience with
      | zero =>
        rw [resume, awake] at stopped
        exact absurd running stopped
      | succ patience => exact ⟨patience, (onward patience).symm, stopped⟩
    · rintro ⟨patience, rfl, stopped⟩
      exact ⟨patience + 1, onward patience, stopped⟩
  · rw [step_of_stopped library running]

/-- An engine goes on to one end. -/
theorem Finishes.unique {library : Library μ ν} {engine after other : Engine μ ν}
    (first : engine.Finishes library after) (second : engine.Finishes library other) :
    other = after := by
  obtain ⟨patience, rfl, stopped⟩ := first
  obtain ⟨otherPatience, rfl, otherStopped⟩ := second
  rw [← resume_add library otherStopped patience, Nat.add_comm, resume_add library stopped]

end Engine

namespace Desk

/-- The machine of the desk, when the interpreter lets it act. -/
def acting (desk : Desk ν) : Machine ν :=
  { desk.held with ledger := desk.interpreter.ledger, printed := #[], records := #[] }

/-- The desk when its machine has acted, and what the machine printed and logged is collected. -/
def collect (desk : Desk ν) (acted : Machine ν) : Desk ν where
  interpreter :=
    { desk.interpreter with
      ledger := acted.ledger
      output := desk.interpreter.output ++ acted.printed
      log := desk.interpreter.log ++ acted.records.filterMap desk.interpreter.logger.write }
  held := { acted with printed := #[], records := #[] }

/-- The interpreter lets the machine of the desk act. -/
def act (desk : Desk ν) (action : Machine ν → Machine ν) : Desk ν :=
  let (interpreter, held) := desk.interpreter.act desk.held action
  { interpreter, held }

theorem act_eq (desk : Desk ν) (action : Machine ν → Machine ν) :
    desk.act action = desk.collect (action desk.acting) := rfl

theorem collect_collect (desk : Desk ν) (acted later : Machine ν) :
    (desk.collect acted).collect later =
      desk.collect (later.preceded acted.printed acted.records) := by
  simp [collect, Machine.preceded, Array.append_assoc, Array.filterMap_append]

/-- A desk between two nudges: a completed machine stands behind its program, and from a machine
that has stopped everything is collected. -/
structure Tidy (desk : Desk ν) : Prop where
  settled : desk.held.Settled
  collected : desk.held.status ≠ .running → desk.acting = desk.held

theorem tidy_collect (desk : Desk ν) {acted : Machine ν} (settled : acted.Settled) :
    (desk.collect acted).Tidy :=
  ⟨settled, fun _ => rfl⟩

/-- There is nothing to collect from a tidy desk whose machine has stopped. -/
theorem Tidy.collect_acting {desk : Desk ν} (tidy : desk.Tidy)
    (stopped : desk.held.status ≠ .running) : desk.collect desk.acting = desk := by
  refine congrArg₂ Desk.mk ?_ (tidy.collected stopped)
  simp [acting]

end Desk

/-- A desk whose instructions have a memory. -/
structure Bench (μ ν : Type) extends Desk ν where
  memory : μ

namespace Bench

open Engine (Finishes)

/-- The machine of the bench and the memory, when the interpreter lets them act. -/
def engine (bench : Bench μ ν) : Engine μ ν := ⟨bench.acting, bench.memory⟩

/-- The bench when its machine has acted with the memory. -/
def gather (bench : Bench μ ν) (acted : Engine μ ν) : Bench μ ν :=
  ⟨bench.collect acted.machine, acted.memory⟩

variable (library : Library μ ν)

/-- The host makes a step with the machine. -/
def step (bench : Bench μ ν) : Bench μ ν := bench.gather (bench.engine.step library)

/-- The host lets the machine go on. -/
def resume (patience : Nat) (bench : Bench μ ν) : Bench μ ν :=
  bench.gather (bench.engine.resume library patience)

/-- The machine of the bench goes on until it stops. -/
def Resumes (bench after : Bench μ ν) : Prop :=
  ∃ patience, bench.resume library patience = after ∧ after.held.status ≠ .running

variable {library}

/-- What is gathered after a first part may as well be gathered together with it. -/
theorem gather_gather (bench : Bench μ ν) (acted : Engine μ ν) {action : Engine μ ν → Engine μ ν}
    (unaware : ∀ engine printed records, action (engine.preceded printed records) =
      (action engine).preceded printed records) :
    (bench.gather acted).gather (action (bench.gather acted).engine) =
      bench.gather (action acted) := by
  have joined : acted = (bench.gather acted).engine.preceded acted.machine.printed
      acted.machine.records := by
    simp [engine, gather, Desk.acting, Desk.collect, Engine.preceded, Machine.preceded]
  conv => rhs; rw [joined, unaware]
  rw [gather, gather, Desk.collect_collect]
  rfl

theorem resumes_iff {bench after : Bench μ ν} :
    bench.Resumes library after ↔
      ∃ last, bench.engine.Finishes library last ∧ bench.gather last = after := by
  constructor
  · rintro ⟨patience, rfl, stopped⟩
    exact ⟨_, ⟨patience, rfl, stopped⟩, rfl⟩
  · rintro ⟨last, ⟨patience, rfl, stopped⟩, rfl⟩
    exact ⟨patience, rfl, stopped⟩

/-- A bench has one end. -/
theorem Resumes.unique {bench after other : Bench μ ν} (first : bench.Resumes library after)
    (second : bench.Resumes library other) : other = after := by
  obtain ⟨last, finished, rfl⟩ := resumes_iff.mp first
  obtain ⟨otherLast, otherFinished, rfl⟩ := resumes_iff.mp second
  rw [finished.unique otherFinished]

/-- A step before the machine goes on changes nothing in the end. -/
theorem resumes_step (bench after : Bench μ ν) :
    bench.Resumes library after ↔ (bench.step library).Resumes library after := by
  have together (patience : Nat) : (bench.step library).resume library patience =
      bench.gather ((bench.engine.step library).resume library patience) := by
    rw [resume, step, gather_gather]
    exact Engine.resume_preceded library patience
  rw [resumes_iff]
  constructor
  · rintro ⟨last, finished, rfl⟩
    obtain ⟨patience, rfl, stopped⟩ := (Engine.finishes_step library _ _).mp finished
    exact ⟨patience, together patience, stopped⟩
  · rintro ⟨patience, rfl, stopped⟩
    rw [together] at stopped ⊢
    exact ⟨_, (Engine.finishes_step library _ _).mpr ⟨patience, rfl, stopped⟩, rfl⟩

/-- Steps before the machine goes on change nothing in the end. -/
theorem resumes_steps (count : Nat) (bench after : Bench μ ν) :
    bench.Resumes library after ↔ ((step library)^[count] bench).Resumes library after := by
  induction count generalizing bench with
  | zero => rfl
  | succ count inductionHypothesis =>
    rw [Function.iterate_succ_apply, ← inductionHypothesis, ← resumes_step]

/-- A tidy bench whose machine has stopped stays as it is. -/
theorem resumes_self {bench : Bench μ ν} (tidy : bench.Tidy)
    (stopped : bench.held.status ≠ .running) : bench.Resumes library bench := by
  refine resumes_iff.mpr ⟨bench.engine, ⟨0, ?_, stopped⟩, ?_⟩
  · have awake : bench.acting.wake = bench.acting := Machine.Settled.wake_eq tidy.settled
    rw [Engine.resume, Function.iterate_zero_apply, Engine.wake, engine, awake]
  · rw [gather, engine, tidy.collect_acting stopped]

/-- The ways to drive a machine by hand. -/
inductive Nudge where
  | step
  | resume
deriving DecidableEq, Repr

/-- The bench after a mix of single steps and of going on, each of which comes to a stop. -/
inductive Driven (library : Library μ ν) : Bench μ ν → List Nudge → Bench μ ν → Prop where
  | rest (bench : Bench μ ν) : Driven library bench [] bench
  | step {bench last : Bench μ ν} {nudges : List Nudge}
    (more : Driven library (bench.step library) nudges last) :
    Driven library bench (.step :: nudges) last
  | resume {bench between last : Bench μ ν} {nudges : List Nudge}
    (resumed : bench.Resumes library between) (more : Driven library between nudges last) :
    Driven library bench (.resume :: nudges) last

/-- A mix of nudges that brings the machine to a stop leads where the machine goes on its own. -/
theorem Driven.resumes {bench last : Bench μ ν} {nudges : List Nudge}
    (driven : Driven library bench nudges last) (tidy : bench.Tidy)
    (stopped : last.held.status ≠ .running) : bench.Resumes library last := by
  induction driven with
  | rest bench => exact resumes_self tidy stopped
  | @step bench _ _ _ inductionHypothesis =>
    rw [resumes_step]
    have settled : bench.acting.Settled := tidy.settled
    exact inductionHypothesis (bench.tidy_collect (settled.step _)) stopped
  | @resume bench between _ _ resumed _ inductionHypothesis =>
    obtain ⟨patience, rfl, halted⟩ := resumed
    have betweenTidy := bench.tidy_collect (bench.engine.settled_resume library patience)
    obtain rfl := (resumes_self betweenTidy halted).unique (inductionHypothesis betweenTidy stopped)
    exact ⟨patience, rfl, halted⟩

/-- The bench with a machine for a source. -/
def load (bench : Bench μ ν) (source : Text) : Bench μ ν :=
  { bench with held := bench.interpreter.load source.programLines }

variable [Number ν]

/-- The host lets the machine go on and print its final table. -/
def run (library : Library μ ν) (patience : Nat) (bench : Bench μ ν) : Bench μ ν :=
  bench.gather (bench.engine.run library patience)

/-- The interpreter executes a source. -/
def execute (library : Library μ ν) (patience : Nat) (bench : Bench μ ν) (source : Text) :
    Bench μ ν :=
  let noted := { bench with interpreter := bench.interpreter.note (Interpreter.executing source) }
  (noted.load source).run library patience

/-- Running is going on and printing the final table once. -/
theorem run_eq (patience : Nat) (bench : Bench μ ν) :
    let resumed := bench.resume library patience
    bench.run library patience =
      { resumed with
        interpreter := { resumed.interpreter with
          output := resumed.interpreter.output.push resumed.held.table.finalBlock } } := by
  intro resumed
  simp only [resumed, run, resume, gather, Desk.collect, Engine.run, Machine.printFinal,
    Machine.print, Array.append_push]

/-- A program that was brought to a stop by hand ends as its execution does, apart from the final
table. -/
theorem Resumes.executed {bench last : Bench μ ν} {source : Text}
    (resumed : (bench.load source).Resumes library last) :
    ∃ patience, (bench.execute library patience source).held = last.held ∧
      (bench.execute library patience source).memory = last.memory ∧
      (bench.execute library patience source).interpreter.output =
        last.interpreter.output.push last.held.table.finalBlock := by
  obtain ⟨patience, rfl, -⟩ := resumed
  have noted := Interpreter.note_eq bench.interpreter (Interpreter.executing source)
  refine ⟨patience, ?_, ?_, ?_⟩
  all_goals rw [execute, run_eq, noted]
  all_goals rfl

/-- Instructions without a memory make of a bench what the interpreter makes of the desk. -/
theorem act_fixed (bench : Bench μ ν) :
    let set := bench.interpreter.instructions
    (bench.step (.fixed set)).toDesk = bench.serve .step ∧
    ∀ patience,
      (bench.resume (.fixed set) patience).toDesk = bench.act (·.resume set patience) ∧
      (bench.run (.fixed set) patience).toDesk = bench.act (·.run set patience) ∧
      ∀ source, let executed := bench.execute (.fixed set) patience source
        (executed.interpreter, executed.held) = bench.interpreter.runSource patience source := by
  have resumed (set : InstructionSet ν) (patience : Nat) (bench : Bench μ ν) :
      (bench.engine.resume (.fixed set) patience).machine = bench.acting.resume set patience :=
    bench.engine.resume_fixed set patience
  have ran (set : InstructionSet ν) (patience : Nat) (bench : Bench μ ν) :
      (bench.run (.fixed set) patience).toDesk = bench.act (·.run set patience) := by
    rw [run, gather, Engine.run, resumed, Desk.act_eq, Machine.run]
  refine ⟨rfl, fun patience => ⟨?_, ran _ patience bench, fun source => ?_⟩⟩
  · rw [resume, gather, resumed, Desk.act_eq]
  · intro executed
    have acted : executed.toDesk = _ := ran bench.interpreter.instructions patience _
    rw [acted, Interpreter.runSource, Interpreter.note_eq]
    rfl

/-- How a machine is driven does not matter, whatever its instructions do and remember and wherever
it stands. Any number of steps before it goes on leaves the end as it is: the machine, the memory,
the output and the log. Running is going on with one final table behind. So every mix of steps and
of going on that brings a program to a stop has the output of its execution without the final
table. Instructions that remember nothing make of the bench what the interpreter makes of its
machine. -/
theorem driving_immaterial (library : Library μ ν) (bench : Bench μ ν) :
    let block (table : Table ν) : Text :=
      utf8 "--- final state ---\n" ++
        table.symbols.flatMap (fun symbol => symbol.name ++ utf8 " (" ++ symbol.kind.name ++
          utf8 ") = " ++ symbol.value.text ++ utf8 "\n") ++
        utf8 "--------------------\n"
    (∀ (count : Nat) (after : Bench μ ν), bench.Resumes library after ↔
      ((step library)^[count] bench).Resumes library after) ∧
    (∀ patience, let resumed := bench.resume library patience
      bench.run library patience =
        { resumed with
          interpreter := { resumed.interpreter with
            output := resumed.interpreter.output.push (block resumed.held.table) } }) ∧
    (∀ (source : Text) (nudges : List Nudge) (last : Bench μ ν),
      Driven library (bench.load source) nudges last → last.held.status ≠ .running →
      ∃ patience, (bench.execute library patience source).held = last.held ∧
        (bench.execute library patience source).memory = last.memory ∧
        (bench.execute library patience source).interpreter.output =
          last.interpreter.output.push (block last.held.table)) ∧
    let set := bench.interpreter.instructions
    (bench.step (.fixed set)).toDesk = bench.serve .step ∧
    ∀ patience,
      (bench.resume (.fixed set) patience).toDesk = bench.act (·.resume set patience) ∧
      (bench.run (.fixed set) patience).toDesk = bench.act (·.run set patience) ∧
      ∀ source, let executed := bench.execute (.fixed set) patience source
        (executed.interpreter, executed.held) = bench.interpreter.runSource patience source := by
  intro block
  have spelled (table : Table ν) : table.finalBlock = block table := rfl
  refine ⟨fun count after => resumes_steps count bench after, ?_, ?_, bench.act_fixed⟩
  · intro patience resumed
    rw [← spelled]
    exact run_eq patience bench
  · intro source nudges last driven stopped
    have tidy : (bench.load source).Tidy :=
      { settled := fun completed => nomatch completed
        collected := fun stopped => absurd rfl stopped }
    rw [← spelled]
    exact (driven.resumes tidy stopped).executed

/-- Two steps, going on, and a step too many drive a program with an instruction that counts its
calls. -/
theorem driving_immaterial_counting :
    let count (calls : Nat) : Handler Int64 := fun call =>
      { table := call.table
        printed := [(Text.ofNat calls).line]
        verdict := .ok (some .advance) }
    let library : Library Nat Int64 :=
      { instructions := fun calls => Standard.set.register (utf8 "COUNT") 0 (count calls)
        remember := fun calls line _ _ => if line.command = utf8 "COUNT" then calls + 1 else calls }
    let interpreter : Interpreter Int64 := .new {}
    let bench : Bench Nat Int64 := ⟨⟨interpreter, interpreter.load []⟩, 0⟩
    let source := utf8 "COUNT\nINTEGER x\nCOUNT\nCOUNT\n"
    ∃ last patience,
      Driven library (bench.load source) [.step, .step, .resume, .step] last ∧
      last.held.status = .completed ∧
      last.interpreter.output = #[utf8 "0\n", utf8 "1\n", utf8 "2\n"] ∧
      (bench.execute library patience source).held = last.held ∧
      (bench.execute library patience source).memory = 3 ∧
      (bench.execute library patience source).interpreter.output = last.interpreter.output.push
        (utf8 "--- final state ---\nx (int) = 0\n--------------------\n") := by
  intro count library interpreter bench source
  let between := ((bench.load source).step library).step library
  let resumed := between.resume library 3
  obtain ⟨halted, status, output, memory, block⟩ : resumed.held.status ≠ .running ∧
      (resumed.step library).held.status = .completed ∧
      (resumed.step library).interpreter.output = #[utf8 "0\n", utf8 "1\n", utf8 "2\n"] ∧
      (resumed.step library).memory = 3 ∧
      (resumed.step library).held.table.finalBlock =
        utf8 "--- final state ---\nx (int) = 0\n--------------------\n" := by
    decide +kernel
  have resumes : between.Resumes library resumed := ⟨3, rfl, halted⟩
  have driven : Driven library (bench.load source) [.step, .step, .resume, .step]
      (resumed.step library) := .step (.step (.resume resumes (.step (.rest _))))
  have stopped : (resumed.step library).held.status ≠ .running :=
    fun running => nomatch running.symm.trans status
  obtain ⟨-, -, execution, -⟩ := driving_immaterial library bench
  obtain ⟨patience, held, remembered, printed⟩ := execution source _ _ driven stopped
  refine ⟨_, patience, driven, status, output, held, remembered.trans memory, ?_⟩
  rw [← block]
  exact printed

end Bench
end LineMachine
