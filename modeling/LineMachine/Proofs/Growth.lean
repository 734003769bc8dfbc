import LineMachine.Proofs.Faulting
import LineMachine.Session
import Mathlib.Logic.Function.Iterate

/-! A line that is accepted in a part of a program means the same in all of it. -/

namespace LineMachine.Machine

variable {ν : Type}

/-- Driving a machine is stepping it so many times, because a stopped machine stays as it is. -/
theorem drive_eq_iterate (set : InstructionSet ν) (count : Nat) (machine : Machine ν) :
    machine.drive set count = (step set)^[count] machine := by
  induction count generalizing machine with
  | zero => rfl
  | succ count inductionHypothesis =>
    rw [drive, Function.iterate_succ_apply]
    split
    · exact inductionHypothesis _
    · rename_i stopped
      exact (Function.iterate_fixed (step_of_stopped set stopped) count).symm

/-- A walk under one instruction set is so many steps. -/
theorem Walk.iterate {set : InstructionSet ν} {machine after : Machine ν} {places : List Nat}
    (walked : Walk (· = set) machine places after) :
    ∃ count, (step set)^[count] machine = after := by
  induction walked with
  | stay machine => exact ⟨0, rfl⟩
  | line _ known _ _ _ inductionHypothesis | leave _ known _ _ _ inductionHypothesis =>
    subst known
    obtain ⟨count, stepped⟩ := inductionHypothesis
    exact ⟨count + 1, stepped⟩

/-- A running machine goes on by stepping. -/
theorem resume_eq_iterate (set : InstructionSet ν) (patience : Nat) {machine : Machine ν}
    (running : machine.status = .running) :
    machine.resume set patience = (step set)^[patience] machine := by
  rw [resume, drive_eq_iterate, wake, if_neg (by simp [running])]

/-- A machine that has come to a stop does not use more patience. -/
theorem resume_add (set : InstructionSet ν) {machine : Machine ν} {patience : Nat}
    (stopped : (machine.resume set patience).status ≠ .running) (more : Nat) :
    machine.resume set (more + patience) = machine.resume set patience := by
  rw [resume, drive_eq_iterate] at stopped
  rw [resume, resume, drive_eq_iterate, drive_eq_iterate, Function.iterate_add_apply,
    Function.iterate_fixed (step_of_stopped set stopped)]

/-- The table of a machine stays well formed, however many steps it makes. -/
theorem wellFormed_iterate [Number ν] {machine : Machine ν} (formed : machine.table.WellFormed)
    (count : Nat) : ((step Standard.set)^[count] machine).table.WellFormed :=
  Function.Iterate.rec (fun machine : Machine ν => machine.table.WellFormed) formed
    (fun _ formed => wellFormed_kept.step rfl formed) count

/-- The machine adds several lines. -/
def appendAll (machine : Machine ν) (lines : List Text) : Machine ν := lines.foldl append machine

/-- The machine goes on and comes to a stop. -/
def Finishes (set : InstructionSet ν) (machine after : Machine ν) : Prop :=
  ∃ patience, machine.resume set patience = after ∧ after.status ≠ .running

/-- A completed machine stands behind its program. -/
def Settled (machine : Machine ν) : Prop :=
  machine.status = .completed → machine.program.size ≤ machine.counter

theorem settled_wake (machine : Machine ν) : machine.wake.Settled := by
  intro completed
  rw [wake] at completed ⊢
  split at completed
  · contradiction
  · rename_i asleep
    rw [if_neg asleep]
    exact Nat.le_of_not_lt fun inside => asleep ⟨completed, inside⟩

theorem Settled.step {machine : Machine ν} (settled : machine.Settled) (set : InstructionSet ν) :
    (machine.step set).Settled := by
  cases step_stepped set machine with
  | stopped _ unchanged =>
    rw [unchanged]
    exact settled
  | left _ outside completed =>
    obtain ⟨records, completed⟩ := completed
    rw [completed]
    exact fun _ => outside
  | executed _ _ _ _ turn =>
    intro completed
    cases turn with
    | advance _ status | jump _ _ _ status | halt _ status | fault _ _ status =>
      simp [status] at completed

theorem settled_resume (set : InstructionSet ν) (patience : Nat) (machine : Machine ν) :
    (machine.resume set patience).Settled := by
  rw [resume, drive_eq_iterate]
  exact Function.Iterate.rec Settled (settled_wake machine) (fun _ settled => settled.step set)
    patience

/-- Nothing wakes up a completed machine behind its program. -/
theorem Settled.wake_eq {machine : Machine ν} (settled : machine.Settled) :
    machine.wake = machine :=
  if_neg fun asleep => Nat.not_lt_of_le (settled asleep.1) asleep.2

/-- A machine that comes to a stop without a fault halts or stands behind its program. -/
theorem Finishes.ended {set : InstructionSet ν} {machine after : Machine ν}
    (finished : Finishes set machine after) (sound : after.status ≠ .faulted) :
    after.status = .halted ∨ after.program.size ≤ after.counter := by
  obtain ⟨patience, rfl, stopped⟩ := finished
  cases status : (machine.resume set patience).status with
  | running => exact absurd status stopped
  | halted => exact .inl rfl
  | faulted => exact absurd status sound
  | completed => exact .inr (settled_resume set patience machine status)

/-- A machine with a part of a program stands where a machine with the whole program stands. The
whole machine has printed some texts before, and the rest is what the part still lacks. A part that
has come to its end corresponds to a whole that is still running. -/
structure Mirrors (filename : Text) (before : Array Text) (rest : List Text)
    (part whole : Machine ν) : Prop where
  sourced : part.Sourced filename
  program : whole.program.toList = Line.parseAll filename (part.source ++ rest)
  formed : part.table.WellFormed
  table : whole.table = part.table
  counter : whole.counter = part.counter
  steps : whole.steps = part.steps
  printed : whole.printed = before ++ part.printed
  status : whole.status = if part.status = .halted then .halted else .running

namespace Mirrors

variable {filename : Text} {before : Array Text} {rest : List Text} {part whole : Machine ν}

/-- The lines of the part come first in the whole. -/
theorem prefixed (mirrors : Mirrors filename before rest part whole) :
    part.program.toList <+: whole.program.toList := by
  rw [mirrors.program, mirrors.sourced.parsed]
  exact Line.parseAll_append filename part.source rest

/-- A line of the part is the line of the whole at the same place. -/
theorem line (mirrors : Mirrors filename before rest part whole) {place : Nat} {line : Line}
    (current : part.program[place]? = some line) : whole.program[place]? = some line := by
  obtain ⟨inside, -⟩ := Array.getElem?_eq_some_iff.mp current
  obtain ⟨tail, joined⟩ := mirrors.prefixed
  rw [← Array.getElem?_toList] at current ⊢
  rw [← joined, List.getElem?_append_left inside]
  exact current

/-- The part takes the next line of the rest. -/
theorem append {text : Text} (mirrors : Mirrors filename before (text :: rest) part whole) :
    Mirrors filename before rest (part.append text) whole where
  sourced := mirrors.sourced.append text
  program := by
    rw [source_append, List.append_assoc]
    exact mirrors.program
  formed := mirrors.formed
  table := mirrors.table
  counter := mirrors.counter
  steps := mirrors.steps
  printed := mirrors.printed
  status := mirrors.status

theorem appendAll {lines : List Text} (mirrors : Mirrors filename before (lines ++ rest) part whole) :
    Mirrors filename before rest (part.appendAll lines) whole := by
  induction lines generalizing part with
  | nil => exact mirrors
  | cons text lines inductionHypothesis => exact inductionHypothesis mirrors.append

/-- A whole that runs does not see the part come to its end or wake up. -/
theorem restatus (mirrors : Mirrors filename before rest part whole) (status : Status)
    (records : Array Log.Record) (unhalted : part.status ≠ .halted) (stillUnhalted : status ≠ .halted) :
    Mirrors filename before rest { part with status, records } whole :=
  ⟨⟨mirrors.sourced.named, mirrors.sourced.parsed⟩, mirrors.program, mirrors.formed, mirrors.table,
    mirrors.counter, mirrors.steps, mirrors.printed, by simp [mirrors.status, unhalted, stillUnhalted]⟩

theorem wake (mirrors : Mirrors filename before rest part whole) :
    Mirrors filename before rest part.wake whole := by
  rw [Machine.wake]
  split
  · rename_i asleep
    exact mirrors.restatus .running part.records (by simp [asleep.1]) (by simp)
  · exact mirrors

/-- What the part has printed may be collected. -/
theorem collect (mirrors : Mirrors filename before rest part whole) (ledger : Ledger)
    (records : Array Log.Record) :
    Mirrors filename (before ++ part.printed) rest
      { part with ledger, printed := #[], records } whole :=
  ⟨⟨mirrors.sourced.named, mirrors.sourced.parsed⟩, mirrors.program, mirrors.formed, mirrors.table,
    mirrors.counter, mirrors.steps, by simpa using mirrors.printed, mirrors.status⟩

/-- A machine without any line mirrors every machine at the start of its program. -/
theorem load (filename : Text) (tracing : Bool) (lines : List Text) (ledger : Ledger) :
    Mirrors filename #[] lines (.load filename tracing [] : Machine ν)
      { (.load filename tracing lines : Machine ν) with ledger } where
  sourced := sourced_load filename tracing []
  program := by rw [source_load]; rfl
  formed := Table.wellFormed_empty
  table := rfl
  counter := rfl
  steps := rfl
  printed := rfl
  status := rfl

variable [Number ν]

/-- A line that the part executes without a fault is executed in the same way by the whole. -/
theorem execute (mirrors : Mirrors filename before rest part whole)
    (running : part.status = .running) {line : Line}
    (current : part.program[part.counter]? = some line)
    (frame : part.Frame (Standard.set.dispatch line part.table part.program.size)
      (part.step Standard.set))
    (turn : part.Turn line (Standard.set.dispatch line part.table part.program.size)
      (part.step Standard.set))
    (sound : (part.step Standard.set).status ≠ .faulted) :
    Mirrors filename before rest (part.step Standard.set) (whole.step Standard.set) := by
  have accepted := turn.accepted sound
  obtain ⟨action, verdict, status, counter, printed⟩ := turn.performed accepted
  have grows : part.program.size ≤ whole.program.size := by
    simpa using mirrors.prefixed.length_le
  -- A target was checked against the length of the part; in the whole it can only pass again.
  have sameReply := Standard.dispatch_grows mirrors.formed grows verdict
  have sameLine : whole.program[whole.counter]? = some line := by
    rw [mirrors.counter]
    exact mirrors.line current
  have sameSource : (part.step Standard.set).source = part.source := by
    rw [source, frame.program, source]
  cases step_stepped Standard.set whole with
  | stopped stopped => simp [mirrors.status, running] at stopped
  | left _ outside =>
    rw [Array.getElem?_eq_none outside] at sameLine
    contradiction
  | executed _ other otherCurrent otherFrame otherTurn =>
    obtain rfl : line = other := Option.some.inj (sameLine.symm.trans otherCurrent)
    rw [mirrors.table, sameReply] at otherFrame otherTurn
    obtain ⟨sameAction, otherVerdict, otherStatus, otherCounter, otherPrinted⟩ :=
      otherTurn.performed (rejection?_grows grows accepted)
    obtain rfl : action = sameAction := by simpa [verdict] using otherVerdict
    refine ⟨(sourced_kept (· = Standard.set) filename).step rfl mirrors.sourced, ?_,
      wellFormed_kept.step rfl mirrors.formed, ?_, ?_, ?_, ?_, ?_⟩
    · rw [otherFrame.program, sameSource, mirrors.program]
    · rw [otherFrame.table, frame.table]
    · rw [otherCounter, counter, mirrors.counter]
    · rw [otherFrame.steps, frame.steps, mirrors.steps]
    · rw [otherPrinted, printed, mirrors.printed]
      exact Array.toList_inj.mp (by simp)
    · rw [otherStatus, status]
      split <;> rfl

/-- Where the part steps without a fault, the whole follows it with at most one step. -/
theorem step (mirrors : Mirrors filename before rest part whole)
    (sound : (part.step Standard.set).status ≠ .faulted) :
    ∃ count, Mirrors filename before rest (part.step Standard.set)
      ((Machine.step Standard.set)^[count] whole) := by
  cases step_stepped Standard.set part with
  | stopped _ unchanged =>
    rw [unchanged]
    exact ⟨0, mirrors⟩
  | left running _ completed =>
    obtain ⟨records, completed⟩ := completed
    rw [completed]
    exact ⟨0, mirrors.restatus .completed records (by simp [running]) (by simp)⟩
  | executed running line current frame turn =>
    exact ⟨1, mirrors.execute running current frame turn sound⟩

/-- Where the part goes without a fault, the whole can follow. -/
theorem run (mirrors : Mirrors filename before rest part whole) (count : Nat)
    (sound : ((Machine.step Standard.set)^[count] part).status ≠ .faulted) :
    ∃ more, Mirrors filename before rest ((Machine.step Standard.set)^[count] part)
      ((Machine.step Standard.set)^[more] whole) := by
  induction count with
  | zero => exact ⟨0, mirrors⟩
  | succ count inductionHypothesis =>
    rw [Function.iterate_succ_apply'] at sound ⊢
    -- A faulted machine stays faulted, so the part had no fault one step earlier.
    have soundBefore : ((Machine.step Standard.set)^[count] part).status ≠ .faulted := by
      intro faulted
      rw [step_of_stopped _ (by simp [faulted])] at sound
      exact sound faulted
    obtain ⟨more, followed⟩ := inductionHypothesis soundBefore
    obtain ⟨last, reached⟩ := followed.step sound
    exact ⟨last + more, by rwa [Function.iterate_add_apply]⟩

/-- The whole follows the part through a chunk of lines. -/
theorem chunk {lines : List Text} {after : Machine ν}
    (mirrors : Mirrors filename before (lines ++ rest) part whole)
    (finished : Finishes Standard.set (part.appendAll lines) after)
    (sound : after.status ≠ .faulted) :
    ∃ more, Mirrors filename before rest after ((Machine.step Standard.set)^[more] whole) := by
  obtain ⟨patience, rfl, -⟩ := finished
  rw [resume, drive_eq_iterate] at sound ⊢
  exact mirrors.appendAll.wake.run patience sound

/-- When the part has halted, or has got all lines and stands behind them, the whole comes to a stop
at the same place. -/
theorem finish (mirrors : Mirrors filename before rest part whole)
    (ended : part.status = .halted ∨ rest = [] ∧ part.program.size ≤ part.counter) :
    ∃ more, let batch := (Machine.step Standard.set)^[more] whole
      batch.table = part.table ∧ batch.printed = before ++ part.printed ∧
      batch.steps = part.steps ∧ batch.counter = part.counter ∧
      batch.status = if part.status = .halted then .halted else .completed := by
  by_cases halted : part.status = .halted
  · exact ⟨0, mirrors.table, mirrors.printed, mirrors.steps, mirrors.counter,
      by simp [mirrors.status, halted]⟩
  · obtain ⟨rfl, outside⟩ := ended.resolve_left halted
    have running : whole.status = .running := by simp [mirrors.status, halted]
    have sameProgram : whole.program = part.program := by
      apply Array.toList_inj.mp
      rw [mirrors.program, mirrors.sourced.parsed, List.append_nil]
    refine ⟨1, ?_⟩
    rw [Function.iterate_one]
    cases step_stepped Standard.set whole with
    | stopped stopped => exact absurd running stopped
    | left _ _ completed =>
      obtain ⟨records, completed⟩ := completed
      rw [completed]
      exact ⟨mirrors.table, mirrors.printed, mirrors.steps, mirrors.counter, by simp [halted]⟩
    | executed _ line current =>
      rw [sameProgram, mirrors.counter, Array.getElem?_eq_none outside] at current
      contradiction

end Mirrors
variable [Number ν]

/-- The machine gets its lines in chunks and goes on after each chunk, without a fault, until it
halts or has got them all. -/
inductive Grown : Machine ν → List (List Text) → Machine ν → Prop where
  | all (machine : Machine ν) : Grown machine [] machine
  | halted {machine : Machine ν} (chunks : List (List Text)) (halted : machine.status = .halted) :
    Grown machine chunks machine
  | chunk {machine between after : Machine ν} {first : List Text} {rest : List (List Text)}
    (unhalted : machine.status ≠ .halted)
    (finished : Finishes Standard.set (machine.appendAll first) between)
    (sound : between.status ≠ .faulted) (more : Grown between rest after) :
    Grown machine (first :: rest) after

/-- Gives the machine its lines in chunks, if each chunk comes to a stop in time and without a
fault. -/
def grow? (patience : Nat) : Machine ν → List (List Text) → Option (Machine ν)
  | machine, [] => some machine
  | machine, first :: rest =>
    if machine.status = .halted then some machine
    else
      let between := (machine.appendAll first).resume Standard.set patience
      if between.status = .running ∨ between.status = .faulted then none
      else grow? patience between rest

theorem grown_of_grow? {patience : Nat} {machine after : Machine ν} {chunks : List (List Text)}
    (grows : machine.grow? patience chunks = some after) : Grown machine chunks after := by
  induction chunks generalizing machine with
  | nil =>
    obtain rfl := Option.some.inj grows
    exact .all machine
  | cons first rest inductionHypothesis =>
    rw [grow?] at grows
    split at grows
    · rename_i halted
      obtain rfl := Option.some.inj grows
      exact .halted _ halted
    · rename_i unhalted
      dsimp only at grows
      split at grows
      · contradiction
      · rename_i stopped
        obtain ⟨notRunning, sound⟩ := not_or.mp stopped
        exact .chunk unhalted ⟨patience, rfl, notRunning⟩ sound (inductionHypothesis grows)

/-- A whole machine follows one that gets its lines in chunks. -/
theorem Grown.followed {part after : Machine ν} {chunks : List (List Text)}
    (grown : Grown part chunks after) {filename : Text} {whole : Machine ν}
    (mirrors : Mirrors filename #[] chunks.flatten part whole)
    (ended : part.status = .halted ∨ part.program.size ≤ part.counter) :
    ∃ more rest, Mirrors filename #[] rest after ((step Standard.set)^[more] whole) ∧
      (after.status = .halted ∨ rest = [] ∧ after.program.size ≤ after.counter) := by
  induction grown generalizing whole with
  | all machine => exact ⟨0, [], mirrors, ended.imp_right fun outside => ⟨rfl, outside⟩⟩
  | halted chunks halted => exact ⟨0, chunks.flatten, mirrors, .inl halted⟩
  | chunk _ finished sound _ inductionHypothesis =>
    obtain ⟨more, followed⟩ := mirrors.chunk finished sound
    obtain ⟨last, rest, reached, stops⟩ := inductionHypothesis followed (finished.ended sound)
    exact ⟨last + more, rest, by rwa [Function.iterate_add_apply], stops⟩

end LineMachine.Machine
