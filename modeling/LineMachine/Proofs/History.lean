import LineMachine.Proofs.Turn

/-! The instruction set may be another one at every step, so that instructions with a memory of
their own are covered too. -/

namespace LineMachine.Machine

variable {ν : Type}

/-- Lines executed one after another under instruction sets in force. The list holds the places of
these lines in the program. -/
inductive Walk (inForce : InstructionSet ν → Prop) : Machine ν → List Nat → Machine ν → Prop where
  | stay (machine : Machine ν) : Walk inForce machine [] machine
  | line {machine after : Machine ν} {places : List Nat} (set : InstructionSet ν)
    (known : inForce set) (running : machine.status = .running)
    (inside : machine.counter < machine.program.size)
    (rest : Walk inForce (machine.step set) places after) :
    Walk inForce machine (machine.counter :: places) after
  | leave {machine after : Machine ν} {places : List Nat} (set : InstructionSet ν)
    (known : inForce set) (running : machine.status = .running)
    (outside : machine.program.size ≤ machine.counter)
    (rest : Walk inForce (machine.step set) places after) : Walk inForce machine places after

/-- What a host program may do with a machine. -/
inductive Move where
  | step
  | resume
  | run
  | append (text : Text)
  | recover
  | printTable
  | printFinal
deriving DecidableEq, Repr

/-- One move, with the places of the lines that it executes. Going on and running end when the
machine has stopped. -/
inductive Moves [Number ν] (inForce : InstructionSet ν → Prop) :
    Machine ν → Move → List Nat → Machine ν → Prop where
  | stepLine {machine : Machine ν} (set : InstructionSet ν) (known : inForce set)
    (running : machine.status = .running) (inside : machine.counter < machine.program.size) :
    Moves inForce machine .step [machine.counter] (machine.step set)
  | stepIdle {machine : Machine ν} (set : InstructionSet ν) (known : inForce set)
    (idle : machine.status = .running → machine.program.size ≤ machine.counter) :
    Moves inForce machine .step [] (machine.step set)
  | resume {machine after : Machine ν} {places : List Nat}
    (walked : Walk inForce machine.wake places after) (stopped : after.status ≠ .running) :
    Moves inForce machine .resume places after
  | run {machine after : Machine ν} {places : List Nat}
    (walked : Walk inForce machine.wake places after) (stopped : after.status ≠ .running) :
    Moves inForce machine .run places after.printFinal
  | append {machine : Machine ν} (text : Text) :
    Moves inForce machine (.append text) [] (machine.append text)
  | recover {machine : Machine ν} : Moves inForce machine .recover [] machine.recover
  | printTable {machine : Machine ν} : Moves inForce machine .printTable [] machine.printTable
  | printFinal {machine : Machine ν} : Moves inForce machine .printFinal [] machine.printFinal

/-- A sequence of moves, with the places of all the lines that they execute. -/
inductive History [Number ν] (inForce : InstructionSet ν → Prop) (start : Machine ν) :
    List Nat → Machine ν → Prop where
  | start : History inForce start [] start
  | move {machine after : Machine ν} {places more : List Nat} {move : Move}
    (before : History inForce start places machine)
    (moved : Moves inForce machine move more after) :
    History inForce start (places ++ more) after

/-- A property that everything a machine can do keeps. -/
structure Kept (inForce : InstructionSet ν → Prop) (property : Machine ν → Prop) : Prop where
  step : ∀ {set machine}, inForce set → property machine → property (machine.step set)
  wake : ∀ {machine}, property machine → property machine.wake
  append : ∀ {machine} text, property machine → property (machine.append text)
  recover : ∀ {machine}, property machine → property machine.recover
  print : ∀ {machine} text, property machine → property (machine.print text)

section Kept

variable {inForce : InstructionSet ν → Prop} {property : Machine ν → Prop}
  {machine after start : Machine ν} {places : List Nat}

theorem Kept.walk (kept : Kept inForce property) (walked : Walk inForce machine places after)
    (holds : property machine) : property after := by
  induction walked with
  | stay machine => exact holds
  | line set known _ _ _ inductionHypothesis => exact inductionHypothesis (kept.step known holds)
  | leave set known _ _ _ inductionHypothesis => exact inductionHypothesis (kept.step known holds)

theorem Kept.moves [Number ν] (kept : Kept inForce property) {move : Move}
    (moved : Moves inForce machine move places after) (holds : property machine) :
    property after := by
  cases moved with
  | stepLine set known _ _ => exact kept.step known holds
  | stepIdle set known _ => exact kept.step known holds
  | resume walked _ => exact kept.walk walked (kept.wake holds)
  | run walked _ => exact kept.print _ (kept.walk walked (kept.wake holds))
  | append text => exact kept.append text holds
  | recover => exact kept.recover holds
  | printTable => exact kept.print _ holds
  | printFinal => exact kept.print _ holds

theorem Kept.history [Number ν] (kept : Kept inForce property)
    (history : History inForce start places machine) (holds : property start) :
    property machine := by
  induction history with
  | start => exact holds
  | move _ moved inductionHypothesis => exact kept.moves moved inductionHypothesis

/-- A property of the table is kept besides another property of the machine if every answer to the
line where the machine stands keeps it. -/
theorem Kept.and_table (kept : Kept inForce property) (ofTable : Table ν → Prop)
    (answered : ∀ {set machine line}, inForce set → property machine →
      machine.program[machine.counter]? = some line → ofTable machine.table →
      ofTable (set.dispatch line machine.table machine.program.size).table) :
    Kept inForce fun machine => property machine ∧ ofTable machine.table where
  step {set machine} known holds := by
    refine ⟨kept.step known holds.1, ?_⟩
    cases step_stepped set machine with
    | stopped _ unchanged =>
      rw [unchanged]
      exact holds.2
    | left _ _ completed =>
      obtain ⟨records, completed⟩ := completed
      rw [completed]
      exact holds.2
    | executed _ line current frame =>
      rw [frame.table]
      exact answered known holds.1 current holds.2
  wake {machine} holds := by
    refine ⟨kept.wake holds.1, ?_⟩
    rw [Machine.wake]
    split <;> exact holds.2
  append text holds := ⟨kept.append text holds.1, holds.2⟩
  recover {machine} holds := by
    refine ⟨kept.recover holds.1, ?_⟩
    rw [Machine.recover]
    split <;> exact holds.2
  print text holds := ⟨kept.print text holds.1, holds.2⟩

/-- A property of the table that every answer in force keeps is kept by everything a machine can
do. -/
theorem Kept.of_table (property : Table ν → Prop)
    (kept : ∀ {set table}, inForce set → ∀ line length,
      property table → property (set.dispatch line table length).table) :
    Kept inForce fun machine => property machine.table := by
  have anything : Kept inForce fun _ : Machine ν => True :=
    ⟨fun _ _ => trivial, fun _ => trivial, fun _ _ => trivial, fun _ => trivial, fun _ _ => trivial⟩
  have both := anything.and_table property fun known _ _ => kept known _ _
  simpa only [true_and] using both

end Kept

section Walk

variable {inForce : InstructionSet ν → Prop} {machine after : Machine ν} {places : List Nat}

/-- A stopped machine goes nowhere. -/
theorem Walk.of_stopped (walked : Walk inForce machine places after)
    (stopped : machine.status ≠ .running) : places = [] ∧ after = machine := by
  cases walked with
  | stay => exact ⟨rfl, rfl⟩
  | line _ _ running => exact absurd running stopped
  | leave _ _ running => exact absurd running stopped

/-- One walk after another is a walk. -/
theorem Walk.trans {between : Machine ν} {more : List Nat}
    (first : Walk inForce machine places between) (second : Walk inForce between more after) :
    Walk inForce machine (places ++ more) after := by
  induction first with
  | stay machine => exact second
  | line set known running inside _ inductionHypothesis =>
    exact .line set known running inside (inductionHypothesis second)
  | leave set known running outside _ inductionHypothesis =>
    exact .leave set known running outside (inductionHypothesis second)

/-- One history after another is a history. -/
theorem History.trans [Number ν] {start : Machine ν} {more : List Nat}
    (first : History inForce start places machine) (second : History inForce machine more after) :
    History inForce start (places ++ more) after := by
  induction second with
  | start => simpa using first
  | move _ moved inductionHypothesis =>
    rw [← List.append_assoc]
    exact inductionHypothesis.move moved

/-- A walk is a history of single steps. -/
theorem Walk.history [Number ν] (walked : Walk inForce machine places after) :
    History inForce machine places after := by
  induction walked with
  | stay machine => exact .start
  | line set known running inside _ inductionHypothesis =>
    exact (History.start.move (.stepLine set known running inside)).trans inductionHypothesis
  | leave set known running outside _ inductionHypothesis =>
    exact (History.start.move (.stepIdle set known fun _ => outside)).trans inductionHypothesis

/-- Driving a machine is a walk under its instruction set. -/
theorem drive_walk (inForce : InstructionSet ν → Prop) (set : InstructionSet ν)
    (known : inForce set) (count : Nat) (machine : Machine ν) :
    ∃ places, Walk inForce machine places (machine.drive set count) := by
  induction count generalizing machine with
  | zero => exact ⟨[], .stay machine⟩
  | succ count inductionHypothesis =>
    have walked : ∃ places, Walk inForce (machine.step set) places
        (machine.drive set (count + 1)) := by
      rw [drive]
      split
      · exact inductionHypothesis (machine.step set)
      · exact ⟨[], .stay _⟩
    obtain ⟨places, walked⟩ := walked
    by_cases running : machine.status = .running
    · by_cases inside : machine.counter < machine.program.size
      · exact ⟨_, .line set known running inside walked⟩
      · exact ⟨_, .leave set known running (Nat.le_of_not_lt inside) walked⟩
    · rw [step_of_stopped set running] at walked
      exact ⟨places, walked⟩

/-- A machine that stops when it goes on has made a move. -/
theorem resume_moves [Number ν] (inForce : InstructionSet ν → Prop) (set : InstructionSet ν)
    (known : inForce set) (patience : Nat) (machine : Machine ν)
    (stopped : (machine.resume set patience).status ≠ .running) :
    ∃ places, Moves inForce machine .resume places (machine.resume set patience) := by
  obtain ⟨places, walked⟩ := drive_walk inForce set known patience machine.wake
  exact ⟨places, .resume walked stopped⟩

end Walk
end LineMachine.Machine
