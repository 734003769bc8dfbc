import LineMachine.Proofs.History
import LineMachine.Host

namespace LineMachine.Machine

variable {ν : Type}

/-- The counter, the fault and the status agree. -/
structure Coherent (machine : Machine ν) : Prop where
  within : machine.counter ≤ machine.program.size
  fault_iff : machine.fault.isSome ↔ machine.status = .faulted
  inside : machine.status = .halted ∨ machine.status = .faulted →
    machine.counter < machine.program.size

theorem coherent_load (filename : Text) (tracing : Bool) (lines : List Text) :
    (load filename tracing lines : Machine ν).Coherent where
  within := Nat.zero_le _
  fault_iff := by simp [load]
  inside stopped := by simp [load] at stopped

namespace Coherent

variable {machine : Machine ν}

/-- A running machine has no fault. -/
theorem no_fault (coherent : machine.Coherent) (running : machine.status ≠ .faulted) :
    machine.fault.isSome = false := by
  rw [← Bool.not_eq_true, coherent.fault_iff]
  exact running

/-- A machine that has not ended is coherent within its program and without a fault. -/
theorem of_open (unhalted : machine.status ≠ .halted) (sound : machine.status ≠ .faulted)
    (noFault : machine.fault.isSome = false) (within : machine.counter ≤ machine.program.size) :
    machine.Coherent :=
  ⟨within, by simp [noFault, sound], by simp [unhalted, sound]⟩

/-- A machine at a line of its program is coherent if its fault and its status agree. -/
theorem of_inside (inside : machine.counter < machine.program.size)
    (fault_iff : machine.fault.isSome ↔ machine.status = .faulted) : machine.Coherent :=
  ⟨Nat.le_of_lt inside, fault_iff, fun _ => inside⟩

theorem step (coherent : machine.Coherent) (set : InstructionSet ν) :
    (machine.step set).Coherent := by
  cases step_stepped set machine with
  | stopped _ unchanged =>
    rw [unchanged]
    exact coherent
  | left running outside completed =>
    obtain ⟨records, completed⟩ := completed
    have noFault := coherent.no_fault (by simp [running])
    rw [completed]
    exact of_open (by simp) (by simp) noFault coherent.within
  | executed running line current frame turn =>
    have noFault := coherent.no_fault (by simp [running])
    obtain ⟨inside, -⟩ := Array.getElem?_eq_some_iff.mp current
    cases turn with
    | advance _ status counter fault =>
      refine of_open (by simp [status]) (by simp [status]) (by rw [fault, noFault]) ?_
      rw [counter, frame.program]
      exact inside
    | jump target _ targetInside status counter fault =>
      refine of_open (by simp [status]) (by simp [status]) (by rw [fault, noFault]) ?_
      rw [counter, frame.program]
      exact Nat.le_of_lt targetInside
    | halt _ status counter fault =>
      refine of_inside ?_ (by simp [fault, noFault, status])
      rw [counter, frame.program]
      exact inside
    | fault failure _ status counter fault =>
      refine of_inside ?_ (by simp [fault, status])
      rw [counter, frame.program]
      exact inside

theorem wake (coherent : machine.Coherent) : machine.wake.Coherent := by
  rw [Machine.wake]
  split
  · rename_i completed
    have noFault := coherent.no_fault (by simp [completed.1])
    exact of_open (by simp) (by simp) noFault coherent.within
  · exact coherent

theorem append (coherent : machine.Coherent) (text : Text) : (machine.append text).Coherent := by
  refine ⟨?_, coherent.fault_iff, ?_⟩
  · have within := coherent.within
    simp only [Machine.append, Array.size_push]
    omega
  · intro stopped
    have inside := coherent.inside stopped
    simp only [Machine.append, Array.size_push]
    omega

theorem recover (coherent : machine.Coherent) : machine.recover.Coherent := by
  rw [Machine.recover]
  split
  · exact of_open (by simp) (by simp) rfl (Nat.le_refl _)
  · exact coherent

end Coherent

/-- Everything a machine can do keeps it coherent. -/
theorem coherent_kept (inForce : InstructionSet ν → Prop) : Kept inForce Coherent where
  step _ coherent := coherent.step _
  wake coherent := coherent.wake
  append text coherent := coherent.append text
  recover coherent := coherent.recover
  print _ coherent := ⟨coherent.within, coherent.fault_iff, coherent.inside⟩

section Counting

variable {inForce : InstructionSet ν → Prop} {machine after start : Machine ν} {places : List Nat}

/-- A walk counts the lines that it executes, and these are lines of the program. -/
theorem Walk.steps (walked : Walk inForce machine places after) :
    after.steps = machine.steps + places.length ∧
      ∀ place ∈ places, place < machine.program.size := by
  induction walked with
  | stay machine => simp
  | line set _ running inside _ inductionHypothesis =>
    obtain ⟨steps, insideRest⟩ := inductionHypothesis
    rw [step_inside set running inside] at steps
    rw [(step_program set _).1] at insideRest
    refine ⟨?_, ?_⟩
    · rw [steps, List.length_cons]
      omega
    · intro place member
      rcases List.mem_cons.mp member with rfl | later
      · exact inside
      · exact insideRest place later
  | leave set _ running outside _ inductionHypothesis =>
    rw [step_outside set fun _ => outside, (step_program set _).1] at inductionHypothesis
    exact inductionHypothesis

theorem wake_steps (machine : Machine ν) :
    machine.wake.steps = machine.steps ∧ machine.wake.program = machine.program := by
  rw [wake]
  split <;> exact ⟨rfl, rfl⟩

/-- A move counts the lines that it executes, and these are lines of the program. -/
theorem Moves.steps [Number ν] {move : Move} (moved : Moves inForce machine move places after) :
    after.steps = machine.steps + places.length ∧
      ∀ place ∈ places, place < machine.program.size := by
  obtain ⟨wakeSteps, wakeProgram⟩ := wake_steps machine
  cases moved with
  | stepLine set _ running inside =>
    exact ⟨step_inside set running inside, by simpa using inside⟩
  | stepIdle set _ idle => exact ⟨step_outside set idle, by simp⟩
  | resume walked _ =>
    rw [← wakeSteps, ← wakeProgram]
    exact walked.steps
  | run walked _ =>
    rw [← wakeSteps, ← wakeProgram]
    exact walked.steps
  | recover =>
    rw [Machine.recover]
    split <;> exact ⟨rfl, by simp⟩
  | append text | printTable | printFinal => exact ⟨rfl, by simp⟩

theorem History.steps [Number ν] (history : History inForce start places machine) :
    machine.steps = start.steps + places.length := by
  induction history with
  | start => rfl
  | move _ moved inductionHypothesis =>
    rw [moved.steps.1, inductionHypothesis, List.length_append]
    omega

theorem wake_of_not_completed (status : machine.status ≠ .completed) : machine.wake = machine := by
  rw [wake, if_neg (fun completed => status completed.1)]

/-- Going on or running does not change a machine that has halted or faulted. -/
theorem Walk.of_ended (walked : Walk inForce machine.wake places after)
    (ended : machine.status = .halted ∨ machine.status = .faulted) : after = machine := by
  have notCompleted : machine.status ≠ .completed := by
    rcases ended with status | status <;> simp [status]
  rw [wake_of_not_completed notCompleted] at walked
  exact (walked.of_stopped (by rcases ended with status | status <;> simp [status])).2

end Counting

section Status

variable [Number ν] {inForce : InstructionSet ν → Prop} {machine after : Machine ν}
  {places : List Nat} {move : Move}

/-- No move changes a machine that has halted, apart from its program and what it has printed. -/
theorem Moves.of_halted (moved : Moves inForce machine move places after)
    (halted : machine.status = .halted) :
    after.status = .halted ∧ after.counter = machine.counter ∧ after.steps = machine.steps ∧
      after.table = machine.table := by
  have stopped : machine.status ≠ .running := by simp [halted]
  cases moved with
  | stepLine set _ running => exact absurd running stopped
  | stepIdle set =>
    rw [step_of_stopped set stopped]
    exact ⟨halted, rfl, rfl, rfl⟩
  | resume walked =>
    rw [walked.of_ended (.inl halted)]
    exact ⟨halted, rfl, rfl, rfl⟩
  | run walked =>
    rw [walked.of_ended (.inl halted)]
    exact ⟨halted, rfl, rfl, rfl⟩
  | recover =>
    rw [Machine.recover, if_neg (by simp [halted])]
    exact ⟨halted, rfl, rfl, rfl⟩
  | append text | printTable | printFinal => exact ⟨halted, rfl, rfl, rfl⟩

theorem History.of_halted (history : History inForce machine places after)
    (halted : machine.status = .halted) :
    after.status = .halted ∧ after.counter = machine.counter ∧ after.steps = machine.steps ∧
      after.table = machine.table := by
  induction history with
  | start => exact ⟨halted, rfl, rfl, rfl⟩
  | move _ moved inductionHypothesis =>
    obtain ⟨stillHalted, counter, steps, table⟩ := inductionHypothesis
    obtain ⟨status, sameCounter, sameSteps, sameTable⟩ := moved.of_halted stillHalted
    exact ⟨status, sameCounter.trans counter, sameSteps.trans steps, sameTable.trans table⟩

/-- A faulted machine stays so until it is recovered. -/
theorem Moves.of_faulted (moved : Moves inForce machine move places after)
    (faulted : machine.status = .faulted) :
    if move = .recover then after.status = .completed ∧ after.counter = after.program.size
    else after.status = .faulted := by
  have stopped : machine.status ≠ .running := by simp [faulted]
  cases moved with
  | stepLine set _ running => exact absurd running stopped
  | recover => simp [Machine.recover, faulted]
  | stepIdle set =>
    rw [step_of_stopped set stopped, if_neg (by simp)]
    exact faulted
  | resume walked =>
    rw [walked.of_ended (.inr faulted), if_neg (by simp)]
    exact faulted
  | run walked =>
    rw [walked.of_ended (.inr faulted), if_neg (by simp)]
    exact faulted
  | append text | printTable | printFinal =>
    rw [if_neg (by simp)]
    exact faulted

/-- A completed machine stays so until it goes on or runs with a line at its counter. -/
theorem Moves.of_completed (moved : Moves inForce machine move places after)
    (completed : machine.status = .completed) :
    after.status = .completed ∨
      (move = .resume ∨ move = .run) ∧ machine.counter < machine.program.size := by
  have stopped : machine.status ≠ .running := by simp [completed]
  have asleep (walkedPlaces : List Nat) (end_ : Machine ν)
      (walked : Walk inForce machine.wake walkedPlaces end_)
      (outside : ¬ machine.counter < machine.program.size) : end_ = machine := by
    rw [wake, if_neg (fun awake => outside awake.2)] at walked
    exact (walked.of_stopped stopped).2
  cases moved with
  | stepLine set _ running => exact absurd running stopped
  | stepIdle set =>
    rw [step_of_stopped set stopped]
    exact .inl completed
  | resume walked =>
    by_cases inside : machine.counter < machine.program.size
    · exact .inr ⟨.inl rfl, inside⟩
    · rw [asleep _ _ walked inside]
      exact .inl completed
  | run walked =>
    by_cases inside : machine.counter < machine.program.size
    · exact .inr ⟨.inr rfl, inside⟩
    · rw [asleep _ _ walked inside]
      exact .inl completed
  | recover =>
    rw [Machine.recover, if_neg (by simp [completed])]
    exact .inl completed
  | append text | printTable | printFinal => exact .inl completed

end Status

/-- A jump to a line of the program is followed to exactly that line; any other is a fault. -/
theorem step_jump {machine : Machine ν} (set : InstructionSet ν) {line : Line} {target : Int}
    (running : machine.status = .running)
    (current : machine.program[machine.counter]? = some line)
    (verdict : (set.dispatch line machine.table machine.program.size).verdict =
      .ok (some (.jump target))) :
    if 0 ≤ target ∧ target < machine.program.size then
      (machine.step set).status = .running ∧ ((machine.step set).counter : Int) = target
    else (machine.step set).status = .faulted ∧
      (machine.step set).counter = machine.counter := by
  cases step_stepped set machine with
  | stopped stopped => exact absurd running stopped
  | left _ outside =>
    rw [Array.getElem?_eq_none outside] at current
    contradiction
  | executed _ other otherCurrent _ turn =>
    rw [current] at otherCurrent
    cases otherCurrent
    cases turn with
    | advance advanced => simp [verdict] at advanced
    | halt halted => simp [verdict] at halted
    | jump place jumped inside status counter =>
      rw [verdict] at jumped
      cases jumped
      rw [if_pos ⟨Int.natCast_nonneg place, Int.ofNat_lt.mpr inside⟩, counter]
      exact ⟨status, rfl⟩
    | fault failure rejected status counter =>
      rw [verdict, rejection?] at rejected
      split at rejected
      · contradiction
      · rename_i outside
        rw [if_neg outside]
        exact ⟨status, counter⟩

/-- The life of a machine under any instructions and any sequence of moves. -/
theorem lifecycle [Number ν] (inForce : InstructionSet ν → Prop) (filename : Text) (tracing : Bool)
    (lines : List Text) {places : List Nat} {machine : Machine ν}
    (history : History inForce (load filename tracing lines) places machine) :
    machine.counter ≤ machine.program.size ∧
    (∀ set line (target : Int), machine.status = .running →
      machine.program[machine.counter]? = some line →
      (set.dispatch line machine.table machine.program.size).verdict =
        .ok (some (.jump target)) →
      if 0 ≤ target ∧ target < machine.program.size then
        (machine.step set).status = .running ∧ ((machine.step set).counter : Int) = target
      else (machine.step set).status = .faulted ∧
        (machine.step set).counter = machine.counter) ∧
    (machine.fault.isSome ↔ machine.status = .faulted) ∧
    (machine.status = .halted ∨ machine.status = .faulted →
      machine.counter < machine.program.size) ∧
    (machine.status = .halted → ∀ later after, History inForce machine later after →
      after.status = .halted ∧ after.counter = machine.counter ∧ after.steps = machine.steps ∧
        after.table = machine.table) ∧
    machine.steps = places.length ∧
    ∀ move executed after, Moves inForce machine move executed after →
      (machine.status = .faulted →
        if move = .recover then after.status = .completed ∧ after.counter = after.program.size
        else after.status = .faulted) ∧
      (machine.status = .completed → after.status = .completed ∨
        (move = .resume ∨ move = .run) ∧ machine.counter < machine.program.size) ∧
      after.steps = machine.steps + executed.length ∧
      ∀ place ∈ executed, place < machine.program.size := by
  have coherent := (coherent_kept inForce).history history (coherent_load filename tracing lines)
  have counted : machine.steps = places.length := by
    rw [history.steps]
    exact Nat.zero_add _
  refine ⟨coherent.within, ?_, coherent.fault_iff, coherent.inside, ?_, counted, ?_⟩
  · intro set line target running current verdict
    exact step_jump set running current verdict
  · intro halted later after laterHistory
    exact laterHistory.of_halted halted
  · intro move executed after moved
    exact ⟨moved.of_faulted, moved.of_completed, moved.steps⟩

/-- One instruction jumps out of every short program, the other halts. -/
def wanderer : InstructionSet Int64 :=
  (InstructionSet.empty.register (utf8 "GO") 0 (HostInstruction.jump 7).handler).register
    (utf8 "STOP") 0 HostInstruction.halt.handler

/-- A machine faults at a jump, is recovered, gets another line and halts there for good. -/
theorem lifecycle_wanderer :
    let faulted := (load [] false [utf8 "GO"] : Machine Int64).resume wanderer 9
    let halted := (faulted.recover.append (utf8 "STOP")).resume wanderer 9
    faulted.status = .faulted ∧ halted.status = .halted ∧ halted.counter < halted.program.size ∧
      (halted.append (utf8 "GO")).steps = halted.steps := by
  intro faulted halted
  have faultedStatus : faulted.status = .faulted := by decide +kernel
  have haltedStatus : halted.status = .halted := by decide +kernel
  obtain ⟨first, toFault⟩ := resume_moves (· = wanderer) wanderer rfl 9
    (load [] false [utf8 "GO"]) (by rw [show _ = Status.faulted from faultedStatus]; simp)
  obtain ⟨second, toHalt⟩ := resume_moves (· = wanderer) wanderer rfl 9
    (faulted.recover.append (utf8 "STOP")) (by rw [show _ = Status.halted from haltedStatus]; simp)
  have history : History (· = wanderer) (load [] false [utf8 "GO"]) _ halted :=
    (((History.start.move toFault).move .recover).move (.append (utf8 "STOP"))).move toHalt
  have life := lifecycle (· = wanderer) [] false [utf8 "GO"] history
  have appended := life.2.2.2.2.1 haltedStatus _ _ (History.start.move (.append (utf8 "GO")))
  exact ⟨faultedStatus, haltedStatus, life.2.2.2.1 (.inl haltedStatus), appended.2.2.1⟩

end LineMachine.Machine
