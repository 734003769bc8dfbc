import LineMachine.Machine

namespace LineMachine.Machine

variable {ν : Type}

/-- The failure that a verdict on a line means in a program of some length, if it means one. -/
def rejection? (line : Line) (length : Nat) : Except Failure (Option Action) → Option Failure
  | .error failure => some failure
  | .ok none => some (.ofCause (.noResult line.command))
  | .ok (some (.jump target)) =>
    if 0 ≤ target ∧ target < length then none
    else some (.ofCause (.targetOutside (wrap (target + 1))))
  | .ok (some .advance) | .ok (some .halt) => none

/-- What the reply to a line makes of a machine. -/
inductive Turn (machine : Machine ν) (line : Line) (reply : Reply ν) (after : Machine ν) : Prop where
  | advance (verdict : reply.verdict = .ok (some .advance)) (status : after.status = .running)
    (counter : after.counter = machine.counter + 1) (fault : after.fault = machine.fault)
    (printed : after.printed = machine.printed ++ reply.printed)
  | jump (target : Nat) (verdict : reply.verdict = .ok (some (.jump target)))
    (inside : target < machine.program.size) (status : after.status = .running)
    (counter : after.counter = target) (fault : after.fault = machine.fault)
    (printed : after.printed = machine.printed ++ reply.printed)
  | halt (verdict : reply.verdict = .ok (some .halt)) (status : after.status = .halted)
    (counter : after.counter = machine.counter) (fault : after.fault = machine.fault)
    (printed : after.printed = machine.printed ++ reply.printed)
  | fault (failure : Failure)
    (rejected : rejection? line machine.program.size reply.verdict = some failure)
    (status : after.status = .faulted) (counter : after.counter = machine.counter)
    (fault : after.fault = some (failure.locate line.position machine.ledger).1)
    (printed : after.printed = (machine.printed ++ reply.printed).push
      (faultBlock line (failure.locate line.position machine.ledger).1))

/-- A verdict that is accepted in a program is accepted in a longer one. -/
theorem rejection?_grows {line : Line} {verdict : Except Failure (Option Action)}
    {shorter longer : Nat} (grows : shorter ≤ longer)
    (accepted : rejection? line shorter verdict = none) :
    rejection? line longer verdict = none := by
  cases verdict with
  | error failure => simp [rejection?] at accepted
  | ok result =>
    cases result with
    | none => simp [rejection?] at accepted
    | some action =>
      cases action with
      | advance | halt => rfl
      | jump target =>
        by_cases inside : 0 ≤ target ∧ target < shorter
        · exact if_pos ⟨inside.1, by omega⟩
        · simp [rejection?, inside] at accepted

/-- A turn without a fault has not been rejected. -/
theorem Turn.accepted {machine after : Machine ν} {line : Line} {reply : Reply ν}
    (turn : machine.Turn line reply after) (sound : after.status ≠ .faulted) :
    rejection? line machine.program.size reply.verdict = none := by
  cases turn with
  | advance verdict => rw [verdict, rejection?]
  | jump target verdict inside =>
    rw [verdict]
    exact if_pos ⟨Int.natCast_nonneg target, Int.ofNat_lt.mpr inside⟩
  | halt verdict => rw [verdict, rejection?]
  | fault _ _ status => exact absurd status sound

/-- The place where an action leads from a place. -/
def next (counter : Nat) : Action → Nat
  | .advance => counter + 1
  | .jump target => target.toNat
  | .halt => counter

/-- A turn that has not been rejected goes where its action leads. -/
theorem Turn.performed {machine after : Machine ν} {line : Line} {reply : Reply ν}
    (turn : machine.Turn line reply after)
    (accepted : rejection? line machine.program.size reply.verdict = none) :
    ∃ action, reply.verdict = .ok (some action) ∧
      after.status = (if action = .halt then .halted else .running) ∧
      after.counter = next machine.counter action ∧
      after.printed = machine.printed ++ reply.printed := by
  cases turn with
  | advance verdict status counter _ printed => exact ⟨_, verdict, status, counter, printed⟩
  | jump target verdict _ status counter _ printed => exact ⟨_, verdict, status, counter, printed⟩
  | halt verdict status counter _ printed => exact ⟨_, verdict, status, counter, printed⟩
  | fault failure rejected => simp [rejected] at accepted

/-- A turn that has been rejected stops the machine where it is, with the fault and its report. -/
theorem Turn.rejected {machine after : Machine ν} {line : Line} {reply : Reply ν} {failure : Failure}
    (turn : machine.Turn line reply after)
    (rejected : rejection? line machine.program.size reply.verdict = some failure) :
    after.status = .faulted ∧ after.counter = machine.counter ∧
      after.fault = some (failure.locate line.position machine.ledger).1 ∧
      after.printed = (machine.printed ++ reply.printed).push
        (faultBlock line (failure.locate line.position machine.ledger).1) := by
  have faulted : after.status = .faulted := Decidable.byContradiction fun sound => by
    rw [turn.accepted sound] at rejected
    contradiction
  cases turn with
  | advance _ status | jump _ _ _ status | halt _ status =>
    rw [status] at faulted
    contradiction
  | fault other otherRejected _ counter fault printed =>
    obtain rfl := Option.some.inj (rejected.symm.trans otherRejected)
    exact ⟨faulted, counter, fault, printed⟩

/-- What every executed line leaves as it is, counts and takes over. -/
structure Frame (machine : Machine ν) (reply : Reply ν) (after : Machine ν) : Prop where
  program : after.program = machine.program
  filename : after.filename = machine.filename
  steps : after.steps = machine.steps + 1
  table : after.table = reply.table

/-- Tracing only adds records. -/
theorem traceLine_eq (machine : Machine ν) (line : Line) :
    ∃ records, machine.traceLine line = { machine with records } := by
  rw [traceLine]
  split
  · exact ⟨_, rfl⟩
  · exact ⟨_, rfl⟩

/-- A raised failure stops the machine where it is, with the located fault and its report. -/
theorem raise_turn (machine raised : Machine ν) (line : Line) (reply : Reply ν) (failure : Failure)
    (rejected : rejection? line machine.program.size reply.verdict = some failure)
    (counter : raised.counter = machine.counter) (ledger : raised.ledger = machine.ledger)
    (printed : raised.printed = machine.printed ++ reply.printed) :
    machine.Turn line reply (raised.raise line failure) := by
  refine .fault failure rejected rfl ?_ ?_ ?_
  · exact counter
  · rw [← ledger]
    rfl
  · rw [← ledger, ← printed]
    rfl

variable (set : InstructionSet ν) {machine : Machine ν} {line : Line}

theorem execute_frame :
    machine.Frame (set.dispatch line machine.table machine.program.size)
      (machine.execute set line) := by
  obtain ⟨records, traced⟩ :=
    traceLine_eq { machine with steps := machine.steps + 1 } line
  rw [execute, traced]
  simp only [follow]
  split
  · exact ⟨rfl, rfl, rfl, rfl⟩
  · exact ⟨rfl, rfl, rfl, rfl⟩
  · exact ⟨rfl, rfl, rfl, rfl⟩
  · split <;> exact ⟨rfl, rfl, rfl, rfl⟩
  · exact ⟨rfl, rfl, rfl, rfl⟩

/-- An executed line takes one of the four turns. -/
theorem execute_turn (running : machine.status = .running) :
    machine.Turn line (set.dispatch line machine.table machine.program.size)
      (machine.execute set line) := by
  obtain ⟨records, traced⟩ :=
    traceLine_eq { machine with steps := machine.steps + 1 } line
  rw [execute, traced]
  generalize set.dispatch line machine.table machine.program.size = reply
  simp only [follow]
  split
  · rename_i failure verdict
    exact raise_turn machine _ line reply failure (by rw [verdict, rejection?]) rfl rfl rfl
  · rename_i verdict
    exact raise_turn machine _ line reply _ (by rw [verdict, rejection?]) rfl rfl rfl
  · rename_i verdict
    exact .advance verdict running rfl rfl rfl
  · rename_i target verdict
    split
    · rename_i inside
      obtain ⟨place, rfl⟩ := Int.eq_ofNat_of_zero_le inside.1
      exact .jump place verdict (Int.ofNat_lt.mp inside.2) running rfl rfl rfl
    · rename_i outside
      exact raise_turn machine _ line reply _ (by rw [verdict]; exact if_neg outside) rfl rfl rfl
  · rename_i verdict
    exact .halt verdict rfl rfl rfl rfl

/-- The ways of one step. -/
inductive Stepped (set : InstructionSet ν) (machine after : Machine ν) : Prop where
  | stopped (status : machine.status ≠ .running) (unchanged : after = machine)
  | left (running : machine.status = .running) (outside : machine.program.size ≤ machine.counter)
    (completed : ∃ records, after = { machine with status := .completed, records })
  | executed (running : machine.status = .running) (line : Line)
    (current : machine.program[machine.counter]? = some line)
    (frame : machine.Frame (set.dispatch line machine.table machine.program.size) after)
    (turn : machine.Turn line (set.dispatch line machine.table machine.program.size) after)

theorem step_stepped (set : InstructionSet ν) (machine : Machine ν) :
    Stepped set machine (machine.step set) := by
  rw [step]
  split
  · rename_i running
    split
    · rename_i line current
      exact .executed running line current (execute_frame set) (execute_turn set running)
    · rename_i outside
      exact .left running (Array.getElem?_eq_none_iff.mp outside) ⟨_, rfl⟩
  · rename_i status
    exact .stopped status rfl

theorem step_of_stopped (set : InstructionSet ν) {machine : Machine ν}
    (stopped : machine.status ≠ .running) : machine.step set = machine := by
  cases step_stepped set machine with
  | stopped _ unchanged => exact unchanged
  | left running => exact absurd running stopped
  | executed running => exact absurd running stopped

/-- The ways of one step of two machines that are at the same place. -/
inductive SteppedBoth {μ : Type} (set : InstructionSet ν) (otherSet : InstructionSet μ)
    (machine after : Machine ν) (other otherAfter : Machine μ) : Prop where
  | stopped (unchanged : after = machine) (otherUnchanged : otherAfter = other)
  | left (completed : ∃ records, after = { machine with status := .completed, records })
    (otherCompleted : ∃ records, otherAfter = { other with status := .completed, records })
  | executed (running : machine.status = .running) (line otherLine : Line)
    (current : machine.program[machine.counter]? = some line)
    (otherCurrent : other.program[machine.counter]? = some otherLine)
    (frame : machine.Frame (set.dispatch line machine.table machine.program.size) after)
    (otherFrame :
      other.Frame (otherSet.dispatch otherLine other.table other.program.size) otherAfter)
    (turn : machine.Turn line (set.dispatch line machine.table machine.program.size) after)
    (otherTurn : other.Turn otherLine
      (otherSet.dispatch otherLine other.table other.program.size) otherAfter)

theorem step_steppedBoth {μ : Type} (set : InstructionSet ν) (otherSet : InstructionSet μ)
    {machine : Machine ν} {other : Machine μ} (sameStatus : other.status = machine.status)
    (sameCounter : other.counter = machine.counter)
    (sameSize : other.program.size = machine.program.size) :
    SteppedBoth set otherSet machine (machine.step set) other (other.step otherSet) := by
  cases step_stepped set machine with
  | stopped stopped unchanged =>
    exact .stopped unchanged (step_of_stopped otherSet (by rwa [sameStatus]))
  | left running outside completed =>
    cases step_stepped otherSet other with
    | stopped stopped => exact absurd (sameStatus.trans running) stopped
    | left _ _ otherCompleted => exact .left completed otherCompleted
    | executed _ line current =>
      rw [Array.getElem?_eq_none (by omega)] at current
      contradiction
  | executed running line current frame turn =>
    cases step_stepped otherSet other with
    | stopped stopped => exact absurd (sameStatus.trans running) stopped
    | left _ outside =>
      rw [Array.getElem?_eq_none (by omega)] at current
      contradiction
    | executed _ otherLine otherCurrent otherFrame otherTurn =>
      rw [sameCounter] at otherCurrent
      exact .executed running line otherLine current otherCurrent frame otherFrame turn otherTurn

/-- No step changes the program. -/
theorem step_program (set : InstructionSet ν) (machine : Machine ν) :
    (machine.step set).program = machine.program ∧
      (machine.step set).filename = machine.filename := by
  cases step_stepped set machine with
  | stopped _ unchanged =>
    rw [unchanged]
    exact ⟨rfl, rfl⟩
  | left _ _ completed =>
    obtain ⟨records, completed⟩ := completed
    rw [completed]
    exact ⟨rfl, rfl⟩
  | executed _ _ _ frame => exact ⟨frame.program, frame.filename⟩

/-- A step on a line of the program is counted. -/
theorem step_inside (set : InstructionSet ν) {machine : Machine ν}
    (running : machine.status = .running) (inside : machine.counter < machine.program.size) :
    (machine.step set).steps = machine.steps + 1 := by
  cases step_stepped set machine with
  | stopped stopped => exact absurd running stopped
  | left _ outside => omega
  | executed _ _ _ frame => exact frame.steps

/-- A step elsewhere is not counted. -/
theorem step_outside (set : InstructionSet ν) {machine : Machine ν}
    (idle : machine.status = .running → machine.program.size ≤ machine.counter) :
    (machine.step set).steps = machine.steps := by
  cases step_stepped set machine with
  | stopped _ unchanged => rw [unchanged]
  | left _ _ completed =>
    obtain ⟨records, completed⟩ := completed
    rw [completed]
  | executed running line current =>
    obtain ⟨inside, -⟩ := Array.getElem?_eq_some_iff.mp current
    exact absurd (idle running) (Nat.not_le_of_lt inside)

/-- The ledger changes only by a failure. -/
theorem follow_ledger (machine : Machine ν) (line : Line)
    (verdict : Except Failure (Option Action)) :
    (machine.follow line verdict).ledger =
      match rejection? line machine.program.size verdict with
      | none => machine.ledger
      | some failure => (failure.locate line.position machine.ledger).2 := by
  cases verdict with
  | error failure => rfl
  | ok result =>
    cases result with
    | none => rfl
    | some action =>
      cases action with
      | advance | halt => rfl
      | jump target =>
        by_cases inside : 0 ≤ target ∧ target < machine.program.size
        · simp [follow, rejection?, inside, noteFlow, note]
        · simp [follow, rejection?, inside, raise, print, note]

theorem step_ledger (set : InstructionSet ν) {machine : Machine ν} {line : Line}
    (running : machine.status = .running) (current : machine.program[machine.counter]? = some line) :
    (machine.step set).ledger =
      match rejection? line machine.program.size
        (set.dispatch line machine.table machine.program.size).verdict with
      | none => machine.ledger
      | some failure => (failure.locate line.position machine.ledger).2 := by
  obtain ⟨records, traced⟩ := traceLine_eq { machine with steps := machine.steps + 1 } line
  rw [step, running]
  simp only [current]
  rw [execute, traced]
  exact follow_ledger _ line _

/-- A failure was reported, or the machine itself rejects the line for a cause without a place. -/
theorem rejection?_cases {line : Line} {length : Nat} {verdict : Except Failure (Option Action)}
    {failure : Failure} (rejected : rejection? line length verdict = some failure) :
    verdict = .error failure ∨ ∃ cause, failure = .ofCause cause := by
  cases verdict with
  | error reported => exact .inl (congrArg Except.error (Option.some.inj rejected))
  | ok result =>
    right
    cases result with
    | none => exact ⟨_, (Option.some.inj rejected).symm⟩
    | some action =>
      cases action with
      | advance | halt => contradiction
      | jump target =>
        rw [rejection?] at rejected
        split at rejected
        · contradiction
        · exact ⟨_, (Option.some.inj rejected).symm⟩

end LineMachine.Machine
