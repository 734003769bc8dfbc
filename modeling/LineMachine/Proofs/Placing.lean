import LineMachine.Host
import LineMachine.Proofs.Registry
import LineMachine.Proofs.Silence
import LineMachine.Proofs.Source

namespace LineMachine

namespace Failure

/-- The failure leaves it to the machine to say where it happened. -/
def Unplaced (failure : Failure) : Prop := ∀ fault ∈ failure.fault?, fault.position = none

theorem unplaced_ofCause (cause : Cause) : (ofCause cause).Unplaced := by
  rintro fault ⟨⟩
  rfl

/-- What is kept is a fault. -/
theorem slot?_eq_none {failure : Failure} (faultless : failure.fault? = none) :
    failure.slot? = none := by
  induction failure with
  | raised fault | kept slot fault => contradiction
  | wrapped text inner inductionHypothesis => exact inductionHypothesis faultless
  | foreign text => rfl

/-- An unplaced failure is placed where its slot was first reported, or else here. The ledger
remembers the place of a slot that it did not know. -/
theorem Unplaced.locate {failure : Failure} (unplaced : failure.Unplaced) (here : Position)
    (ledger : Ledger) :
    (failure.locate here ledger).1.position =
        some ((failure.slot?.bind fun slot => ledger.lookup slot).getD here) ∧
      ∀ slot, (failure.locate here ledger).2.lookup slot =
        (ledger.lookup slot).or (if failure.slot? = some slot then some here else none) := by
  rw [Failure.locate]
  cases inside : failure.fault? with
  | none => simp [slot?_eq_none inside]
  | some fault =>
    simp only [unplaced fault inside, Option.none_or]
    cases failure.slot? with
    | none => simp
    | some slot =>
      cases found : ledger.lookup slot with
      | none =>
        refine ⟨by simp [found], fun other => ?_⟩
        by_cases same : other = slot
        · simp [same, found]
        · simp [found, List.lookup_cons, beq_eq_false_iff_ne.mpr same, Ne.symm same]
      | some position =>
        refine ⟨by simp [found], fun other => ?_⟩
        by_cases same : slot = other
        · simp [← same, found]
        · simp [found, same]

end Failure

variable {ν : Type}

/-- The handler never says where a fault is. -/
def Handler.Unplaced (handler : Handler ν) : Prop :=
  ∀ call failure, (handler call).verdict = .error failure → failure.Unplaced

/-- A routine reports causes and no places. -/
theorem Routine.handler_unplaced (routine : Routine ν Action) :
    Handler.Unplaced routine.handler := by
  intro call failure reported
  obtain ⟨cause, rfl⟩ := routine.handler_failure reported
  exact Failure.unplaced_ofCause cause

def Registration.Unplaced : Registration ν → Prop
  | register _ _ handler => handler.Unplaced
  | unregister _ => True

variable [Number ν]

/-- What an interpreter with the standard instructions knows after any registrations and removals,
as long as no handler says where a fault is. -/
def InstructionSet.Hosted (set : InstructionSet ν) : Prop :=
  ∃ (settings : Settings) (history : List (Registration ν)),
    (∀ change ∈ history, change.Unplaced) ∧
      set = ((Interpreter.new settings).registered history).instructions

namespace Interpreter

/-- The standard instructions are the first registrations. -/
theorem new_registered (settings : Settings) (history : List (Registration ν)) :
    (new settings).registered history =
      (bare settings).registered
        (Standard.instructions.map (fun entry => .register entry.name entry.arity entry.handler) ++
          history) := by
  rw [registered, registered, List.foldl_append, List.foldl_map]
  rfl

end Interpreter

namespace InstructionSet

variable {set : InstructionSet ν}

theorem Hosted.handler (hosted : set.Hosted) {name : Text} {entry : Instruction ν}
    (found : set.find? name = some entry) : entry.handler.Unplaced := by
  obtain ⟨settings, history, unplaced, rfl⟩ := hosted
  rw [Interpreter.new_registered, Interpreter.find?_registered] at found
  obtain ⟨⟨earlier, written, later, split, -⟩, -⟩ := found
  have member : Registration.register written entry.arity entry.handler ∈
      Standard.instructions.map (fun entry => .register entry.name entry.arity entry.handler) ++
        history := by
    rw [split]
    simp
  rcases List.mem_append.mp member with standard | host
  · obtain ⟨instruction, known, same⟩ := List.mem_map.mp standard
    obtain ⟨operation, -, rfl⟩ := List.mem_map.mp known
    obtain ⟨-, -, handler⟩ := Registration.register.inj same
    rw [← handler]
    exact operation.routine.handler_unplaced
  · exact unplaced _ host

theorem Hosted.dispatch (hosted : set.Hosted) {line : Line} {table : Table ν} {length : Nat}
    {failure : Failure} (reported : (set.dispatch line table length).verdict = .error failure) :
    failure.Unplaced := by
  by_cases instructed : line.isEmpty
  · simp [InstructionSet.dispatch, instructed, Reply.ofVerdict] at reported
  · rw [dispatch_selected instructed] at reported
    cases found : set.find? line.command with
    | none =>
      rw [found] at reported
      obtain rfl := Except.error.inj reported
      exact Failure.unplaced_ofCause _
    | some entry =>
      rw [found, Selection.ofFound] at reported
      split at reported
      · exact hosted.handler found _ _ reported
      · obtain rfl := Except.error.inj reported
        exact Failure.unplaced_ofCause _

end InstructionSet

namespace Machine

section

omit [Number ν]

/-- A machine stops at a line with a failure that an instruction set in force means there. -/
structure Fails (inForce : InstructionSet ν → Prop) (machine : Machine ν) (line : Line)
    (failure : Failure) (after : Machine ν) : Prop where
  running : machine.status = .running
  current : machine.program[machine.counter]? = some line
  stepped : ∃ set, inForce set ∧ after = machine.step set ∧
    rejection? line machine.program.size
      (set.dispatch line machine.table machine.program.size).verdict = some failure

section

variable {inForce : InstructionSet ν → Prop} {machine after : Machine ν} {line : Line}
  {failure : Failure} {places : List Nat}

/-- A machine that fails stays at its line, with the fault and the report of it. -/
theorem Fails.outcome (fails : machine.Fails inForce line failure after) :
    after.status = .faulted ∧ after.counter = machine.counter ∧
      after.fault = some (failure.locate line.position machine.ledger).1 ∧
      after.ledger = (failure.locate line.position machine.ledger).2 ∧
      after.printed.back? =
        some (faultBlock line (failure.locate line.position machine.ledger).1) := by
  obtain ⟨set, -, rfl, rejected⟩ := fails.stepped
  have ledger := step_ledger set fails.running fails.current
  rw [rejected] at ledger
  cases step_stepped set machine with
  | stopped stopped => exact absurd fails.running stopped
  | left _ outside =>
    have current := fails.current
    rw [Array.getElem?_eq_none outside] at current
    contradiction
  | executed _ other current _ turn =>
    obtain rfl := Option.some.inj (fails.current.symm.trans current)
    obtain ⟨faulted, counter, fault, printed⟩ := turn.rejected rejected
    exact ⟨faulted, counter, fault, ledger, by rw [printed, Array.back?_push]⟩

/-- A walk of a sound machine keeps the ledger, or ends at a line that fails. -/
theorem Walk.sound_or_fails (walked : Walk inForce machine places after)
    (sound : machine.status ≠ .faulted) :
    (after.status ≠ .faulted ∧ after.ledger = machine.ledger) ∨
      ∃ earlier last line failure, Walk inForce machine earlier last ∧
        last.ledger = machine.ledger ∧ last.Fails inForce line failure after := by
  induction walked with
  | stay machine => exact .inl ⟨sound, rfl⟩
  | @leave machine after places set known running outside rest =>
    cases step_stepped set machine with
    | stopped stopped => exact absurd running stopped
    | left _ _ completed =>
      obtain ⟨records, completed⟩ := completed
      obtain ⟨-, rfl⟩ := rest.of_stopped (by simp [completed])
      rw [completed]
      exact .inl ⟨by simp, rfl⟩
    | executed _ line current =>
      rw [Array.getElem?_eq_none outside] at current
      contradiction
  | @line machine after places set known running inside rest inductionHypothesis =>
    cases step_stepped set machine with
    | stopped stopped => exact absurd running stopped
    | left _ outside => omega
    | executed _ line current _ turn =>
      have ledger := step_ledger set running current
      cases rejected : rejection? line machine.program.size
          (set.dispatch line machine.table machine.program.size).verdict with
      | none =>
        rw [rejected] at ledger
        obtain ⟨action, -, status, -⟩ := turn.performed rejected
        have stillSound : (machine.step set).status ≠ .faulted := by
          rw [status]
          split <;> simp
        rcases inductionHypothesis stillSound with
          ⟨same, kept⟩ | ⟨earlier, last, line, failure, before, kept, fails⟩
        · exact .inl ⟨same, kept.trans ledger⟩
        · exact .inr ⟨_, last, line, failure, .line set known running inside before,
            kept.trans ledger, fails⟩
      | some failure =>
        have fails : machine.Fails inForce line failure (machine.step set) :=
          ⟨running, current, set, known, rfl, rejected⟩
        obtain ⟨-, rfl⟩ := rest.of_stopped (by simp [fails.outcome.1])
        exact .inr ⟨[], machine, line, failure, .stay machine, rfl, fails⟩

theorem Walk.program (walked : Walk inForce machine places after) :
    after.program = machine.program := by
  induction walked with
  | stay => rfl
  | line set _ _ _ _ inductionHypothesis | leave set _ _ _ _ inductionHypothesis =>
    exact inductionHypothesis.trans (step_program set _).1

theorem Walk.ledger (walked : Walk inForce machine places after)
    (sound : machine.status ≠ .faulted) (stillSound : after.status ≠ .faulted) :
    after.ledger = machine.ledger := by
  rcases walked.sound_or_fails sound with ⟨-, kept⟩ | ⟨_, _, _, _, -, -, fails⟩
  · exact kept
  · exact absurd fails.outcome.1 stillSound

end

/-- The outcome tells the line of the fault. -/
theorem faultLine_of_fault {machine : Machine ν} {fault : Fault} {position : Position}
    (faulty : machine.fault = some fault) (placed : fault.position = some position) :
    machine.outcome.faultLine = position.line := by
  obtain ⟨cause, place⟩ := fault
  obtain rfl : place = some position := placed
  rw [Machine.outcome, faulty]

/-- Programs executed one after another with a common ledger, as an interpreter executes them. The
first list holds the reports of kept faults in the order in which they happened, each with its slot
and the line that failed. -/
inductive Series (inForce : InstructionSet ν → Prop) : List (Nat × Position) → Ledger → Prop where
  | fresh : Series inForce [] []
  | sound {reports : List (Nat × Position)} {ledger : Ledger} {filename : Text} {tracing : Bool}
    {lines : List Text} {places : List Nat} {after : Machine ν}
    (before : Series inForce reports ledger)
    (walked : Walk inForce { load filename tracing lines with ledger } places after)
    (ended : after.status ≠ .faulted) : Series inForce reports after.ledger
  | failed {reports : List (Nat × Position)} {ledger : Ledger} {filename : Text} {tracing : Bool}
    {lines : List Text} {places : List Nat} {last after : Machine ν} {line : Line}
    {failure : Failure} (before : Series inForce reports ledger)
    (walked : Walk inForce { load filename tracing lines with ledger } places last)
    (fails : last.Fails inForce line failure after) :
    Series inForce (reports ++ (failure.slot?.map fun slot => (slot, line.position)).toList)
      after.ledger

/-- A program that was started with the ledger of a series belongs to it, wherever it ends. -/
theorem Series.walk {inForce : InstructionSet ν → Prop} {reports : List (Nat × Position)}
    {ledger : Ledger} (series : Series inForce reports ledger) {filename : Text} {tracing : Bool}
    {lines : List Text} {places : List Nat} {after : Machine ν}
    (walked : Walk inForce { load filename tracing lines with ledger } places after) :
    ∃ more, Series inForce (reports ++ more) after.ledger := by
  rcases walked.sound_or_fails (by simp [load]) with
    ⟨sound, -⟩ | ⟨earlier, last, line, failure, before, -, fails⟩
  · refine ⟨[], ?_⟩
    rw [List.append_nil]
    exact series.sound walked sound
  · exact ⟨_, series.failed before fails⟩

end

/-- A failure of a hosted machine is unplaced. -/
theorem Fails.unplaced {machine after : Machine ν} {line : Line} {failure : Failure}
    (fails : machine.Fails InstructionSet.Hosted line failure after) : failure.Unplaced := by
  obtain ⟨set, hosted, -, rejected⟩ := fails.stepped
  rcases rejection?_cases rejected with reported | ⟨cause, rfl⟩
  · exact hosted.dispatch reported
  · exact Failure.unplaced_ofCause cause

/-- The ledger holds the first report of every slot. -/
theorem Series.lookup {reports : List (Nat × Position)} {ledger : Ledger}
    (series : Series (ν := ν) InstructionSet.Hosted reports ledger) (slot : Nat) :
    ledger.lookup slot = reports.lookup slot := by
  induction series with
  | fresh => rfl
  | sound _ walked ended inductionHypothesis =>
    rw [walked.ledger (by simp [load]) ended]
    exact inductionHypothesis
  | @failed reports ledger filename tracing lines places last after line failure _ walked fails
      inductionHypothesis =>
    have kept : last.ledger = ledger := walked.ledger (by simp [load]) (by simp [fails.running])
    obtain ⟨-, -, -, remembered, -⟩ := fails.outcome
    rw [remembered, (fails.unplaced.locate line.position last.ledger).2, kept, inductionHypothesis,
      List.lookup_append]
    congr 1
    cases failure.slot? with
    | none => rfl
    | some reported =>
      by_cases same : slot = reported
      · simp [same]
      · simp [List.lookup_cons, beq_eq_false_iff_ne.mpr same, Ne.symm same]

/-- An interpreter executes a source by a walk that starts with its ledger, and takes over what the
walk leaves. -/
theorem walk_execute {inForce : InstructionSet ν → Prop} {interpreter : Interpreter ν}
    (known : inForce interpreter.instructions) (patience : Nat) (source : Text) :
    ∃ places after,
      Walk inForce { interpreter.load source.programLines with ledger := interpreter.ledger }
        places after ∧
      (interpreter.execute patience source).2 = after.outcome ∧
      (interpreter.execute patience source).1.ledger = after.ledger ∧
      (interpreter.execute patience source).1.output =
        interpreter.output ++ after.printed.push after.table.finalBlock := by
  obtain ⟨places, walked⟩ := drive_walk inForce interpreter.instructions known patience
    { interpreter.load source.programLines with ledger := interpreter.ledger }
  rw [drive_eq_iterate] at walked
  exact ⟨places, _, walked, interpreter.runSource_outcome patience source,
    interpreter.runSource_ledger patience source, (interpreter.runSource_eq patience source).1⟩

/-- Sources that an interpreter executes one after another make a series. -/
theorem Series.execute {inForce : InstructionSet ν → Prop} {reports : List (Nat × Position)}
    {interpreter : Interpreter ν} (series : Series inForce reports interpreter.ledger)
    (known : inForce interpreter.instructions) (sources : List (Nat × Text)) :
    ∃ more, Series inForce (reports ++ more)
      (sources.foldl (fun interpreter source => (interpreter.execute source.1 source.2).1)
        interpreter).ledger := by
  induction sources generalizing reports interpreter with
  | nil => exact ⟨[], by rwa [List.append_nil]⟩
  | cons source rest inductionHypothesis =>
    obtain ⟨places, after, walked, -, ledger, -⟩ := walk_execute known source.1 source.2
    obtain ⟨more, longer⟩ := series.walk walked
    rw [← ledger] at longer
    obtain ⟨-, -, instructions⟩ := interpreter.runSource_frame source.1 source.2
    obtain ⟨further, complete⟩ := inductionHypothesis longer (instructions.symm ▸ known)
    refine ⟨more ++ further, ?_⟩
    rw [← List.append_assoc]
    exact complete

/-- The report of a fault names the line where the machine stands, and so do the outcome and the
fault, as long as the failure is not a kept one that was reported before in the series of programs.
A fault that was reported before stays at the line of its first report. -/
theorem faults_placed {reports : List (Nat × Position)} {ledger : Ledger}
    (series : Series (ν := ν) InstructionSet.Hosted reports ledger) {filename : Text}
    {tracing : Bool} {lines : List Text} {places : List Nat} {after : Machine ν}
    (walked : Walk InstructionSet.Hosted { load filename tracing lines with ledger } places after)
    (faulted : after.status = .faulted) :
    ∃ text failure fault,
      lines[after.counter]? = some text ∧
      (∃ earlier last,
        Walk InstructionSet.Hosted { load filename tracing lines with ledger } earlier last ∧
        last.Fails InstructionSet.Hosted (.parse filename text (after.counter + 1)) failure after) ∧
      after.outcome.fault = some fault ∧
      after.printed.back? = some
        ((utf8 "Runtime error at line " ++ Text.ofNat (after.counter + 1)).line ++
          (utf8 "  " ++ text.trim).line ++ (utf8 "  " ++ fault.text).line) ∧
      ((∀ slot ∈ failure.slot?, reports.lookup slot = none) →
        after.outcome.faultLine = after.counter + 1 ∧
        fault.position = some ⟨after.counter + 1, text.trim, filename⟩) ∧
      ∀ slot ∈ failure.slot?, ∀ position ∈ reports.lookup slot,
        after.outcome.faultLine = position.line ∧ fault.position = some position := by
  rcases walked.sound_or_fails (by simp [load]) with
    ⟨sound, -⟩ | ⟨earlier, last, line, failure, before, kept, fails⟩
  · exact absurd faulted sound
  · obtain ⟨-, counter, fault, -, printed⟩ := fails.outcome
    obtain ⟨text, textAt, rfl⟩ : ∃ text, lines[after.counter]? = some text ∧
        line = .parse filename text (after.counter + 1) := by
      have current := fails.current
      rw [before.program, ← counter, load, List.getElem?_toArray, Line.parseAll_getElem?] at current
      obtain ⟨text, textAt, rfl⟩ := Option.map_eq_some_iff.mp current
      exact ⟨text, textAt, rfl⟩
    have position := (fails.unplaced.locate ⟨after.counter + 1, text.trim, filename⟩ last.ledger).1
    simp only [kept, series.lookup] at position
    rw [Line.parse_position] at fault printed
    rw [kept] at fault printed
    refine ⟨text, failure, _, textAt, ⟨earlier, last, before, fails⟩, fault, ?_, ?_, ?_⟩
    · rw [printed, faultBlock, Line.parse_position]
      rfl
    · intro unreported
      rw [Option.bind_eq_none_iff.mpr unreported, Option.getD_none] at position
      exact ⟨faultLine_of_fault fault position, position⟩
    · intro slot reported first firstAt
      rw [reported, Option.bind_some, firstAt, Option.getD_some] at position
      exact ⟨faultLine_of_fault fault position, position⟩

/-- A kept fault, first in a program of one line and then on the second line of another program. -/
theorem faults_placed_kept :
    let boom : HostInstruction := .kept 0 ⟨.reported .typeMismatch (utf8 "boom"), none⟩
    let set : InstructionSet Int64 :=
      ((Interpreter.new {}).registered [.register (utf8 "BOOM") 0 boom.handler]).instructions
    let first : Machine Int64 := (load [] false [utf8 "BOOM"]).step set
    let second : Machine Int64 :=
      drive set 9 { load [] false [[], utf8 "BOOM"] with ledger := first.ledger }
    second.outcome.faultLine = 1 ∧ second.printed.back? = some
      (utf8 "Runtime error at line 2\n  BOOM\n  type mismatch: boom\n") := by
  intro boom set first second
  have hosted : set.Hosted := by
    refine ⟨{}, _, ?_, rfl⟩
    intro change member
    obtain rfl := List.mem_singleton.mp member
    rintro call failure ⟨⟩ fault ⟨⟩
    rfl
  obtain ⟨running, current, rejected, faulted, counter, fault⟩ :
      (load [] false [utf8 "BOOM"] : Machine Int64).status = .running ∧
      (load [] false [utf8 "BOOM"] : Machine Int64).program[0]? =
        some (.parse [] (utf8 "BOOM") 1) ∧
      rejection? (.parse [] (utf8 "BOOM") 1) 1
        (set.dispatch (.parse [] (utf8 "BOOM") 1) .empty 1).verdict =
          some (.kept 0 ⟨.reported .typeMismatch (utf8 "boom"), none⟩) ∧
      second.status = .faulted ∧ second.counter = 1 ∧
      second.outcome.fault = some ⟨.reported .typeMismatch (utf8 "boom"),
        some ⟨1, utf8 "BOOM", []⟩⟩ := by
    decide +kernel
  have fails : (load [] false [utf8 "BOOM"]).Fails InstructionSet.Hosted
      (.parse [] (utf8 "BOOM") 1) _ first := ⟨running, current, set, hosted, rfl, rejected⟩
  have series := Series.failed .fresh (.stay _) fails
  obtain ⟨places, walked⟩ : ∃ places, Walk InstructionSet.Hosted
      { load [] false [[], utf8 "BOOM"] with ledger := first.ledger } places second :=
    drive_walk InstructionSet.Hosted set hosted 9 _
  obtain ⟨text, failure, other, textAt, -, same, printed, -⟩ :=
    faults_placed series walked faulted
  obtain rfl := Option.some.inj (fault.symm.trans same)
  clear_value second
  rw [counter] at textAt printed
  obtain rfl := Option.some.inj textAt
  exact ⟨faultLine_of_fault fault rfl, printed⟩

/-- A kept fault in a first program at line one and in a second program at line two: the report of
the second says line two, and the fault says line one. -/
theorem kept_fault_misplaced :
    let boom : HostInstruction := .kept 0 ⟨.reported .typeMismatch (utf8 "boom"), none⟩
    let interpreter : Interpreter Int64 :=
      (Interpreter.new {}).register (utf8 "BOOM") 0 boom.handler
    let first := interpreter.execute 9 (utf8 "BOOM\n")
    let second := first.1.execute 9 (utf8 "\nBOOM\n")
    second.2.status = .faulted ∧ second.2.faultLine = 1 ∧
      second.1.output.toList.drop 2 =
        [utf8 "Runtime error at line 2\n  BOOM\n  type mismatch: boom\n",
          utf8 "--- final state ---\n--------------------\n"] := by
  decide +kernel

end Machine

end LineMachine
