import LineMachine.Proofs.Dispatch
import LineMachine.Proofs.Source
import Mathlib.Logic.ExistsUnique

namespace LineMachine.Machine

variable {ν : Type} [Number ν]

/-- The standard instructions keep the table of a machine well formed. -/
theorem wellFormed_kept :
    Kept (· = Standard.set) fun machine : Machine ν => machine.table.WellFormed := by
  apply Kept.of_table Table.WellFormed
  rintro set table rfl line length formed
  exact (Standard.dispatch_answer formed line length).wellFormed formed

theorem wellFormed_of_history {filename : Text} {tracing : Bool} {lines : List Text}
    {places : List Nat} {machine : Machine ν}
    (history : History (· = Standard.set) (load filename tracing lines) places machine) :
    machine.table.WellFormed :=
  wellFormed_kept.history history Table.wellFormed_empty

omit [Number ν] in
/-- A cause without a position gets the position of its line. -/
theorem locate_ofCause (cause : Cause) (line : Position) (ledger : Ledger) :
    (Failure.ofCause cause).locate line ledger = (⟨cause, some line⟩, ledger) := rfl

/-- A standard line that faults leaves the table, and its fault is one of the language. -/
theorem Turn.faulted {machine after : Machine ν} {line : Line} (formed : machine.table.WellFormed)
    (turn : machine.Turn line
      (Standard.set.dispatch line machine.table machine.program.size) after)
    (faulted : after.status = .faulted) :
    ∃ cause, cause.kind ∈ FaultKind.standard ∧
      (Standard.set.dispatch line machine.table machine.program.size).table = machine.table ∧
      after.counter = machine.counter ∧ after.fault = some ⟨cause, some line.position⟩ ∧
      after.printed = machine.printed.push (faultBlock line ⟨cause, some line.position⟩) := by
  cases turn with
  | advance _ status => simp [status] at faulted
  | jump _ _ _ status => simp [status] at faulted
  | halt _ status => simp [status] at faulted
  | fault failure rejected _ counter fault printed =>
    obtain ⟨cause, standard, replied, rfl⟩ :=
      (Standard.dispatch_answer formed line machine.program.size).rejected rejected
    rw [locate_ofCause] at fault printed
    rw [replied] at printed ⊢
    exact ⟨cause, standard, rfl, counter, fault,
      by simpa [Reply.fail, Reply.ofVerdict] using printed⟩

/-- A step that faults changes neither the table nor the counter, is counted, prints only its
report and tells the line, the position and one kind of fault. -/
theorem faulting_step_atomic {filename : Text} {tracing : Bool} {lines : List Text}
    {places : List Nat} {machine : Machine ν}
    (history : History (· = Standard.set) (load filename tracing lines) places machine)
    (running : machine.status = .running)
    (faulted : (machine.step Standard.set).status = .faulted) :
    ∃ text fault, machine.source[machine.counter]? = some text ∧
      let after := machine.step Standard.set
      after.table = machine.table ∧ after.counter = machine.counter ∧
      after.steps = machine.steps + 1 ∧
      after.printed = machine.printed.push
        ((utf8 "Runtime error at line " ++ Text.ofNat (machine.counter + 1)).line ++
          (utf8 "  " ++ text.trim).line ++ (utf8 "  " ++ fault.text).line) ∧
      after.outcome.fault = some fault ∧ after.outcome.faultLine = machine.counter + 1 ∧
      fault.position = some ⟨machine.counter + 1, text.trim, filename⟩ ∧
      ∃! kind, kind ∈ FaultKind.standard ∧ fault.cause.kind = kind := by
  have formed := wellFormed_of_history history
  have sourced := (sourced_kept _ filename).history history (sourced_load filename tracing lines)
  cases step_stepped Standard.set machine with
  | stopped stopped => exact absurd running stopped
  | left _ _ completed =>
    obtain ⟨records, completed⟩ := completed
    simp [completed] at faulted
  | executed _ line current frame turn =>
    obtain ⟨cause, standard, sameTable, counter, fault, printed⟩ := turn.faulted formed faulted
    obtain ⟨text, textAt, rfl⟩ := sourced.line current
    rw [Line.parse_position] at fault printed
    refine ⟨text, _, textAt, frame.table.trans sameTable, counter, frame.steps, ?_, fault, ?_, rfl,
      cause.kind, ⟨standard, rfl⟩, fun kind wrapped => wrapped.2.symm⟩
    · rw [printed, faultBlock, Line.parse_position]
      rfl
    · rw [outcome, fault]

/-- The first item of a list is a number and does not fit into the list itself. -/
theorem faulting_step_atomic_head :
    let lines := [utf8 "LIST l", utf8 "INTEGER x", utf8 "MERGE x l", utf8 "\tHEAD l l # itself "]
    let machine : Machine Int64 := (load [] false lines).drive Standard.set 3
    (machine.step Standard.set).status = .faulted ∧
      (machine.step Standard.set).outcome.faultLine = 4 ∧
      (machine.step Standard.set).table.text = utf8 "l (list) = [0]\nx (int) = 0\n" ∧
      (machine.step Standard.set).printed = #[utf8
        "Runtime error at line 4\n  HEAD l l # itself\n  type mismatch: \"l\" is list, expected int\n"] := by
  intro lines machine
  obtain ⟨running, faulted, counter, table, printed⟩ : machine.status = .running ∧
      (machine.step Standard.set).status = .faulted ∧ machine.counter = 3 ∧
      machine.table.text = utf8 "l (list) = [0]\nx (int) = 0\n" ∧
      (machine.step Standard.set).printed = #[utf8
        "Runtime error at line 4\n  HEAD l l # itself\n  type mismatch: \"l\" is list, expected int\n"] := by
    decide +kernel
  obtain ⟨places, walked⟩ := drive_walk (· = Standard.set) Standard.set rfl 3
    (load [] false lines : Machine Int64)
  obtain ⟨text, fault, -, sameTable, -, -, -, -, faultLine, -⟩ :=
    faulting_step_atomic walked.history running faulted
  exact ⟨faulted, by rw [faultLine, counter]; rfl, by rw [sameTable, table], printed⟩

end LineMachine.Machine
