import LineMachine.Proofs.LineEnds
import LineMachine.Proofs.Sessions

namespace LineMachine

/-- Two lines have the same words, the same number and the same trimmed text. -/
structure Line.Twin (first second : Line) : Prop where
  command : second.command = first.command
  arguments : second.arguments = first.arguments
  number : second.position.line = first.position.line
  text : second.position.text = first.position.text

/-- Lines that end alike are twins, under any file names. -/
theorem Line.twin_parse {first second : Text} (alike : Interactive.EndsAlike first second)
    (filename other : Text) (number : Int) :
    (parse filename first number).Twin (parse other second number) where
  command := by rw [parse_command, parse_command, alike.words]
  arguments := by rw [parse_arguments, parse_arguments, alike.words]
  number := by rw [parse_position, parse_position]
  text := by rw [parse_position, parse_position, alike.trim]

variable {ν : Type} [Number ν]

/-- Twin lines have the same effect. -/
theorem Standard.dispatch_twin {table : Table ν} (formed : table.WellFormed) {first second : Line}
    (twin : first.Twin second) (length : Nat) :
    (set.dispatch second table length).table = (set.dispatch first table length).table ∧
      (set.dispatch second table length).printed = (set.dispatch first table length).printed ∧
      (set.dispatch second table length).verdict = (set.dispatch first table length).verdict := by
  rw [dispatch_eq formed, dispatch_eq formed, Line.isEmpty, Line.isEmpty, twin.command,
    twin.arguments]
  split
  · exact ⟨rfl, rfl, rfl⟩
  · split
    · exact ⟨rfl, rfl, rfl⟩
    · split
      · split <;> exact ⟨rfl, rfl, rfl⟩
      · exact ⟨rfl, rfl, rfl⟩

/-- The machine rejects a line for its mnemonic and its verdict only. -/
theorem Line.Twin.rejection? {first second : Line} (twin : first.Twin second) (length : Nat)
    (verdict : Except Failure (Option Action)) :
    Machine.rejection? second length verdict = Machine.rejection? first length verdict := by
  rw [Machine.rejection?.eq_def, Machine.rejection?.eq_def, twin.command]

namespace Machine

/-- Two machines stand at the same place of programs with the same lines, have the same table and
have printed the same. -/
structure Twin (first second : Machine ν) : Prop where
  program : List.Forall₂ Line.Twin first.program.toList second.program.toList
  counter : second.counter = first.counter
  status : second.status = first.status
  table : second.table = first.table
  printed : second.printed = first.printed
  formed : first.table.WellFormed

namespace Twin

variable {first second : Machine ν}

section

omit [Number ν]

theorem size (twin : first.Twin second) : second.program.size = first.program.size := by
  have length := twin.program.length_eq
  rwa [Array.length_toList, Array.length_toList, eq_comm] at length

theorem line (twin : first.Twin second) {place : Nat} {line : Line}
    (current : first.program[place]? = some line) :
    ∃ other, second.program[place]? = some other ∧ line.Twin other := by
  rw [← Array.getElem?_toList] at current
  obtain ⟨inside, rfl⟩ := List.getElem?_eq_some_iff.mp current
  have otherInside : place < second.program.toList.length := twin.program.length_eq ▸ inside
  refine ⟨second.program.toList[place], ?_, twin.program.get inside otherInside⟩
  rw [← Array.getElem?_toList, List.getElem?_eq_getElem otherInside]

theorem append (twin : first.Twin second) {text other : Text}
    (alike : Interactive.EndsAlike text other) :
    (first.append text).Twin (second.append other) where
  program := by
    rw [Machine.append, Machine.append, Array.toList_push, Array.toList_push, twin.size]
    exact List.rel_append twin.program (.cons (Line.twin_parse alike _ _ _) .nil)
  counter := twin.counter
  status := twin.status
  table := twin.table
  printed := twin.printed
  formed := twin.formed

theorem recover (twin : first.Twin second) : first.recover.Twin second.recover := by
  rw [Machine.recover, Machine.recover, twin.status, twin.size]
  split
  · exact ⟨twin.program, rfl, rfl, twin.table, twin.printed, twin.formed⟩
  · exact twin

end

/-- Twin lines lead twin machines to the same place, and print the same. -/
theorem turn (twin : first.Twin second) {line other : Line} (sameLine : line.Twin other)
    {after otherAfter : Machine ν}
    (turn : first.Turn line (Standard.set.dispatch line first.table first.program.size) after)
    (otherTurn : second.Turn other
      (Standard.set.dispatch other second.table second.program.size) otherAfter) :
    otherAfter.counter = after.counter ∧ otherAfter.status = after.status ∧
      otherAfter.printed = after.printed := by
  obtain ⟨-, printed, verdict⟩ :=
    Standard.dispatch_twin twin.formed sameLine first.program.size
  rw [twin.table, twin.size] at otherTurn
  have sameRejection : rejection? other second.program.size
      (Standard.set.dispatch other first.table first.program.size).verdict =
      rejection? line first.program.size
        (Standard.set.dispatch line first.table first.program.size).verdict := by
    rw [twin.size, verdict, sameLine.rejection?]
  cases rejected : rejection? line first.program.size
      (Standard.set.dispatch line first.table first.program.size).verdict with
  | none =>
    obtain ⟨action, acted, status, counter, output⟩ := turn.performed rejected
    obtain ⟨otherAction, otherActed, otherStatus, otherCounter, otherOutput⟩ :=
      otherTurn.performed (sameRejection.trans rejected)
    rw [verdict, acted] at otherActed
    obtain rfl : action = otherAction := by simpa using otherActed
    refine ⟨?_, otherStatus.trans status.symm, ?_⟩
    · rw [otherCounter, counter, twin.counter]
    · rw [otherOutput, output, twin.printed, printed]
  | some failure =>
    obtain ⟨status, counter, -, output⟩ := turn.rejected rejected
    obtain ⟨otherStatus, otherCounter, -, otherOutput⟩ :=
      otherTurn.rejected (sameRejection.trans rejected)
    obtain ⟨cause, -, -, rfl⟩ :=
      (Standard.dispatch_answer twin.formed line first.program.size).rejected rejected
    refine ⟨?_, otherStatus.trans status.symm, ?_⟩
    · rw [otherCounter, counter, twin.counter]
    · rw [otherOutput, output, twin.printed, printed, locate_ofCause, locate_ofCause, faultBlock,
        faultBlock, sameLine.number, sameLine.text]
      rfl

/-- One step makes the same of both machines. -/
theorem step (twin : first.Twin second) :
    (first.step Standard.set).Twin (second.step Standard.set) := by
  cases step_steppedBoth Standard.set Standard.set twin.status twin.counter twin.size with
  | stopped unchanged otherUnchanged =>
    rw [unchanged, otherUnchanged]
    exact twin
  | left completed otherCompleted =>
    obtain ⟨records, completed⟩ := completed
    obtain ⟨otherRecords, otherCompleted⟩ := otherCompleted
    rw [completed, otherCompleted]
    exact ⟨twin.program, twin.counter, rfl, twin.table, twin.printed, twin.formed⟩
  | executed running line other current otherCurrent frame otherFrame turn otherTurn =>
    obtain ⟨found, foundCurrent, sameLine⟩ := twin.line current
    obtain rfl : other = found := Option.some.inj (otherCurrent.symm.trans foundCurrent)
    obtain ⟨counter, status, printed⟩ := twin.turn sameLine turn otherTurn
    obtain ⟨table, -⟩ := Standard.dispatch_twin twin.formed sameLine first.program.size
    rw [twin.table, twin.size] at otherFrame
    refine ⟨?_, counter, status, ?_, printed, wellFormed_kept.step rfl twin.formed⟩
    · rw [otherFrame.program, frame.program]
      exact twin.program
    · rw [otherFrame.table, table, frame.table]

theorem resume (twin : first.Twin second) (patience : Nat) :
    (first.resume Standard.set patience).Twin (second.resume Standard.set patience) := by
  have awake : first.wake.Twin second.wake := by
    rw [wake, wake, twin.status, twin.counter, twin.size]
    split
    · exact ⟨twin.program, rfl, rfl, twin.table, twin.printed, twin.formed⟩
    · exact twin
  rw [Machine.resume, Machine.resume, drive_eq_iterate, drive_eq_iterate]
  induction patience with
  | zero => exact awake
  | succ patience inductionHypothesis =>
    rw [Function.iterate_succ_apply', Function.iterate_succ_apply']
    exact inductionHypothesis.step

end Twin

end Machine

namespace Session

/-- Two sessions of interpreters with the standard instructions that have printed the same and are
twins from now on. -/
structure Twin (interpreter : Interpreter ν) (session : Session ν) (other : Interpreter ν)
    (otherSession : Session ν) : Prop where
  standard : interpreter.instructions = Standard.set
  otherStandard : other.instructions = Standard.set
  output : other.output = interpreter.output
  done : otherSession.done = session.done
  machine : session.machine.Twin otherSession.machine

namespace Twin

variable {interpreter other : Interpreter ν} {session otherSession : Session ν}

/-- New sessions are twins. -/
theorem opened (standard : interpreter.instructions = Standard.set)
    (otherStandard : other.instructions = Standard.set) (output : other.output = interpreter.output) :
    Twin interpreter interpreter.openSession other other.openSession :=
  ⟨standard, otherStandard, output, rfl, ⟨.nil, rfl, rfl, rfl, rfl, Table.wellFormed_empty⟩⟩

/-- Twin sessions that get lines that end alike stay twins. -/
theorem feed (twin : Twin interpreter session other otherSession) (patience : Nat) {text line : Text}
    (alike : Interactive.EndsAlike text line) :
    Twin (interpreter.feed patience session text).1 (interpreter.feed patience session text).2.1
      (other.feed patience otherSession line).1 (other.feed patience otherSession line).2.1 := by
  cases done : session.done with
  | true =>
    rw [feed_of_done done, feed_of_done (twin.done.trans done)]
    exact twin
  | false =>
    rw [Interpreter.feed_eq interpreter patience done,
      Interpreter.feed_eq other patience (twin.done.trans done), twin.standard, twin.otherStandard]
    have machine := twin.machine
    have acting : (interpreter.acting session).Twin (other.acting otherSession) :=
      ⟨machine.program, machine.counter, machine.status, machine.table, rfl, machine.formed⟩
    have acted := (acting.append alike).resume patience
    refine ⟨rfl, rfl, ?_, ?_, Machine.Twin.recover ?_⟩
    · rw [twin.output, acted.printed]
    · rw [acted.status]
    · exact ⟨acted.program, acted.counter, acted.status, acted.table, rfl, acted.formed⟩

/-- Twin sessions print the same at the end. -/
theorem close (twin : Twin interpreter session other otherSession) :
    (other.close otherSession).1.output = (interpreter.close session).1.output := by
  rw [Interpreter.close, Interpreter.close]
  simp [Interpreter.act, Machine.printFinal, Machine.print, twin.output, twin.machine.table]

end Twin

end Session
end LineMachine
