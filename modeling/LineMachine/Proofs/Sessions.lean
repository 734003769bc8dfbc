import LineMachine.Interactive
import LineMachine.Proofs.Feeding
import LineMachine.Proofs.Lifecycle

namespace LineMachine

namespace Machine

variable {ν : Type}

/-- A machine waits at the end of its program. -/
structure Waits (machine : Machine ν) : Prop where
  unended : machine.status = .running ∨ machine.status = .completed
  counter : machine.counter = machine.program.size
  fault : machine.fault = none

theorem Waits.coherent {machine : Machine ν} (waits : machine.Waits) : machine.Coherent := by
  refine .of_open ?_ ?_ (by simp [waits.fault]) (Nat.le_of_eq waits.counter)
  · rcases waits.unended with status | status <;> simp [status]
  · rcases waits.unended with status | status <;> simp [status]

/-- A waiting machine that gets a line is about to execute that line. -/
theorem Waits.append_wake {machine : Machine ν} (waits : machine.Waits) (text : Text) :
    (machine.append text).wake.status = .running ∧
      (machine.append text).wake.counter = machine.program.size ∧
      (machine.append text).wake.program = (machine.append text).program ∧
      (machine.append text).wake.filename = machine.filename := by
  have inside : machine.counter < (machine.append text).program.size := by
    simp [append, waits.counter]
  rw [wake]
  rcases waits.unended with running | completed
  · rw [if_neg (by simp [append, running])]
    exact ⟨running, waits.counter, rfl, rfl⟩
  · rw [if_pos ⟨completed, inside⟩]
    exact ⟨rfl, waits.counter, rfl, rfl⟩

/-- The report of its fault is the last text that a faulted machine has printed. -/
def Reported (machine : Machine ν) : Prop :=
  machine.status = .faulted → ∃ line ∈ machine.program, ∃ fault,
    machine.fault = some fault ∧ machine.printed.back? = some (faultBlock line fault)

theorem Reported.step {machine : Machine ν} (reported : machine.Reported)
    (set : InstructionSet ν) : (machine.step set).Reported := by
  cases step_stepped set machine with
  | stopped _ unchanged =>
    rw [unchanged]
    exact reported
  | left _ _ completed =>
    obtain ⟨records, completed⟩ := completed
    rw [completed]
    intro faulted
    contradiction
  | executed _ line current frame turn =>
    intro faulted
    cases turn with
    | advance _ status | jump _ _ _ status | halt _ status => simp [status] at faulted
    | fault failure _ _ _ fault printed =>
      refine ⟨line, ?_, _, fault, ?_⟩
      · rw [frame.program]
        exact Array.mem_of_getElem? current
      · rw [printed, Array.back?_push]

/-- What holds while a machine goes on after a line has been added. -/
structure Onward (start machine : Machine ν) : Prop where
  program : machine.program = start.program
  filename : machine.filename = start.filename
  coherent : machine.Coherent
  settled : machine.Settled
  reported : machine.Reported

theorem Onward.step {start machine : Machine ν} (onward : Onward start machine)
    (set : InstructionSet ν) : Onward start (machine.step set) where
  program := (step_program set machine).1.trans onward.program
  filename := (step_program set machine).2.trans onward.filename
  coherent := onward.coherent.step set
  settled := onward.settled.step set
  reported := onward.reported.step set

/-- A machine that has stopped without halting waits once it is recovered. -/
theorem Settled.recover {machine : Machine ν} (settled : machine.Settled)
    (coherent : machine.Coherent) (stopped : machine.status ≠ .running)
    (unhalted : machine.status ≠ .halted) :
    machine.recover.Waits ∧ machine.recover.status = .completed := by
  rw [Machine.recover]
  cases status : machine.status with
  | running => exact absurd status stopped
  | halted => exact absurd status unhalted
  | faulted =>
    rw [if_pos rfl]
    exact ⟨⟨.inr rfl, rfl, rfl⟩, rfl⟩
  | completed =>
    rw [if_neg (by simp)]
    have noFault := coherent.no_fault (by simp [status])
    refine ⟨⟨.inr status, ?_, by simpa using noFault⟩, status⟩
    exact Nat.le_antisymm coherent.within (settled status)

/-- Recovery leaves the program as it is. -/
theorem recover_program (machine : Machine ν) :
    machine.recover.program = machine.program ∧ machine.recover.filename = machine.filename := by
  rw [recover]
  split <;> exact ⟨rfl, rfl⟩

/-- What holds while a machine goes on holds until it stops. -/
theorem Onward.walk {start machine after : Machine ν} {inForce : InstructionSet ν → Prop}
    {places : List Nat} (onward : Onward start machine)
    (walked : Walk inForce machine places after) : Onward start after := by
  induction walked with
  | stay => exact onward
  | line set _ _ _ _ inductionHypothesis => exact inductionHypothesis (onward.step set)
  | leave set _ _ _ _ inductionHypothesis => exact inductionHypothesis (onward.step set)

/-- A waiting machine that gets a line and comes to a stop has executed that line first. -/
theorem Waits.walk {machine acted : Machine ν} {inForce : InstructionSet ν → Prop}
    {places : List Nat} {text : Text} (waits : machine.Waits)
    (walked : Walk inForce (machine.append text).wake places acted)
    (stopped : acted.status ≠ .running) :
    Onward (machine.append text) acted ∧ ∃ rest, places = machine.program.size :: rest := by
  obtain ⟨running, counter, program, filename⟩ := waits.append_wake text
  have start : Onward (machine.append text) (machine.append text).wake :=
    ⟨program, filename, (waits.coherent.append text).wake, settled_wake _,
      fun faulted => by simp [running] at faulted⟩
  refine ⟨start.walk walked, ?_⟩
  rw [← counter]
  cases walked with
  | stay => exact absurd running stopped
  | line => exact ⟨_, rfl⟩
  | leave _ _ _ outside =>
    rw [program, counter] at outside
    simp only [append, Array.size_push] at outside
    omega

end Machine

variable {ν : Type}

/-- The machine of a session with one more line, when the interpreter lets it go on. -/
def Interpreter.given (interpreter : Interpreter ν) (session : Session ν) (text : Text) :
    Machine ν :=
  ((interpreter.acting session).append text).wake

namespace Session

/-- The session after its machine has stopped, and what it printed has been collected. -/
def after (acted : Machine ν) : Session ν :=
  ⟨{ acted with printed := #[], records := #[] }.recover, acted.status = .halted⟩

/-- An open session waits with the program of all its lines. -/
structure Ready (lines : List Text) (session : Session ν) : Prop where
  waits : session.machine.Waits
  program : session.machine.program.toList = Line.parseAll session.machine.filename lines
  completed : lines ≠ [] → session.machine.status = .completed

/-- What becomes of a line after the lines of an open session, when the machine has executed lines
at some places and has stopped. -/
structure Answers (lines : List Text) (session : Session ν) (text : Text) (places : List Nat)
    (acted : Machine ν) : Prop where
  parsed : acted.program =
    session.machine.program.push (.parse session.machine.filename text (lines.length + 1))
  first : ∃ rest, places = lines.length :: rest
  fault : acted.status = .faulted →
    (after acted).done = false ∧ (after acted).machine.status = .completed ∧
    (after acted).machine.fault = none ∧
    ∃ line ∈ acted.program, ∃ fault, acted.outcome.fault = some fault ∧
      acted.printed.back? = some (Machine.faultBlock line fault)
  done_iff : (after acted).done = true ↔ acted.status = .halted

section Ready

variable {lines : List Text} {session : Session ν}

theorem Ready.size (ready : session.Ready lines) :
    session.machine.program.size = lines.length := by
  rw [← Array.length_toList, ready.program]
  simp [Line.parseAll]

variable {interpreter : Interpreter ν} {inForce : InstructionSet ν → Prop} {text : Text}
  {places : List Nat} {acted : Machine ν}

/-- A line that an open session gets is executed first. -/
theorem Ready.walk (ready : session.Ready lines)
    (walked : Machine.Walk inForce (interpreter.given session text) places acted)
    (stopped : acted.status ≠ .running) :
    Machine.Onward ((interpreter.acting session).append text) acted ∧
      ∃ rest, places = lines.length :: rest := by
  have waits : (interpreter.acting session).Waits :=
    ⟨ready.waits.unended, ready.waits.counter, ready.waits.fault⟩
  rw [← ready.size]
  exact waits.walk walked stopped

/-- A session that is ready is ready again after a line, unless that line halts it. -/
theorem Ready.after (ready : session.Ready lines)
    (walked : Machine.Walk inForce (interpreter.given session text) places acted)
    (stopped : acted.status ≠ .running) (unhalted : acted.status ≠ .halted) :
    (Session.after acted).Ready (lines ++ [text]) := by
  obtain ⟨onward, -⟩ := ready.walk walked stopped
  have settled : { acted with printed := #[], records := #[] }.Settled := onward.settled
  have coherent := onward.coherent
  obtain ⟨waits, completed⟩ := settled.recover
    ⟨coherent.within, coherent.fault_iff, coherent.inside⟩ stopped unhalted
  obtain ⟨program, filename⟩ :=
    Machine.recover_program { acted with printed := #[], records := #[] }
  refine ⟨waits, ?_, fun _ => completed⟩
  rw [Session.after, program, filename, onward.program, onward.filename, Line.parseAll_concat,
    ← ready.size]
  simp [Machine.append, Interpreter.acting, ready.program]

theorem Ready.answers (ready : session.Ready lines)
    (walked : Machine.Walk inForce (interpreter.given session text) places acted)
    (stopped : acted.status ≠ .running) : session.Answers lines text places acted := by
  obtain ⟨onward, first⟩ := ready.walk walked stopped
  refine ⟨?_, first, fun faulted => ?_, decide_eq_true_iff⟩
  · rw [onward.program, ← ready.size]
    rfl
  · have unhalted : acted.status ≠ .halted := by simp [faulted]
    have again := ready.after walked stopped unhalted
    exact ⟨decide_eq_false unhalted, again.completed (by simp), again.waits.fault,
      onward.reported faulted⟩

/-- Feeding a line to an open session is a walk under the instructions of the interpreter. -/
theorem feed_walk (unfinished : session.done = false) (interpreter : Interpreter ν)
    (patience : Nat) (text : Text) :
    ∃ places acted,
      Machine.Walk (· = interpreter.instructions) (interpreter.given session text) places acted ∧
      (interpreter.feed patience session text).1.output = interpreter.output ++ acted.printed ∧
      (interpreter.feed patience session text).2 = (Session.after acted, acted.outcome) := by
  obtain ⟨places, walked⟩ := Machine.drive_walk (· = interpreter.instructions)
    interpreter.instructions rfl patience (interpreter.given session text)
  rw [Interpreter.feed_eq interpreter patience unfinished]
  exact ⟨places, _, walked, rfl, rfl⟩

end Ready

theorem feed_of_done {session : Session ν} (done : session.done = true)
    (interpreter : Interpreter ν) (patience : Nat) (text : Text) :
    interpreter.feed patience session text = (interpreter, session, session.machine.outcome) := by
  rw [Interpreter.feed, if_pos done]

/-- The prompt shows the number that it is given. -/
theorem infix_prompt (colored : Bool) (number : Nat) :
    Text.ofNat number ++ utf8 ">" <:+: Interactive.prompt colored number := by
  rw [Interactive.prompt]
  cases colored with
  | false => exact ⟨List.replicate (3 - (Text.ofNat number).length) 32, utf8 " ", by simp⟩
  | true =>
    exact ⟨utf8 "\x1b[32m" ++ List.replicate (3 - (Text.ofNat number).length) 32,
      utf8 "\x1b[0m ", by simp⟩

variable [Number ν]

/-- A session that has got lines one after another and has come to a stop after each of them. The
host may change its interpreter at any time and may close the session. Instructions with a memory of
their own may act differently at every step. -/
inductive Reached : List Text → Session ν → Prop where
  | opened (interpreter : Interpreter ν) : Reached [] interpreter.openSession
  | fed {lines : List Text} {session : Session ν} (before : Reached lines session)
    (interpreter : Interpreter ν) (patience : Nat) (text : Text)
    (stops : session.done = false →
      (interpreter.feed patience session text).2.2.status ≠ .running) :
    Reached (lines ++ [text]) (interpreter.feed patience session text).2.1
  | walked {lines : List Text} {session : Session ν} (before : Reached lines session)
    (unfinished : session.done = false) (interpreter : Interpreter ν) (text : Text)
    {places : List Nat} {acted : Machine ν}
    (walked : Machine.Walk (fun _ => True) (interpreter.given session text) places acted)
    (stopped : acted.status ≠ .running) : Reached (lines ++ [text]) (.after acted)
  | closed {lines : List Text} {session : Session ν} (before : Reached lines session)
    (interpreter : Interpreter ν) : Reached lines (interpreter.close session).2

theorem Reached.ready {lines : List Text} {session : Session ν} (reached : Reached lines session)
    (unfinished : session.done = false) : session.Ready lines := by
  induction reached with
  | opened interpreter => exact ⟨⟨.inl rfl, rfl, rfl⟩, rfl, by simp⟩
  | @fed lines session before interpreter patience text stops inductionHypothesis =>
    cases done : session.done with
    | true =>
      rw [feed_of_done done, done] at unfinished
      contradiction
    | false =>
      obtain ⟨places, acted, walked, -, fed⟩ := feed_walk done interpreter patience text
      have stopped := stops done
      rw [fed] at unfinished stopped ⊢
      exact (inductionHypothesis done).after walked stopped (of_decide_eq_false unfinished)
  | walked before stillOpen interpreter text walked stopped inductionHypothesis =>
    exact (inductionHypothesis stillOpen).after walked stopped (of_decide_eq_false unfinished)
  | closed before interpreter => contradiction

end Session

/-- Between its lines a session that is not done stands completed at the end of its program, which
has one line for each text, and has no fault, whatever its lines have done. So the next line gets
the number of the prompt and is executed first, a fault is told by the outcome only, and a session
that has halted or is closed ignores every line. -/
theorem session_between_lines [Number ν] {lines : List Text} {session : Session ν}
    (reached : session.Reached lines) :
    (session.done = false →
      (lines ≠ [] → session.machine.status = .completed) ∧ session.machine.fault = none ∧
      session.machine.counter = session.machine.program.size ∧
      session.machine.program.size = lines.length ∧
      (∀ colored, Text.ofNat (lines.length + 1) ++ utf8 ">" <:+:
        Interactive.prompt colored (session.machine.program.size + 1)) ∧
      (∀ (interpreter : Interpreter ν) (patience : Nat) (text : Text),
        let fed := interpreter.feed patience session text
        fed.2.2.status ≠ .running → ∃ places acted,
          Machine.Walk (· = interpreter.instructions) (interpreter.given session text) places
            acted ∧
          fed.1.output = interpreter.output ++ acted.printed ∧
          fed.2 = (.after acted, acted.outcome) ∧ session.Answers lines text places acted) ∧
      ∀ (interpreter : Interpreter ν) (text : Text) (places : List Nat) (acted : Machine ν),
        Machine.Walk (fun _ => True) (interpreter.given session text) places acted →
        acted.status ≠ .running → session.Answers lines text places acted) ∧
    (session.done = true → ∀ (interpreter : Interpreter ν) (patience : Nat) (text : Text),
      interpreter.feed patience session text = (interpreter, session, session.machine.outcome)) ∧
    ∀ interpreter : Interpreter ν, (interpreter.close session).2.done = true := by
  refine ⟨fun unfinished => ?_, fun done => Session.feed_of_done done, fun _ => rfl⟩
  have ready := reached.ready unfinished
  refine ⟨ready.completed, ready.waits.fault, ready.waits.counter, ready.size, ?_, ?_, ?_⟩
  · rw [ready.size]
    exact fun colored => Session.infix_prompt colored _
  · intro interpreter patience text fed stops
    obtain ⟨places, acted, walked, output, result⟩ :=
      Session.feed_walk unfinished interpreter patience text
    have stopped : acted.status ≠ .running := by
      rw [show fed.2 = _ from result] at stops
      exact stops
    exact ⟨places, acted, walked, output, result, ready.answers walked stopped⟩
  · intro interpreter text places acted walked stopped
    exact ready.answers walked stopped

/-- A jump back to a declaration faults there, and the third line is executed all the same. -/
theorem session_between_lines_redeclared :
    let interpreter : Interpreter Int64 := .new {}
    let declared := (interpreter.feed 9 interpreter.openSession (utf8 "INTEGER a")).2.1
    let jumped := interpreter.feed 9 declared (utf8 "IF a 1")
    let printed := interpreter.feed 9 jumped.2.1 (utf8 "PRINT a")
    jumped.2.2.status = .faulted ∧ jumped.2.2.faultLine = 1 ∧ jumped.2.1.done = false ∧
      jumped.2.1.machine.status = .completed ∧ jumped.2.1.machine.fault = none ∧
      jumped.2.1.machine.counter = 2 ∧
      ∃ places acted,
        Machine.Walk (· = interpreter.instructions)
          (interpreter.given jumped.2.1 (utf8 "PRINT a")) places acted ∧
        printed.2 = (.after acted, acted.outcome) ∧
        jumped.2.1.Answers [utf8 "INTEGER a", utf8 "IF a 1"] (utf8 "PRINT a") places acted := by
  intro interpreter declared jumped printed
  have evaluated :
      ((interpreter.feed 9 interpreter.openSession (utf8 "INTEGER a")).2.2.status,
        jumped.2.2.status, printed.2.2.status, jumped.2.2.faultLine, jumped.2.1.done) =
        (.completed, .faulted, .completed, 1, false) := by
    decide +kernel
  simp only [Prod.mk.injEq] at evaluated
  obtain ⟨first, faulted, third, place, unfinished⟩ := evaluated
  have stops : jumped.2.2.status ≠ .running ∧ printed.2.2.status ≠ .running := by
    simp [faulted, third]
  have one : declared.Reached ([] ++ [utf8 "INTEGER a"]) :=
    (Session.Reached.opened interpreter).fed interpreter 9 (utf8 "INTEGER a") (by simp [first])
  -- From here on the sessions are not to be computed again.
  clear_value interpreter declared
  have two : jumped.2.1.Reached ([] ++ [utf8 "INTEGER a"] ++ [utf8 "IF a 1"]) :=
    one.fed interpreter 9 (utf8 "IF a 1") fun _ => stops.1
  obtain ⟨completed, noFault, counter, size, -, feeds, -⟩ :=
    (session_between_lines two).1 unfinished
  obtain ⟨places, acted, walked, -, result, answers⟩ :=
    feeds interpreter 9 (utf8 "PRINT a") stops.2
  exact ⟨faulted, place, unfinished, completed (by simp), noFault, counter.trans size, places,
    acted, walked, result, answers⟩

end LineMachine
