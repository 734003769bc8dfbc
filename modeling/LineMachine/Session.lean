import LineMachine.Interpreter

namespace LineMachine

structure Session (ν : Type) where
  machine : Machine ν
  done : Bool := false

namespace Interpreter

variable {ν : Type}

/-- A session without any line. -/
def openSession (interpreter : Interpreter ν) : Session ν := ⟨interpreter.load [], false⟩

/-- Adds a line and runs until more input is needed. The outcome still tells of a fault that the
session has recovered from. -/
def feed (interpreter : Interpreter ν) (patience : Nat) (session : Session ν) (line : Text) :
    Interpreter ν × Session ν × Outcome :=
  if session.done then (interpreter, session, session.machine.outcome)
  else
    let (after, machine) := interpreter.act session.machine fun machine =>
      (machine.append line).resume interpreter.instructions patience
    (after, ⟨machine.recover, machine.status = .halted⟩, machine.outcome)

variable [Number ν]

/-- Ends a session and prints the final table. -/
def close (interpreter : Interpreter ν) (session : Session ν) : Interpreter ν × Session ν :=
  let (after, machine) := interpreter.act session.machine Machine.printFinal
  (after, ⟨machine, true⟩)

end Interpreter
end LineMachine
