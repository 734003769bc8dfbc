import LineMachine.Instruction

namespace LineMachine

inductive Status where
  | running
  | halted
  | faulted
  | completed
deriving DecidableEq, Repr

namespace Status

def name : Status → Text
  | .running => utf8 "running"
  | .halted => utf8 "halted"
  | .faulted => utf8 "faulted"
  | .completed => utf8 "completed"

/-- The name of a status by its number; a number without a status has a name too. -/
def nameOfCode : Int → Text
  | 0 => running.name
  | 1 => halted.name
  | 2 => faulted.name
  | 3 => completed.name
  | code => utf8 "status(" ++ Text.ofInt code ++ utf8 ")"

end Status

/-- How a run stands: the fault line is zero without a located fault. -/
structure Outcome where
  status : Status
  fault : Option Fault
  faultLine : Int
  steps : Nat
deriving DecidableEq, Repr

structure Machine (ν : Type) where
  program : Array Line
  filename : Text := []
  tracing : Bool := false
  counter : Nat := 0
  table : Table ν
  status : Status := .running
  fault : Option Fault := none
  steps : Nat := 0
  ledger : Ledger := []
  printed : Array Text := #[]
  records : Array Log.Record := #[]

namespace Machine

open Log (Category)

variable {ν : Type}

/-- A machine at the first line of a program, with nothing declared. -/
def load (filename : Text) (tracing : Bool) (lines : List Text) : Machine ν :=
  { program := (Line.parseAll filename lines).toArray, filename, tracing, table := .empty }

def print (machine : Machine ν) (text : Text) : Machine ν :=
  { machine with printed := machine.printed.push text }

def note (machine : Machine ν) (record : Log.Record) : Machine ν :=
  { machine with records := machine.records.push record }

/-- A tracing record about the flow of control. -/
def noteFlow (machine : Machine ν) (message : Text) : Machine ν :=
  machine.note { level := .trace, category := Category.flow, message }

/-- The three lines that report a fault. -/
def faultBlock (line : Line) (fault : Fault) : Text :=
  (utf8 "Runtime error at line " ++ Text.ofInt line.position.line).line ++
    (utf8 "  " ++ line.position.text).line ++ (utf8 "  " ++ fault.text).line

/-- The record of a fault under the mnemonic of its line. -/
def faultRecord (command : Text) (fault : Fault) : Log.Record :=
  let message := if command.isEmpty then fault.text else command.upper ++ utf8 ": " ++ fault.text
  { level := .debug, category := Category.command, message, position := fault.position }

/-- The machine stops with a fault and reports it. -/
def raise (machine : Machine ν) (line : Line) (failure : Failure) : Machine ν :=
  let (fault, ledger) := failure.locate line.position machine.ledger
  let faulted := { machine with fault := some fault, ledger, status := .faulted }
  (faulted.note (faultRecord line.command fault)).print (faultBlock line fault)

/-- The record of a line about to be executed. -/
def traceLine (machine : Machine ν) (line : Line) : Machine ν :=
  if machine.tracing && !line.isEmpty then
    machine.noteFlow (utf8 "pc=" ++ Text.ofNat machine.counter ++ 32 :: line.command ++
      32 :: Text.joinWith [32] line.arguments)
  else machine

/-- The machine with the table of a reply, and with all that was printed and logged. -/
def absorb (machine : Machine ν) (reply : Reply ν) : Machine ν :=
  { machine with
    table := reply.table
    printed := machine.printed ++ reply.printed
    records := machine.records ++ reply.records }

/-- The machine moves as the verdict on a line says. -/
def follow (machine : Machine ν) (line : Line) : Except Failure (Option Action) → Machine ν
  | .error failure => machine.raise line failure
  | .ok none => machine.raise line (.ofCause (.noResult line.command))
  | .ok (some .advance) => { machine with counter := machine.counter + 1 }
  | .ok (some (.jump target)) =>
    if 0 ≤ target ∧ target < machine.program.size then
      let noted := machine.noteFlow (utf8 "jump " ++ Text.ofNat (machine.counter + 1) ++
        utf8 " -> " ++ Text.ofInt (target + 1))
      { noted with counter := target.toNat }
    else machine.raise line (.ofCause (.targetOutside (wrap (target + 1))))
  | .ok (some .halt) =>
    { machine with status := .halted }.noteFlow
      (utf8 "halted at line " ++ Text.ofNat (machine.counter + 1))

/-- The machine after one line. -/
def execute (machine : Machine ν) (set : InstructionSet ν) (line : Line) : Machine ν :=
  let counted := { machine with steps := machine.steps + 1 }.traceLine line
  let reply := set.dispatch line machine.table machine.program.size
  (counted.absorb reply).follow line reply.verdict

/-- One step. A machine that is not running stays as it is, and one whose counter has left the
program completes. -/
def step (set : InstructionSet ν) (machine : Machine ν) : Machine ν :=
  match machine.status with
  | .running =>
    match machine.program[machine.counter]? with
    | some line => machine.execute set line
    | none =>
      { machine with status := .completed }.noteFlow
        (utf8 "pc " ++ Text.ofNat machine.counter ++ utf8 " outside program, stopping")
  | _ => machine

/-- At most so many steps, ending early when the machine stops. -/
def drive (set : InstructionSet ν) : Nat → Machine ν → Machine ν
  | 0, machine => machine
  | count + 1, machine =>
    let next := machine.step set
    match next.status with
    | .running => drive set count next
    | _ => next

/-- A completed machine runs again once there are lines after its counter. -/
def wake (machine : Machine ν) : Machine ν :=
  if machine.status = .completed ∧ machine.counter < machine.program.size then
    { machine with status := .running }
  else machine

/-- The machine goes on until it stops, for at most so many steps. -/
def resume (set : InstructionSet ν) (patience : Nat) (machine : Machine ν) : Machine ν :=
  machine.wake.drive set patience

/-- The machine adds a line to the end of its program. -/
def append (machine : Machine ν) (text : Text) : Machine ν :=
  { machine with
    program := machine.program.push
      (Line.parse machine.filename text (machine.program.size + 1)) }

/-- A faulted machine forgets its fault and waits at the end of its program. -/
def recover (machine : Machine ν) : Machine ν :=
  if machine.status = .faulted then
    { machine with fault := none, counter := machine.program.size, status := .completed }
  else machine

def outcome (machine : Machine ν) : Outcome :=
  { status := machine.status
    fault := machine.fault
    faultLine :=
      match machine.fault with
      | some { position := some position, .. } => position.line
      | _ => 0
    steps := machine.steps }

variable [Number ν]

def printTable (machine : Machine ν) : Machine ν := machine.print machine.table.symbolBlock

def printFinal (machine : Machine ν) : Machine ν := machine.print machine.table.finalBlock

/-- The machine goes on until it stops and prints its final table. -/
def run (set : InstructionSet ν) (patience : Nat) (machine : Machine ν) : Machine ν :=
  (machine.resume set patience).printFinal

end Machine
end LineMachine
