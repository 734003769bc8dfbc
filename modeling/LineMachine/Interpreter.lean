import LineMachine.Log.Logger
import LineMachine.Machine
import LineMachine.Standard

namespace LineMachine

/-- The settings of an interpreter. No categories stand for all of them. -/
structure Settings where
  debug : Bool := false
  trace : Bool := false
  categories : List Log.Category := []
  filename : Text := []
deriving DecidableEq, Repr

/-- The logger that settings ask for. -/
def Settings.logger (settings : Settings) : Log.Logger :=
  let chosen :=
    if settings.categories.isEmpty then Log.Category.all else settings.categories
  let logger : Log.Logger := { enabled := settings.debug || settings.trace }
  let logger := logger.enableEach chosen
  if settings.trace then logger.enable Log.Category.flow else logger

structure Interpreter (ν : Type) where
  settings : Settings
  logger : Log.Logger
  instructions : InstructionSet ν
  ledger : Ledger := []
  output : Array Text := #[]
  log : Array Text := #[]

namespace Interpreter

open Log (Category)

variable {ν : Type}

/-- The interpreter writes a record, if its logger shows it. -/
def note (interpreter : Interpreter ν) (record : Log.Record) : Interpreter ν :=
  match interpreter.logger.write record with
  | some text => { interpreter with log := interpreter.log.push text }
  | none => interpreter

def register (interpreter : Interpreter ν) (name : Text) (arity : Int) (handler : Handler ν) :
    Interpreter ν :=
  let registered :=
    { interpreter with instructions := interpreter.instructions.register name arity handler }
  registered.note
    { level := .debug
      category := Category.system
      message := utf8 "Registered instruction: " ++ name.upper ++ 47 :: Text.ofInt arity }

/-- Removes an instruction and says whether there was one. -/
def unregister (interpreter : Interpreter ν) (name : Text) : Interpreter ν × Bool :=
  if (interpreter.instructions.get? name).isSome then
    let removed :=
      { interpreter with instructions := interpreter.instructions.unregister name }
    (removed.note
      { level := .debug
        category := Category.system
        message := utf8 "Unregistered instruction: " ++ name.upper }, true)
  else
    (interpreter.note
      { level := .warn
        category := Category.system
        message := utf8 "Attempted to unregister unknown instruction: " ++ name.upper }, false)

/-- A machine for some program lines. -/
def load (interpreter : Interpreter ν) (lines : List Text) : Machine ν :=
  .load interpreter.settings.filename interpreter.settings.trace lines

/-- Lets a machine act and collects what it printed and logged. All machines of an interpreter
share the ledger of kept faults. -/
def act (interpreter : Interpreter ν) (machine : Machine ν) (action : Machine ν → Machine ν) :
    Interpreter ν × Machine ν :=
  let acted :=
    action { machine with ledger := interpreter.ledger, printed := #[], records := #[] }
  ({ interpreter with
      ledger := acted.ledger
      output := interpreter.output ++ acted.printed
      log := interpreter.log ++ acted.records.filterMap interpreter.logger.write },
    { acted with printed := #[], records := #[] })

/-- Hands one line to the instruction set, outside of the machine's program. -/
def dispatch (interpreter : Interpreter ν) (machine : Machine ν) (line : Line) :
    Interpreter ν × Machine ν × Except Failure (Option Action) :=
  let reply := interpreter.instructions.dispatch line machine.table machine.program.size
  let (after, machine) := interpreter.act machine (·.absorb reply)
  (after, machine, reply.verdict)

/-- An interpreter without any instruction. -/
def bare (settings : Settings) : Interpreter ν :=
  { settings, logger := settings.logger, instructions := .empty }

variable [Number ν]

/-- Registers every standard instruction. -/
def registerStandard (interpreter : Interpreter ν) : Interpreter ν :=
  (Standard.instructions : List (Instruction ν)).foldl
    (fun interpreter entry => interpreter.register entry.name entry.arity entry.handler)
    interpreter

/-- An interpreter with the standard instructions. -/
def new (settings : Settings) : Interpreter ν :=
  registerStandard (bare settings)

/-- The record of a source about to be executed. -/
def executing (source : Text) : Log.Record where
  level := .debug
  category := Category.io
  message :=
    utf8 "Executing program of " ++ Text.ofNat source.programLines.length ++ utf8 " lines"

/-- Runs a source on a machine of its own and returns that machine. -/
def runSource (interpreter : Interpreter ν) (patience : Nat) (source : Text) :
    Interpreter ν × Machine ν :=
  let noted := interpreter.note (executing source)
  noted.act (noted.load source.programLines) (·.run noted.instructions patience)

/-- Runs a source to its end. -/
def execute (interpreter : Interpreter ν) (patience : Nat) (source : Text) :
    Interpreter ν × Outcome :=
  let (after, machine) := interpreter.runSource patience source
  (after, machine.outcome)

/-- Runs a source under a file name, which is forgotten afterwards. -/
def executeFile (interpreter : Interpreter ν) (patience : Nat) (source filename : Text) :
    Interpreter ν × Outcome :=
  let settings := interpreter.settings
  let named := { interpreter with settings := { settings with filename } }
  let (after, outcome) := named.execute patience source
  ({ after with settings }, outcome)

/-- Runs what a reader delivers; a reader that fails leads to no run at all. -/
def executeReader (interpreter : Interpreter ν) (patience : Nat) (content : Except Text Text)
    (filename : Text) : Interpreter ν × Except Text Outcome :=
  match content with
  | .error failure => (interpreter, .error failure)
  | .ok source =>
    let (after, outcome) := interpreter.executeFile patience source filename
    (after, .ok outcome)

end Interpreter
end LineMachine
