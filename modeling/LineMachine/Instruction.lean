import LineMachine.Line
import LineMachine.Log.Record
import LineMachine.Table

namespace LineMachine

/-- Where the machine goes after a line. A jump names a line by its index from zero. -/
inductive Action where
  | advance
  | jump (target : Int)
  | halt
deriving DecidableEq, Repr

/-- What a handler sees of the machine. -/
structure Call (ν : Type) where
  arguments : List Text
  position : Position
  table : Table ν
  programLength : Nat

/-- A debugging record at the line of the call. -/
def Call.debug {ν : Type} (call : Call ν) (category : Log.Category) (message : Text) :
    Log.Record :=
  { level := .debug, category, message, position := some call.position }

/-- What a handler did: the table it left, what it printed and logged, and where to go. A handler
may also end without saying where to go. -/
structure Reply (ν : Type) where
  table : Table ν
  printed : List Text := []
  records : List Log.Record := []
  verdict : Except Failure (Option Action)

/-- A reply that changes nothing. -/
def Reply.ofVerdict {ν : Type} (table : Table ν) (verdict : Except Failure (Option Action)) :
    Reply ν :=
  { table, verdict }

/-- A reply that changes nothing and reports a cause. -/
def Reply.fail {ν : Type} (table : Table ν) (cause : Cause) : Reply ν :=
  .ofVerdict table (.error (.ofCause cause))

abbrev Handler (ν : Type) := Call ν → Reply ν

structure Instruction (ν : Type) where
  name : Text
  arity : Int
  handler : Handler ν

/-- The instructions in increasing order of their names. -/
structure InstructionSet (ν : Type) where
  entries : List (Instruction ν)

namespace InstructionSet

variable {ν : Type}

def empty : InstructionSet ν := ⟨[]⟩

/-- The entries with one more, in its place by name; an entry of the same name is replaced. -/
def insert (instruction : Instruction ν) : List (Instruction ν) → List (Instruction ν)
  | [] => [instruction]
  | entry :: rest =>
    if instruction.name < entry.name then instruction :: entry :: rest
    else if instruction.name = entry.name then instruction :: rest
    else entry :: insert instruction rest

/-- Mnemonics are kept in upper case. -/
def register (set : InstructionSet ν) (name : Text) (arity : Int) (handler : Handler ν) :
    InstructionSet ν :=
  ⟨insert ⟨name.upper, arity, handler⟩ set.entries⟩

/-- The instruction with exactly this name. -/
def find? (set : InstructionSet ν) (name : Text) : Option (Instruction ν) :=
  set.entries.find? fun entry => entry.name == name

/-- The instruction of a mnemonic in any case. -/
def get? (set : InstructionSet ν) (name : Text) : Option (Instruction ν) :=
  set.find? name.upper

def unregister (set : InstructionSet ν) (name : Text) : InstructionSet ν :=
  ⟨set.entries.filter fun entry => entry.name != name.upper⟩

def names (set : InstructionSet ν) : List Text := set.entries.map Instruction.name

/-- The reply to a parsed line. A line without an instruction advances. -/
def dispatch (set : InstructionSet ν) (line : Line) (table : Table ν) (programLength : Nat) :
    Reply ν :=
  if line.isEmpty then .ofVerdict table (.ok (some .advance))
  else
    match set.find? line.command with
    | none => .fail table (.unknown line.command)
    | some instruction =>
      if (line.arguments.length : Int) = instruction.arity then
        instruction.handler
          { arguments := line.arguments, position := line.position, table, programLength }
      else .fail table (.arity instruction.name instruction.arity line.arguments.length)

end InstructionSet
end LineMachine
