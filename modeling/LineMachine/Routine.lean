import LineMachine.Instruction

namespace LineMachine

/-- What a routine has done so far. -/
structure Progress (ν : Type) where
  table : Table ν
  printed : List Text := []
  records : List Log.Record := []

def Routine (ν α : Type) : Type := Call ν → Progress ν → Except Cause α × Progress ν

namespace Routine

variable {ν α β : Type}

/-- The routine that does nothing and has a result. -/
def done (result : α) : Routine ν α := fun _ progress => (.ok result, progress)

/-- One routine after another. The second does not start when the first has failed. -/
def andThen (routine : Routine ν α) (next : α → Routine ν β) : Routine ν β := fun call progress =>
  match routine call progress with
  | (.ok result, after) => next result call after
  | (.error cause, after) => (.error cause, after)

instance : Monad (Routine ν) where
  pure := done
  bind := andThen

/-- A result that was found without the help of the machine, or a cause to fail. -/
def settle (result : Except Cause α) : Routine ν α := fun _ progress => (result, progress)

/-- The argument at a place counted from zero. -/
def argument (place : Nat) : Routine ν Text := fun call progress =>
  match call.arguments[place]? with
  | some token => (.ok token, progress)
  | none => (.error (.broken (.missingArgument place)), progress)

/-- The number of lines of the program. -/
def programLength : Routine ν Nat := fun call progress => (.ok call.programLength, progress)

/-- The answer of the table to a question. -/
def ask (question : Table ν → Except Cause α) : Routine ν α := fun _ progress =>
  (question progress.table, progress)

/-- A change of the table. A refused change leaves the table as it is. -/
def change (edit : Table ν → Except Cause (Table ν)) : Routine ν Unit := fun _ progress =>
  match edit progress.table with
  | .ok table => (.ok (), { progress with table })
  | .error cause => (.error cause, progress)

def print (text : Table ν → Text) : Routine ν Unit := fun _ progress =>
  (.ok (), { progress with printed := progress.printed ++ [text progress.table] })

/-- A debugging record at the line of the call. -/
def note (category : Log.Category) (message : Text) : Routine ν Unit := fun call progress =>
  (.ok (), { progress with records := progress.records ++ [call.debug category message] })

/-- The handler with a routine as its body. -/
def handler (routine : Routine ν Action) : Handler ν := fun call =>
  let (result, progress) := routine call { table := call.table }
  { table := progress.table
    printed := progress.printed
    records := progress.records
    verdict :=
      match result with
      | .ok action => .ok (some action)
      | .error cause => .error (.ofCause cause) }

end Routine
end LineMachine
