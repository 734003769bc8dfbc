import LineMachine.Instruction

/-! Ready-made instructions for programs that embed the machine. -/

namespace LineMachine

inductive HostInstruction where
  | advance
  | halt
  | jump (target : Int)
  | silent
  | foreign (message : Text)
  | report (fault : Fault)
  | kept (slot : Nat) (fault : Fault)
  | wrapped (fault : Fault)
  | showCall
  | log (category : Log.Category) (message : Text)
  | double
  | length
  | sum
deriving DecidableEq, Repr

namespace HostInstruction

variable {ν : Type} [Number ν]

/-- The line that counts and lists the arguments, and the line that says where the call is. -/
def describe (call : Call ν) : Text :=
  (Text.ofNat call.arguments.length ++ 47 :: Text.ofNat call.programLength ++
    58 :: Text.joinWith [124] call.arguments).line ++ call.position.label.line

/-- The argument at an index; instructions are registered with as many as they use. -/
def argument (call : Call ν) (index : Nat) : Text := call.arguments.getD index []

/-- A reply that leaves a new table or reports a cause. -/
def settle (call : Call ν) : Except Cause (Table ν) → Reply ν
  | .ok table => .ofVerdict table (.ok (some .advance))
  | .error cause => .fail call.table cause

def handler (instruction : HostInstruction) : Handler ν := fun call =>
  match instruction with
  | .advance => .ofVerdict call.table (.ok (some .advance))
  | .halt => .ofVerdict call.table (.ok (some .halt))
  | .jump target => .ofVerdict call.table (.ok (some (.jump target)))
  | .silent => .ofVerdict call.table (.ok none)
  | .foreign message => .ofVerdict call.table (.error (.foreign message))
  | .report fault => .ofVerdict call.table (.error (.raised fault))
  | .kept slot fault => .ofVerdict call.table (.error (.kept slot fault))
  | .wrapped fault =>
    .ofVerdict call.table (.error (.wrapped (utf8 "wrapped: " ++ fault.text) (.raised fault)))
  | .showCall =>
    { table := call.table, printed := [describe call], verdict := .ok (some .advance) }
  | .log category message =>
    { table := call.table
      records := [call.debug category message]
      verdict := .ok (some .advance) }
  | .double => settle call do
    let amount ← call.table.integer (argument call 0)
    call.table.setInteger (argument call 0) (Number.add amount amount)
  | .length => settle call do
    let items ← call.table.list (argument call 0)
    call.table.setInteger (argument call 1) (Number.ofInt items.length)
  | .sum => settle call do
    let items ← call.table.list (argument call 0)
    call.table.setInteger (argument call 1) (Value.sumItems items)

end HostInstruction
end LineMachine
