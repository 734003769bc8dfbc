import LineMachine.Host
import LineMachine.Interpreter

/-! A short tour of embedding: instructions of one's own, the outcome of a faulting program, and a
machine driven step by step. -/

namespace LineMachine.Tour

/-- More steps than any program of the tour takes. -/
def patience : Nat := 1000

def measuring : Text := utf8 "
LIST l
LIST inner
INTEGER v
INTEGER n
ASSIGN v 4
MERGE v inner
ASSIGN v 5
MERGE v l
MERGE inner l
LEN l n
PRINT n
SUM l n
PRINT n
HLT"

/-- An interpreter that can measure and add up lists. -/
def interpreter : Interpreter Int64 :=
  ((Interpreter.new {}).register (utf8 "LEN") 2 HostInstruction.length.handler).register
    (utf8 "SUM") 2 HostInstruction.sum.handler

/-- The output of a program with the two new instructions. -/
def measured : Text := (interpreter.execute patience measuring).1.output.toList.flatten

/-- What is said about a program that takes the head of an empty list. -/
def faulted : Text :=
  let outcome := ((Interpreter.new {} : Interpreter Int64).execute patience
    (utf8 "LIST l\nHEAD l x\n")).2
  match outcome.status, outcome.fault with
  | .faulted, some fault =>
    (utf8 "Faulted on line " ++ Text.ofInt outcome.faultLine ++ utf8 " after " ++
      Text.ofNat outcome.steps ++ utf8 " steps: " ++ fault.text).line
  | _, _ => []

/-- What is said after each step of a machine, as long as it runs. -/
def narrate (set : InstructionSet Int64) : Nat → Machine Int64 → Text
  | 0, _ => []
  | count + 1, machine =>
    let next := machine.step set
    match next.status with
    | .running =>
      let said :=
        match next.table.integer (utf8 "x") with
        | .ok amount =>
          (utf8 "pc=" ++ Text.ofNat next.counter ++ utf8 " x=" ++ Number.text amount).line
        | .error _ => []
      said ++ narrate set count next
    | status => (utf8 "Stopped: " ++ status.name).line

def stepped : Text :=
  narrate Standard.set patience
    (.load [] false (utf8 "INTEGER x\nASSIGN x 3\nCHS x\nHLT").programLines)

/-- The whole tour. -/
def text : Text :=
  (utf8 "=== PPL Embedding Examples ===").line ++
    (utf8 "--- Example 1: LEN and SUM ---").line ++ measured ++ Text.line [] ++
    (utf8 "--- Example 2: Fault handling ---").line ++ faulted ++ Text.line [] ++
    (utf8 "--- Example 3: Stepping ---").line ++ stepped

end LineMachine.Tour
