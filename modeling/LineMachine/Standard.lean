import LineMachine.Operation

namespace LineMachine.Standard

/-- The operations in the order in which they are registered. -/
def operations : List Operation :=
  [.integer, .list, .assign, .changeSign, .add, .copy, .merge, .head, .tail, .branch, .halt, .print,
    .printAll]

variable {ν : Type} [Number ν]

/-- The instruction that performs an operation. -/
def instruction (operation : Operation) : Instruction ν :=
  ⟨operation.mnemonic, operation.arity, operation.routine.handler⟩

/-- The standard instructions as they are registered. -/
def instructions : List (Instruction ν) := operations.map instruction

/-- The instruction set with every standard instruction registered. -/
def extend (set : InstructionSet ν) : InstructionSet ν :=
  instructions.foldl (fun set entry => set.register entry.name entry.arity entry.handler) set

/-- The standard instruction set. -/
def set : InstructionSet ν := extend .empty

end LineMachine.Standard
