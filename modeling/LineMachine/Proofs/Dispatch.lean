import LineMachine.Proofs.Effects
import LineMachine.Proofs.Turn

namespace LineMachine

namespace InstructionSet

variable {ν : Type}

/-- An inserted entry is found under its name, and every other name finds what it found before. -/
theorem find?_insert (entry : Instruction ν) (entries : List (Instruction ν)) (name : Text) :
    (insert entry entries).find? (fun other => other.name == name) =
      if entry.name = name then some entry
      else entries.find? fun other => other.name == name := by
  induction entries with
  | nil => by_cases same : entry.name = name <;> simp [insert, same]
  | cons first rest inductionHypothesis =>
    rw [insert]
    split
    · by_cases same : entry.name = name <;> simp [same]
    · split
      · rename_i sameEntry
        by_cases same : entry.name = name <;> simp [← sameEntry, same]
      · rename_i otherEntry
        rw [List.find?_cons, inductionHypothesis, List.find?_cons]
        by_cases same : first.name = name
        · have other : entry.name ≠ name := fun named => otherEntry (named.trans same.symm)
          simp [same, other]
        · simp only [beq_eq_false_iff_ne.mpr same]

theorem find?_register (set : InstructionSet ν) (name other : Text) (arity : Int)
    (handler : Handler ν) :
    (set.register name arity handler).find? other =
      if name.upper = other then some ⟨name.upper, arity, handler⟩ else set.find? other :=
  find?_insert _ _ _

/-- After distinct registrations a name finds the new instruction of that name, or else the old
one. -/
theorem find?_registerAll (entries : List (Instruction ν))
    (upper : ∀ entry ∈ entries, entry.name.upper = entry.name)
    (distinct : (entries.map Instruction.name).Nodup) (set : InstructionSet ν) (name : Text) :
    (entries.foldl (fun set entry => set.register entry.name entry.arity entry.handler) set).find?
        name =
      (entries.find? fun entry => entry.name == name).or (set.find? name) := by
  induction entries generalizing set with
  | nil => simp
  | cons first rest inductionHypothesis =>
    rw [List.map_cons, List.nodup_cons] at distinct
    rw [List.foldl_cons, inductionHypothesis (fun entry member => upper entry (by simp [member]))
      distinct.2, find?_register, upper first (by simp), List.find?_cons]
    by_cases same : first.name = name
    · have absent : rest.find? (fun entry => entry.name == name) = none := by
        rw [List.find?_eq_none]
        intro entry member named
        apply distinct.1
        rw [same]
        exact List.mem_map.mpr ⟨entry, member, by simpa using named⟩
      rw [if_pos same, absent, beq_iff_eq.mpr same]
      rfl
    · rw [if_neg same, beq_eq_false_iff_ne.mpr same]

end InstructionSet

namespace Operation

/-- Mnemonics are in upper case. -/
theorem mnemonic_upper (operation : Operation) : operation.mnemonic.upper = operation.mnemonic := by
  cases operation <;> rfl

end Operation

/-- The reply of an instruction that has an effect at a line. -/
def Effect.reply {ν : Type} (effect : Effect ν) (position : Position) : Reply ν where
  table := effect.table
  printed := effect.printed
  records := effect.notes.map fun (category, message) =>
    { level := .debug, category, message, position := some position }
  verdict := .ok (some effect.action)

/-- The machine accepts every effect whose checks have passed. -/
theorem Operation.effect_accepted {ν : Type} [Number ν] {operation : Operation} {table : Table ν}
    {arguments : List Text} {length : Nat} (enough : arguments.length = operation.arity)
    (passed : operation.failure? arguments table length = none) (line : Line) (position : Position) :
    Machine.rejection? line length
      ((operation.effect table arguments).reply position).verdict = none := by
  cases acts : (operation.effect table arguments).action with
  | advance | halt => simp [Effect.reply, acts, Machine.rejection?]
  | jump target =>
    have inside := effect_jump enough passed acts
    simp [Effect.reply, acts, Machine.rejection?, inside]

/-- The handler of an operation reports the first failed check or has the effect. -/
theorem Operation.handler_follows {ν : Type} [Number ν] (operation : Operation) {call : Call ν}
    (formed : call.table.WellFormed) (enough : call.arguments.length = operation.arity) :
    operation.routine.handler call =
      match operation.failure? call.arguments call.table call.programLength with
      | some cause => .fail call.table cause
      | none => (operation.effect call.table call.arguments).reply call.position := by
  have followed : operation.routine call { table := call.table } =
      operation.outcome call { table := call.table } := operation.routine_follows formed enough
  rw [Routine.handler, followed, outcome]
  cases operation.failure? call.arguments call.table call.programLength with
  | some cause => rfl
  | none => simp [Progress.after, Effect.reply, Call.debug]

/-- A routine fails with a cause that has no place. -/
theorem Routine.handler_failure {ν : Type} (routine : Routine ν Action) {call : Call ν}
    {failure : Failure} (reported : (routine.handler call).verdict = .error failure) :
    ∃ cause, failure = .ofCause cause := by
  rw [Routine.handler] at reported
  simp only at reported
  split at reported
  · contradiction
  · exact ⟨_, (Except.error.inj reported).symm⟩

namespace Standard

/-- The mnemonics of the standard operations are distinct. -/
theorem mnemonics_nodup : (operations.map Operation.mnemonic).Nodup := by
  decide

/-- The operation that a mnemonic stands for. -/
def operation? (mnemonic : Text) : Option Operation :=
  operations.find? fun operation => operation.mnemonic == mnemonic

/-- A blank line stands for no operation. -/
theorem operation?_blank {line : Line} (blank : line.isEmpty) : operation? line.command = none := by
  rw [List.isEmpty_iff.mp blank]
  rfl

variable {ν : Type} [Number ν]

/-- The standard instruction set finds the instruction of the operation of a mnemonic. -/
theorem set_find? (mnemonic : Text) :
    (set : InstructionSet ν).find? mnemonic = (operation? mnemonic).map instruction := by
  have names : (instructions : List (Instruction ν)).map Instruction.name =
      operations.map Operation.mnemonic := by
    simp [instructions, instruction, Function.comp_def]
  rw [set, extend, InstructionSet.find?_registerAll]
  · simp [instructions, List.find?_map, operation?, InstructionSet.find?, InstructionSet.empty,
      instruction, Function.comp_def]
  · intro entry member
    obtain ⟨operation, -, rfl⟩ := List.mem_map.mp member
    exact operation.mnemonic_upper
  · rw [names]
    exact mnemonics_nodup

/-- A standard line fails with a cause that has no place, on any table. -/
theorem dispatch_failure {line : Line} {table : Table ν} {length : Nat} {failure : Failure}
    (reported : (set.dispatch line table length).verdict = .error failure) :
    ∃ cause, failure = .ofCause cause := by
  rw [InstructionSet.dispatch, set_find?] at reported
  split at reported
  · simp [Reply.ofVerdict] at reported
  · cases named : operation? line.command with
    | none =>
      rw [named] at reported
      exact ⟨_, (Except.error.inj reported).symm⟩
    | some operation =>
      simp only [named, Option.map_some] at reported
      split at reported
      · exact operation.routine.handler_failure reported
      · exact ⟨_, (Except.error.inj reported).symm⟩

/-- The answer of the standard instruction set to a line, on a well-formed table. -/
theorem dispatch_eq {table : Table ν} (formed : table.WellFormed) (line : Line) (length : Nat) :
    set.dispatch line table length =
      if line.isEmpty then .ofVerdict table (.ok (some .advance))
      else match operation? line.command with
        | none => .fail table (.unknown line.command)
        | some operation =>
          if line.arguments.length = operation.arity then
            match operation.failure? line.arguments table length with
            | some cause => .fail table cause
            | none => (operation.effect table line.arguments).reply line.position
          else .fail table (.arity operation.mnemonic operation.arity line.arguments.length) := by
  rw [InstructionSet.dispatch, set_find?]
  split
  · rfl
  · cases operation? line.command with
    | none => rfl
    | some operation =>
      simp only [Option.map_some, instruction, Int.natCast_inj]
      split
      · rename_i enough
        exact operation.handler_follows formed enough
      · rfl

/-- A line with enough arguments is answered by the rule of its operation. -/
theorem dispatch_operation {table : Table ν} (formed : table.WellFormed) {line : Line}
    {operation : Operation} (named : operation? line.command = some operation)
    (enough : line.arguments.length = operation.arity) (length : Nat) :
    set.dispatch line table length =
      match operation.failure? line.arguments table length with
      | some cause => .fail table cause
      | none => (operation.effect table line.arguments).reply line.position := by
  have instructed : ¬ line.isEmpty := by
    intro blank
    rw [operation?_blank blank] at named
    contradiction
  rw [dispatch_eq formed, if_neg instructed, named]
  exact if_pos enough

/-- The ways in which the standard instruction set answers a line. -/
inductive Answer (line : Line) (table : Table ν) (length : Nat) : Reply ν → Prop where
  | blank (empty : line.isEmpty) : Answer line table length (.ofVerdict table (.ok (some .advance)))
  | refused (cause : Cause) (standard : cause.kind ∈ FaultKind.standard) :
    Answer line table length (.fail table cause)
  | performed (operation : Operation) (named : operation? line.command = some operation)
    (enough : line.arguments.length = operation.arity)
    (passed : operation.failure? line.arguments table length = none) :
    Answer line table length ((operation.effect table line.arguments).reply line.position)

theorem dispatch_answer {table : Table ν} (formed : table.WellFormed) (line : Line)
    (length : Nat) : Answer line table length (set.dispatch line table length) := by
  rw [dispatch_eq formed]
  split
  · exact .blank ‹_›
  · cases named : operation? line.command with
    | none => exact .refused _ (by simp [Cause.kind, FaultKind.standard])
    | some operation =>
      by_cases enough : line.arguments.length = operation.arity
      · simp only [enough, if_true]
        cases failed : operation.failure? line.arguments table length with
        | some cause => exact .refused cause (Operation.failure?_standard failed)
        | none => exact .performed operation named enough failed
      · simp only [enough, if_false]
        exact .refused _ (by simp [Cause.kind, FaultKind.standard])

namespace Answer

variable {line : Line} {table : Table ν} {length : Nat} {reply : Reply ν}

theorem wellFormed (answer : Answer line table length reply) (formed : table.WellFormed) :
    reply.table.WellFormed := by
  cases answer with
  | blank | refused => exact formed
  | performed operation _ enough passed => exact Operation.effect_wellFormed formed enough passed

/-- No answer takes a name away or changes its kind. -/
theorem signature (answer : Answer line table length reply) :
    table.signature <+: reply.table.signature := by
  cases answer with
  | blank | refused => exact List.prefix_refl _
  | performed operation _ enough _ =>
    rw [Effect.reply, Operation.effect_signature enough]
    exact List.prefix_append _ _

/-- An answer that the machine rejects has changed and printed nothing. -/
theorem rejected (answer : Answer line table length reply) {failure : Failure}
    (rejection : Machine.rejection? line length reply.verdict = some failure) :
    ∃ cause, cause.kind ∈ FaultKind.standard ∧ reply = .fail table cause ∧
      failure = .ofCause cause := by
  cases answer with
  | blank => simp [Reply.ofVerdict, Machine.rejection?] at rejection
  | refused cause standard =>
    exact ⟨cause, standard, rfl, (Option.some.inj rejection).symm⟩
  | performed operation _ enough passed =>
    rw [Operation.effect_accepted enough passed] at rejection
    contradiction

/-- An answer never tells of a broken assumption. -/
theorem not_broken (answer : Answer line table length reply) (defect : Defect) :
    reply.verdict ≠ .error (.ofCause (.broken defect)) := by
  cases answer with
  | blank | performed => simp [Reply.ofVerdict, Effect.reply]
  | refused cause standard =>
    intro broken
    have same : cause = .broken defect := by
      simpa [Reply.fail, Reply.ofVerdict, Failure.ofCause] using broken
    rw [same] at standard
    exact Cause.broken_not_standard defect standard

end Answer

/-- A line that is accepted in a program is answered in the same way in a longer one. -/
theorem dispatch_grows {table : Table ν} (formed : table.WellFormed) {shorter longer : Nat}
    (grows : shorter ≤ longer) {line : Line} {action : Option Action}
    (accepted : (set.dispatch line table shorter).verdict = .ok action) :
    set.dispatch line table longer = set.dispatch line table shorter := by
  rw [dispatch_eq formed] at accepted
  rw [dispatch_eq formed, dispatch_eq formed]
  cases named : operation? line.command with
  | none => rfl
  | some operation =>
    cases failed : operation.failure? line.arguments table shorter with
    | none => simp only [failed, Operation.failure?_grows grows failed]
    | some cause =>
      by_cases empty : line.isEmpty
      · simp [empty]
      · by_cases enough : line.arguments.length = operation.arity
        · simp [empty, named, enough, failed, Reply.fail, Reply.ofVerdict] at accepted
        · simp [empty, enough]

end Standard
end LineMachine
