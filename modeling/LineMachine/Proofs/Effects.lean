import LineMachine.Proofs.Rules

namespace LineMachine

/-- The kinds of fault that belong to the language itself. -/
def FaultKind.standard : List FaultKind :=
  [.duplicateDeclaration, .undeclaredIdentifier, .typeMismatch, .wrongArity, .unknownInstruction,
    .emptyListAccess, .invalidLiteral, .jumpOutOfRange]

/-- A broken assumption is no fault of the language. -/
theorem Cause.broken_not_standard (defect : Defect) :
    (Cause.broken defect).kind ∉ FaultKind.standard := by
  simp [Cause.kind, FaultKind.standard]

theorem Table.refusal?_standard {ν : Type} {table : Table ν} {name : Text} {kind : Kind}
    {cause : Cause} (refused : table.refusal? name kind = some cause) :
    cause.kind ∈ FaultKind.standard := by
  simp only [refusal?] at refused
  split at refused
  · cases refused
    simp [Cause.kind, FaultKind.standard]
  · split at refused <;> cases refused
    simp [Cause.kind, FaultKind.standard]

namespace Check

variable {ν : Type} {table : Table ν}

/-- A check fails with a fault of the language. -/
theorem failure?_standard {length : Nat} {check : Check} {cause : Cause}
    (failed : check.failure? table length = some cause) : cause.kind ∈ FaultKind.standard := by
  cases check with
  | kindOf name expected => exact Table.refusal?_standard failed
  | receives target source =>
    simp only [failure?] at failed
    split at failed
    · exact Table.refusal?_standard failed
    · cases failed
  | lineLiteral token =>
    simp only [failure?] at failed
    split at failed
    · split at failed <;> cases failed
      simp [Cause.kind, FaultKind.standard]
    · cases failed
      simp [Cause.kind, FaultKind.standard]
  | lineWithin token =>
    simp only [failure?] at failed
    split at failed
    · split at failed <;> cases failed
      simp [Cause.kind, FaultKind.standard]
    · cases failed
  | fresh name | declared name | literal name | filled name =>
    simp only [failure?] at failed
    split at failed <;> cases failed
    simp [Cause.kind, FaultKind.standard]

/-- A check that passes also passes in a longer program. -/
theorem failure?_grows {shorter longer : Nat} (grows : shorter ≤ longer) {check : Check}
    (passed : check.failure? table shorter = none) : check.failure? table longer = none := by
  cases check with
  | lineWithin token =>
    simp only [failure?] at passed ⊢
    cases read : token.toInt64? with
    | none => rfl
    | some line =>
      have within : line ≤ shorter := by simpa [read] using passed
      simp [show line ≤ longer by omega]
  | _ => exact passed

end Check

namespace Operation

variable {ν : Type} {table : Table ν} {operation : Operation} {arguments : List Text}

theorem failure?_standard {length : Nat} {cause : Cause}
    (failed : operation.failure? arguments table length = some cause) :
    cause.kind ∈ FaultKind.standard := by
  obtain ⟨check, -, checkFailed⟩ := List.exists_of_findSome?_eq_some failed
  exact Check.failure?_standard checkFailed

theorem failure?_grows {shorter longer : Nat} (grows : shorter ≤ longer)
    (passed : operation.failure? arguments table shorter = none) :
    operation.failure? arguments table longer = none := by
  rw [failure?, List.findSome?_eq_none_iff] at passed ⊢
  intro check member
  exact Check.failure?_grows grows (passed check member)

/-- The name and kind that an operation declares, if it is a declaration. -/
def declared? : Operation → List Text → Option (Text × Kind)
  | .integer, [name] => some (name, .integer)
  | .list, [name] => some (name, .list)
  | _, _ => none

variable [Number ν]

/-- An effect keeps every name and kind in place; a declaration adds one at the end. -/
theorem effect_signature (enough : arguments.length = operation.arity) :
    (operation.effect table arguments).table.signature =
      table.signature ++ (operation.declared? arguments).toList := by
  cases operation with
  | integer | list | changeSign | print =>
    obtain ⟨name, rfl⟩ := List.length_eq_one_iff.mp enough
    simp [effect, declared?]
  | assign | add | copy | merge | head | tail =>
    obtain ⟨first, second, rfl⟩ := List.length_eq_two.mp enough
    simp [effect, declared?]
  | branch =>
    obtain ⟨first, second, rfl⟩ := List.length_eq_two.mp enough
    simp only [effect, declared?]
    split <;> simp
  | halt | printAll =>
    obtain rfl := List.length_eq_zero_iff.mp enough
    simp [effect, declared?]

/-- Only a branch jumps, and it jumps to the line with the number that it names. -/
theorem effect_jump_branch (enough : arguments.length = operation.arity) {length : Nat}
    (passed : operation.failure? arguments table length = none) {target : Int}
    (jumps : (operation.effect table arguments).action = .jump target) :
    operation = .branch ∧ ∃ name token, arguments = [name, token] ∧ 0 ≤ target ∧
      token.toInt64? = some (target + 1) := by
  rw [failure?, List.findSome?_eq_none_iff] at passed
  cases operation with
  | branch =>
    obtain ⟨name, token, rfl⟩ := List.length_eq_two.mp enough
    have positive := passed (.lineLiteral token) (by simp [checks])
    refine ⟨rfl, name, token, rfl, ?_⟩
    simp only [Check.failure?] at positive
    simp only [effect] at jumps
    cases read : token.toInt64? with
    | none => simp [read] at positive
    | some line =>
      simp only [read, ite_eq_left_iff, reduceCtorEq, imp_false, not_not] at positive
      split at jumps
      · have reached : ((line.toNat : Nat) : Int) - 1 = target := by
          simpa [read] using Action.jump.inj jumps
        exact ⟨by omega, congrArg some (by omega)⟩
      · contradiction
  | integer | list | changeSign | print =>
    obtain ⟨name, rfl⟩ := List.length_eq_one_iff.mp enough
    simp [effect] at jumps
  | assign | add | copy | merge | head | tail =>
    obtain ⟨first, second, rfl⟩ := List.length_eq_two.mp enough
    simp [effect] at jumps
  | halt | printAll =>
    obtain rfl := List.length_eq_zero_iff.mp enough
    simp [effect] at jumps

/-- A jump whose checks have passed leads to a line of the program. -/
theorem effect_jump (enough : arguments.length = operation.arity) {length : Nat}
    (passed : operation.failure? arguments table length = none) {target : Int}
    (jumps : (operation.effect table arguments).action = .jump target) :
    0 ≤ target ∧ target < length := by
  obtain ⟨rfl, name, token, rfl, positive, read⟩ := effect_jump_branch enough passed jumps
  rw [failure?, List.findSome?_eq_none_iff] at passed
  have within : target + 1 ≤ length := by
    simpa [Check.failure?, read] using passed (.lineWithin token) (by simp [checks])
  exact ⟨positive, by omega⟩

/-- An effect whose checks have passed keeps the table well formed. -/
theorem effect_wellFormed (formed : table.WellFormed) (enough : arguments.length = operation.arity)
    {length : Nat} (passed : operation.failure? arguments table length = none) :
    (operation.effect table arguments).table.WellFormed := by
  rw [failure?, List.findSome?_eq_none_iff] at passed
  cases operation with
  | integer | list =>
    obtain ⟨name, rfl⟩ := List.length_eq_one_iff.mp enough
    have absent : table.find? name = none := by
      simpa [checks, Check.failure?] using passed
    exact formed.push absent rfl
  | changeSign =>
    obtain ⟨name, rfl⟩ := List.length_eq_one_iff.mp enough
    exact formed.put (passed (.kindOf name .integer) (by simp [checks]))
  | assign | add =>
    obtain ⟨first, second, rfl⟩ := List.length_eq_two.mp enough
    exact formed.put (passed (.kindOf first .integer) (by simp [checks]))
  | copy | merge | tail =>
    obtain ⟨first, second, rfl⟩ := List.length_eq_two.mp enough
    exact formed.put (passed (.kindOf second .list) (by simp [checks]))
  | head =>
    obtain ⟨source, target, rfl⟩ := List.length_eq_two.mp enough
    have filled := passed (.filled source) (by simp [checks])
    have receives := passed (.receives target source) (by simp [checks])
    simp only [Check.failure?] at filled receives
    simp only [effect]
    cases items : table.itemsOf source with
    | nil => simp [items] at filled
    | cons first rest => exact formed.put (by simpa [items] using receives)
  | branch =>
    obtain ⟨name, token, rfl⟩ := List.length_eq_two.mp enough
    simp only [effect]
    split <;> exact formed
  | print =>
    obtain ⟨name, rfl⟩ := List.length_eq_one_iff.mp enough
    exact formed
  | halt | printAll =>
    obtain rfl := List.length_eq_zero_iff.mp enough
    exact formed

end Operation
end LineMachine
