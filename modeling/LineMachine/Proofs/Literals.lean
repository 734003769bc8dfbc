import LineMachine.Proofs.Decimals
import LineMachine.Proofs.Writing
import Mathlib.Data.List.Induction
import Mathlib.Data.Nat.Digits.Defs

namespace LineMachine

namespace Text

/-- The value of decimal digits by their places, the last of them the lowest. -/
def decimal (digits : Text) : Nat :=
  Nat.ofDigits 10 (digits.reverse.map fun byte => byte.toNat - 48)

/-- Decimal digits after at most one sign denote an integer. -/
inductive Denotes : Text → Int → Prop where
  | unsigned {digits : Text} (isDecimal : digits.IsDecimal) : Denotes digits digits.decimal
  | plus {digits : Text} (isDecimal : digits.IsDecimal) : Denotes (43 :: digits) digits.decimal
  | minus {digits : Text} (isDecimal : digits.IsDecimal) : Denotes (45 :: digits) (-digits.decimal)

/-- A token denotes an integer that fits into a word. -/
structure IsLiteral (token : Text) (value : Int) : Prop where
  denotes : token.Denotes value
  low : -9223372036854775808 ≤ value
  high : value ≤ 9223372036854775807

/-- The word of a literal has its value. -/
theorem IsLiteral.toInt_ofInt {token : Text} {value : Int} (isLiteral : token.IsLiteral value) :
    (Int64.ofInt value).toInt = value := by
  have low := isLiteral.low
  have high := isLiteral.high
  exact Int64.toInt_ofInt_of_le (by omega) (by omega)

/-- Digits that are taken in from the left have the value of their places. -/
theorem foldl_eq_decimal (digits : Text) :
    digits.foldl (fun value byte => 10 * value + (byte.toNat - 48)) 0 = digits.decimal := by
  -- The fold takes the last digit last, and that digit is the first of the places.
  induction digits using List.reverseRecOn with
  | nil => rfl
  | append_singleton digits byte inductionHypothesis =>
    rw [List.foldl_append, inductionHypothesis, List.foldl_cons, List.foldl_nil, decimal, decimal,
      List.reverse_append, List.reverse_singleton, List.singleton_append, List.map_cons,
      Nat.ofDigits_cons, Nat.add_comm]

theorem toNat?_eq_some_iff {digits : Text} {value : Nat} :
    toNat? digits = some value ↔ digits.IsDecimal ∧ digits.decimal = value := by
  rw [toNat?, foldl_eq_decimal]
  constructor
  · intro read
    split at read
    · rename_i isDecimal
      rw [Bool.and_eq_true, Bool.not_eq_true', List.isEmpty_eq_false_iff, List.all_eq_true]
        at isDecimal
      exact ⟨⟨isDecimal.1, isDecimal.2⟩, Option.some.inj read⟩
    · contradiction
  · rintro ⟨⟨nonempty, digits⟩, rfl⟩
    simpa [nonempty] using digits

/-- Exactly the integers that a text denotes are read from it. -/
theorem toInt?_eq_some_iff {token : Text} {value : Int} :
    toInt? token = some value ↔ token.Denotes value := by
  constructor
  · intro read
    rw [toInt?.eq_def] at read
    split at read
    · obtain ⟨number, digitsRead, rfl⟩ := Option.map_eq_some_iff.mp read
      obtain ⟨isDecimal, rfl⟩ := toNat?_eq_some_iff.mp digitsRead
      exact .plus isDecimal
    · -- The number becomes an integer before it is negated.
      obtain ⟨number, digitsRead, rfl⟩ := Option.map_eq_some_iff.mp read
      obtain ⟨natural, naturalRead, same⟩ := Option.bind_eq_some_iff.mp digitsRead
      obtain ⟨isDecimal, rfl⟩ := toNat?_eq_some_iff.mp naturalRead
      rw [← Option.some.inj same]
      exact .minus isDecimal
    · obtain ⟨number, digitsRead, rfl⟩ := Option.map_eq_some_iff.mp read
      obtain ⟨isDecimal, rfl⟩ := toNat?_eq_some_iff.mp digitsRead
      exact .unsigned isDecimal
  · intro denotes
    cases denotes with
    | unsigned isDecimal =>
      rw [isDecimal.toInt?_eq, toNat?_eq_some_iff.mpr ⟨isDecimal, rfl⟩]
      rfl
    | plus isDecimal | minus isDecimal =>
      rw [toInt?, toNat?_eq_some_iff.mpr ⟨isDecimal, rfl⟩]
      rfl

theorem toInt64?_eq_some_iff {token : Text} {value : Int} :
    toInt64? token = some value ↔ token.IsLiteral value := by
  have limit : (wordLimit : Int) = 9223372036854775808 := rfl
  rw [toInt64?]
  constructor
  · intro read
    cases denoted : token.toInt? with
    | none => simp [denoted] at read
    | some number =>
      simp only [denoted, Option.ite_none_right_eq_some, Option.some.injEq] at read
      obtain ⟨⟨low, high⟩, rfl⟩ := read
      exact ⟨toInt?_eq_some_iff.mp denoted, by omega, by omega⟩
  · rintro ⟨denotes, low, high⟩
    rw [toInt?_eq_some_iff.mpr denotes]
    exact if_pos ⟨by omega, by omega⟩

end Text

/-- The kind of fault that a reply reports. -/
def Reply.faultKind? {ν : Type} (reply : Reply ν) : Option FaultKind :=
  match reply.verdict with
  | .ok _ => none
  | .error failure => failure.kind?

namespace Standard

variable {ν : Type} [Number ν] {table : Table ν}

section Answers

attribute [local simp] Operation.failure? Operation.checks Check.failure?

/-- An assignment to a number stores a literal and refuses every other token. -/
theorem dispatch_assign (formed : table.WellFormed) {name token : Text} {line : Line}
    (admitted : table.refusal? name .integer = none) (asks : line.Asks .assign [name, token])
    (length : Nat) :
    set.dispatch line table length =
      match token.toInt64? with
      | none => .fail table (.badLiteral token)
      | some _ => (Operation.assign.effect table [name, token]).reply line.position := by
  rw [dispatch_asked formed asks rfl]
  cases read : token.toInt64? <;> simp [admitted, read]

/-- A branch on a symbol asks for a literal from one up, and then for a line of the program. -/
theorem dispatch_branch (formed : table.WellFormed) {name token : Text} {line : Line}
    (declared : (table.find? name).isSome) (asks : line.Asks .branch [name, token])
    (length : Nat) :
    set.dispatch line table length =
      match token.toInt64? with
      | none => .fail table (.badLineNumber token)
      | some target =>
        if 1 ≤ target then
          if target ≤ length then
            (Operation.branch.effect table [name, token]).reply line.position
          else .fail table (.targetBeyond target length)
        else .fail table (.badLineNumber token) := by
  rw [dispatch_asked formed asks rfl]
  cases read : token.toInt64? with
  | none => simp [declared, read]
  | some target =>
    by_cases positive : 1 ≤ target <;> by_cases within : target ≤ length <;>
      simp [declared, read, positive, within]

/-- The print of a number shows its name and its decimal form. -/
theorem dispatch_print_integer (formed : table.WellFormed) {name : Text} {line : Line} {amount : ν}
    (isInteger : table.integer name = .ok amount) (asks : line.Asks .print [name]) (length : Nat) :
    (set.dispatch line table length).printed =
      [(name ++ utf8 " = " ++ Number.text amount).line] := by
  obtain ⟨admitted, rfl⟩ := formed.admitted_of_integer isInteger
  rw [dispatch_asked formed asks rfl]
  simp [Operation.effect, Effect.reply, Table.declared_of_admitted admitted,
    formed.valueOf_integer admitted, Value.text]

end Answers

section Assignment

variable {name token : Text} {line : Line} {value : Int}

/-- An assignment succeeds on the literals only. -/
theorem assign_advances_iff (formed : table.WellFormed)
    (admitted : table.refusal? name .integer = none) (asks : line.Asks .assign [name, token])
    (length : Nat) :
    (set.dispatch line table length).verdict = .ok (some .advance) ↔
      ∃ value, token.IsLiteral value := by
  rw [dispatch_assign formed admitted asks]
  cases read : token.toInt64? with
  | none =>
    have noLiteral : ¬ ∃ value, token.IsLiteral value := by
      rintro ⟨value, isLiteral⟩
      rw [Text.toInt64?_eq_some_iff.mpr isLiteral] at read
      contradiction
    simp [noLiteral, Reply.fail, Reply.ofVerdict]
  | some value =>
    have literal : ∃ value, token.IsLiteral value := ⟨value, Text.toInt64?_eq_some_iff.mp read⟩
    simp [literal, Effect.reply, Operation.effect]

/-- After the assignment of a literal the name holds the value of the literal. -/
theorem assign_holds (formed : table.WellFormed)
    (admitted : table.refusal? name .integer = none) (asks : line.Asks .assign [name, token])
    (length : Nat) (isLiteral : token.IsLiteral value) :
    (set.dispatch line table length).table.integer name = .ok (Number.ofInt value) := by
  have read := Text.toInt64?_eq_some_iff.mpr isLiteral
  rw [dispatch_assign formed admitted asks, read]
  simp only [Effect.reply, Operation.effect, read, Option.getD_some]
  exact formed.integer_put admitted _

end Assignment

section Branch

variable {name token : Text} {line : Line} {value : Int}

/-- A branch to a positive literal can only fault because the program has no such line. -/
theorem branch_faultKind? (formed : table.WellFormed) (declared : (table.find? name).isSome)
    (asks : line.Asks .branch [name, token]) (length : Nat) (isLiteral : token.IsLiteral value)
    (positive : 1 ≤ value) :
    (set.dispatch line table length).faultKind? =
      if value ≤ length then none else some .jumpOutOfRange := by
  rw [dispatch_branch formed declared asks, Text.toInt64?_eq_some_iff.mpr isLiteral]
  simp only [positive, if_true]
  split <;> rfl

/-- A branch faults at its literal unless that is a positive one. -/
theorem branch_invalidLiteral_iff (formed : table.WellFormed)
    (declared : (table.find? name).isSome) (asks : line.Asks .branch [name, token])
    (length : Nat) :
    (set.dispatch line table length).faultKind? ≠ some .invalidLiteral ↔
      ∃ value, token.IsLiteral value ∧ 1 ≤ value := by
  constructor
  · rw [dispatch_branch formed declared asks]
    intro accepted
    cases read : token.toInt64? with
    | none => exact absurd rfl (read ▸ accepted)
    | some value =>
      refine ⟨value, Text.toInt64?_eq_some_iff.mp read, ?_⟩
      by_contra small
      simp only [read, small, if_false] at accepted
      exact accepted rfl
  · rintro ⟨value, isLiteral, positive⟩
    rw [branch_faultKind? formed declared asks length isLiteral positive]
    split <;> simp

end Branch

/-- What is printed for a word is a literal for it. -/
theorem isLiteral_text (amount : Int64) : (Number.text amount).IsLiteral amount.toInt := by
  have low := amount.le_toInt
  have high := amount.toInt_lt
  exact ⟨Text.toInt?_eq_some_iff.mp (Text.toInt?_ofInt _), by omega, by omega⟩

/-- The literals of the language. An assignment to a number succeeds exactly on a literal and stores
its value. A branch accepts as a line number exactly the literals that an assignment accepts and
whose value is positive; when the value is beyond the program, it is the jump that is at fault.
What is printed for a number assigns that number again. -/
theorem literals_read {table : Table Int64} (formed : table.WellFormed) (length : Nat)
    {name condition : Text} {old : Int64} {symbol : Symbol Int64}
    (isInteger : table.integer name = .ok old) (declared : table.get condition = .ok symbol) :
    (∀ (token : Text) (assign branch : Line), assign.Asks .assign [name, token] →
      branch.Asks .branch [condition, token] →
      let assigned := set.dispatch assign table length
      let branched := set.dispatch branch table length
      (assigned.verdict = .ok (some .advance) ↔ ∃ value, token.IsLiteral value) ∧
      (∀ value, token.IsLiteral value →
        ∃ amount : Int64, amount.toInt = value ∧ assigned.table.integer name = .ok amount) ∧
      (branched.faultKind? ≠ some .invalidLiteral ↔
        assigned.verdict = .ok (some .advance) ∧
          ∃ amount : Int64, assigned.table.integer name = .ok amount ∧ 1 ≤ amount.toInt) ∧
      ∀ value, token.IsLiteral value → 1 ≤ value →
        branched.faultKind? = if value ≤ length then none else some .jumpOutOfRange) ∧
    ∀ (amount : Int64) (other : Table Int64) (source : Text) (print : Line), other.WellFormed →
      other.integer source = .ok amount → print.Asks .print [source] →
      ∃ shown : Text,
        (set.dispatch print other length).printed = [(source ++ utf8 " = " ++ shown).line] ∧
        ∀ assign : Line, assign.Asks .assign [name, shown] →
          (set.dispatch assign table length).verdict = .ok (some .advance) ∧
          (set.dispatch assign table length).table.integer name = .ok amount := by
  obtain ⟨admitted, -⟩ := formed.admitted_of_integer isInteger
  have found : (table.find? condition).isSome := by rw [formed.find?_of_get declared]; rfl
  constructor
  · intro token assign branch asksAssign asksBranch assigned branched
    have advances := assign_advances_iff formed admitted asksAssign length
    have accepted := branch_invalidLiteral_iff formed found asksBranch length
    have holds (value : Int) (isLiteral : token.IsLiteral value) :
        ∃ amount : Int64, amount.toInt = value ∧ assigned.table.integer name = .ok amount :=
      ⟨Int64.ofInt value, isLiteral.toInt_ofInt,
        assign_holds formed admitted asksAssign length isLiteral⟩
    refine ⟨advances, holds, ?_,
      fun value => branch_faultKind? formed found asksBranch length⟩
    rw [advances, accepted]
    constructor
    · rintro ⟨value, isLiteral, positive⟩
      obtain ⟨amount, rfl, held⟩ := holds value isLiteral
      exact ⟨⟨_, isLiteral⟩, amount, held, positive⟩
    · rintro ⟨⟨value, isLiteral⟩, amount, held, positive⟩
      obtain ⟨stored, rfl, storedHeld⟩ := holds value isLiteral
      rw [storedHeld] at held
      cases held
      exact ⟨_, isLiteral, positive⟩
  · intro amount other source print otherFormed isAmount asksPrint
    refine ⟨Number.text amount, dispatch_print_integer otherFormed isAmount asksPrint length, ?_⟩
    intro assign asksAssign
    have isLiteral := isLiteral_text amount
    refine ⟨(assign_advances_iff formed admitted asksAssign length).mpr ⟨_, isLiteral⟩, ?_⟩
    rw [assign_holds formed admitted asksAssign length isLiteral]
    exact congrArg Except.ok (Int64.ofInt_toInt amount)

/-- A literal with a sign and zeros in front is assigned, and a branch in a shorter program takes it
for the number of a line that is missing. The smallest word is printed and can be assigned again. -/
theorem literals_read_signed :
    let smallest : Value Int64 := .number (-9223372036854775808)
    let table := (Table.empty.push (utf8 "x") .integer (.number 5)).push (utf8 "y") .integer smallest
    let line := fun source : String => Line.parse [] (utf8 source) 1
    table.WellFormed ∧ table.integer (utf8 "x") = .ok 5 ∧
      table.get (utf8 "y") = .ok ⟨utf8 "y", .integer, smallest⟩ ∧
      (set.dispatch (line "assign x +007") table 3).verdict = .ok (some .advance) ∧
      (set.dispatch (line "IF y +007") table 3).faultKind? = some .jumpOutOfRange ∧
      ∃ shown : Text,
        (set.dispatch (line "PRINT y") table 3).printed =
          [(utf8 "y" ++ utf8 " = " ++ shown).line] ∧
        ∀ assign : Line, assign.Asks .assign [utf8 "x", shown] →
          (set.dispatch assign table 3).table.integer (utf8 "x") = .ok (-9223372036854775808) := by
  intro smallest table line
  have formed : table.WellFormed :=
    .push (.push Table.wellFormed_empty (by rfl) (by rfl)) (by rfl) (by rfl)
  have isInteger : table.integer (utf8 "x") = .ok 5 := by rfl
  have isSmallest : table.integer (utf8 "y") = .ok (-9223372036854775808) := by rfl
  have declared : table.get (utf8 "y") = .ok ⟨utf8 "y", .integer, smallest⟩ := by rfl
  obtain ⟨seven, asksAssign, asksBranch, asksPrint⟩ :
      (utf8 "+007").toInt64? = some 7 ∧
        (line "assign x +007").Asks .assign [utf8 "x", utf8 "+007"] ∧
        (line "IF y +007").Asks .branch [utf8 "y", utf8 "+007"] ∧
        (line "PRINT y").Asks .print [utf8 "y"] := by
    decide +kernel
  obtain ⟨reads, shows⟩ := literals_read formed 3 isInteger declared
  obtain ⟨advances, -, -, jumps⟩ := reads _ _ _ asksAssign asksBranch
  have isLiteral := Text.toInt64?_eq_some_iff.mp seven
  obtain ⟨shown, printed, restores⟩ := shows _ table _ _ formed isSmallest asksPrint
  exact ⟨formed, isInteger, declared, advances.mpr ⟨7, isLiteral⟩,
    jumps 7 isLiteral (by decide), shown, printed, fun assign asks => (restores assign asks).2⟩

end Standard
end LineMachine
