import LineMachine.Proofs.Renaming
import LineMachine.Proofs.Writing

namespace LineMachine

namespace Table

variable {ν : Type}

/-- The table after at most one value was put under a name. -/
def amended (table : Table ν) : Option (Text × Value ν) → Table ν
  | none => table
  | some (name, value) => table.put name value

/-- Changes under different names can be made in any order. -/
theorem amended_comm (table : Table ν) {first second : Option (Text × Value ν)}
    (different : ∀ entry ∈ first, ∀ other ∈ second, other.1 ≠ entry.1) :
    (table.amended first).amended second = (table.amended second).amended first := by
  cases first with
  | none => rfl
  | some entry =>
    cases second with
    | none => rfl
    | some other => exact table.put_comm (different entry rfl other rfl) entry.2 other.2

end Table

/-- The name of the list whose items a check looks at. -/
def Check.opened? : Check → Option Text
  | .filled name | .receives _ name => some name
  | _ => none

/-- A check does not see what was written under a name that it does not open. -/
theorem Check.failure?_put {ν : Type} (table : Table ν) {name : Text} {check : Check}
    (closed : check.opened? ≠ some name) (value : Value ν) (length : Nat) :
    check.failure? (table.put name value) length = check.failure? table length := by
  cases check with
  | filled source | receives target source =>
    have different : source ≠ name := fun same => closed (congrArg some same)
    simp [failure?, Table.itemsOf_put_of_ne different]
  | fresh | declared | kindOf | literal | lineLiteral | lineWithin => simp [failure?]

namespace Operation

/-- The operations that write a value under a declared name. -/
def writing : List Operation := [.assign, .changeSign, .add, .copy, .merge, .head, .tail]

/-- The name under which an operation writes. -/
def destination? : Operation → List Text → Option Text
  | .assign, [name, _] | .changeSign, [name] | .add, [name, _] => some name
  | .copy, [_, name] | .merge, [_, name] | .head, [_, name] | .tail, [_, name] => some name
  | _, _ => none

/-- The identifiers among the arguments of an operation. -/
def names (operation : Operation) (arguments : List Text) : List Text :=
  arguments.take operation.identifiers

variable {ν : Type} {operation : Operation} {arguments : List Text}

/-- The checks of an operation open only lists that it names. -/
theorem opened?_mem {check : Check} (member : check ∈ operation.checks arguments) {name : Text}
    (opens : check.opened? = some name) : name ∈ operation.names arguments := by
  simp only [checks.eq_def] at member
  -- Only the checks of taking a head open a list, and they open the first argument.
  split at member <;> simp only [List.mem_cons, List.not_mem_nil, or_false] at member <;>
    rcases member with rfl | rfl | rfl <;> simp_all [Check.opened?, names, identifiers]

/-- An operation is refused for the same cause after a value was written under a name that it does
not mention. -/
theorem failure?_put (table : Table ν) {name : Text}
    (apart : name ∉ operation.names arguments) (value : Value ν) (length : Nat) :
    operation.failure? arguments (table.put name value) length =
      operation.failure? arguments table length := by
  have unseen : ∀ check ∈ operation.checks arguments,
      check.failure? (table.put name value) length = check.failure? table length :=
    fun check member => Check.failure?_put table
      (fun opens => apart (opened?_mem member opens)) value length
  rw [failure?, failure?, ← List.head?_filterMap, ← List.head?_filterMap,
    List.filterMap_congr unseen]

variable [Number ν]

/-- An operation puts a value under a name among its arguments and goes on. The value depends on no
name that the operation does not mention. -/
structure Writes (operation : Operation) (arguments : List Text) (name : Text)
    (content : Table ν → Value ν) : Prop where
  destination : operation.destination? arguments = some name
  mentioned : name ∈ operation.names arguments
  written : ∀ table, (operation.effect table arguments).table = table.put name (content table)
  advances : ∀ table : Table ν, (operation.effect table arguments).action = .advance
  frame : ∀ table other value, other ∉ operation.names arguments →
    content (table.put other value) = content table

/-- An operation that writes what it makes of the items of a list. -/
theorem writes_items {source target : Text} (alter : List (Value ν) → Value ν)
    (destination : operation.destination? [source, target] = some target)
    (both : operation.identifiers = 2)
    (written : ∀ table, (operation.effect table [source, target]).table =
      table.put target (alter (table.itemsOf source)))
    (advances : ∀ table : Table ν, (operation.effect table [source, target]).action = .advance) :
    Writes operation [source, target] target fun table => alter (table.itemsOf source) where
  destination := destination
  mentioned := by simp [names, both]
  written := written
  advances := advances
  frame table other value apart := by
    have different : source ≠ other ∧ target ≠ other := by
      simpa [names, both, eq_comm] using apart
    rw [Table.itemsOf_put_of_ne different.1]

attribute [local simp] names identifiers

/-- Every operation that writes has a name and a content of that sort. -/
theorem exists_writes (writes : operation ∈ writing)
    (enough : arguments.length = operation.arity) :
    ∃ (name : Text) (content : Table ν → Value ν), Writes operation arguments name content := by
  cases operation with
  | assign =>
    obtain ⟨name, token, rfl⟩ := List.length_eq_two.mp enough
    exact ⟨name, fun _ => .number (Number.ofInt (token.toInt64?.getD 0)), rfl, by simp,
      fun _ => rfl, fun _ => rfl, fun _ _ _ _ => rfl⟩
  | changeSign =>
    obtain ⟨name, rfl⟩ := List.length_eq_one_iff.mp enough
    refine ⟨name, fun table => .number (Number.neg (table.amountOf name)), rfl, by simp,
      fun _ => rfl, fun _ => rfl, fun table other value apart => ?_⟩
    have different : name ≠ other := by simpa [eq_comm] using apart
    rw [Table.amountOf_put_of_ne different]
  | add =>
    obtain ⟨target, source, rfl⟩ := List.length_eq_two.mp enough
    refine ⟨target,
      fun table => .number (Number.add (table.amountOf target) (table.amountOf source)),
      rfl, by simp, fun _ => rfl, fun _ => rfl, fun table other value apart => ?_⟩
    have different : target ≠ other ∧ source ≠ other := by simpa [eq_comm] using apart
    rw [Table.amountOf_put_of_ne different.1, Table.amountOf_put_of_ne different.2]
  | merge =>
    obtain ⟨source, target, rfl⟩ := List.length_eq_two.mp enough
    refine ⟨target, fun table => .list (table.valueOf source :: table.itemsOf target), rfl,
      by simp, fun _ => rfl, fun _ => rfl, fun table other value apart => ?_⟩
    have different : source ≠ other ∧ target ≠ other := by simpa [eq_comm] using apart
    rw [Table.valueOf_put_of_ne different.1, Table.itemsOf_put_of_ne different.2]
  | copy =>
    obtain ⟨source, target, rfl⟩ := List.length_eq_two.mp enough
    exact ⟨target, _, writes_items .list rfl rfl (fun _ => rfl) (fun _ => rfl)⟩
  | head =>
    obtain ⟨source, target, rfl⟩ := List.length_eq_two.mp enough
    exact ⟨target, _, writes_items (·.headD (.list [])) rfl rfl (fun _ => rfl) (fun _ => rfl)⟩
  | tail =>
    obtain ⟨source, target, rfl⟩ := List.length_eq_two.mp enough
    exact ⟨target, _, writes_items (.list ·.tail) rfl rfl (fun _ => rfl) (fun _ => rfl)⟩
  | integer | list | branch | halt | print | printAll => simp [writing] at writes

end Operation

namespace Standard

variable {ν : Type} [Number ν] {table : Table ν} {line : Line} {operation : Operation}

/-- A line with a wrong number of arguments is refused on every table. -/
theorem dispatch_miscounted (formed : table.WellFormed)
    (named : operation? line.command = some operation)
    (miscounted : line.arguments.length ≠ operation.arity) (length : Nat) :
    set.dispatch line table length =
      .fail table (.arity operation.mnemonic operation.arity line.arguments.length) := by
  have instructed : ¬ line.isEmpty := by
    intro blank
    rw [operation?_blank blank] at named
    contradiction
  rw [dispatch_eq formed, if_neg instructed, named]
  exact if_neg miscounted

/-- A line that writes makes at most one change, under its destination. -/
theorem dispatch_writing (formed : table.WellFormed) (writes : operation ∈ Operation.writing)
    (named : operation? line.command = some operation) (length : Nat) :
    ∃ change, (set.dispatch line table length).table = table.amended change ∧
      ∀ entry ∈ change, operation.destination? line.arguments = some entry.1 ∧
        entry.1 ∈ operation.names line.arguments := by
  by_cases enough : line.arguments.length = operation.arity
  · obtain ⟨name, content, writes⟩ := operation.exists_writes (ν := ν) writes enough
    rw [dispatch_operation formed named enough]
    cases operation.failure? line.arguments table length with
    | some cause => exact ⟨none, rfl, by simp⟩
    | none =>
      refine ⟨some (name, content table), writes.written table, ?_⟩
      rintro entry ⟨⟩
      exact ⟨writes.destination, writes.mentioned⟩
  · rw [dispatch_miscounted formed named enough]
    exact ⟨none, rfl, by simp⟩

/-- A value that was put under a name that a line does not mention changes nothing in the answer to
that line, and the answer leaves it where it is. -/
theorem dispatch_put (formed : table.WellFormed) (writes : operation ∈ Operation.writing)
    (named : operation? line.command = some operation) {name : Text} {value : Value ν}
    (apart : name ∉ operation.names line.arguments) (putFormed : (table.put name value).WellFormed)
    (length : Nat) :
    (set.dispatch line (table.put name value) length).verdict =
        (set.dispatch line table length).verdict ∧
      (set.dispatch line (table.put name value) length).table =
        (set.dispatch line table length).table.put name value := by
  by_cases enough : line.arguments.length = operation.arity
  · obtain ⟨target, content, writes⟩ := operation.exists_writes (ν := ν) writes enough
    have different : target ≠ name := fun same => apart (same ▸ writes.mentioned)
    rw [dispatch_operation putFormed named enough, dispatch_operation formed named enough,
      Operation.failure?_put table apart]
    cases operation.failure? line.arguments table length with
    | some cause => exact ⟨rfl, rfl⟩
    | none =>
      simp only [Effect.reply, writes.advances, writes.written, writes.frame table name value apart]
      exact ⟨trivial, table.put_comm different value (content table)⟩
  · rw [dispatch_miscounted putFormed named enough, dispatch_miscounted formed named enough]
    exact ⟨rfl, rfl⟩

theorem dispatch_amended (formed : table.WellFormed) (writes : operation ∈ Operation.writing)
    (named : operation? line.command = some operation) {change : Option (Text × Value ν)}
    (apart : ∀ entry ∈ change, entry.1 ∉ operation.names line.arguments)
    (amendedFormed : (table.amended change).WellFormed) (length : Nat) :
    (set.dispatch line (table.amended change) length).verdict =
        (set.dispatch line table length).verdict ∧
      (set.dispatch line (table.amended change) length).table =
        (set.dispatch line table length).table.amended change := by
  cases change with
  | none => exact ⟨rfl, rfl⟩
  | some entry => exact dispatch_put formed writes named (apart entry rfl) amendedFormed length

/-- Two lines that write, where neither writes under a name of the other, commute. Each of them is
accepted or refused on the table that the other leaves as it is without the other, for the same
cause, and the two orders lead to the same table. A line with a wrong number of arguments writes
nowhere and is covered too. -/
theorem independent_lines_commute (formed : table.WellFormed) (length : Nat)
    {first second : Line} {operation other : Operation} (writes : operation ∈ Operation.writing)
    (otherWrites : other ∈ Operation.writing) (asked : first.command = operation.mnemonic)
    (otherAsked : second.command = other.mnemonic)
    (apart : ∀ name, operation.destination? first.arguments = some name →
      name ∉ other.names second.arguments)
    (otherApart : ∀ name, other.destination? second.arguments = some name →
      name ∉ operation.names first.arguments) :
    let afterFirst := set.dispatch first table length
    let afterSecond := set.dispatch second table length
    let firstLast := set.dispatch first afterSecond.table length
    let secondLast := set.dispatch second afterFirst.table length
    firstLast.verdict = afterFirst.verdict ∧ secondLast.verdict = afterSecond.verdict ∧
      firstLast.table = secondLast.table := by
  intro afterFirst afterSecond firstLast secondLast
  have named : operation? first.command = some operation := by rw [asked, operation?_mnemonic]
  have otherNamed : operation? second.command = some other := by
    rw [otherAsked, operation?_mnemonic]
  obtain ⟨change, left, own⟩ := dispatch_writing formed writes named length
  obtain ⟨otherChange, otherLeft, otherOwn⟩ := dispatch_writing formed otherWrites otherNamed length
  have firstFormed : (table.amended change).WellFormed :=
    left ▸ (dispatch_answer formed first length).wellFormed formed
  have secondFormed : (table.amended otherChange).WellFormed :=
    otherLeft ▸ (dispatch_answer formed second length).wellFormed formed
  obtain ⟨verdict, reached⟩ := dispatch_amended formed writes named
    (fun entry changed => otherApart entry.1 (otherOwn entry changed).1) secondFormed length
  obtain ⟨otherVerdict, otherReached⟩ := dispatch_amended formed otherWrites otherNamed
    (fun entry changed => apart entry.1 (own entry changed).1) firstFormed length
  rw [← otherLeft] at verdict reached
  rw [← left] at otherVerdict otherReached
  refine ⟨verdict, otherVerdict, ?_⟩
  calc firstLast.table
      = (table.amended change).amended otherChange := by rw [reached, left]
    _ = (table.amended otherChange).amended change := by
        apply table.amended_comm
        intro entry changed otherEntry otherChanged same
        exact apart entry.1 (own entry changed).1 (same ▸ (otherOwn otherEntry otherChanged).2)
    _ = secondLast.table := by rw [otherReached, otherLeft]

/-- The first item of a list goes into a symbol with the name `5`, and another symbol gets the
literal `5`. Both orders give both symbols their values. -/
theorem independent_lines_commute_literal :
    let table : Table Int64 := ((Table.empty.push (utf8 "l") .list (.list [.number 7])).push
      (utf8 "5") .integer (.number 0)).push (utf8 "x") .integer (.number 0)
    let head := Line.parse [] (utf8 "HEAD l 5") 1
    let assign := Line.parse [] (utf8 "ASSIGN x 5") 2
    table.WellFormed ∧
      (set.dispatch assign (set.dispatch head table 2).table 2).verdict = .ok (some .advance) ∧
      (set.dispatch head (set.dispatch assign table 2).table 2).verdict = .ok (some .advance) ∧
      (set.dispatch head (set.dispatch assign table 2).table 2).table.text =
        utf8 "l (list) = [7]\n5 (int) = 7\nx (int) = 5\n" := by
  intro table head assign
  have formed : table.WellFormed :=
    .push (.push (.push Table.wellFormed_empty (by rfl) (by rfl)) (by rfl) (by rfl)) (by rfl)
      (by rfl)
  obtain ⟨asked, headArguments, otherAsked, assignArguments⟩ :
      head.command = Operation.head.mnemonic ∧ head.arguments = [utf8 "l", utf8 "5"] ∧
        assign.command = Operation.assign.mnemonic ∧
        assign.arguments = [utf8 "x", utf8 "5"] := by
    decide +kernel
  obtain ⟨accepted, otherAccepted, text⟩ :
      (set.dispatch head table 2).verdict = .ok (some .advance) ∧
        (set.dispatch assign table 2).verdict = .ok (some .advance) ∧
        (set.dispatch assign (set.dispatch head table 2).table 2).table.text =
          utf8 "l (list) = [7]\n5 (int) = 7\nx (int) = 5\n" := by
    decide +kernel
  have apart : ∀ name, Operation.head.destination? head.arguments = some name →
      name ∉ Operation.assign.names assign.arguments := by
    rw [headArguments, assignArguments]
    rintro name ⟨⟩
    decide
  have otherApart : ∀ name, Operation.assign.destination? assign.arguments = some name →
      name ∉ Operation.head.names head.arguments := by
    rw [headArguments, assignArguments]
    rintro name ⟨⟩
    decide
  obtain ⟨verdict, otherVerdict, sameTable⟩ := independent_lines_commute formed 2 (by decide)
    (by decide) asked otherAsked apart otherApart
  exact ⟨formed, otherVerdict.trans otherAccepted, verdict.trans accepted, by rw [sameTable, text]⟩

end Standard
end LineMachine
