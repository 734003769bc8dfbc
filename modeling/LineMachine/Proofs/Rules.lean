import LineMachine.Proofs.WellFormed
import LineMachine.Standard
import Mathlib.Data.List.Basic

namespace LineMachine

/-- A condition that an operation asks for before it acts. -/
inductive Check where
  | fresh (name : Text)
  | declared (name : Text)
  | kindOf (name : Text) (expected : Kind)
  | literal (token : Text)
  | lineLiteral (token : Text)
  | lineWithin (token : Text)
  | filled (name : Text)
  | receives (target source : Text)
deriving DecidableEq, Repr

/-- The cause with which a check fails on a table, in a program of some length. -/
def Check.failure? {ν : Type} (table : Table ν) (length : Nat) : Check → Option Cause
  | .fresh name => if (table.find? name).isSome then some (.alreadyDeclared name) else none
  | .declared name => if (table.find? name).isSome then none else some (.undeclared name)
  | .kindOf name expected => table.refusal? name expected
  | .literal token => if token.toInt64?.isSome then none else some (.badLiteral token)
  | .lineLiteral token =>
    match token.toInt64? with
    | some line => if 1 ≤ line then none else some (.badLineNumber token)
    | none => some (.badLineNumber token)
  | .lineWithin token =>
    match token.toInt64? with
    | some line => if line ≤ length then none else some (.targetBeyond line length)
    | none => none
  | .filled name => if (table.itemsOf name).isEmpty then some (.emptyHead name) else none
  | .receives target source =>
    match table.itemsOf source with
    | first :: _ => table.refusal? target first.kind
    | [] => none

/-- What an operation does when all its checks pass. -/
structure Effect (ν : Type) where
  table : Table ν
  printed : List Text := []
  notes : List (Log.Category × Text) := []
  action : Action := .advance

/-- The progress of a call after an effect. -/
def Progress.after {ν : Type} (progress : Progress ν) (call : Call ν) (effect : Effect ν) :
    Progress ν where
  table := effect.table
  printed := progress.printed ++ effect.printed
  records := progress.records ++
    effect.notes.map fun (category, message) => call.debug category message

namespace Operation

open Log (Category)

/-- The checks of an operation on its arguments, in the order in which they are made. -/
def checks : Operation → List Text → List Check
  | .integer, [name] => [.fresh name]
  | .list, [name] => [.fresh name]
  | .assign, [name, token] => [.kindOf name .integer, .literal token]
  | .changeSign, [name] => [.kindOf name .integer]
  | .add, [target, source] => [.kindOf target .integer, .kindOf source .integer]
  | .copy, [source, target] => [.kindOf source .list, .kindOf target .list]
  | .merge, [source, target] => [.declared source, .kindOf target .list]
  | .head, [source, target] => [.kindOf source .list, .filled source, .receives target source]
  | .tail, [source, target] => [.kindOf source .list, .kindOf target .list]
  | .branch, [name, token] => [.declared name, .lineLiteral token, .lineWithin token]
  | .print, [name] => [.declared name]
  | _, _ => []

/-- The cause of the first check that fails. -/
def failure? {ν : Type} (operation : Operation) (arguments : List Text) (table : Table ν)
    (length : Nat) : Option Cause :=
  (operation.checks arguments).findSome? (Check.failure? table length)

variable {ν : Type} [Number ν]

/-- The effect of an operation on its arguments once its checks have passed. -/
def effect (table : Table ν) : Operation → List Text → Effect ν
  | .integer, [name] =>
    { table := table.push name .integer (.number (Number.ofInt 0))
      notes := [(Category.variableUse, announcement name .integer)] }
  | .list, [name] =>
    { table := table.push name .list (.list [])
      notes := [(Category.variableUse, announcement name .list)] }
  | .assign, [name, token] =>
    let amount : ν := Number.ofInt (token.toInt64?.getD 0)
    { table := table.put name (.number amount)
      notes := [(Category.math, assignment name (Number.text amount))] }
  | .changeSign, [name] =>
    let amount := Number.neg (table.amountOf name)
    { table := table.put name (.number amount)
      notes := [(Category.math, assignment name (Number.text amount))] }
  | .add, [target, source] =>
    let first := table.amountOf target
    let second := table.amountOf source
    { table := table.put target (.number (Number.add first second))
      notes := [(Category.math,
        assignment target (Number.text first ++ utf8 " + " ++ Number.text second))] }
  | .copy, [source, target] =>
    let items := table.itemsOf source
    { table := table.put target (.list items)
      notes := [(Category.list, assignment target (Value.list items).text)] }
  | .merge, [source, target] =>
    let items := table.valueOf source :: table.itemsOf target
    { table := table.put target (.list items)
      notes := [(Category.list, assignment target (Value.list items).text)] }
  | .head, [source, target] =>
    { table := table.put target ((table.itemsOf source).headD (.list []))
      notes := [(Category.list, assignment target (utf8 "head of " ++ source))] }
  | .tail, [source, target] =>
    let items := (table.itemsOf source).tail
    { table := table.put target (.list items)
      notes := [(Category.list, assignment target (Value.list items).text)] }
  | .branch, [name, token] =>
    let line := (token.toInt64?.getD 1).toNat
    if (table.valueOf name).isTrue then
      { table
        notes := [(Category.flow,
          utf8 "IF " ++ name ++ utf8 " taken, jumping to line " ++ Text.ofNat line)]
        action := .jump (line - 1) }
    else { table, notes := [(Category.flow, utf8 "IF " ++ name ++ utf8 " not taken")] }
  | .halt, [] => { table, action := .halt }
  | .print, [name] =>
    { table, printed := [(name ++ utf8 " = " ++ (table.valueOf name).text).line] }
  | .printAll, [] => { table, printed := [table.symbolBlock] }
  | _, _ => { table }

/-- What the rule of an operation makes of a call. -/
def outcome (operation : Operation) (call : Call ν) (progress : Progress ν) :
    Except Cause Action × Progress ν :=
  match operation.failure? call.arguments progress.table call.programLength with
  | some cause => (.error cause, progress)
  | none =>
    let effect := operation.effect progress.table call.arguments
    (.ok effect.action, progress.after call effect)

end Operation

namespace Routine

variable {ν α β : Type} (call : Call ν) (progress : Progress ν)

@[simp] theorem bind_apply (routine : Routine ν α) (next : α → Routine ν β) :
    (routine >>= next) call progress = match routine call progress with
      | (.ok result, after) => next result call after
      | (.error cause, after) => (.error cause, after) := rfl

@[simp] theorem pure_apply (result : α) :
    (pure result : Routine ν α) call progress = (.ok result, progress) := rfl

@[simp] theorem settle_apply (result : Except Cause α) :
    settle result call progress = (result, progress) := rfl

@[simp] theorem programLength_apply :
    programLength call progress = (.ok call.programLength, progress) := rfl

@[simp] theorem ask_apply (question : Table ν → Except Cause α) :
    ask question call progress = (question progress.table, progress) := rfl

@[simp] theorem change_apply (edit : Table ν → Except Cause (Table ν)) :
    change edit call progress = match edit progress.table with
      | .ok table => (.ok (), { progress with table })
      | .error cause => (.error cause, progress) := rfl

@[simp] theorem print_apply (text : Table ν → Text) :
    print text call progress =
      (.ok (), { progress with printed := progress.printed ++ [text progress.table] }) := rfl

@[simp] theorem note_apply (category : Log.Category) (message : Text) :
    note category message call progress =
      (.ok (), { progress with records := progress.records ++ [call.debug category message] }) :=
  rfl

/-- An argument that is there is read. -/
@[simp] theorem argument_apply {place : Nat} {token : Text}
    (given : call.arguments[place]? = some token) :
    argument place call progress = (.ok token, progress) := by
  rw [argument, given]

end Routine

namespace Operation

variable {ν : Type} {call : Call ν} {progress : Progress ν}

attribute [local simp] routine outcome failure? checks effect Check.failure? Progress.after

/-- A declaration asks for a fresh name and adds it. -/
theorem declaration_follows (formed : progress.table.WellFormed) {name : Text}
    (given : call.arguments = [name]) (kind : Kind) (value : Value ν) :
    declaration (fun table name => table.declare name kind value) kind call progress =
      match Check.failure? progress.table call.programLength (.fresh name) with
      | some cause => (.error cause, progress)
      | none => (.ok .advance, progress.after call
        { table := progress.table.push name kind value
          notes := [(Log.Category.variableUse, announcement name kind)] }) := by
  cases found : progress.table.find? name <;>
    simp [declaration, given, formed.declare_eq, found]

variable [Number ν]

/-- A transfer asks for two lists and writes the second. -/
theorem transfer_follows (formed : progress.table.WellFormed) {source target : Text}
    (given : call.arguments = [source, target]) (alter : List (Value ν) → List (Value ν)) :
    transfer alter call progress =
      match [Check.kindOf source .list, Check.kindOf target .list].findSome?
        (Check.failure? progress.table call.programLength) with
      | some cause => (.error cause, progress)
      | none => (.ok .advance, progress.after call
        { table := progress.table.put target (.list (alter (progress.table.itemsOf source)))
          notes := [(Log.Category.list, assignment target
            (Value.list (alter (progress.table.itemsOf source))).text)] }) := by
  cases first : progress.table.refusal? source .list with
  | some cause => simp [transfer, given, formed.list_eq, first]
  | none =>
    cases second : progress.table.refusal? target .list with
    | some cause =>
      simp [transfer, given, formed.list_eq, formed.getKind_refused second, first, second]
    | none =>
      obtain ⟨symbol, -, -, admitted⟩ := formed.getKind_admitted second
      simp [transfer, given, formed.list_eq, admitted, Table.setList, formed.set_eq, first, second]

theorem integer_follows (formed : progress.table.WellFormed)
    (enough : call.arguments.length = integer.arity) :
    integer.routine call progress = integer.outcome call progress := by
  obtain ⟨name, given⟩ := List.length_eq_one_iff.mp enough
  simp only [outcome, failure?, given, checks, List.findSome?_singleton]
  exact declaration_follows formed given .integer (.number (Number.ofInt 0))

theorem list_follows (formed : progress.table.WellFormed)
    (enough : call.arguments.length = list.arity) :
    list.routine call progress = list.outcome call progress := by
  obtain ⟨name, given⟩ := List.length_eq_one_iff.mp enough
  simp only [outcome, failure?, given, checks, List.findSome?_singleton]
  exact declaration_follows formed given .list (.list [])

theorem assign_follows (formed : progress.table.WellFormed)
    (enough : call.arguments.length = assign.arity) :
    assign.routine call progress = assign.outcome call progress := by
  obtain ⟨name, token, given⟩ := List.length_eq_two.mp enough
  cases refused : progress.table.refusal? name .integer with
  | some cause =>
    simp [given, refused, formed.getKind_refused refused]
  | none =>
    obtain ⟨symbol, -, -, admitted⟩ := formed.getKind_admitted refused
    cases read : token.toInt64? with
    | none =>
      simp [given, refused, admitted, literal, read]
    | some value =>
      simp [given, refused, admitted, literal, read, Table.setInteger, formed.set_eq]

theorem changeSign_follows (formed : progress.table.WellFormed)
    (enough : call.arguments.length = changeSign.arity) :
    changeSign.routine call progress = changeSign.outcome call progress := by
  obtain ⟨name, given⟩ := List.length_eq_one_iff.mp enough
  cases refused : progress.table.refusal? name .integer <;>
    simp [given, refused, formed.integer_eq, Table.setInteger, formed.set_eq]

theorem add_follows (formed : progress.table.WellFormed)
    (enough : call.arguments.length = add.arity) :
    add.routine call progress = add.outcome call progress := by
  obtain ⟨target, source, given⟩ := List.length_eq_two.mp enough
  cases first : progress.table.refusal? target .integer <;>
    cases second : progress.table.refusal? source .integer <;>
    simp [given, first, second, formed.integer_eq, Table.setInteger, formed.set_eq]

theorem copy_follows (formed : progress.table.WellFormed)
    (enough : call.arguments.length = copy.arity) :
    copy.routine call progress = copy.outcome call progress := by
  obtain ⟨source, target, given⟩ := List.length_eq_two.mp enough
  simp only [outcome, failure?, given, checks]
  exact transfer_follows formed given id

theorem tail_follows (formed : progress.table.WellFormed)
    (enough : call.arguments.length = tail.arity) :
    tail.routine call progress = tail.outcome call progress := by
  obtain ⟨source, target, given⟩ := List.length_eq_two.mp enough
  simp only [outcome, failure?, given, checks]
  exact transfer_follows formed given List.tail

theorem merge_follows (formed : progress.table.WellFormed)
    (enough : call.arguments.length = merge.arity) :
    merge.routine call progress = merge.outcome call progress := by
  obtain ⟨source, target, given⟩ := List.length_eq_two.mp enough
  cases found : progress.table.find? source with
  | none =>
    simp [given, formed.get_eq, found]
  | some symbol =>
    cases refused : progress.table.refusal? target .list <;>
      simp [given, formed.get_eq, found, formed.list_eq, refused, formed.update_eq, Table.valueOf]

theorem head_follows (formed : progress.table.WellFormed)
    (enough : call.arguments.length = head.arity) :
    head.routine call progress = head.outcome call progress := by
  obtain ⟨source, target, given⟩ := List.length_eq_two.mp enough
  cases first : progress.table.refusal? source .list with
  | some cause =>
    simp [given, formed.list_eq, first]
  | none =>
    cases items : progress.table.itemsOf source with
    | nil =>
      simp [given, formed.list_eq, first, items, firstOf]
    | cons item rest =>
      cases second : progress.table.refusal? target item.kind with
      | some cause =>
        simp [given, formed.list_eq, first, items, firstOf, second, formed.getKind_refused second]
      | none =>
        obtain ⟨symbol, -, -, admitted⟩ := formed.getKind_admitted second
        simp [given, formed.list_eq, first, items, firstOf, second, admitted, formed.set_eq]

theorem branch_follows (formed : progress.table.WellFormed)
    (enough : call.arguments.length = branch.arity) :
    branch.routine call progress = branch.outcome call progress := by
  obtain ⟨name, token, given⟩ := List.length_eq_two.mp enough
  cases found : progress.table.find? name with
  | none =>
    simp [given, formed.get_eq, found]
  | some symbol =>
    have sameName := Table.find?_name found
    cases read : token.toInt64? with
    | none =>
      simp [given, formed.get_eq, found, lineNumber, read]
    | some line =>
      by_cases positive : 1 ≤ line
      · by_cases within : line ≤ call.programLength
        · have notBelow : ¬ line < 1 := by omega
          have notBeyond : ¬ (call.programLength : Int) < line := by omega
          by_cases taken : symbol.value.isTrue <;>
            simp [given, formed.get_eq, found, lineNumber, read, positive, within, notBelow,
              notBeyond, taken, sameName, Table.valueOf]
        · have notBelow : ¬ line < 1 := by omega
          have beyond : (call.programLength : Int) < line := by omega
          simp [given, formed.get_eq, found, lineNumber, read, positive, within, notBelow, beyond]
      · have below : line < 1 := by omega
        simp [given, formed.get_eq, found, lineNumber, read, positive, below]

theorem print_follows (formed : progress.table.WellFormed)
    (enough : call.arguments.length = print.arity) :
    print.routine call progress = print.outcome call progress := by
  obtain ⟨name, given⟩ := List.length_eq_one_iff.mp enough
  cases found : progress.table.find? name with
  | none =>
    simp [given, formed.get_eq, found]
  | some symbol =>
    simp [given, formed.get_eq, found, Table.find?_name found, Table.valueOf]

theorem halt_follows (enough : call.arguments.length = halt.arity) :
    halt.routine call progress = halt.outcome call progress := by
  have given := List.length_eq_zero_iff.mp enough
  simp [given]

theorem printAll_follows (enough : call.arguments.length = printAll.arity) :
    printAll.routine call progress = printAll.outcome call progress := by
  have given := List.length_eq_zero_iff.mp enough
  simp [given]

/-- Every operation follows its rule. -/
theorem routine_follows (operation : Operation) (formed : progress.table.WellFormed)
    (enough : call.arguments.length = operation.arity) :
    operation.routine call progress = operation.outcome call progress := by
  cases operation with
  | integer => exact integer_follows formed enough
  | list => exact list_follows formed enough
  | assign => exact assign_follows formed enough
  | changeSign => exact changeSign_follows formed enough
  | add => exact add_follows formed enough
  | copy => exact copy_follows formed enough
  | merge => exact merge_follows formed enough
  | head => exact head_follows formed enough
  | tail => exact tail_follows formed enough
  | branch => exact branch_follows formed enough
  | halt => exact halt_follows enough
  | print => exact print_follows formed enough
  | printAll => exact printAll_follows enough

end Operation
end LineMachine
