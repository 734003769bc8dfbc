import LineMachine.Routine

namespace LineMachine

inductive Operation where
  | integer
  | list
  | assign
  | changeSign
  | add
  | copy
  | merge
  | head
  | tail
  | branch
  | halt
  | print
  | printAll
deriving DecidableEq, Repr

namespace Operation

open Log (Category)
open Routine (settle argument programLength ask change note)

/-- The mnemonic that an operation is registered under. -/
def mnemonic : Operation → Text
  | .integer => utf8 "INTEGER"
  | .list => utf8 "LIST"
  | .assign => utf8 "ASSIGN"
  | .changeSign => utf8 "CHS"
  | .add => utf8 "ADD"
  | .copy => utf8 "COPY"
  | .merge => utf8 "MERGE"
  | .head => utf8 "HEAD"
  | .tail => utf8 "TAIL"
  | .branch => utf8 "IF"
  | .halt => utf8 "HLT"
  | .print => utf8 "PRINT"
  | .printAll => utf8 "PRINTALL"

/-- The number of arguments. -/
def arity : Operation → Nat
  | .halt | .printAll => 0
  | .integer | .list | .changeSign | .print => 1
  | .assign | .add | .copy | .merge | .head | .tail | .branch => 2

/-- A literal of the language. -/
def literal (token : Text) : Except Cause Int :=
  match token.toInt64? with
  | some value => .ok value
  | none => .error (.badLiteral token)

/-- A line number of a program, counted from one. -/
def lineNumber (token : Text) (programLength : Nat) : Except Cause Nat :=
  match token.toInt64? with
  | none => .error (.badLineNumber token)
  | some line =>
    if line < 1 then .error (.badLineNumber token)
    else if (programLength : Int) < line then .error (.targetBeyond line programLength)
    else .ok line.toNat

variable {ν : Type}

/-- The first item of a list that must have one. -/
def firstOf (name : Text) : List (Value ν) → Except Cause (Value ν)
  | [] => .error (.emptyHead name)
  | first :: _ => .ok first

def announcement (name : Text) (kind : Kind) : Text :=
  utf8 "declared " ++ name ++ utf8 " (" ++ kind.name ++ utf8 ")"

def assignment (name value : Text) : Text := name ++ utf8 " := " ++ value

/-- A declaration under the first argument. -/
def declaration (declare : Table ν → Text → Except Cause (Table ν)) (kind : Kind) :
    Routine ν Action := do
  let name ← argument 0
  change (declare · name)
  note Category.variableUse (announcement name kind)
  return .advance

variable [Number ν]

/-- The list of the first argument, in an altered form, becomes the value of the second. -/
def transfer (alter : List (Value ν) → List (Value ν)) : Routine ν Action := do
  let source ← argument 0
  let items ← ask (·.list source)
  let target ← argument 1
  let _ ← ask (·.getKind target .list)
  change (·.setList target (alter items))
  note Category.list (assignment target (Value.list (alter items)).text)
  return .advance

/-- What an operation does. -/
def routine : Operation → Routine ν Action
  | .integer => declaration Table.declareInteger .integer
  | .list => declaration Table.declareList .list
  | .assign => do
    let name ← argument 0
    let _ ← ask (·.getKind name .integer)
    let token ← argument 1
    let value ← settle (literal token)
    let amount : ν := Number.ofInt value
    change (·.setInteger name amount)
    note Category.math (assignment name (Number.text amount))
    return .advance
  | .changeSign => do
    let name ← argument 0
    let amount ← ask (·.integer name)
    change (·.setInteger name (Number.neg amount))
    note Category.math (assignment name (Number.text (Number.neg amount)))
    return .advance
  | .add => do
    let target ← argument 0
    let first ← ask (·.integer target)
    let source ← argument 1
    let second ← ask (·.integer source)
    change (·.setInteger target (Number.add first second))
    let sum := Number.text first ++ utf8 " + " ++ Number.text second
    note Category.math (assignment target sum)
    return .advance
  | .copy => transfer id
  | .merge => do
    let source ← argument 0
    let symbol ← ask (·.get source)
    let target ← argument 1
    let items ← ask (·.list target)
    let items := symbol.value :: items
    change fun table => .ok (table.update target (.list items))
    note Category.list (assignment target (Value.list items).text)
    return .advance
  | .head => do
    let source ← argument 0
    let items ← ask (·.list source)
    let first ← settle (firstOf source items)
    let target ← argument 1
    let _ ← ask (·.getKind target first.kind)
    change (·.set target first.kind first)
    note Category.list (assignment target (utf8 "head of " ++ source))
    return .advance
  | .tail => transfer List.tail
  | .branch => do
    let name ← argument 0
    let symbol ← ask (·.get name)
    let token ← argument 1
    let length ← programLength
    let line ← settle (lineNumber token length)
    if symbol.value.isTrue then
      note Category.flow
        (utf8 "IF " ++ symbol.name ++ utf8 " taken, jumping to line " ++ Text.ofNat line)
      return .jump (line - 1)
    else
      note Category.flow (utf8 "IF " ++ symbol.name ++ utf8 " not taken")
      return .advance
  | .halt => return .halt
  | .print => do
    let name ← argument 0
    let symbol ← ask (·.get name)
    Routine.print fun _ => (symbol.name ++ utf8 " = " ++ symbol.value.text).line
    return .advance
  | .printAll => do
    Routine.print Table.symbolBlock
    return .advance

end Operation
end LineMachine
