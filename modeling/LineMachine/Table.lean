import LineMachine.Fault

namespace LineMachine

/-- A declared name with its kind and its present value. -/
structure Symbol (ν : Type) where
  name : Text
  kind : Kind
  value : Value ν

namespace Symbol

variable {ν : Type} [Number ν]

/-- The form `name (kind) = value`. -/
def text (symbol : Symbol ν) : Text :=
  symbol.name ++ utf8 " (" ++ symbol.kind.name ++ utf8 ") = " ++ symbol.value.text

end Symbol

structure Table (ν : Type) where
  symbols : List (Symbol ν)
  index : List (Text × Nat)

namespace Table

variable {ν : Type}

def empty : Table ν := ⟨[], []⟩

def size (table : Table ν) : Nat := table.symbols.length

/-- The place that the index gives for a name. -/
def place? (table : Table ν) (name : Text) : Option Nat := table.index.lookup name

def isDeclared (table : Table ν) (name : Text) : Bool := (table.place? name).isSome

/-- A new symbol comes last; a name is declared at most once. -/
def declare (table : Table ν) (name : Text) (kind : Kind) (value : Value ν) :
    Except Cause (Table ν) :=
  if table.isDeclared name then .error (.alreadyDeclared name)
  else .ok
    { symbols := table.symbols ++ [⟨name, kind, value⟩]
      index := (name, table.symbols.length) :: table.index }

def declareList (table : Table ν) (name : Text) : Except Cause (Table ν) :=
  table.declare name .list (.list [])

def get (table : Table ν) (name : Text) : Except Cause (Symbol ν) :=
  match table.place? name with
  | none => .error (.undeclared name)
  | some place =>
    match table.symbols[place]? with
    | some symbol => .ok symbol
    | none => .error (.broken (.strayPlace name place))

/-- The symbol of a name, if it was declared with the given kind. -/
def getKind (table : Table ν) (name : Text) (kind : Kind) : Except Cause (Symbol ν) :=
  match table.get name with
  | .error cause => .error cause
  | .ok symbol =>
    if symbol.kind = kind then .ok symbol else .error (.mismatch name symbol.kind kind)

/-- The symbol of a name declared with the given kind, read as that kind says. -/
def read {α : Type} (table : Table ν) (name : Text) (kind : Kind) (view : Value ν → Option α) :
    Except Cause α :=
  match table.getKind name kind with
  | .error cause => .error cause
  | .ok symbol =>
    match view symbol.value with
    | some content => .ok content
    | none => .error (.broken (.wrongVariant name kind))

def integer (table : Table ν) (name : Text) : Except Cause ν :=
  table.read name .integer Value.amount?

def list (table : Table ν) (name : Text) : Except Cause (List (Value ν)) :=
  table.read name .list Value.items?

/-- The table with a new value at the place of one name. -/
def update (table : Table ν) (name : Text) (value : Value ν) : Table ν :=
  match table.place? name with
  | none => table
  | some place =>
    { table with symbols := table.symbols.modify place fun symbol => { symbol with value } }

/-- The table with a new value under one name, if it was declared with the given kind. -/
def set (table : Table ν) (name : Text) (kind : Kind) (value : Value ν) :
    Except Cause (Table ν) :=
  match table.getKind name kind with
  | .error cause => .error cause
  | .ok _ => .ok (table.update name value)

def setInteger (table : Table ν) (name : Text) (amount : ν) : Except Cause (Table ν) :=
  table.set name .integer (.number amount)

def setList (table : Table ν) (name : Text) (items : List (Value ν)) : Except Cause (Table ν) :=
  table.set name .list (.list items)

variable [Number ν]

def declareInteger (table : Table ν) (name : Text) : Except Cause (Table ν) :=
  table.declare name .integer (.number (Number.ofInt 0))

/-- One line for each symbol. -/
def text (table : Table ν) : Text := table.symbols.flatMap fun symbol => symbol.text.line

/-- The table between a header and a footer line. -/
def dump (table : Table ν) (header : Text) : Text :=
  header.line ++ table.text ++ (utf8 "--------------------").line

/-- The block of a table in the middle of a run. -/
def symbolBlock (table : Table ν) : Text := table.dump (utf8 "--- symbol table ---")

/-- The block of the table at the end of a run. -/
def finalBlock (table : Table ν) : Text := table.dump (utf8 "--- final state ---")

end Table
end LineMachine
