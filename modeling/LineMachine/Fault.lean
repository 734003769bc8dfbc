import LineMachine.Position
import LineMachine.Text.Quoted
import LineMachine.Value

namespace LineMachine

inductive FaultKind where
  | duplicateDeclaration
  | undeclaredIdentifier
  | typeMismatch
  | wrongArity
  | unknownInstruction
  | emptyListAccess
  | invalidLiteral
  | jumpOutOfRange
  | other (text : Text)
deriving DecidableEq, Repr

def FaultKind.text : FaultKind → Text
  | .duplicateDeclaration => utf8 "duplicate declaration"
  | .undeclaredIdentifier => utf8 "undeclared identifier"
  | .typeMismatch => utf8 "type mismatch"
  | .wrongArity => utf8 "wrong number of arguments"
  | .unknownInstruction => utf8 "unknown instruction"
  | .emptyListAccess => utf8 "empty list access"
  | .invalidLiteral => utf8 "invalid integer literal"
  | .jumpOutOfRange => utf8 "jump target out of range"
  | .other text => text

/-- What a handler takes for granted: that a place in the index of the table leads to a symbol,
that the value of a symbol is of its declared kind, that an argument is there. -/
inductive Defect where
  | strayPlace (name : Text) (place : Nat)
  | wrongVariant (name : Text) (declared : Kind)
  | missingArgument (place : Nat)
deriving DecidableEq, Repr

/-- What went wrong, with the names and numbers involved. A cause is broken when something that
was taken for granted does not hold. -/
inductive Cause where
  | alreadyDeclared (name : Text)
  | undeclared (name : Text)
  | mismatch (name : Text) (declared expected : Kind)
  | arity (mnemonic : Text) (expected : Int) (given : Nat)
  | unknown (mnemonic : Text)
  | emptyHead (name : Text)
  | badLiteral (token : Text)
  | badLineNumber (token : Text)
  | targetBeyond (line : Int) (length : Nat)
  | targetOutside (line : Int)
  | noResult (mnemonic : Text)
  | broken (defect : Defect)
  | reported (kind : FaultKind) (message : Text)
deriving DecidableEq, Repr

namespace Cause

def kind : Cause → FaultKind
  | .alreadyDeclared _ => .duplicateDeclaration
  | .undeclared _ => .undeclaredIdentifier
  | .mismatch .. => .typeMismatch
  | .arity .. => .wrongArity
  | .unknown _ => .unknownInstruction
  | .emptyHead _ => .emptyListAccess
  | .badLiteral _ => .invalidLiteral
  | .badLineNumber _ => .invalidLiteral
  | .targetBeyond .. => .jumpOutOfRange
  | .targetOutside _ => .jumpOutOfRange
  | .noResult mnemonic =>
    .other (utf8 "instruction " ++ mnemonic ++ utf8 " returned unsupported result <nil>")
  | .broken _ => .other (utf8 "broken assumption")
  | .reported kind _ => kind

/-- The details beyond the kind; a cause may have none. -/
def message : Cause → Text
  | .alreadyDeclared name => name.quote ++ utf8 " is already declared"
  | .undeclared name => name.quote
  | .mismatch name declared expected =>
    name.quote ++ utf8 " is " ++ declared.name ++ utf8 ", expected " ++ expected.name
  | .arity mnemonic expected given =>
    mnemonic ++ utf8 " expects " ++ Text.ofInt expected ++ utf8 ", got " ++ Text.ofNat given
  | .unknown mnemonic => mnemonic.quote
  | .emptyHead name => utf8 "HEAD of empty list " ++ name.quote
  | .badLiteral token => token.quote
  | .badLineNumber token => utf8 "line number " ++ token.quote
  | .targetBeyond line length =>
    utf8 "line " ++ Text.ofInt line ++ utf8 ", program has " ++ Text.ofNat length ++ utf8 " lines"
  | .targetOutside line => utf8 "line " ++ Text.ofInt line
  | .noResult _ => []
  | .broken _ => []
  | .reported _ message => message

/-- The kind, followed by the details if there are any. -/
def text (cause : Cause) : Text :=
  if cause.message.isEmpty then cause.kind.text
  else cause.kind.text ++ utf8 ": " ++ cause.message

end Cause

structure Fault where
  cause : Cause
  position : Option Position
deriving DecidableEq, Repr

def Fault.text (fault : Fault) : Text := fault.cause.text

/-- How an instruction reports that it failed. A kept fault is one that its instruction reports
again and again: it stays at the line of its first report. A failure may be wrapped in a text of
its own, which does not hide the fault inside. -/
inductive Failure where
  | raised (fault : Fault)
  | kept (slot : Nat) (fault : Fault)
  | wrapped (text : Text) (inner : Failure)
  | foreign (text : Text)
deriving DecidableEq, Repr

namespace Failure

def ofCause (cause : Cause) : Failure := .raised ⟨cause, none⟩

/-- The fault inside, if there is one. -/
def fault? : Failure → Option Fault
  | .raised fault | .kept _ fault => some fault
  | .wrapped _ inner => inner.fault?
  | .foreign _ => none

/-- The slot of a kept fault. -/
def slot? : Failure → Option Nat
  | .kept slot _ => some slot
  | .wrapped _ inner => inner.slot?
  | .raised _ | .foreign _ => none

/-- The kind of the fault inside. -/
def kind? (failure : Failure) : Option FaultKind := failure.fault?.map (·.cause.kind)

def text : Failure → Text
  | .raised fault | .kept _ fault => fault.text
  | .wrapped text _ | .foreign text => text

end Failure

/-- The lines at which kept faults were first reported. -/
abbrev Ledger := List (Nat × Position)

/-- The fault that a failure at a line becomes, with the ledger afterwards. -/
def Failure.locate (failure : Failure) (line : Position) (ledger : Ledger) : Fault × Ledger :=
  match failure.fault? with
  | none => (⟨.reported (.other failure.text) [], some line⟩, ledger)
  | some fault =>
    match fault.position.or (failure.slot?.bind fun slot => ledger.lookup slot) with
    | some position => (⟨fault.cause, some position⟩, ledger)
    | none =>
      (⟨fault.cause, some line⟩, (failure.slot?.map fun slot => (slot, line)).toList ++ ledger)

end LineMachine
