import LineMachine.Proofs.Dispatch

/-! The language without a machine: what a line does to a store of named values. -/

namespace LineMachine

/-- The declared names in order, each with its value. -/
abbrev Store (ν : Type) := List (Text × Value ν)

namespace Store

variable {ν : Type}

/-- The store with a new value under one name. -/
def assign (store : Store ν) (name : Text) (value : Value ν) : Store ν :=
  store.map fun (other, held) => (other, if other = name then value else held)

/-- The lines `name (kind) = value` between a header and a footer. -/
def block [Number ν] (store : Store ν) : Text :=
  (utf8 "--- symbol table ---").line ++
    (store.flatMap fun (name, value) =>
      (name ++ utf8 " (" ++ value.kind.name ++ utf8 ") = " ++ value.text).line) ++
    (utf8 "--------------------").line

end Store

/-- What an operation may require of its arguments. A requirement supposes those that come before
it: only a declared name is asked for its kind, and only a number is compared with a length. -/
inductive Requirement where
  | fresh (name : Text)
  | declared (name : Text)
  | ofKind (name : Text) (kind : Kind)
  | filled (name : Text)
  | fitsHead (target source : Text)
  | literal (token : Text)
  | lineNumber (token : Text)
  | inProgram (token : Text)
deriving DecidableEq, Repr

namespace Requirement

/-- The kind of fault that a requirement raises when it is not met. -/
def fault : Requirement → FaultKind
  | .fresh _ => .duplicateDeclaration
  | .declared _ => .undeclaredIdentifier
  | .ofKind .. => .typeMismatch
  | .filled _ => .emptyListAccess
  | .fitsHead .. => .typeMismatch
  | .literal _ => .invalidLiteral
  | .lineNumber _ => .invalidLiteral
  | .inProgram _ => .jumpOutOfRange

/-- Whether a requirement is met by a store, in a program of some length. -/
def isMet {ν : Type} (store : Store ν) (length : Nat) : Requirement → Bool
  | .fresh name => (store.lookup name).isNone
  | .declared name => (store.lookup name).isSome
  | .ofKind name kind => (store.lookup name).all (·.kind = kind)
  | .filled name =>
    match store.lookup name with
    | some (.list (_ :: _)) => true
    | _ => false
  | .fitsHead target source =>
    match store.lookup target, store.lookup source with
    | some value, some (.list (first :: _)) => value.kind = first.kind
    | _, _ => true
  | .literal token => token.toInt64?.isSome
  | .lineNumber token => token.toInt64?.any (1 ≤ ·)
  | .inProgram token => token.toInt64?.all fun line : Int => line ≤ length

end Requirement

/-- The requirements of an operation on its arguments, the most urgent first. -/
def Operation.requirements : Operation → List Text → List Requirement
  | .integer, [name] => [.fresh name]
  | .list, [name] => [.fresh name]
  | .assign, [name, token] => [.declared name, .ofKind name .integer, .literal token]
  | .changeSign, [name] => [.declared name, .ofKind name .integer]
  | .add, [target, source] =>
    [.declared target, .ofKind target .integer, .declared source, .ofKind source .integer]
  | .copy, [source, target] =>
    [.declared source, .ofKind source .list, .declared target, .ofKind target .list]
  | .merge, [source, target] => [.declared source, .declared target, .ofKind target .list]
  | .head, [source, target] =>
    [.declared source, .ofKind source .list, .filled source, .declared target,
      .fitsHead target source]
  | .tail, [source, target] =>
    [.declared source, .ofKind source .list, .declared target, .ofKind target .list]
  | .branch, [name, token] => [.declared name, .lineNumber token, .inProgram token]
  | .print, [name] => [.declared name]
  | _, _ => []

/-- What the language makes of a line: the store afterwards, what is printed, and where to go or
which kind of fault there is. -/
structure Response (ν : Type) where
  store : Store ν
  printed : List Text := []
  verdict : Except FaultKind Action := .ok .advance

variable {ν : Type} [Number ν]

/-- The rules of the operations, for arguments that meet the requirements. -/
inductive Performs (store : Store ν) : Operation → List Text → Response ν → Prop where
  | integer (name : Text) :
    Performs store .integer [name] { store := store ++ [(name, .number (Number.ofInt 0))] }
  | list (name : Text) : Performs store .list [name] { store := store ++ [(name, .list [])] }
  | assign {name token : Text} {number : Int} (read : token.toInt64? = some number) :
    Performs store .assign [name, token]
      { store := store.assign name (.number (Number.ofInt number)) }
  | changeSign {name : Text} {amount : ν} (held : store.lookup name = some (.number amount)) :
    Performs store .changeSign [name]
      { store := store.assign name (.number (Number.neg amount)) }
  | add {target source : Text} {first second : ν}
    (held : store.lookup target = some (.number first))
    (added : store.lookup source = some (.number second)) :
    Performs store .add [target, source]
      { store := store.assign target (.number (Number.add first second)) }
  | copy {source target : Text} {items : List (Value ν)}
    (held : store.lookup source = some (.list items)) :
    Performs store .copy [source, target] { store := store.assign target (.list items) }
  | merge {source target : Text} {value : Value ν} {items : List (Value ν)}
    (held : store.lookup source = some value) (into : store.lookup target = some (.list items)) :
    Performs store .merge [source, target]
      { store := store.assign target (.list (value :: items)) }
  | head {source target : Text} {first : Value ν} {rest : List (Value ν)}
    (held : store.lookup source = some (.list (first :: rest))) :
    Performs store .head [source, target] { store := store.assign target first }
  | tail {source target : Text} {items : List (Value ν)}
    (held : store.lookup source = some (.list items)) :
    Performs store .tail [source, target] { store := store.assign target (.list items.tail) }
  | jumpOnZero {name token : Text} {amount : ν} {line : Int}
    (held : store.lookup name = some (.number amount)) (zero : Number.toInt amount = 0)
    (read : token.toInt64? = some line) :
    Performs store .branch [name, token] { store, verdict := .ok (.jump (line - 1)) }
  | jumpOnEmpty {name token : Text} {line : Int} (held : store.lookup name = some (.list []))
    (read : token.toInt64? = some line) :
    Performs store .branch [name, token] { store, verdict := .ok (.jump (line - 1)) }
  | passNumber {name token : Text} {amount : ν}
    (held : store.lookup name = some (.number amount)) (other : Number.toInt amount ≠ 0) :
    Performs store .branch [name, token] { store }
  | passList {name token : Text} {first : Value ν} {rest : List (Value ν)}
    (held : store.lookup name = some (.list (first :: rest))) :
    Performs store .branch [name, token] { store }
  | halt : Performs store .halt [] { store, verdict := .ok .halt }
  | print {name : Text} {value : Value ν} (held : store.lookup name = some value) :
    Performs store .print [name]
      { store, printed := [(name ++ utf8 " = " ++ value.text).line] }
  | printAll : Performs store .printAll [] { store, printed := [store.block] }

/-- What an operation makes of its arguments: the wrong number of them is a fault, then the first
requirement that is not met. A fault leaves the store as it is and prints nothing. -/
inductive Executes (store : Store ν) (length : Nat) (operation : Operation)
    (arguments : List Text) : Response ν → Prop where
  | miscounted (wrong : arguments.length ≠ operation.arity) :
    Executes store length operation arguments { store, verdict := .error .wrongArity }
  | refused {requirement : Requirement} (enough : arguments.length = operation.arity)
    (first : (operation.requirements arguments).find? (fun requirement =>
      !requirement.isMet store length) = some requirement) :
    Executes store length operation arguments { store, verdict := .error requirement.fault }
  | performed {response : Response ν} (enough : arguments.length = operation.arity)
    (met : ∀ requirement ∈ operation.requirements arguments, requirement.isMet store length)
    (performs : Performs store operation arguments response) :
    Executes store length operation arguments response

/-- The meaning of a line. -/
inductive Meaning (line : Line) (store : Store ν) (length : Nat) : Response ν → Prop where
  | blank (empty : line.isEmpty) : Meaning line store length { store }
  | unknown (instructed : ¬ line.isEmpty) (unnamed : Standard.operation? line.command = none) :
    Meaning line store length { store, verdict := .error .unknownInstruction }
  | known {operation : Operation} {response : Response ν}
    (named : Standard.operation? line.command = some operation)
    (executes : Executes store length operation line.arguments response) :
    Meaning line store length response

/-- An operation does one thing. -/
theorem Performs.unique {store : Store ν} {operation : Operation} {arguments : List Text}
    {first second : Response ν} (left : Performs store operation arguments first)
    (right : Performs store operation arguments second) : first = second := by
  -- Two rules for the same operation differ in what the store holds, which settles the mixed cases.
  cases left <;> cases right <;> simp_all

theorem Executes.unique {store : Store ν} {length : Nat} {operation : Operation}
    {arguments : List Text} {first second : Response ν}
    (left : Executes store length operation arguments first)
    (right : Executes store length operation arguments second) : first = second := by
  -- A requirement that is the first not to be met is not among those that are all met.
  have notBoth {requirement : Requirement}
      (found : (operation.requirements arguments).find? (fun requirement =>
        !requirement.isMet store length) = some requirement)
      (met : ∀ requirement ∈ operation.requirements arguments, requirement.isMet store length) :
      False := by
    have violated := List.find?_some found
    simp [met _ (List.mem_of_find?_eq_some found)] at violated
  cases left with
  | miscounted wrong =>
    cases right with
    | miscounted => rfl
    | refused enough | performed enough => exact absurd enough wrong
  | refused enough found =>
    cases right with
    | miscounted wrong => exact absurd enough wrong
    | refused _ foundAgain => rw [Option.some.inj (found.symm.trans foundAgain)]
    | performed _ met => exact (notBoth found met).elim
  | performed enough met performs =>
    cases right with
    | miscounted wrong => exact absurd enough wrong
    | refused _ found => exact (notBoth found met).elim
    | performed _ _ performsAgain => exact performs.unique performsAgain

/-- The language gives a line one response. -/
theorem Meaning.unique {line : Line} {store : Store ν} {length : Nat} {first second : Response ν}
    (left : Meaning line store length first) (right : Meaning line store length second) :
    first = second := by
  cases left with
  | blank empty =>
    cases right with
    | blank => rfl
    | unknown instructed => exact absurd empty instructed
    | known named => simp [Standard.operation?_blank empty] at named
  | unknown instructed unnamed =>
    cases right with
    | blank empty => exact absurd empty instructed
    | unknown => rfl
    | known named => simp [unnamed] at named
  | known named executes =>
    cases right with
    | blank empty => simp [Standard.operation?_blank empty] at named
    | unknown _ unnamed => simp [unnamed] at named
    | known again executesAgain =>
      obtain rfl := Option.some.inj (named.symm.trans again)
      exact executes.unique executesAgain

end LineMachine
