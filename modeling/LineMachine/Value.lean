import LineMachine.Number

namespace LineMachine

inductive Value (ν : Type) where
  | number (amount : ν)
  | list (items : List (Value ν))

instance {ν : Type} : Inhabited (Value ν) := ⟨.list []⟩

/-- The kinds that a symbol can be declared with. A host program may ask for a kind by a code
that has no meaning in the language. -/
inductive Kind where
  | integer
  | list
  | other (code : Int)
deriving DecidableEq, Repr

namespace Kind

def ofCode : Int → Kind
  | 0 => .integer
  | 1 => .list
  | code => .other code

/-- The name of a kind in tables and messages. -/
def name : Kind → Text
  | .integer => utf8 "int"
  | .list => utf8 "list"
  | .other code => utf8 "kind(" ++ Text.ofInt code ++ utf8 ")"

end Kind

namespace Value

variable {ν : Type}

def kind : Value ν → Kind
  | .number _ => .integer
  | .list _ => .list

/-- The amount of a number. -/
def amount? : Value ν → Option ν
  | .number amount => some amount
  | .list _ => none

/-- The items of a list. -/
def items? : Value ν → Option (List (Value ν))
  | .number _ => none
  | .list items => some items

variable [Number ν]

mutual

/-- The printed form: numbers in decimal, lists in brackets. -/
def text : Value ν → Text
  | .number amount => Number.text amount
  | .list items => 91 :: itemsText items ++ [93]

/-- The printed items of a list with a comma and a space between neighbours. -/
def itemsText : List (Value ν) → Text
  | [] => []
  | [item] => text item
  | item :: next :: rest => text item ++ utf8 ", " ++ itemsText (next :: rest)

end

mutual

/-- Two values are the same tree of numbers and lists. -/
def same : Value ν → Value ν → Bool
  | .number first, .number second => Number.toInt first == Number.toInt second
  | .list first, .list second => sameItems first second
  | _, _ => false

def sameItems : List (Value ν) → List (Value ν) → Bool
  | [], [] => true
  | first :: restFirst, second :: restSecond =>
    same first second && sameItems restFirst restSecond
  | _, _ => false

end

/-- A condition holds for zero and for the empty list. -/
def isTrue : Value ν → Bool
  | .number amount => Number.isZero amount
  | .list items => items.isEmpty

mutual

/-- The sum of all numbers at any depth. -/
def sum : Value ν → ν
  | .number amount => amount
  | .list items => addItems (Number.ofInt 0) items

/-- A running total to which items are added from left to right. -/
def addItems (total : ν) : List (Value ν) → ν
  | [] => total
  | item :: rest => addItems (Number.add total (sum item)) rest

end

/-- The sum of a list begins at zero. -/
def sumItems (items : List (Value ν)) : ν := addItems (Number.ofInt 0) items

/-- The list that a path of indices leads to. -/
def itemsAt? : List Nat → List (Value ν) → Option (List (Value ν))
  | [], items => some items
  | index :: path, items =>
    match items[index]? with
    | some (.list inner) => itemsAt? path inner
    | _ => none

/-- The list with a change made where a path of indices leads to. -/
def modifyAt (change : List (Value ν) → List (Value ν)) :
    List Nat → List (Value ν) → List (Value ν)
  | [], items => change items
  | index :: path, items =>
    items.modify index fun
      | .list inner => .list (modifyAt change path inner)
      | .number amount => .number amount

end Value
end LineMachine
