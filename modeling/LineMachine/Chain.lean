import LineMachine.Value

namespace LineMachine

/-- Items in a row and, beside them, their number. -/
structure Chain (α : Type) where
  items : List α
  length : Nat

namespace Chain

variable {α : Type}

def empty : Chain α := ⟨[], 0⟩

def prepend (chain : Chain α) (item : α) : Chain α := ⟨item :: chain.items, chain.length + 1⟩

def append (chain : Chain α) (item : α) : Chain α := ⟨chain.items ++ [item], chain.length + 1⟩

/-- A new chain with the items in order. -/
def ofList (items : List α) : Chain α := items.foldl append empty

def first? (chain : Chain α) : Option α := chain.items.head?

def isEmpty (chain : Chain α) : Bool := chain.items.isEmpty

end Chain

/-- What a host program puts into a list: a number or another list. -/
inductive Element (ν : Type) where
  | number (amount : ν)
  | list (chain : Chain (Element ν))

instance {ν : Type} : Inhabited (Element ν) := ⟨.list .empty⟩

namespace Element

variable {ν : Type}

mutual

/-- An element that shares nothing with the given one. -/
def copy : Element ν → Element ν
  | .number amount => .number amount
  | .list ⟨items, _⟩ => .list (.ofList (copyAll items))

def copyAll : List (Element ν) → List (Element ν)
  | [] => []
  | item :: rest => item.copy :: copyAll rest

end

mutual

/-- The value that an element stands for. -/
def value : Element ν → Value ν
  | .number amount => .number amount
  | .list ⟨items, _⟩ => .list (values items)

def values : List (Element ν) → List (Value ν)
  | [] => []
  | item :: rest => item.value :: values rest

end

mutual

/-- A new element that stands for a value. -/
def ofValue : Value ν → Element ν
  | .number amount => .number amount
  | .list items => .list (.ofList (ofValues items))

def ofValues : List (Value ν) → List (Element ν)
  | [] => []
  | item :: rest => ofValue item :: ofValues rest

end

variable [Number ν]

mutual

/-- Two elements are the same tree. Lists of different lengths differ, and their items are not looked
at. -/
def same : Element ν → Element ν → Bool
  | .number first, .number second => Number.toInt first == Number.toInt second
  | .list ⟨items, length⟩, .list other => length == other.length && sameAll items other.items
  | _, _ => false

def sameAll : List (Element ν) → List (Element ν) → Bool
  | [], [] => true
  | first :: restFirst, second :: restSecond =>
    first.same second && sameAll restFirst restSecond
  | _, _ => false

end

end Element

namespace Chain

variable {ν : Type}

/-- A new list of the items after the first; an empty list has none. -/
def tail (chain : Chain (Element ν)) : Chain (Element ν) :=
  ofList (Element.copyAll chain.items.tail)

/-- A new list of all items. -/
def copy (chain : Chain (Element ν)) : Chain (Element ν) := ofList (Element.copyAll chain.items)

/-- The list that a path of indices leads to. -/
def at? : List Nat → Chain (Element ν) → Option (Chain (Element ν))
  | [], chain => some chain
  | index :: path, chain =>
    match chain.items[index]? with
    | some (.list inner) => at? path inner
    | _ => none

/-- The list with a change made where a path of indices leads to. -/
def modifyAt (change : Chain (Element ν) → Chain (Element ν)) :
    List Nat → Chain (Element ν) → Chain (Element ν)
  | [], chain => change chain
  | index :: path, chain =>
    { chain with
      items := chain.items.modify index fun
        | .list inner => .list (modifyAt change path inner)
        | .number amount => .number amount }

variable [Number ν]

def same (first second : Chain (Element ν)) : Bool := Element.same (.list first) (.list second)

/-- The printed form: numbers in decimal, lists in brackets. -/
def text (chain : Chain (Element ν)) : Text := (Element.value (.list chain)).text

end Chain
end LineMachine
