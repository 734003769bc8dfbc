import LineMachine.Chain
import LineMachine.Proofs.Dump

namespace LineMachine

namespace Value

variable {ν : Type} [Number ν]

mutual

/-- Comparing two values decides whether they are equal. -/
theorem same_iff (faithful : Function.Injective (Number.toInt : ν → Int)) :
    ∀ first second : Value ν, first.same second ↔ first = second
  | .number first, .number second => by
    simpa [same] using ⟨fun equal => faithful equal, congrArg Number.toInt⟩
  | .number _, .list _ | .list _, .number _ => by simp [same]
  | .list first, .list second => by
    rw [same, sameItems_iff faithful first second, list.injEq]

theorem sameItems_iff (faithful : Function.Injective (Number.toInt : ν → Int)) :
    ∀ first second : List (Value ν), sameItems first second ↔ first = second
  | [], [] => by simp [sameItems]
  | [], _ :: _ | _ :: _, [] => by simp [sameItems]
  | first :: others, second :: more => by
    rw [sameItems, Bool.and_eq_true, same_iff faithful first second,
      sameItems_iff faithful others more, List.cons.injEq]

end

/-- Lists of different lengths are not the same. -/
theorem sameItems_length {first second : List (Value ν)} (same : sameItems first second) :
    first.length = second.length := by
  induction first generalizing second with
  | nil =>
    cases second with
    | nil => rfl
    | cons => simp [sameItems] at same
  | cons item first inductionHypothesis =>
    cases second with
    | nil => simp [sameItems] at same
    | cons other second =>
      rw [sameItems, Bool.and_eq_true] at same
      rw [List.length_cons, List.length_cons, inductionHypothesis same.2]

end Value

/-- A new chain has its items and their number. -/
theorem Chain.ofList_eq {α : Type} (items : List α) : ofList items = ⟨items, items.length⟩ := by
  have onward (chain : Chain α) : items.foldl append chain =
      ⟨chain.items ++ items, chain.length + items.length⟩ := by
    induction items generalizing chain with
    | nil => simp
    | cons item items inductionHypothesis =>
      rw [List.foldl_cons, inductionHypothesis]
      simp [append, Nat.add_assoc, Nat.add_comm 1]
  rw [ofList, onward]
  simp [empty]

namespace Element

variable {ν : Type}

theorem ofValues_eq_map (values : List (Value ν)) : ofValues values = values.map ofValue := by
  induction values with
  | nil => rfl
  | cons value values inductionHypothesis => rw [ofValues, inductionHypothesis, List.map_cons]

/-- The element of a list has the elements of its items and their number. -/
theorem ofValue_list (values : List (Value ν)) :
    ofValue (.list values) = .list ⟨ofValues values, values.length⟩ := by
  rw [ofValue, Chain.ofList_eq, ofValues_eq_map, List.length_map]

mutual

/-- The element of a value stands for that value. -/
theorem value_ofValue : ∀ value : Value ν, (ofValue value).value = value
  | .number amount => rfl
  | .list items => by rw [ofValue_list, value, values_ofValues items]

theorem values_ofValues : ∀ items : List (Value ν), values (ofValues items) = items
  | [] => rfl
  | item :: rest => by rw [ofValues, values, value_ofValue item, values_ofValues rest]

end

mutual

/-- A copy of the element of a value is the element of that value. -/
theorem copy_ofValue : ∀ value : Value ν, (ofValue value).copy = ofValue value
  | .number amount => rfl
  | .list items => by
    rw [ofValue_list, copy, copyAll_ofValues items, ← ofValue_list, ofValue]

theorem copyAll_ofValues : ∀ items : List (Value ν), copyAll (ofValues items) = ofValues items
  | [] => rfl
  | item :: rest => by rw [ofValues, copyAll, copy_ofValue item, copyAll_ofValues rest]

end

mutual

/-- A copy stands for the same value, also where a length is wrong. -/
theorem value_copy : ∀ element : Element ν, element.copy.value = element.value
  | .number amount => rfl
  | .list ⟨items, length⟩ => by rw [copy, Chain.ofList_eq, value, value, values_copyAll items]

theorem values_copyAll : ∀ items : List (Element ν), values (copyAll items) = values items
  | [] => rfl
  | item :: rest => by rw [copyAll, values, values, value_copy item, values_copyAll rest]

end

section

variable [Number ν]

mutual

/-- Where the lengths are right, looking at them first makes no difference. -/
theorem same_ofValue :
    ∀ first second : Value ν, (ofValue first).same (ofValue second) = first.same second
  | .number first, .number second => rfl
  | .number first, .list second => by rw [ofValue_list]; rfl
  | .list first, .number second => by rw [ofValue_list]; rfl
  | .list first, .list second => by
    rw [ofValue_list, ofValue_list, same, Value.same, sameAll_ofValues first second]
    cases same : Value.sameItems first second with
    | true => simp [Value.sameItems_length same]
    | false => simp

theorem sameAll_ofValues : ∀ first second : List (Value ν),
    sameAll (ofValues first) (ofValues second) = Value.sameItems first second
  | [], [] => rfl
  | [], _ :: _ => rfl
  | _ :: _, [] => rfl
  | first :: others, second :: more => by
    rw [ofValues, ofValues, sameAll, Value.sameItems, same_ofValue first second,
      sameAll_ofValues others more]

end

end

/-- What calls make: an element, and the value that the calls describe. The calls make a new list,
put an element at one of its ends, make a list of its tail and copy it; they can be made on every
list inside a list, where it stands. -/
inductive BuiltAs : Element ν → Value ν → Prop where
  | number (amount : ν) : BuiltAs (.number amount) (.number amount)
  | new {items : List (Element ν)} {values : List (Value ν)}
    (sameLength : items.length = values.length)
    (each : ∀ (index : Nat) (item : Element ν) (value : Value ν), items[index]? = some item →
      values[index]? = some value → BuiltAs item value) :
    BuiltAs (.list (.ofList items)) (.list values)
  | prepend {chain : Chain (Element ν)} {values : List (Value ν)} {item : Element ν}
    {value : Value ν} (list : BuiltAs (.list chain) (.list values)) (first : BuiltAs item value) :
    BuiltAs (.list (chain.prepend item)) (.list (value :: values))
  | append {chain : Chain (Element ν)} {values : List (Value ν)} {item : Element ν}
    {value : Value ν} (list : BuiltAs (.list chain) (.list values)) (last : BuiltAs item value) :
    BuiltAs (.list (chain.append item)) (.list (values ++ [value]))
  | tail {chain : Chain (Element ν)} {values : List (Value ν)}
    (list : BuiltAs (.list chain) (.list values)) : BuiltAs (.list chain.tail) (.list values.tail)
  | copy {chain : Chain (Element ν)} {values : List (Value ν)}
    (list : BuiltAs (.list chain) (.list values)) : BuiltAs (.list chain.copy) (.list values)
  | within {chain inner : Chain (Element ν)} {values innerValues : List (Value ν)}
    (list : BuiltAs (.list chain) (.list values)) (path : List Nat)
    (found : chain.at? path = some inner)
    (described : Value.itemsAt? path values = some innerValues) :
    BuiltAs (.list inner) (.list innerValues)
  | inside {chain inner : Chain (Element ν)} {values innerValues : List (Value ν)}
    (list : BuiltAs (.list chain) (.list values)) (path : List Nat)
    (change : Chain (Element ν) → Chain (Element ν)) (describe : List (Value ν) → List (Value ν))
    (found : chain.at? path = some inner)
    (described : Value.itemsAt? path values = some innerValues)
    (changed : BuiltAs (.list (change inner)) (.list (describe innerValues))) :
    BuiltAs (.list (chain.modifyAt change path)) (.list (Value.modifyAt describe path values))

mutual

/-- Every value can be built with new lists alone. -/
theorem builtAs_ofValue : ∀ value : Value ν, (ofValue value).BuiltAs value
  | .number amount => .number amount
  | .list items => by
    rw [ofValue, ofValues_eq_map]
    refine .new (List.length_map _) fun index item value made described => ?_
    rw [List.getElem?_map, described] at made
    rw [← Option.some.inj made]
    exact builtAs_ofValues items index value described

theorem builtAs_ofValues : ∀ (items : List (Value ν)) (index : Nat) (value : Value ν),
    items[index]? = some value → (ofValue value).BuiltAs value
  | [], _, _, described => by simp at described
  | item :: _, 0, value, described => by
    rw [← Option.some.inj described]
    exact builtAs_ofValue item
  | _ :: rest, index + 1, value, described => builtAs_ofValues rest index value described

end

/-- The list at a path is the one of the values at that path. -/
theorem at?_ofValues (path : List Nat) (values : List (Value ν)) :
    Chain.at? path ⟨ofValues values, values.length⟩ =
      (Value.itemsAt? path values).map fun inner => ⟨ofValues inner, inner.length⟩ := by
  induction path generalizing values with
  | nil => rfl
  | cons index path inductionHypothesis =>
    simp only [Chain.at?, Value.itemsAt?, ofValues_eq_map, List.getElem?_map]
    cases values[index]? with
    | none => rfl
    | some value =>
      cases value with
      | number amount => rfl
      | list inner =>
        simp only [Option.map_some, ofValue_list]
        rw [inductionHypothesis]
        simp only [ofValues_eq_map]

/-- A change at a path is the change that is described there. -/
theorem modifyAt_ofValues {change : Chain (Element ν) → Chain (Element ν)}
    {describe : List (Value ν) → List (Value ν)} {path : List Nat}
    {values innerValues : List (Value ν)}
    (described : Value.itemsAt? path values = some innerValues)
    (changed : change ⟨ofValues innerValues, innerValues.length⟩ =
      ⟨ofValues (describe innerValues), (describe innerValues).length⟩) :
    Chain.modifyAt change path ⟨ofValues values, values.length⟩ =
      ⟨ofValues (Value.modifyAt describe path values),
        (Value.modifyAt describe path values).length⟩ := by
  induction path generalizing values with
  | nil =>
    obtain rfl := Option.some.inj described
    exact changed
  | cons index path inductionHypothesis =>
    simp only [Value.itemsAt?] at described
    split at described
    · rename_i inner here
      have deeper := inductionHypothesis described
      simp only [Chain.modifyAt, Value.modifyAt, List.length_modify, Chain.mk.injEq, and_true]
      apply List.ext_getElem?
      intro place
      simp only [ofValues_eq_map, List.getElem?_modify, List.getElem?_map]
      by_cases same : index = place
      · subst same
        simp only [here, if_true, Option.map_eq_map, Option.map_some, ofValue_list, deeper]
      · simp [same]
    · contradiction

/-- Every sequence of calls makes the element of the value that it describes. -/
theorem BuiltAs.eq_ofValue {element : Element ν} {value : Value ν}
    (built : element.BuiltAs value) : element = ofValue value := by
  have chain_eq {chain : Chain (Element ν)} {values : List (Value ν)}
      (same : Element.list chain = ofValue (.list values)) :
      chain = ⟨ofValues values, values.length⟩ := by
    rw [ofValue_list] at same
    exact list.inj same
  induction built with
  | number amount => rfl
  | @new items values sameLength each each_eq =>
    have items_eq : items = ofValues values := by
      rw [ofValues_eq_map]
      apply List.ext_getElem?
      intro index
      rw [List.getElem?_map]
      by_cases inside : index < values.length
      · have here := List.getElem?_eq_getElem (sameLength ▸ inside)
        have described := List.getElem?_eq_getElem inside
        rw [here, described, Option.map_some, each_eq _ _ _ here described]
      · rw [List.getElem?_eq_none (by omega), List.getElem?_eq_none (by omega), Option.map_none]
    rw [items_eq, ofValue]
  | prepend _ _ list_eq first_eq =>
    rw [chain_eq list_eq, first_eq, ofValue_list]
    rfl
  | append _ _ list_eq last_eq =>
    rw [chain_eq list_eq, last_eq, ofValue_list]
    simp [Chain.append, ofValues_eq_map]
  | tail _ list_eq =>
    rw [chain_eq list_eq, Chain.tail, ofValue]
    simp only [ofValues_eq_map, ← List.map_tail]
    rw [← ofValues_eq_map, copyAll_ofValues]
  | copy _ list_eq => rw [chain_eq list_eq, Chain.copy, copyAll_ofValues, ofValue]
  | within _ path found described list_eq =>
    rw [chain_eq list_eq, at?_ofValues, described] at found
    rw [← Option.some.inj found, ofValue_list]
  | inside _ path change describe found described _ list_eq changed_eq =>
    rw [chain_eq list_eq, at?_ofValues, described] at found
    rw [← Option.some.inj found] at changed_eq
    rw [chain_eq list_eq, modifyAt_ofValues described (chain_eq changed_eq), ofValue_list]

end Element

/-- The items under a name are those of the list that it holds. -/
theorem Table.itemsOf_of_valueOf {ν : Type} {table : Table ν} {name : Text} {items : List (Value ν)}
    (held : table.valueOf name = .list items) : table.itemsOf name = items := by
  rw [valueOf] at held
  rw [itemsOf]
  cases found : table.find? name with
  | none =>
    rw [found] at held
    exact Value.list.inj held
  | some symbol =>
    have value : symbol.value = .list items := by rwa [found] at held
    rw [Option.bind_some, value]
    rfl

namespace Operation

variable {ν : Type}

/-- What an operation on lists makes of the elements of its two arguments, by calls of a host. -/
def element? : Operation → Element ν → Element ν → Option (Element ν)
  | .copy, .list chain, _ => some (.list chain.copy)
  | .tail, .list chain, _ => some (.list chain.tail)
  | .merge, element, .list chain => some (.list (chain.prepend element.copy))
  | .head, .list chain, _ => chain.first?.map Element.copy
  | _, _, _ => none

/-- An operation on lists that passes its checks leaves under its second argument the value of what
the calls make. -/
theorem routine_element [Number ν] {operation : Operation} {call : Call ν} {progress : Progress ν}
    (formed : progress.table.WellFormed) {source target : Text}
    (given : call.arguments = [source, target])
    (passed : operation.failure? call.arguments progress.table call.programLength = none)
    {first second made : Element ν} (held : progress.table.valueOf source = first.value)
    (otherHeld : progress.table.valueOf target = second.value)
    (calls : operation.element? first second = some made) :
    (operation.routine call progress).2.table = progress.table.put target made.value := by
  have follows (enough : operation.arity = 2) : (operation.routine call progress).2.table =
      (operation.effect progress.table [source, target]).table := by
    rw [routine_follows operation formed (by rw [given, enough]; rfl), outcome, passed, given]
    rfl
  unfold element? at calls
  split at calls
  · obtain rfl := Option.some.inj calls
    rw [follows rfl, effect, Table.itemsOf_of_valueOf held, Chain.copy, Chain.ofList_eq,
      Element.value, Element.values_copyAll]
  · rename_i chain
    obtain rfl := Option.some.inj calls
    rw [follows rfl, effect, Table.itemsOf_of_valueOf held, Chain.tail, Chain.ofList_eq,
      Element.value, Element.values_copyAll]
    cases chain.items <;> rfl
  · obtain rfl := Option.some.inj calls
    rw [follows rfl, effect, held, Table.itemsOf_of_valueOf otherHeld, Chain.prepend, Element.value,
      Element.values, Element.value_copy]
  · rename_i chain
    obtain ⟨item, front, rfl⟩ := Option.map_eq_some_iff.mp calls
    rw [follows rfl, effect, Table.itemsOf_of_valueOf held, Element.value_copy]
    obtain ⟨rest, items⟩ : ∃ rest, chain.items = item :: rest := List.head?_eq_some_iff.mp front
    rw [items]
    rfl
  · contradiction

end Operation

namespace Chain

/-- Lists that were built by calls, at any depth. Such a list holds the values that the calls
describe and knows their number; comparing two of them decides whether they are the same tree, and
so does comparing their printed forms. -/
theorem built_comparison {first second : Chain (Element Int64)} {values others : List (Value Int64)}
    (built : (Element.list first).BuiltAs (.list values))
    (otherBuilt : (Element.list second).BuiltAs (.list others)) :
    (Element.values first.items = values ∧ first.length = first.items.length) ∧
      (first.length = 0 ↔ first.isEmpty) ∧ (first.isEmpty ↔ first.first? = none) ∧
      (first.same second ↔ values = others) ∧ (values = others ↔ first.text = second.text) := by
  have faithful : Function.Injective (Number.toInt : Int64 → Int) := fun _ _ => Int64.toInt_inj.mp
  have first_eq := built.eq_ofValue
  have second_eq := otherBuilt.eq_ofValue
  rw [Element.ofValue_list] at first_eq
  obtain rfl := Element.list.inj first_eq
  refine ⟨⟨Element.values_ofValues values, ?_⟩, ?_, ?_, ?_, ?_⟩
  · rw [Element.ofValues_eq_map, List.length_map]
  · rw [isEmpty, List.isEmpty_iff_length_eq_zero, Element.ofValues_eq_map, List.length_map]
  · rw [isEmpty, first?, List.isEmpty_iff, List.head?_eq_none_iff]
  · rw [same, ← Element.ofValue_list, second_eq, Element.same_ofValue, Value.same_iff faithful,
      Value.list.injEq]
  · rw [text, text, ← Element.ofValue_list, second_eq, Element.value_ofValue,
      Element.value_ofValue, (Value.text_injective faithful).eq_iff, Value.list.injEq]

/-- A list that was changed inside, cut and copied is the same as one that was put together in
another way. -/
theorem built_comparison_inside :
    let start : Chain (Element Int64) := .ofList [.number 1, .list (.ofList [])]
    let first := (start.modifyAt (·.append (.number (-1))) [1]).tail.copy
    let second : Chain (Element Int64) :=
      (Chain.ofList []).prepend (.list (.ofList [.number (-1)]))
    (Element.list first).BuiltAs (.list [.list [.number (-1)]]) ∧
      (Element.list second).BuiltAs (.list [.list [.number (-1)]]) ∧
      first.text = utf8 "[[-1]]" ∧ first.length = first.items.length ∧ first.same second ∧
      first.text = second.text := by
  intro start first second
  have started : (Element.list start).BuiltAs (.list [.number 1, .list []]) :=
    Element.builtAs_ofValue (.list [.number 1, .list []])
  have inner := started.within [1] rfl rfl
  have changed := started.inside [1] (·.append (.number (-1))) (· ++ [.number (-1)]) rfl rfl
    (inner.append (.number (-1)))
  have built : (Element.list first).BuiltAs (.list [.list [.number (-1)]]) := changed.tail.copy
  have empty : (Element.list (.ofList [])).BuiltAs (.list ([] : List (Value Int64))) :=
    Element.builtAs_ofValue (.list [])
  have otherBuilt : (Element.list second).BuiltAs (.list [.list [.number (-1)]]) :=
    empty.prepend (Element.builtAs_ofValue (.list [.number (-1)]))
  obtain ⟨⟨-, length⟩, -, -, same, form⟩ := built_comparison built otherBuilt
  exact ⟨built, otherBuilt, by decide, length, same.mpr rfl, form.mp rfl⟩

end Chain
end LineMachine
