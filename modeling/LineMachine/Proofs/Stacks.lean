import LineMachine.Proofs.Writing
import Mathlib.Data.List.Forall2

namespace LineMachine

namespace Table

variable {ν : Type} {table : Table ν} {name : Text}

/-- The items of a list after symbols were merged into it one after another. A symbol gives the value
that it has at its turn: the list itself may be among them. -/
def pile (table : Table ν) (list : Text) : List Text → List (Value ν) → List (Value ν)
  | [], items => items
  | source :: rest, items =>
    pile table list rest ((table.put list (.list items)).valueOf source :: items)

theorem pile_append (table : Table ν) (list : Text) (first second : List Text)
    (items : List (Value ν)) :
    table.pile list (first ++ second) items =
      table.pile list second (table.pile list first items) := by
  induction first generalizing items with
  | nil => rfl
  | cons source rest inductionHypothesis => exact inductionHypothesis _

/-- Below what was merged lie the items from before. -/
theorem drop_pile (table : Table ν) (list : Text) (sources : List Text) (items : List (Value ν)) :
    (table.pile list sources items).drop sources.length = items := by
  induction sources generalizing items with
  | nil => rfl
  | cons source rest inductionHypothesis =>
    rw [pile, List.length_cons, ← List.tail_drop, inductionHypothesis, List.tail_cons]

/-- When as many items are dropped as were merged last, the others are as they were at that time. -/
theorem drop_pile_take (table : Table ν) (list : Text) (sources : List Text)
    (items : List (Value ν)) (kept : Nat) :
    (table.pile list sources items).drop (sources.length - kept) =
      table.pile list (sources.take kept) items := by
  have split : table.pile list sources items =
      table.pile list (sources.drop kept) (table.pile list (sources.take kept) items) := by
    rw [← pile_append, List.take_append_drop]
  rw [split, ← List.length_drop, drop_pile]

/-- On top of what is left lies the value that the last of the remaining symbols had at its turn. -/
theorem drop_pile_top (table : Table ν) (list : Text) {sources : List Text} {source : Text}
    (items : List (Value ν)) {undone : Nat} (within : undone < sources.length)
    (merged : sources[sources.length - 1 - undone]? = some source) :
    let below := table.pile list (sources.take (sources.length - 1 - undone)) items
    (table.pile list sources items).drop undone =
      (table.put list (.list below)).valueOf source :: below := by
  intro below
  have left := table.drop_pile_take list sources items (sources.length - 1 - undone + 1)
  rw [List.take_add_one, merged, Option.toList_some, pile_append] at left
  rw [← show sources.length - (sources.length - 1 - undone + 1) = undone by omega]
  exact left

namespace WellFormed

/-- The value of a name is of the kind under which the name is admitted. -/
theorem kind_valueOf (formed : table.WellFormed) {kind : Kind}
    (admitted : table.refusal? name kind = none) : (table.valueOf name).kind = kind := by
  obtain ⟨symbol, found, rfl, -⟩ := formed.getKind_admitted admitted
  simp [valueOf, found, formed.kinds symbol (find?_mem found)]

/-- The symbol of a declared name has the value of the name. -/
theorem get_valueOf (formed : table.WellFormed) (declared : (table.find? name).isSome) :
    ∃ symbol, table.get name = .ok symbol ∧ symbol.value = table.valueOf name := by
  obtain ⟨symbol, found⟩ := Option.isSome_iff_exists.mp declared
  exact ⟨symbol, by rw [formed.get_eq, found], by simp [valueOf, found]⟩

/-- A symbol that can be read is admitted under its kind. -/
theorem admitted_of_get (formed : table.WellFormed) {symbol : Symbol ν}
    (got : table.get name = .ok symbol) : table.refusal? name symbol.kind = none := by
  simp [refusal?, formed.find?_of_get got]

end WellFormed
end Table

namespace Standard

variable {ν : Type} [Number ν] {table : Table ν} {length : Nat}

/-- The table after lines that are carried out one after another. There is none when one of them
fails or leads elsewhere than to the next. -/
def carryOut (length : Nat) : List Line → Table ν → Option (Table ν)
  | [], table => some table
  | line :: rest, table =>
    let reply := set.dispatch line table length
    match reply.verdict with
    | .ok (some .advance) => carryOut length rest reply.table
    | _ => none

theorem carryOut_append (first second : List Line) (table : Table ν) :
    carryOut length (first ++ second) table =
      (carryOut length first table).bind (carryOut length second) := by
  induction first generalizing table with
  | nil => rfl
  | cons line rest inductionHypothesis =>
    rw [List.cons_append, carryOut, carryOut]
    split
    · exact inductionHypothesis _
    · rfl

/-- An operation whose checks pass is carried out before the other lines. -/
theorem carryOut_performed (formed : table.WellFormed) {line : Line} {operation : Operation}
    {arguments : List Text} (asks : line.Asks operation arguments)
    (enough : arguments.length = operation.arity)
    (passed : operation.failure? arguments table length = none)
    (advances : (operation.effect table arguments).action = .advance) (rest : List Line) :
    carryOut length (line :: rest) table =
      carryOut length rest (operation.effect table arguments).table := by
  simp [carryOut, dispatch_asked formed asks enough, passed, Effect.reply, advances]

section Steps

variable {list name : Text} {line : Line}

attribute [local simp] Operation.failure? Operation.checks Check.failure?

theorem carryOut_merge (formed : table.WellFormed) (declared : (table.find? name).isSome)
    (admitted : table.refusal? list .list = none) (asks : line.Asks .merge [name, list])
    (rest : List Line) :
    carryOut length (line :: rest) table =
      carryOut length rest (table.put list (.list (table.valueOf name :: table.itemsOf list))) :=
  carryOut_performed formed asks rfl (by simp [declared, admitted]) rfl rest

theorem carryOut_tail (formed : table.WellFormed) (admitted : table.refusal? list .list = none)
    (asks : line.Asks .tail [list, list]) (rest : List Line) :
    carryOut length (line :: rest) table =
      carryOut length rest (table.put list (.list (table.itemsOf list).tail)) :=
  carryOut_performed formed asks rfl (by simp [admitted]) rfl rest

theorem carryOut_head (formed : table.WellFormed) (admitted : table.refusal? list .list = none)
    {first : Value ν} {others : List (Value ν)} (filled : table.itemsOf list = first :: others)
    (receives : table.refusal? name first.kind = none) (asks : line.Asks .head [list, name])
    (rest : List Line) :
    carryOut length (line :: rest) table = carryOut length rest (table.put name first) := by
  rw [carryOut_performed formed asks rfl _ rfl]
  · simp [Operation.effect, filled]
  · simp [admitted, filled, receives]

end Steps

section Stack

variable {list : Text}

/-- Merging symbols piles up their values. -/
theorem carryOut_merges (formed : table.WellFormed) (admitted : table.refusal? list .list = none)
    {lines : List Line} {sources : List Text}
    (asks : List.Forall₂ (fun line source => line.Asks .merge [source, list]) lines sources)
    (declared : ∀ source ∈ sources, (table.find? source).isSome) (items : List (Value ν)) :
    carryOut length lines (table.put list (.list items)) =
      some (table.put list (.list (table.pile list sources items))) := by
  -- The table stays and the items vary: a merged symbol may be the list as it is by then.
  induction asks generalizing items with
  | nil => rfl
  | @cons line source lines sources asksFirst _ inductionHypothesis =>
    have written : (table.put list (.list items)).WellFormed := formed.put admitted
    have found : ((table.put list (.list items)).find? source).isSome := by
      simpa using declared source (by simp)
    rw [carryOut_merge written found (by simpa using admitted) asksFirst, Table.put_put,
      Table.itemsOf_put_self (Table.declared_of_admitted admitted),
      inductionHypothesis fun other member => declared other (by simp [member])]
    rfl

/-- Taking the tail again and again drops items from the top. -/
theorem carryOut_tails (formed : table.WellFormed) (admitted : table.refusal? list .list = none)
    {lines : List Line} (asks : ∀ line ∈ lines, line.Asks .tail [list, list])
    (items : List (Value ν)) :
    carryOut length lines (table.put list (.list items)) =
      some (table.put list (.list (items.drop lines.length))) := by
  induction lines generalizing items with
  | nil => rfl
  | cons line rest inductionHypothesis =>
    have written : (table.put list (.list items)).WellFormed := formed.put admitted
    rw [carryOut_tail written (by simpa using admitted) (asks line (by simp)), Table.put_put,
      Table.itemsOf_put_self (Table.declared_of_admitted admitted),
      inductionHypothesis fun other member => asks other (by simp [member]), List.drop_tail,
      List.length_cons]

/-- Declared symbols are merged on top of the items of a list. -/
theorem carryOut_pile (formed : table.WellFormed) (admitted : table.refusal? list .list = none)
    {lines : List Line} {sources : List Text}
    (asks : List.Forall₂ (fun line source => line.Asks .merge [source, list]) lines sources)
    (declared : ∀ source ∈ sources, (table.find? source).isSome) :
    carryOut length lines table =
      some (table.put list (.list (table.pile list sources (table.itemsOf list)))) := by
  rw [← carryOut_merges formed admitted asks declared, formed.put_itemsOf admitted]

/-- After merges, tails drop what lies on top. -/
theorem carryOut_merges_tails (formed : table.WellFormed)
    (admitted : table.refusal? list .list = none) {merges tails : List Line} {sources : List Text}
    (asksMerges : List.Forall₂ (fun line source => line.Asks .merge [source, list]) merges sources)
    (declared : ∀ source ∈ sources, (table.find? source).isSome)
    (asksTails : ∀ line ∈ tails, line.Asks .tail [list, list]) :
    carryOut length (merges ++ tails) table = some (table.put list
      (.list ((table.pile list sources (table.itemsOf list)).drop tails.length))) := by
  rw [carryOut_append, carryOut_pile formed admitted asksMerges declared, Option.bind_some,
    carryOut_tails formed admitted asksTails]

/-- The head hands out what lies on top. -/
theorem carryOut_top (formed : table.WellFormed) (admitted : table.refusal? list .list = none)
    {value : Value ν} (below : List (Value ν)) {target : Text}
    (receives : table.refusal? target value.kind = none) {line : Line}
    (asks : line.Asks .head [list, target]) (length : Nat) :
    ∃ (final : Table ν) (stored : Symbol ν),
      carryOut length [line] (table.put list (.list (value :: below))) = some final ∧
      final.get target = .ok stored ∧ stored.value = value := by
  have written : (table.put list (.list (value :: below))).WellFormed := formed.put admitted
  have targetAdmitted :
      (table.put list (.list (value :: below))).refusal? target value.kind = none := by
    simpa using receives
  have final := written.put targetAdmitted
  have targetFound := Table.declared_of_admitted targetAdmitted
  obtain ⟨stored, got, held⟩ := final.get_valueOf (by simpa using targetFound)
  refine ⟨_, stored, ?_, got, held.trans (Table.valueOf_put_self targetFound _)⟩
  rw [carryOut_head written (by simpa using admitted)
    (Table.itemsOf_put_self (Table.declared_of_admitted admitted) _) targetAdmitted asks, carryOut]

/-- A head that is taken, dropped and merged again gives back the list. -/
theorem carryOut_head_tail_merge (formed : table.WellFormed)
    (admitted : table.refusal? list .list = none) {first : Value ν} {others : List (Value ν)}
    (filled : table.itemsOf list = first :: others) {name : Text} (different : name ≠ list)
    (receives : table.refusal? name first.kind = none) {head tail merge : Line}
    (asksHead : head.Asks .head [list, name]) (asksTail : tail.Asks .tail [list, list])
    (asksMerge : merge.Asks .merge [name, list]) :
    carryOut length [head, tail, merge] table = some (table.put name first) := by
  have taken : (table.put name first).WellFormed := formed.put receives
  have listAdmitted : (table.put name first).refusal? list .list = none := by simpa using admitted
  have listFound := Table.declared_of_admitted listAdmitted
  have dropped : ((table.put name first).put list (.list others)).WellFormed :=
    taken.put listAdmitted
  have kept : (table.put name first).itemsOf list = first :: others := by
    rw [Table.itemsOf_put_of_ne different.symm, filled]
  have held : ((table.put name first).put list (.list others)).valueOf name = first := by
    rw [Table.valueOf_put_of_ne different,
      Table.valueOf_put_self (Table.declared_of_admitted receives)]
  have nameFound : (((table.put name first).put list (.list others)).find? name).isSome := by
    simpa using Table.declared_of_admitted receives
  calc carryOut length [head, tail, merge] table
      = carryOut length [tail, merge] (table.put name first) :=
        carryOut_head formed admitted filled receives asksHead _
    _ = carryOut length [merge] ((table.put name first).put list (.list others)) := by
        rw [carryOut_tail taken listAdmitted asksTail, kept, List.tail_cons]
    _ = some ((table.put name first).put list (.list (first :: others))) := by
        rw [carryOut_merge dropped nameFound (by simpa using admitted) asksMerge, held,
          Table.itemsOf_put_self listFound, Table.put_put, carryOut]
    _ = some (table.put name first) := by rw [← kept, taken.put_itemsOf listAdmitted]

end Stack

/-- Merge, head and tail make a stack of a list. Any declared symbols, the list itself among them,
can be merged one after another, and as many tails leave the whole table as it was. In between, the
head of the list is the complete value that the last symbol not yet dropped had when it was merged.
And the head of a list, taken into another symbol and dropped, is put back by a merge. -/
theorem lists_stack (formed : table.WellFormed) (length : Nat) {list : Text}
    {items : List (Value ν)} (isList : table.list list = .ok items) :
    (∀ (sources : List Text) (merges tails : List Line),
      (∀ source ∈ sources, table.isDeclared source) →
      List.Forall₂ (fun line source => line.Asks .merge [source, list]) merges sources →
      tails.length = sources.length → (∀ line ∈ tails, line.Asks .tail [list, list]) →
      carryOut length (merges ++ tails) table = some table ∧
      ∀ (undone : Nat) (source target : Text) (giver taker : Symbol ν) (head : Line),
        undone < sources.length → sources[sources.length - 1 - undone]? = some source →
        table.get source = .ok giver → table.get target = .ok taker → taker.kind = giver.kind →
        head.Asks .head [list, target] →
        ∃ (before after final : Table ν) (merged stored : Symbol ν),
          carryOut length (merges.take (sources.length - 1 - undone)) table = some before ∧
          before.get source = .ok merged ∧
          carryOut length (merges ++ tails.take undone) table = some after ∧
          carryOut length [head] after = some final ∧
          final.get target = .ok stored ∧ stored.value = merged.value) ∧
    ∀ (first : Value ν) (others : List (Value ν)) (holder : Text) (taker : Symbol ν)
      (head tail merge : Line), items = first :: others → table.get holder = .ok taker →
      taker.kind = first.kind → holder ≠ list → head.Asks .head [list, holder] →
      tail.Asks .tail [list, list] → merge.Asks .merge [holder, list] →
      ∃ final : Table ν, carryOut length [head, tail, merge] table = some final ∧
        final = table.update holder first ∧ final.list list = .ok items := by
  obtain ⟨admitted, rfl⟩ := formed.admitted_of_list isList
  constructor
  · intro sources merges tails declared asksMerges enough asksTails
    have found : ∀ source ∈ sources, (table.find? source).isSome := by
      intro source member
      rw [← formed.isDeclared_eq]
      exact declared source member
    constructor
    · rw [carryOut_merges_tails formed admitted asksMerges found asksTails, enough,
        Table.drop_pile, formed.put_itemsOf admitted]
    · intro undone source target giver taker head within isMerged got gotTarget sameKind asksHead
      let before := table.put list (.list (table.pile list
        (sources.take (sources.length - 1 - undone)) (table.itemsOf list)))
      have beforeFormed : before.WellFormed := formed.put admitted
      have sourceAdmitted : before.refusal? source giver.kind = none := by
        simpa [before] using formed.admitted_of_get got
      obtain ⟨merged, mergedGot, mergedValue⟩ :=
        beforeFormed.get_valueOf (Table.declared_of_admitted sourceAdmitted)
      have receives : table.refusal? target (before.valueOf source).kind = none := by
        rw [beforeFormed.kind_valueOf sourceAdmitted, ← sameKind]
        exact formed.admitted_of_get gotTarget
      obtain ⟨final, stored, handed, storedGot, storedValue⟩ :=
        carryOut_top formed admitted _ receives asksHead length
      refine ⟨before, _, final, merged, stored, ?_, mergedGot, ?_, handed, storedGot,
        storedValue.trans mergedValue.symm⟩
      · exact carryOut_pile formed admitted (List.forall₂_take _ asksMerges)
          fun source member => found source (List.mem_of_mem_take member)
      · have taken : (tails.take undone).length = undone := by
          rw [List.length_take, enough]
          omega
        rw [carryOut_merges_tails formed admitted asksMerges found
          fun line member => asksTails line (List.mem_of_mem_take member), taken,
          table.drop_pile_top list _ within isMerged]
  · intro first others holder taker head tail merge filled got sameKind different asksHead asksTail
      asksMerge
    have receives : table.refusal? holder first.kind = none := by
      rw [← sameKind]
      exact formed.admitted_of_get got
    refine ⟨_, carryOut_head_tail_merge formed admitted filled different receives asksHead asksTail
      asksMerge, (formed.update_eq holder first).symm, ?_⟩
    have taken : (table.put holder first).WellFormed := formed.put receives
    rw [taken.list_eq, Table.refusal?_put, admitted, Table.itemsOf_put_of_ne different.symm]

/-- A number is merged into a list, and then twice the list into itself. One tail later the head is
the list as it was before it was merged for the first time. -/
theorem lists_stack_self :
    let table : Table Int64 :=
      ((Table.empty.push (utf8 "x") .integer (.number 5)).push (utf8 "l") .list
        (.list [.list []])).push (utf8 "m") .list (.list [])
    let line := fun source : String => Line.parse [] (utf8 source) 1
    let merges := [line "MERGE x l", line "MERGE l l", line "MERGE l l"]
    let tails := List.replicate 3 (line "TAIL l l")
    table.WellFormed ∧ table.list (utf8 "l") = .ok [.list []] ∧
      carryOut 1 (merges ++ tails) table = some table ∧
      (∃ (before after final : Table Int64) (merged stored : Symbol Int64),
        carryOut 1 (merges.take 1) table = some before ∧ before.get (utf8 "l") = .ok merged ∧
        carryOut 1 (merges ++ tails.take 1) table = some after ∧
        carryOut 1 [line "HEAD l m"] after = some final ∧
        final.get (utf8 "m") = .ok stored ∧ stored.value = merged.value) ∧
      ∃ final : Table Int64,
        carryOut 1 [line "HEAD l m", line "TAIL l l", line "MERGE m l"] table = some final ∧
        final = table.update (utf8 "m") (.list []) ∧ final.list (utf8 "l") = .ok [.list []] := by
  intro table line merges tails
  have formed : table.WellFormed :=
    .push (.push (.push Table.wellFormed_empty (by rfl) (by rfl)) (by rfl) (by rfl)) (by rfl)
      (by rfl)
  have isList : table.list (utf8 "l") = .ok [.list []] := by rfl
  obtain ⟨asksNumber, asksList, asksTail, asksHead, asksBack⟩ :
      (line "MERGE x l").Asks .merge [utf8 "x", utf8 "l"] ∧
        (line "MERGE l l").Asks .merge [utf8 "l", utf8 "l"] ∧
        (line "TAIL l l").Asks .tail [utf8 "l", utf8 "l"] ∧
        (line "HEAD l m").Asks .head [utf8 "l", utf8 "m"] ∧
        (line "MERGE m l").Asks .merge [utf8 "m", utf8 "l"] := by
    decide +kernel
  obtain ⟨undoes, restores⟩ := lists_stack formed 1 isList
  obtain ⟨undone, handed⟩ := undoes [utf8 "x", utf8 "l", utf8 "l"] merges tails (by decide)
    (.cons asksNumber (.cons asksList (.cons asksList .nil))) rfl
    fun other member => List.eq_of_mem_replicate member ▸ asksTail
  exact ⟨formed, isList, undone,
    handed 1 _ _ _ _ _ (by decide) rfl rfl rfl rfl asksHead,
    restores _ _ _ _ _ _ _ rfl rfl rfl (by decide) asksHead asksTail asksBack⟩

end Standard
end LineMachine
