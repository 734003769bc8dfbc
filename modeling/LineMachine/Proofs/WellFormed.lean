import LineMachine.Table

namespace LineMachine.Table

variable {ν : Type}

/-- The index, the symbols and the declared kinds agree. -/
structure WellFormed (table : Table ν) : Prop where
  index_iff : ∀ name place, table.place? name = some place ↔
    ∃ symbol, table.symbols[place]? = some symbol ∧ symbol.name = name
  kinds : ∀ symbol ∈ table.symbols, symbol.value.kind = symbol.kind

/-- The names and kinds in order of declaration. -/
def signature (table : Table ν) : List (Text × Kind) :=
  table.symbols.map fun symbol => (symbol.name, symbol.kind)

/-- The symbol of a name among the symbols, without the index. -/
def find? (table : Table ν) (name : Text) : Option (Symbol ν) :=
  table.symbols.find? fun symbol => symbol.name == name

/-- The table with one more symbol at its end. -/
def push (table : Table ν) (name : Text) (kind : Kind) (value : Value ν) : Table ν where
  symbols := table.symbols ++ [⟨name, kind, value⟩]
  index := (name, table.symbols.length) :: table.index

/-- The table with a new value under every symbol of a name. -/
def put (table : Table ν) (name : Text) (value : Value ν) : Table ν where
  symbols := table.symbols.map fun symbol =>
    if symbol.name = name then { symbol with value } else symbol
  index := table.index

/-- The value under a name; the empty list for a name without a symbol. -/
def valueOf (table : Table ν) (name : Text) : Value ν :=
  ((table.find? name).map Symbol.value).getD (.list [])

/-- The items of the list under a name. -/
def itemsOf (table : Table ν) (name : Text) : List (Value ν) :=
  ((table.find? name).bind fun symbol => symbol.value.items?).getD []

/-- The number under a name. -/
def amountOf [Number ν] (table : Table ν) (name : Text) : ν :=
  ((table.find? name).bind fun symbol => symbol.value.amount?).getD (Number.ofInt 0)

/-- The cause with which a name is refused as one of the given kind. -/
def refusal? (table : Table ν) (name : Text) (kind : Kind) : Option Cause :=
  match table.find? name with
  | none => some (.undeclared name)
  | some symbol => if symbol.kind = kind then none else some (.mismatch name symbol.kind kind)

/-- A found symbol has the name that was looked for. -/
theorem find?_name {table : Table ν} {name : Text} {symbol : Symbol ν}
    (found : table.find? name = some symbol) : symbol.name = name := by
  simpa using List.find?_some found

/-- A found symbol is one of the table. -/
theorem find?_mem {table : Table ν} {name : Text} {symbol : Symbol ν}
    (found : table.find? name = some symbol) : symbol ∈ table.symbols :=
  List.mem_of_find?_eq_some found

theorem wellFormed_empty : (empty : Table ν).WellFormed where
  index_iff name place := by simp [empty, place?]
  kinds symbol member := by simp [empty] at member

namespace WellFormed

variable {table : Table ν}

/-- Two places with the same name are the same place. -/
theorem place_unique (formed : table.WellFormed) {first second : Nat} {left right : Symbol ν}
    (leftAt : table.symbols[first]? = some left) (rightAt : table.symbols[second]? = some right)
    (sameName : left.name = right.name) : first = second := by
  have firstPlace := (formed.index_iff right.name first).mpr ⟨left, leftAt, sameName⟩
  have secondPlace := (formed.index_iff right.name second).mpr ⟨right, rightAt, rfl⟩
  rw [firstPlace] at secondPlace
  exact Option.some.inj secondPlace

/-- No two symbols share a name. -/
theorem names_nodup (formed : table.WellFormed) : (table.symbols.map Symbol.name).Nodup := by
  rw [List.nodup_iff_pairwise_ne, List.pairwise_iff_getElem]
  intro first second firstLt secondLt before
  simp only [List.getElem_map]
  intro sameName
  simp only [List.length_map] at firstLt secondLt
  have samePlace := formed.place_unique (List.getElem?_eq_getElem firstLt)
    (List.getElem?_eq_getElem secondLt) sameName
  omega

/-- A symbol is the one that its name finds. -/
theorem find?_eq_some (formed : table.WellFormed) {symbol : Symbol ν}
    (member : symbol ∈ table.symbols) : table.find? symbol.name = some symbol := by
  obtain ⟨place, placeAt⟩ := List.mem_iff_getElem?.mp member
  have isFound : (table.find? symbol.name).isSome :=
    List.find?_isSome.mpr ⟨symbol, member, by simp⟩
  obtain ⟨other, found⟩ := Option.isSome_iff_exists.mp isFound
  obtain ⟨otherPlace, otherAt⟩ := List.mem_iff_getElem?.mp (find?_mem found)
  have samePlace := formed.place_unique otherAt placeAt (find?_name found)
  rw [samePlace, placeAt] at otherAt
  rw [found, Option.some.inj otherAt]

/-- The index knows exactly the names that are found. -/
theorem place?_eq_none_iff (formed : table.WellFormed) (name : Text) :
    table.place? name = none ↔ table.find? name = none := by
  constructor
  · intro noPlace
    cases found : table.find? name with
    | none => rfl
    | some symbol =>
      obtain ⟨place, placeAt⟩ := List.mem_iff_getElem?.mp (find?_mem found)
      have indexed := (formed.index_iff name place).mpr ⟨symbol, placeAt, find?_name found⟩
      rw [noPlace] at indexed
      contradiction
  · intro noSymbol
    cases indexed : table.place? name with
    | none => rfl
    | some place =>
      obtain ⟨symbol, placeAt, rfl⟩ := (formed.index_iff name place).mp indexed
      rw [formed.find?_eq_some (List.mem_of_getElem? placeAt)] at noSymbol
      contradiction

theorem isDeclared_eq (formed : table.WellFormed) (name : Text) :
    table.isDeclared name = (table.find? name).isSome := by
  have absent := formed.place?_eq_none_iff name
  rw [isDeclared]
  cases place : table.place? name <;> cases found : table.find? name <;> simp_all

/-- The symbol of a name is the one that is found, and a name that is not found is undeclared. -/
theorem get_eq (formed : table.WellFormed) (name : Text) :
    table.get name = match table.find? name with
      | some symbol => .ok symbol
      | none => .error (.undeclared name) := by
  rw [get]
  cases indexed : table.place? name with
  | none => rw [(formed.place?_eq_none_iff name).mp indexed]
  | some place =>
    obtain ⟨symbol, placeAt, rfl⟩ := (formed.index_iff name place).mp indexed
    rw [formed.find?_eq_some (List.mem_of_getElem? placeAt)]
    simp only [placeAt]

/-- A name that is refused under a kind is not given out. -/
theorem getKind_refused (formed : table.WellFormed) {name : Text} {kind : Kind} {cause : Cause}
    (refused : table.refusal? name kind = some cause) : table.getKind name kind = .error cause := by
  rw [getKind, formed.get_eq]
  rw [refusal?] at refused
  cases found : table.find? name with
  | none => simpa [found] using refused
  | some symbol =>
    by_cases same : symbol.kind = kind
    · simp [found, same] at refused
    · simpa [found, same] using refused

/-- A name that is not refused under a kind has a symbol of that kind. -/
theorem getKind_admitted (formed : table.WellFormed) {name : Text} {kind : Kind}
    (admitted : table.refusal? name kind = none) :
    ∃ symbol, table.find? name = some symbol ∧ symbol.kind = kind ∧
      table.getKind name kind = .ok symbol := by
  rw [getKind, formed.get_eq]
  rw [refusal?] at admitted
  cases found : table.find? name with
  | none => simp [found] at admitted
  | some symbol =>
    by_cases same : symbol.kind = kind
    · exact ⟨symbol, rfl, same, by simp [same]⟩
    · simp [found, same] at admitted

/-- The number under a name of the kind of numbers. -/
theorem integer_eq [Number ν] (formed : table.WellFormed) (name : Text) :
    table.integer name = match table.refusal? name .integer with
      | some cause => .error cause
      | none => .ok (table.amountOf name) := by
  rw [integer, read]
  cases refused : table.refusal? name .integer with
  | some cause => rw [formed.getKind_refused refused]
  | none =>
    obtain ⟨symbol, found, isInteger, given⟩ := formed.getKind_admitted refused
    have kind := formed.kinds symbol (find?_mem found)
    rw [given, amountOf, found]
    cases held : symbol.value with
    | number amount => simp [held, Value.amount?]
    | list items => simp [held, Value.kind, isInteger] at kind

/-- The items under a name of the kind of lists. -/
theorem list_eq (formed : table.WellFormed) (name : Text) :
    table.list name = match table.refusal? name .list with
      | some cause => .error cause
      | none => .ok (table.itemsOf name) := by
  rw [list, read]
  cases refused : table.refusal? name .list with
  | some cause => rw [formed.getKind_refused refused]
  | none =>
    obtain ⟨symbol, found, isList, given⟩ := formed.getKind_admitted refused
    have kind := formed.kinds symbol (find?_mem found)
    rw [given, itemsOf, found]
    cases held : symbol.value with
    | list items => simp [held, Value.items?]
    | number amount => simp [held, Value.kind, isList] at kind

/-- Writing at the place of a name changes exactly the symbol of that name. -/
theorem update_eq (formed : table.WellFormed) (name : Text) (value : Value ν) :
    table.update name value = table.put name value := by
  rw [update]
  cases indexed : table.place? name with
  | none =>
    have absent := (formed.place?_eq_none_iff name).mp indexed
    have unchanged : table.symbols = table.symbols.map fun symbol =>
        if symbol.name = name then { symbol with value } else symbol := by
      refine (List.map_id _).symm.trans (List.map_congr_left fun symbol member => ?_)
      have other : symbol.name ≠ name := by
        simpa using List.find?_eq_none.mp absent symbol member
      simp [other]
    rw [put, ← unchanged]
  | some place =>
    simp only [put, Table.mk.injEq, and_true]
    apply List.ext_getElem?
    intro other
    rw [List.getElem?_modify, List.getElem?_map]
    cases held : table.symbols[other]? with
    | none => simp
    | some symbol =>
      have here : place = other ↔ symbol.name = name := by
        constructor
        · rintro rfl
          obtain ⟨found, foundAt, sameName⟩ := (formed.index_iff name place).mp indexed
          rw [held] at foundAt
          rw [Option.some.inj foundAt, sameName]
        · intro sameName
          have also := (formed.index_iff name other).mpr ⟨symbol, held, sameName⟩
          rw [indexed] at also
          exact Option.some.inj also
      by_cases same : symbol.name = name <;> simp [here, same]

theorem set_eq (formed : table.WellFormed) (name : Text) (kind : Kind) (value : Value ν) :
    table.set name kind value = match table.refusal? name kind with
      | some cause => .error cause
      | none => .ok (table.put name value) := by
  rw [set]
  cases refused : table.refusal? name kind with
  | some cause => rw [formed.getKind_refused refused]
  | none =>
    obtain ⟨symbol, _, _, given⟩ := formed.getKind_admitted refused
    rw [given, formed.update_eq]

theorem declare_eq (formed : table.WellFormed) (name : Text) (kind : Kind) (value : Value ν) :
    table.declare name kind value =
      if (table.find? name).isSome then .error (.alreadyDeclared name)
      else .ok (table.push name kind value) := by
  rw [declare, formed.isDeclared_eq, push]

/-- A new name with a value of its kind keeps the table well formed. -/
theorem push (formed : table.WellFormed) {name : Text} {kind : Kind} {value : Value ν}
    (absent : table.find? name = none) (sameKind : value.kind = kind) :
    (table.push name kind value).WellFormed where
  index_iff other place := by
    have old := formed.index_iff other place
    have unindexed := (formed.place?_eq_none_iff name).mpr absent
    rw [place?] at old unindexed
    simp only [place?, Table.push, List.lookup_cons]
    by_cases sameName : other = name
    · subst sameName
      simp only [beq_self_eq_true, Option.some.injEq]
      constructor
      · rintro rfl
        exact ⟨⟨other, kind, value⟩, by simp, rfl⟩
      · rintro ⟨symbol, symbolAt, named⟩
        by_cases inside : place < table.symbols.length
        · rw [List.getElem?_append_left inside] at symbolAt
          rw [unindexed] at old
          exact absurd (old.mpr ⟨symbol, symbolAt, named⟩) (by simp)
        · obtain ⟨atLast, -⟩ := List.getElem?_eq_some_iff.mp symbolAt
          simp only [List.length_append, List.length_singleton] at atLast
          omega
    · rw [beq_eq_false_iff_ne.mpr sameName]
      simp only [old]
      constructor
      · rintro ⟨symbol, symbolAt, named⟩
        have inside := (List.getElem?_eq_some_iff.mp symbolAt).1
        exact ⟨symbol, by rw [List.getElem?_append_left inside, symbolAt], named⟩
      · rintro ⟨symbol, symbolAt, named⟩
        by_cases inside : place < table.symbols.length
        · rw [List.getElem?_append_left inside] at symbolAt
          exact ⟨symbol, symbolAt, named⟩
        · obtain ⟨atLast, isLast⟩ := List.getElem?_eq_some_iff.mp symbolAt
          rw [List.getElem_append_right (by omega)] at isLast
          simp only [List.getElem_singleton] at isLast
          rw [← isLast] at named
          exact absurd named.symm sameName
  kinds symbol member := by
    rcases List.mem_append.mp member with old | new
    · exact formed.kinds symbol old
    · rw [List.mem_singleton.mp new, sameKind]

/-- A value of the declared kind keeps the table well formed. -/
theorem put (formed : table.WellFormed) {name : Text} {value : Value ν}
    (admitted : table.refusal? name value.kind = none) : (table.put name value).WellFormed where
  index_iff other place := by
    rw [show (table.put name value).place? other = table.place? other from rfl, formed.index_iff]
    simp only [Table.put, List.getElem?_map]
    cases table.symbols[place]? with
    | none => simp
    | some symbol => by_cases sameName : symbol.name = name <;> simp [sameName]
  kinds symbol member := by
    obtain ⟨old, oldMember, rfl⟩ := List.mem_map.mp member
    by_cases sameName : old.name = name
    · obtain ⟨found, isFound, sameKind, -⟩ := formed.getKind_admitted admitted
      rw [← sameName, formed.find?_eq_some oldMember] at isFound
      rw [Option.some.inj isFound, if_pos (by rw [← Option.some.inj isFound, sameName])]
      exact sameKind.symm
    · rw [if_neg sameName]
      exact formed.kinds old oldMember

end WellFormed

@[simp] theorem signature_push (table : Table ν) (name : Text) (kind : Kind) (value : Value ν) :
    (table.push name kind value).signature = table.signature ++ [(name, kind)] := by
  simp [signature, push]

@[simp] theorem signature_put (table : Table ν) (name : Text) (value : Value ν) :
    (table.put name value).signature = table.signature := by
  simp only [signature, put, List.map_map]
  apply List.map_congr_left
  intro symbol _
  by_cases sameName : symbol.name = name <;> simp [sameName]

end LineMachine.Table
