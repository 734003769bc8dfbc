import LineMachine.Proofs.Faulting
import LineMachine.Proofs.Rows

namespace LineMachine

namespace Text

/-- Two texts that end at the first occurrence of the same byte are told apart by it. -/
theorem cut_at {separator : UInt8} {first second rest other : Text} (firstFree : separator ∉ first)
    (secondFree : separator ∉ second)
    (same : first ++ separator :: rest = second ++ separator :: other) :
    first = second ∧ rest = other := by
  induction first generalizing second with
  | nil =>
    cases second with
    | nil => exact ⟨rfl, (List.cons.inj same).2⟩
    | cons byte second =>
      obtain ⟨rfl, -⟩ := List.cons.inj same
      exact absurd List.mem_cons_self secondFree
  | cons byte first inductionHypothesis =>
    cases second with
    | nil =>
      obtain ⟨rfl, -⟩ := List.cons.inj same
      exact absurd List.mem_cons_self firstFree
    | cons next second =>
      obtain ⟨rfl, sameTail⟩ := List.cons.inj same
      obtain ⟨rfl, sameRest⟩ := inductionHypothesis (List.not_mem_of_not_mem_cons firstFree)
        (List.not_mem_of_not_mem_cons secondFree) sameTail
      exact ⟨rfl, sameRest⟩

/-- No number goes on with this text. -/
def Ends (text : Text) : Prop := ∀ byte ∈ text.head?, byte ≠ 45 ∧ ¬ isDigit byte

/-- A decimal form ends where its digits end. -/
theorem ofInt_cut {first second : Int} {rest other : Text} (restEnds : rest.Ends)
    (otherEnds : other.Ends) (same : ofInt first ++ rest = ofInt second ++ other) :
    first = second ∧ rest = other := by
  have taken (number : Int) {rest : Text} (ends : rest.Ends) :
      (ofInt number ++ rest).takeWhile (fun byte => byte == 45 || isDigit byte) = ofInt number := by
    rw [List.takeWhile_append_of_pos]
    · cases rest with
      | nil => simp
      | cons byte rest =>
        obtain ⟨noSign, noDigit⟩ := ends byte rfl
        simp [noSign, noDigit]
    · intro byte member
      simpa using mem_ofInt member
  have sameForm : ofInt first = ofInt second := by
    rw [← taken first restEnds, same, taken second otherEnds]
  refine ⟨ofInt_injective sameForm, ?_⟩
  rw [sameForm] at same
  exact List.append_cancel_left same

end Text

theorem Kind.name_injective : Function.Injective Kind.name := by
  have starts (code : Int) : (other code).name.head? = some 107 := rfl
  intro first second same
  have sameStart := congrArg List.head? same
  cases first with
  | integer | list =>
    cases second with
    | integer | list => first | rfl | exact absurd sameStart (by decide)
    | other code =>
      rw [starts] at sameStart
      exact absurd sameStart (by decide)
  | other first =>
    cases second with
    | integer | list =>
      rw [starts] at sameStart
      exact absurd sameStart (by decide)
    | other second =>
      rw [name, name, List.append_left_inj, List.append_right_inj] at same
      rw [Text.ofInt_injective same]

namespace Value

variable {ν : Type} [Number ν]

/-- The form of a number starts with a digit or a sign. -/
theorem number_starts (amount : ν) :
    ∃ byte rest, (number amount).text = byte :: rest ∧ (byte = 45 ∨ Text.isDigit byte) := by
  cases form : (number amount).text with
  | nil => exact absurd form (Text.isToken_ofInt (Number.toInt amount)).nonempty
  | cons byte rest =>
    have written : byte ∈ Text.ofInt (Number.toInt amount) := by
      rw [← Number.text, ← text, form]
      exact List.mem_cons_self
    exact ⟨byte, rest, rfl, Text.mem_ofInt written⟩

/-- The form of no value starts with a closing bracket. -/
theorem text_starts (value : Value ν) : ∃ byte rest, value.text = byte :: rest ∧ byte ≠ 93 := by
  cases value with
  | number amount =>
    obtain ⟨byte, rest, form, starts⟩ := number_starts amount
    refine ⟨byte, rest, form, ?_⟩
    rintro rfl
    simp [Text.isDigit] at starts
  | list items => exact ⟨91, itemsText items ++ [93], by rw [text]; rfl, by decide⟩

/-- A number is no list. -/
theorem number_ne_list (amount : ν) (items : List (Value ν)) (rest other : Text) :
    (number amount).text ++ rest ≠ (list items).text ++ other := by
  obtain ⟨byte, tail, form, starts⟩ := number_starts amount
  rw [form, text]
  intro same
  obtain ⟨rfl, -⟩ := List.cons.inj same
  simp [Text.isDigit] at starts

/-- The printed items after the first one, each behind a comma and a space. -/
def moreText : List (Value ν) → Text
  | [] => []
  | next :: rest => utf8 ", " ++ itemsText (next :: rest)

theorem itemsText_cons (item : Value ν) (rest : List (Value ν)) :
    itemsText (item :: rest) = item.text ++ moreText rest := by
  cases rest with
  | nil => simp [itemsText, moreText]
  | cons next rest => simp [itemsText, moreText]

/-- After an item there is a comma or the closing bracket, so no number goes on. -/
theorem ends_moreText (items : List (Value ν)) (rest : Text) :
    Text.Ends (moreText items ++ 93 :: rest) := by
  intro byte first
  cases items with
  | nil =>
    obtain rfl : 93 = byte := by simpa [moreText] using first
    decide
  | cons next items =>
    obtain rfl : 44 = byte := by
      rw [moreText] at first
      exact Option.some.inj first
    decide

mutual

/-- The form of a value ends by itself, if different numbers are printed differently. -/
theorem text_cut (faithful : Function.Injective (Number.toInt : ν → Int)) {rest other : Text} :
    ∀ first second : Value ν, rest.Ends → other.Ends →
      first.text ++ rest = second.text ++ other → first = second ∧ rest = other
  | .number first, .number second, restEnds, otherEnds, same => by
    obtain ⟨sameNumber, sameRest⟩ := Text.ofInt_cut restEnds otherEnds same
    exact ⟨congrArg number (faithful sameNumber), sameRest⟩
  | .number first, .list second, _, _, same => absurd same (number_ne_list _ _ _ _)
  | .list first, .number second, _, _, same => absurd same.symm (number_ne_list _ _ _ _)
  | .list first, .list second, _, _, same => by
    simp only [text, List.cons_append, List.append_assoc, List.cons.injEq, true_and,
      List.nil_append] at same
    obtain ⟨rfl, sameRest⟩ := itemsText_cut faithful first second same
    exact ⟨rfl, sameRest⟩

/-- The items of a list end at the bracket that closes it. -/
theorem itemsText_cut (faithful : Function.Injective (Number.toInt : ν → Int))
    {rest other : Text} :
    ∀ first second : List (Value ν),
      itemsText first ++ 93 :: rest = itemsText second ++ 93 :: other →
      first = second ∧ rest = other
  | [], [], same => ⟨rfl, (List.cons.inj same).2⟩
  | [], second :: others, same => by
    obtain ⟨byte, tail, form, opens⟩ := second.text_starts
    rw [itemsText_cons, form] at same
    exact absurd (List.cons.inj same).1.symm opens
  | first :: others, [], same => by
    obtain ⟨byte, tail, form, opens⟩ := first.text_starts
    rw [itemsText_cons, form] at same
    exact absurd (List.cons.inj same).1 opens
  | first :: others, second :: more, same => by
    rw [itemsText_cons, itemsText_cons, List.append_assoc, List.append_assoc] at same
    obtain ⟨rfl, sameMore⟩ :=
      text_cut faithful first second (ends_moreText _ _) (ends_moreText _ _) same
    -- Both lists end here or both go on after a comma.
    match others, more, sameMore with
    | [], [], sameMore => exact ⟨rfl, (List.cons.inj sameMore).2⟩
    | [], next :: more, sameMore => exact absurd (List.cons.inj sameMore).1 (by decide)
    | next :: others, [], sameMore => exact absurd (List.cons.inj sameMore).1 (by decide)
    | next :: others, follower :: more, sameMore =>
      simp only [moreText, List.append_assoc, List.append_right_inj] at sameMore
      obtain ⟨sameItems, sameRest⟩ :=
        itemsText_cut faithful (next :: others) (follower :: more) sameMore
      exact ⟨by rw [sameItems], sameRest⟩

end

/-- The form of a value determines it, if different numbers are printed differently. -/
theorem text_injective (faithful : Function.Injective (Number.toInt : ν → Int)) :
    Function.Injective (text : Value ν → Text) := by
  intro first second same
  have ends : Text.Ends [] := by simp [Text.Ends]
  exact (text_cut faithful first second ends ends (by rw [same])).1

end Value

section

variable {ν : Type} [Number ν]

/-- The form of a symbol, cut at its first two spaces. -/
theorem Symbol.text_eq (symbol : Symbol ν) :
    symbol.text = symbol.name ++ 32 ::
      ((40 :: symbol.kind.name ++ [41]) ++ 32 :: (61 :: 32 :: symbol.value.text)) := by
  have opening : utf8 " (" = [32, 40] := rfl
  have closing : utf8 ") = " = [41, 32, 61, 32] := rfl
  simp [text, opening, closing]

/-- A symbol is read back from its form if its name has no space. -/
theorem Symbol.eq_of_text (faithful : Function.Injective (Number.toInt : ν → Int))
    {first second : Symbol ν} (firstFree : 32 ∉ first.name) (secondFree : 32 ∉ second.name)
    (same : first.text = second.text) : first = second := by
  have solid (kind : Kind) : 32 ∉ 40 :: kind.name ++ [41] := by
    simpa using fun member => absurd (Kind.lt_of_mem_name member) (by decide)
  rw [text_eq, text_eq] at same
  obtain ⟨sameName, same⟩ := Text.cut_at firstFree secondFree same
  obtain ⟨sameKind, same⟩ := Text.cut_at (solid _) (solid _) same
  have sameKind : first.kind = second.kind := by
    simpa using Kind.name_injective (List.append_cancel_right (List.cons.inj sameKind).2)
  have sameValue : first.value = second.value :=
    Value.text_injective faithful (by simpa using same)
  cases first
  cases second
  simp_all

/-- Symbols in a row are read back one after another. -/
theorem Symbol.eq_of_map_text (faithful : Function.Injective (Number.toInt : ν → Int))
    {first second : List (Symbol ν)} (firstUnbroken : ∀ symbol ∈ first, symbol.name.IsUnbroken)
    (secondUnbroken : ∀ symbol ∈ second, symbol.name.IsUnbroken)
    (same : first.map text = second.map text) : first = second := by
  induction first generalizing second with
  | nil => exact (List.map_eq_nil_iff.mp same.symm).symm
  | cons symbol first inductionHypothesis =>
    cases second with
    | nil => contradiction
    | cons other second =>
      rw [List.forall_mem_cons] at firstUnbroken secondUnbroken
      obtain ⟨sameText, sameRest⟩ := List.cons.inj same
      rw [eq_of_text faithful firstUnbroken.1.no_space secondUnbroken.1.no_space sameText,
        inductionHypothesis firstUnbroken.2 secondUnbroken.2 sameRest]

namespace Table

/-- The symbols of a table are printed as rows. -/
theorem pieces_text {table : Table ν}
    (unbroken : ∀ symbol ∈ table.symbols, symbol.name.IsUnbroken) :
    table.text.pieces Text.newline = table.symbols.map Symbol.text ++ [[]] := by
  rw [text_eq_lines, Text.pieces_lines]
  intro row member
  obtain ⟨symbol, present, rfl⟩ := List.mem_map.mp member
  exact Symbol.isRow_text (unbroken symbol present).isRow

/-- The symbols of a table are read back from its printed form. -/
theorem symbols_eq_of_text (faithful : Function.Injective (Number.toInt : ν → Int))
    {first second : Table ν} (firstUnbroken : ∀ symbol ∈ first.symbols, symbol.name.IsUnbroken)
    (secondUnbroken : ∀ symbol ∈ second.symbols, symbol.name.IsUnbroken)
    (same : first.text = second.text) : first.symbols = second.symbols := by
  have rows : first.symbols.map Symbol.text ++ [[]] = second.symbols.map Symbol.text ++ [[]] := by
    rw [← pieces_text firstUnbroken, same, pieces_text secondUnbroken]
  exact Symbol.eq_of_map_text faithful firstUnbroken secondUnbroken (List.append_cancel_right rows)

/-- Every name of the table can be written in a program. -/
def Named (table : Table ν) : Prop := ∀ symbol ∈ table.symbols, symbol.name.IsToken

omit [Number ν] in
theorem named_iff_signature {table : Table ν} :
    table.Named ↔ ∀ entry ∈ table.signature, entry.1.IsToken := by
  simp [Named, signature]

end Table

/-- A declared name is an argument. -/
theorem Operation.mem_of_declared? {operation : Operation} {arguments : List Text}
    {entry : Text × Kind} (declared : operation.declared? arguments = some entry) :
    entry.1 ∈ arguments := by
  rw [declared?.eq_def] at declared
  split at declared
  · obtain rfl := Option.some.inj declared
    exact List.mem_cons_self
  · obtain rfl := Option.some.inj declared
    exact List.mem_cons_self
  · contradiction

/-- The answer to a line of tokens leaves a table whose names are tokens. -/
theorem Standard.Answer.named {line : Line} {table : Table ν} {length : Nat} {reply : Reply ν}
    (answer : Standard.Answer line table length reply) (named : table.Named)
    (tokens : ∀ word ∈ line.arguments, word.IsToken) : reply.table.Named := by
  cases answer with
  | blank | refused => exact named
  | performed operation _ enough _ =>
    rw [Table.named_iff_signature] at named ⊢
    rw [Effect.reply, Operation.effect_signature enough]
    intro entry member
    rcases List.mem_append.mp member with before | added
    · exact named entry before
    · exact tokens entry.1 (Operation.mem_of_declared? (Option.mem_toList.mp added))

namespace Machine

/-- A machine that runs programs keeps its table well formed and its names tokens. -/
theorem named_kept (filename : Text) :
    Kept (· = Standard.set) fun machine : Machine ν =>
      (machine.Sourced filename ∧ machine.table.WellFormed) ∧ machine.table.Named := by
  have formed_kept : Kept (· = Standard.set) fun machine : Machine ν =>
      machine.Sourced filename ∧ machine.table.WellFormed := by
    refine (sourced_kept _ filename).and_table Table.WellFormed ?_
    rintro set machine line rfl - - formed
    exact (Standard.dispatch_answer formed line _).wellFormed formed
  refine formed_kept.and_table Table.Named ?_
  rintro set machine line rfl ⟨sourced, formed⟩ current named
  refine (Standard.dispatch_answer formed line _).named named fun word member => ?_
  obtain ⟨text, -, rfl⟩ := sourced.line current
  exact Line.isToken_of_mem_arguments member

theorem named_of_history {filename : Text} {tracing : Bool} {lines : List Text}
    {places : List Nat} {machine : Machine ν}
    (history : History (· = Standard.set) (load filename tracing lines) places machine) :
    machine.table.Named :=
  ((named_kept filename).history history
    ⟨⟨sourced_load filename tracing lines, Table.wellFormed_empty⟩,
      by simp [load, Table.Named, Table.empty]⟩).2

end Machine

end

/-- The printed form of a table determines its symbols: their order, names, kinds and values. This
holds for all names without blanks, and so for all tables that programs lead to. -/
theorem dump_determines_symbols :
    (∀ first second : Table Int64,
      (∀ symbol ∈ first.symbols, symbol.name.IsUnbroken) →
      (∀ symbol ∈ second.symbols, symbol.name.IsUnbroken) →
      first.text = second.text → first.symbols = second.symbols) ∧
    ∀ (start other : List Text) (filename otherFile : Text) (tracing otherTracing : Bool)
      (places otherPlaces : List Nat) (first second : Machine Int64),
      Machine.History (· = Standard.set) (.load filename tracing start) places first →
      Machine.History (· = Standard.set) (.load otherFile otherTracing other) otherPlaces second →
      first.table.text = second.table.text → first.table.symbols = second.table.symbols := by
  have faithful : Function.Injective (Number.toInt : Int64 → Int) := fun _ _ => Int64.toInt_inj.mp
  constructor
  · intro first second firstUnbroken secondUnbroken same
    exact Table.symbols_eq_of_text faithful firstUnbroken secondUnbroken same
  · intro start other filename otherFile tracing otherTracing places otherPlaces first second
      firstHistory secondHistory same
    exact Table.symbols_eq_of_text faithful
      (fun symbol member => (Machine.named_of_history firstHistory symbol member).unbroken)
      (fun symbol member => (Machine.named_of_history secondHistory symbol member).unbroken) same

/-- Two programs print the same table, with a name that looks like the form of a symbol and a name
that is no valid text. So they have the same symbols. -/
theorem dump_determines_symbols_strange :
    let name := utf8 "a(int)=[0,"
    let bytes : Text := [0xFF]
    let start := [utf8 "LIST " ++ bytes, utf8 "INTEGER " ++ name,
      utf8 "ASSIGN " ++ name ++ utf8 " -7", utf8 "MERGE " ++ bytes ++ utf8 " " ++ bytes,
      utf8 "MERGE " ++ name ++ utf8 " " ++ bytes]
    let other := [utf8 "list " ++ bytes ++ utf8 " # a comment", utf8 "integer " ++ name, [],
      utf8 "merge " ++ bytes ++ utf8 " " ++ bytes, utf8 "assign " ++ name ++ utf8 " 7",
      utf8 "chs " ++ name, utf8 "merge " ++ name ++ utf8 " " ++ bytes]
    let first : Machine Int64 := (Machine.load [] false start).drive Standard.set 9
    let second : Machine Int64 := (Machine.load [] true other).drive Standard.set 9
    first.table.text = bytes ++ utf8 " (list) = [-7, []]\na(int)=[0, (int) = -7\n" ∧
      second.table.text = first.table.text ∧ first.table.symbols = second.table.symbols := by
  intro name bytes start other first second
  obtain ⟨form, same⟩ :
      first.table.text = bytes ++ utf8 " (list) = [-7, []]\na(int)=[0, (int) = -7\n" ∧
        second.table.text = first.table.text := by
    decide +kernel
  obtain ⟨places, walked⟩ := Machine.drive_walk (· = Standard.set) Standard.set rfl 9
    (Machine.load [] false start : Machine Int64)
  obtain ⟨otherPlaces, otherWalked⟩ := Machine.drive_walk (· = Standard.set) Standard.set rfl 9
    (Machine.load [] true other : Machine Int64)
  exact ⟨form, same, dump_determines_symbols.2 start other [] [] false true places otherPlaces
    first second walked.history otherWalked.history same.symm⟩

end LineMachine
