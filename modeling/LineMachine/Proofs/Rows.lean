import LineMachine.Proofs.Decimals
import LineMachine.Table

namespace LineMachine

namespace Text

/-- A row is a text without a line feed. -/
def IsRow (text : Text) : Prop := newline ∉ text

instance (text : Text) : Decidable text.IsRow := inferInstanceAs (Decidable (newline ∉ text))

@[simp] theorem isRow_append {first second : Text} :
    IsRow (first ++ second) ↔ first.IsRow ∧ second.IsRow := by
  simp [IsRow]

@[simp] theorem isRow_cons {byte : UInt8} {text : Text} :
    IsRow (byte :: text) ↔ byte ≠ newline ∧ text.IsRow := by
  simp [IsRow, eq_comm]

theorem isRow_nil : IsRow [] := by simp [IsRow]

/-- The texts as lines, one after another. -/
def lines (rows : List Text) : Text := rows.flatMap line

theorem lines_append (first second : List Text) :
    lines (first ++ second) = lines first ++ lines second :=
  List.flatMap_append

/-- A row before a line feed is the first piece. -/
theorem pieces_line_append {row : Text} (isRow : row.IsRow) (rest : Text) :
    pieces newline (row.line ++ rest) = row :: pieces newline rest := by
  induction row with
  | nil => simp [line, pieces]
  | cons byte row inductionHypothesis =>
    obtain ⟨other, isRow⟩ := isRow_cons.mp isRow
    have pieces_row := inductionHypothesis isRow
    rw [line] at pieces_row ⊢
    rw [List.cons_append, List.cons_append, pieces, if_neg other, pieces_row]

/-- Lines and a rest without a line feed are told apart again. -/
theorem pieces_lines_append {rows : List Text} (areRows : ∀ row ∈ rows, row.IsRow) {last : Text}
    (isRow : last.IsRow) : pieces newline (lines rows ++ last) = rows ++ [last] := by
  induction rows with
  | nil =>
    induction last with
    | nil => rfl
    | cons byte last inductionHypothesis =>
      obtain ⟨other, isRow⟩ := isRow_cons.mp isRow
      have shorter := inductionHypothesis isRow
      rw [lines, List.flatMap_nil, List.nil_append] at shorter ⊢
      rw [pieces, if_neg other, shorter]
      rfl
  | cons row rows inductionHypothesis =>
    obtain ⟨rowIsRow, areRows⟩ := List.forall_mem_cons.mp areRows
    rw [lines, List.flatMap_cons, List.append_assoc, pieces_line_append rowIsRow, ← lines,
      inductionHypothesis areRows, List.cons_append]

/-- Rows are told apart by the line feeds after them. -/
theorem pieces_lines {rows : List Text} (areRows : ∀ row ∈ rows, row.IsRow) :
    pieces newline (lines rows) = rows ++ [[]] := by
  rw [← List.append_nil (lines rows), pieces_lines_append areRows isRow_nil]

/-- Every piece between line feeds is a row. -/
theorem isRow_of_mem_pieces {text piece : Text} (member : piece ∈ text.pieces newline) :
    piece.IsRow := by
  induction text generalizing piece with
  | nil =>
    obtain rfl := List.mem_singleton.mp member
    exact isRow_nil
  | cons byte rest inductionHypothesis =>
    rw [pieces] at member
    split at member
    · rcases List.mem_cons.mp member with rfl | later
      · exact isRow_nil
      · exact inductionHypothesis later
    · rename_i other
      split at member
      · obtain rfl := List.mem_singleton.mp member
        exact isRow_cons.mpr ⟨other, isRow_nil⟩
      · rename_i first others split
        rw [split] at inductionHypothesis
        rcases List.mem_cons.mp member with rfl | later
        · exact isRow_cons.mpr ⟨other, inductionHypothesis List.mem_cons_self⟩
        · exact inductionHypothesis (List.mem_cons_of_mem first later)

/-- The lines of a source are rows. -/
theorem isRow_of_mem_programLines {source text : Text} (member : text ∈ source.programLines) :
    text.IsRow := by
  rw [programLines] at member
  split at member
  · contradiction
  · exact isRow_of_mem_pieces member

/-- A text without blanks is a row and has no space. -/
theorem IsUnbroken.isRow {text : Text} (unbroken : text.IsUnbroken) : text.IsRow :=
  unbroken.not_mem (by decide) (by decide)

theorem IsUnbroken.no_space {text : Text} (unbroken : text.IsUnbroken) : 32 ∉ text :=
  unbroken.not_mem (by decide) (by decide)

theorem isRow_ofInt (number : Int) : (ofInt number).IsRow := (isToken_ofInt number).unbroken.isRow

theorem isRow_ofNat (number : Nat) : (ofNat number).IsRow := isRow_ofInt number

/-- A trimmed row is a row. -/
theorem IsRow.trim {text : Text} (isRow : text.IsRow) : text.trim.IsRow := by
  intro member
  obtain ⟨glyph, kept, inside⟩ := List.mem_flatMap.mp member
  have present : glyph ∈ text.glyphs := by
    have dropped := (List.dropWhile_sublist _).mem (List.mem_reverse.mp kept)
    exact (List.dropWhile_sublist _).mem (List.mem_reverse.mp dropped)
  apply isRow
  rw [← text_glyphs text]
  exact List.mem_flatMap.mpr ⟨glyph, present, inside⟩

/-- A hexadecimal digit is one of the sixteen. -/
theorem digitChar_of_mem_toDigits {value : Nat} {digit : Char}
    (member : digit ∈ Nat.toDigits 16 value) : ∃ place < 16, digit = Nat.digitChar place := by
  induction value using Nat.strongRecOn with
  | ind value inductionHypothesis =>
    rw [Nat.toDigits_eq_if (by decide)] at member
    split at member
    · rename_i small
      exact ⟨value, small, List.mem_singleton.mp member⟩
    · rcases List.mem_append.mp member with earlier | last
      · exact inductionHypothesis (value / 16) (by omega) earlier
      · exact ⟨value % 16, by omega, List.mem_singleton.mp last⟩

theorem isRow_hexadecimal (width value : Nat) : (hexadecimal width value).IsRow := by
  have digits : ∀ place < 16, UInt8.ofNat (Nat.digitChar place).toNat ≠ newline := by decide
  rw [hexadecimal]
  refine isRow_append.mpr ⟨?_, ?_⟩
  · intro member
    exact absurd (List.eq_of_mem_replicate member) (by decide)
  · intro member
    obtain ⟨digit, written, same⟩ := List.mem_map.mp member
    obtain ⟨place, small, rfl⟩ := digitChar_of_mem_toDigits written
    exact digits place small same

/-- A character other than the line feed is written in a row. -/
theorem isRow_encode {character : Char} (other : character ≠ '\n') :
    IsRow (String.utf8EncodeChar character) := by
  intro member
  have number := toNat_of_mem_encode member (by decide)
  apply other
  rw [← Char.ofNat_toNat character, number]
  rfl

theorem isRow_shortEscape? {code : Nat} {escape : Text} (short : shortEscape? code = some escape) :
    escape.IsRow := by
  simp only [shortEscape?] at short
  split at short <;> cases short <;> decide

/-- The line feed is no printable character and has an escape of its own, like every other
character that would break a row. -/
theorem isRow_escapeGlyph (glyph : Glyph) : (escapeGlyph glyph).IsRow := by
  cases glyph with
  | stray byte => exact isRow_append.mpr ⟨by decide, isRow_hexadecimal 2 byte.toNat⟩
  | scalar character =>
    rw [escapeGlyph, escapeCharacter]
    split
    · rename_i special
      refine isRow_cons.mpr ⟨by decide, isRow_encode ?_⟩
      rintro rfl
      contradiction
    · split
      · rename_i printable
        refine isRow_encode ?_
        rintro rfl
        exact absurd printable (by decide +kernel)
      · split
        · rename_i short
          exact isRow_shortEscape? short
        · split
          · exact isRow_append.mpr ⟨by decide, isRow_hexadecimal 2 _⟩
          · split
            · exact isRow_append.mpr ⟨by decide, isRow_hexadecimal 4 _⟩
            · exact isRow_append.mpr ⟨by decide, isRow_hexadecimal 8 _⟩

/-- A quoted text is a row, whatever its bytes are. -/
theorem isRow_quote (text : Text) : text.quote.IsRow := by
  refine isRow_append.mpr ⟨isRow_append.mpr ⟨by decide, ?_⟩, by decide⟩
  intro member
  obtain ⟨glyph, -, inside⟩ := List.mem_flatMap.mp member
  exact isRow_escapeGlyph glyph inside

end Text

/-- The name of a kind has neither spaces nor line feeds. -/
theorem Kind.lt_of_mem_name {kind : Kind} {byte : UInt8} (member : byte ∈ kind.name) :
    32 < byte := by
  have solid : kind.name.all (32 < ·) := by
    cases kind with
    | integer | list => decide
    | other code =>
      simp only [name, List.all_append, Bool.and_eq_true]
      refine ⟨⟨by decide, List.all_eq_true.mpr fun byte written => ?_⟩, by decide⟩
      rcases Text.mem_ofInt written with rfl | digit
      · decide
      · have bounds := Text.isDigit_iff.mp digit
        simp only [decide_eq_true_eq, UInt8.lt_iff_toNat_lt, UInt8.reduceToNat]
        omega
  simpa using List.all_eq_true.mp solid byte member

theorem Kind.isRow_name (kind : Kind) : kind.name.IsRow :=
  fun member => absurd (lt_of_mem_name member) (by decide)

namespace Value

variable {ν : Type} [Number ν]

mutual

/-- The form of a value is a row. -/
theorem isRow_text : ∀ value : Value ν, value.text.IsRow
  | .number amount => Text.isRow_ofInt (Number.toInt amount)
  | .list items => by
    rw [text]
    exact Text.isRow_append.mpr
      ⟨Text.isRow_cons.mpr ⟨by decide, isRow_itemsText items⟩, by decide⟩

theorem isRow_itemsText : ∀ items : List (Value ν), Text.IsRow (itemsText items)
  | [] => Text.isRow_nil
  | [item] => isRow_text item
  | item :: next :: rest => by
    rw [itemsText]
    exact Text.isRow_append.mpr
      ⟨Text.isRow_append.mpr ⟨isRow_text item, by decide⟩, isRow_itemsText (next :: rest)⟩

end

end Value

/-- The form of a symbol is a row if its name is one. -/
theorem Symbol.isRow_text {ν : Type} [Number ν] {symbol : Symbol ν} (named : symbol.name.IsRow) :
    symbol.text.IsRow := by
  have kind := symbol.kind.isRow_name
  have value := symbol.value.isRow_text
  have opening : (utf8 " (").IsRow := by decide
  have closing : (utf8 ") = ").IsRow := by decide
  simp [text, named, kind, value, opening, closing]

/-- A table is printed with one row for each symbol. -/
theorem Table.text_eq_lines {ν : Type} [Number ν] (table : Table ν) :
    table.text = Text.lines (table.symbols.map Symbol.text) := by
  rw [text, Text.lines, List.flatMap_map]

end LineMachine
