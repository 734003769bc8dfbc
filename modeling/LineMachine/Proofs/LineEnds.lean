import LineMachine.Interactive
import LineMachine.Proofs.Canonical
import LineMachine.Proofs.Rows
import Mathlib.Data.List.Forall2

namespace LineMachine

namespace Text

/-- A text ends with a byte, which is then dropped, or stays as it is. -/
theorem dropEnding_cases (byte : UInt8) (text : Text) :
    (∃ kept, text = kept ++ [byte] ∧ dropEnding [byte] text = kept) ∨
      ((∀ kept, text ≠ kept ++ [byte]) ∧ dropEnding [byte] text = text) := by
  by_cases ends : [byte] <:+ text
  · obtain ⟨kept, rfl⟩ := ends
    refine .inl ⟨kept, rfl, ?_⟩
    rw [dropEnding, if_pos (by simp)]
    simp
  · refine .inr ⟨?_, ?_⟩
    · rintro kept rfl
      exact ends (List.suffix_append kept [byte])
    · rw [dropEnding, if_neg (by simpa using ends)]

@[simp] theorem dropEnding_append (byte : UInt8) (text : Text) :
    dropEnding [byte] (text ++ [byte]) = text := by
  obtain ⟨kept, same, dropped⟩ | ⟨other, -⟩ := dropEnding_cases byte (text ++ [byte])
  · rw [dropped]
    exact (List.append_inj' same rfl).1.symm
  · exact absurd rfl (other text)

/-- A byte at the start has nothing to do with the end of a longer text. -/
theorem dropEnding_cons (byte first second : UInt8) (rest : Text) :
    dropEnding [byte] (first :: second :: rest) = first :: dropEnding [byte] (second :: rest) := by
  obtain ⟨kept, same, dropped⟩ | ⟨other, dropped⟩ := dropEnding_cases byte (second :: rest)
  · rw [dropped, same, ← List.cons_append, dropEnding_append]
  · obtain ⟨kept, same, -⟩ | ⟨-, unchanged⟩ := dropEnding_cases byte (first :: second :: rest)
    · cases kept with
      | nil => simp at same
      | cons _ kept => exact absurd (List.cons.inj same).2 (other kept)
    · rw [unchanged, dropped]

theorem IsRow.dropEnding {row : Text} (isRow : row.IsRow) (byte : UInt8) :
    (dropEnding [byte] row).IsRow := by
  obtain ⟨kept, rfl, dropped⟩ | ⟨-, unchanged⟩ := dropEnding_cases byte row
  · rw [dropped]
    exact (isRow_append.mp isRow).1
  · rwa [unchanged]

/-- A row has no carriage return before a line feed. -/
theorem unifyNewlines_row {row : Text} (isRow : row.IsRow) : unifyNewlines row = row := by
  fun_induction unifyNewlines row with
  | case1 | case2 => rfl
  | case3 byte next rest returns =>
    simp [returns.2] at isRow
  | case4 byte next rest other inductionHypothesis =>
    rw [inductionHypothesis (isRow_cons.mp isRow).2]

theorem unifyNewlines_newline (rest : Text) :
    unifyNewlines (newline :: rest) = newline :: unifyNewlines rest := by
  cases rest with
  | nil => rfl
  | cons next rest => rw [unifyNewlines, if_neg (by simp [newline])]

/-- A line loses the carriage return at its end. -/
theorem unifyNewlines_line {row : Text} (isRow : row.IsRow) (rest : Text) :
    unifyNewlines (row.line ++ rest) = (dropEnding [13] row).line ++ unifyNewlines rest := by
  induction row with
  | nil => exact unifyNewlines_newline rest
  | cons first row inductionHypothesis =>
    obtain ⟨-, isRow⟩ := isRow_cons.mp isRow
    cases row with
    | nil =>
      rw [line, List.append_assoc, List.singleton_append, List.singleton_append, unifyNewlines,
        unifyNewlines_newline]
      split
      · rename_i returns
        rw [returns.1]
        rfl
      · rename_i other
        obtain ⟨kept, same, -⟩ | ⟨-, unchanged⟩ := dropEnding_cases 13 [first]
        · have returns : first = 13 := by simpa using congrArg List.getLast? same
          exact absurd ⟨returns, rfl⟩ other
        · rw [unchanged]
          rfl
    | cons second row =>
      have other : second ≠ newline := (isRow_cons.mp isRow).1
      have shorter := inductionHypothesis isRow
      rw [line, List.cons_append, List.cons_append] at shorter
      rw [dropEnding_cons, line, List.cons_append, List.cons_append, List.cons_append,
        List.cons_append, unifyNewlines, if_neg (by simp [other]), shorter]
      rfl

theorem unifyNewlines_lines {rows : List Text} (areRows : ∀ row ∈ rows, row.IsRow) {last : Text}
    (isRow : last.IsRow) :
    unifyNewlines (lines rows ++ last) = lines (rows.map (dropEnding [13])) ++ last := by
  induction rows with
  | nil => exact unifyNewlines_row isRow
  | cons row rows inductionHypothesis =>
    obtain ⟨rowIsRow, areRows⟩ := List.forall_mem_cons.mp areRows
    rw [List.map_cons, lines, lines, List.flatMap_cons, List.flatMap_cons, List.append_assoc,
      unifyNewlines_line rowIsRow, ← lines, inductionHypothesis areRows, List.append_assoc, ← lines]

/-- There is always a last piece. -/
theorem exists_pieces (text : Text) : ∃ rows last, text.pieces newline = rows ++ [last] := by
  have nonempty : text.pieces newline ≠ [] := by
    cases text with
    | nil => simp [pieces]
    | cons byte rest =>
      rw [pieces]
      split
      · simp
      · split <;> simp
  exact ⟨_, _, (List.dropLast_append_getLast nonempty).symm⟩

/-- A text is put together from its pieces. -/
theorem eq_lines_of_pieces {text last : Text} {rows : List Text}
    (split : text.pieces newline = rows ++ [last]) : text = lines rows ++ last := by
  have put : ∃ rows last, (∀ row ∈ rows, row.IsRow) ∧ last.IsRow ∧ text = lines rows ++ last := by
    clear split
    induction text with
    | nil => exact ⟨[], [], by simp, isRow_nil, rfl⟩
    | cons byte text inductionHypothesis =>
      obtain ⟨rows, last, areRows, isRow, rfl⟩ := inductionHypothesis
      by_cases feed : byte = newline
      · exact ⟨[] :: rows, last, by simpa [isRow_nil] using areRows, isRow,
          by simp [feed, lines, line]⟩
      · cases rows with
        | nil => exact ⟨[], byte :: last, by simp, isRow_cons.mpr ⟨feed, isRow⟩, rfl⟩
        | cons row rows =>
          obtain ⟨rowIsRow, areRows⟩ := List.forall_mem_cons.mp areRows
          refine ⟨(byte :: row) :: rows, last, ?_, isRow, by simp [lines, line]⟩
          exact List.forall_mem_cons.mpr ⟨isRow_cons.mpr ⟨feed, rowIsRow⟩, areRows⟩
  obtain ⟨others, otherLast, areRows, isRow, rfl⟩ := put
  rw [pieces_lines_append areRows isRow] at split
  obtain ⟨rfl, same⟩ := List.append_inj' split rfl
  rw [(List.cons.inj same).1]

/-- A line feed at the very end ends the last line and begins none. -/
theorem pieces_dropEnding {rows : List Text} (areRows : ∀ row ∈ rows, row.IsRow) {last : Text}
    (isRow : last.IsRow) (nonempty : rows ≠ [] ∨ last ≠ []) :
    pieces newline (dropEnding [newline] (lines rows ++ last)) =
      rows ++ (if last = [] then [] else [last]) := by
  split
  · rename_i empty
    obtain ⟨rows, row, rfl⟩ :=
      (List.eq_nil_or_concat rows).resolve_left (by simpa [empty] using nonempty)
    have areRows : (∀ row ∈ rows, row.IsRow) ∧ row.IsRow := by
      simpa [or_imp, forall_and] using areRows
    have ends : lines (rows.concat row) ++ last = lines rows ++ row ++ [newline] := by
      simp [empty, lines, line]
    rw [ends, dropEnding_append, pieces_lines_append areRows.1 areRows.2]
    simp
  · rename_i more
    obtain ⟨kept, same, -⟩ | ⟨-, unchanged⟩ := dropEnding_cases newline (lines rows ++ last)
    · have final := congrArg List.getLast? same
      rw [List.getLast?_append_of_ne_nil _ more, List.getLast?_concat] at final
      exact absurd (List.mem_of_getLast? final) isRow
    · rw [unchanged, pieces_lines_append areRows isRow]

end Text

namespace Interactive

open Text

/-- The lines of piped input and the lines of a source, both read off the pieces of the text. -/
theorem lines_of_pieces {input last : Text} {rows : List Text}
    (split : input.pieces newline = rows ++ [last]) :
    rawLines input = rows ++ (if last = [] then [] else [last]) ∧
      input.programLines = rows.map pipedLine ++ (if last = [] then [] else [last]) := by
  have areRows : ∀ row ∈ rows ++ [last], row.IsRow := by
    rw [← split]
    exact fun _ => isRow_of_mem_pieces
  obtain ⟨areRows, isRow⟩ : (∀ row ∈ rows, row.IsRow) ∧ last.IsRow := by
    simpa [or_imp, forall_and] using areRows
  have pipedRows : ∀ row ∈ rows.map pipedLine, row.IsRow := by
    intro row member
    obtain ⟨raw, rawMember, rfl⟩ := List.mem_map.mp member
    exact (areRows raw rawMember).dropEnding 13
  obtain rfl := eq_lines_of_pieces split
  rw [rawLines, programLines]
  by_cases empty : rows = [] ∧ last = []
  · simp [empty, lines]
  · have nonempty : rows ≠ [] ∨ last ≠ [] := Decidable.not_and_iff_or_not.mp empty
    have someBytes : ¬ (lines rows ++ last).isEmpty := by
      intro noBytes
      obtain ⟨noLines, noRest⟩ := List.append_eq_nil_iff.mp (List.isEmpty_iff.mp noBytes)
      refine empty ⟨List.eq_nil_iff_forall_not_mem.mpr fun row member => ?_, noRest⟩
      simpa [line] using List.flatMap_eq_nil_iff.mp noLines row member
    rw [if_neg someBytes, if_neg someBytes, pieces_dropEnding areRows isRow nonempty,
      unifyNewlines_lines areRows isRow]
    exact ⟨rfl, pieces_dropEnding pipedRows isRow (by simpa using nonempty)⟩

theorem mem_pieces_of_mem_rawLines {input raw : Text} (member : raw ∈ rawLines input) :
    raw ∈ input.pieces newline := by
  obtain ⟨rows, last, split⟩ := input.exists_pieces
  rw [(lines_of_pieces split).1] at member
  rw [split]
  rcases List.mem_append.mp member with earlier | final
  · exact List.mem_append_left _ earlier
  · split at final
    · contradiction
    · exact List.mem_append_right _ final

/-- The lines before a piece that is not empty. -/
theorem lines_before {input piece : Text} {before rest : List Text}
    (split : input.pieces newline = before ++ piece :: rest) (nonempty : piece ≠ []) :
    (∃ later, rawLines input = before ++ piece :: later) ∧
      input.programLines.take before.length = before.map pipedLine := by
  rcases List.eq_nil_or_concat rest with rfl | ⟨middle, last, rfl⟩
  · obtain ⟨raw, program⟩ := lines_of_pieces split
    rw [if_neg nonempty] at raw
    rw [program]
    exact ⟨⟨[], raw⟩, List.take_left' (List.length_map ..)⟩
  · rw [List.concat_eq_append, ← List.cons_append, ← List.append_assoc] at split
    obtain ⟨raw, program⟩ := lines_of_pieces split
    rw [raw, program, List.map_append, List.append_assoc, List.append_assoc]
    exact ⟨⟨_, rfl⟩, List.take_left' (List.length_map ..)⟩

/-- Two lines are the same, except that the second may have a carriage return at its end. -/
def EndsAlike (first second : Text) : Prop := second = first ∨ second = first ++ [13]

theorem endsAlike_pipedLine (line : Text) : EndsAlike (pipedLine line) line := by
  obtain ⟨kept, rfl, dropped⟩ | ⟨-, unchanged⟩ := dropEnding_cases 13 line
  · rw [pipedLine, dropped]
    exact .inr rfl
  · exact .inl unchanged.symm

/-- Piped lines end as the lines of a source do. -/
theorem piped_endsAlike (input : Text) :
    List.Forall₂ EndsAlike ((rawLines input).map pipedLine) input.programLines := by
  obtain ⟨rows, last, split⟩ := input.exists_pieces
  obtain ⟨raw, program⟩ := lines_of_pieces split
  rw [raw, program, List.map_append]
  apply List.rel_append
  · exact List.forall₂_same.mpr fun _ _ => .inl rfl
  · split
    · exact .nil
    · exact .cons (endsAlike_pipedLine last) .nil

end Interactive

namespace Text

theorem glyphs_return : glyphs [13] = [.scalar '\r'] := by
  decide

theorem glyphs_append_return (text : Text) :
    glyphs (text ++ [13]) = text.glyphs ++ [.scalar '\r'] := by
  rw [glyphs_append text (by simp [IsBoundary, Glyph.isContinuation]), glyphs_return]

/-- A carriage return at the end is trimmed. -/
theorem trim_append_return (text : Text) : (text ++ [13]).trim = text.trim := by
  have blank : Glyph.isBlank (.scalar '\r') := by decide
  rw [trim, glyphs_append_return, trim, trimGlyphs, trimGlyphs, List.dropWhile_append]
  split
  · rename_i allBlank
    simp [blank, List.isEmpty_iff.mp allBlank]
  · simp [blank]

end Text

namespace Interactive.EndsAlike

variable {first second : Text}

theorem trim (alike : EndsAlike first second) : second.trim = first.trim := by
  rcases alike with rfl | rfl
  · rfl
  · exact first.trim_append_return

/-- A line that asks to leave does so however it ends. -/
theorem isExit (alike : EndsAlike first second) : isExit second = isExit first := by
  rw [Interactive.isExit, alike.trim, Interactive.isExit]

theorem words (alike : EndsAlike first second) :
    (Line.code second).words = (Line.code first).words := by
  rcases alike with rfl | rfl
  · rfl
  · have areBlank : ∀ glyph ∈ [Glyph.scalar '\r'], glyph.isBlank := by decide
    exact Line.words_code_append_blanks areBlank first

end Interactive.EndsAlike
end LineMachine
