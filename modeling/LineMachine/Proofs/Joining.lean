import LineMachine.Proofs.LineEnds

namespace LineMachine.Text

/-- A line ends with a line feed, perhaps with a carriage return before it. -/
inductive Ending where
  | feed
  | returnFeed
deriving DecidableEq, Repr

def Ending.text : Ending → Text
  | .feed => [newline]
  | .returnFeed => [13, newline]

/-- Lines one after another, each with an ending of its own. -/
def joined (rows : List (Text × Ending)) : Text :=
  rows.flatMap fun (row, ending) => row ++ ending.text

/-- What stands before the line feed of a line. -/
def beforeFeed : Text × Ending → Text
  | (row, .feed) => row
  | (row, .returnFeed) => row ++ [13]

theorem joined_eq_lines (rows : List (Text × Ending)) :
    joined rows = lines (rows.map beforeFeed) := by
  rw [joined, lines, List.flatMap_map]
  congr 1
  funext entry
  obtain ⟨row, ending⟩ := entry
  cases ending with
  | feed => rfl
  | returnFeed => simp [beforeFeed, Ending.text, line]

/-- A line that does not end with a carriage return of its own is found behind either ending. -/
theorem dropEnding_beforeFeed {row : Text} (unreturned : row.getLast? ≠ some 13) (ending : Ending) :
    dropEnding [13] (beforeFeed (row, ending)) = row := by
  cases ending with
  | returnFeed => exact dropEnding_append 13 row
  | feed =>
    obtain ⟨kept, rfl, -⟩ | ⟨-, unchanged⟩ := dropEnding_cases 13 row
    · simp at unreturned
    · exact unchanged

/-- Joined lines and a last one without an ending are told apart again. -/
theorem programLines_joined {rows : List (Text × Ending)}
    (areLines : ∀ row ∈ rows, row.1.IsRow ∧ row.1.getLast? ≠ some 13) {last : Text}
    (isRow : last.IsRow) :
    (joined rows ++ last).programLines =
      rows.map Prod.fst ++ (if last = [] then [] else [last]) := by
  have raws : ∀ raw ∈ rows.map beforeFeed, raw.IsRow := by
    intro raw member
    obtain ⟨⟨row, ending⟩, present, rfl⟩ := List.mem_map.mp member
    have rowIsRow := (areLines _ present).1
    cases ending with
    | feed => exact rowIsRow
    | returnFeed => exact isRow_append.mpr ⟨rowIsRow, by decide⟩
  have dropped : (rows.map beforeFeed).map Interactive.pipedLine = rows.map Prod.fst := by
    rw [List.map_map]
    refine List.map_congr_left fun row present => ?_
    exact dropEnding_beforeFeed (areLines row present).2 row.2
  rw [joined_eq_lines, (Interactive.lines_of_pieces (pieces_lines_append raws isRow)).2, dropped]

/-- Line feeds between rows are line feeds after all but the last. -/
theorem joinWith_concat (rows : List Text) (last : Text) :
    joinWith [newline] (rows ++ [last]) = lines rows ++ last := by
  induction rows with
  | nil => simp [joinWith, lines]
  | cons row rows inductionHypothesis =>
    rw [lines, List.flatMap_cons, ← lines, List.append_assoc, ← inductionHypothesis]
    cases rows <;> simp [joinWith, line, List.intercalate]

/-- The pieces of a text, joined again, are the text. -/
theorem joinWith_pieces (text : Text) : joinWith [newline] (text.pieces newline) = text := by
  obtain ⟨rows, last, split⟩ := text.exists_pieces
  rw [split, joinWith_concat, eq_lines_of_pieces split]

/-- The lines of a source, joined with line feeds, are the source with all its carriage returns
before line feeds dropped, and a last line feed too. -/
theorem joinWith_programLines (source : Text) :
    joinWith [newline] source.programLines = dropEnding [newline] source.unifyNewlines := by
  rw [programLines]
  split
  · rename_i empty
    rw [List.isEmpty_iff.mp empty]
    rfl
  · exact joinWith_pieces _

/-- A byte at the start belongs to the first part. -/
theorem joinWith_cons_cons (separator : Text) (byte : UInt8) (first : Text) (rest : List Text) :
    joinWith separator ((byte :: first) :: rest) = byte :: joinWith separator (first :: rest) := by
  cases rest <;> simp [joinWith, List.intercalate]

/-- Every carriage return with a line feed after it becomes a line feed: the text is cut at each of
them into parts that hold no more of them, and the parts are joined again. -/
theorem unifyNewlines_parts (text : Text) :
    ∃ first rest, text = joinWith [13, newline] (first :: rest) ∧
      (∀ part ∈ first :: rest, ¬ [13, newline] <:+: part) ∧
      unifyNewlines text = joinWith [newline] (first :: rest) := by
  fun_induction unifyNewlines text with
  | case1 => exact ⟨[], [], rfl, by simp, rfl⟩
  | case2 byte =>
    refine ⟨[byte], [], by simp [joinWith], ?_, by simp [joinWith]⟩
    intro part member within
    obtain rfl := List.mem_singleton.mp member
    exact absurd within.length_le (by simp)
  | case3 byte next after returns inductionHypothesis =>
    obtain ⟨rfl, rfl⟩ := returns
    obtain ⟨first, rest, put, free, unified⟩ := inductionHypothesis
    -- The line feed starts the first part, and is taken away from it.
    cases first with
    | nil => cases rest <;> simp [joinWith, List.intercalate, newline] at put
    | cons feed first =>
      rw [joinWith_cons_cons] at put unified
      obtain ⟨rfl, put⟩ := List.cons.inj put
      obtain ⟨firstFree, restFree⟩ := List.forall_mem_cons.mp free
      refine ⟨[], first :: rest, ?_, ?_, ?_⟩
      · rw [put]
        simp [joinWith, List.intercalate]
      · refine List.forall_mem_cons.mpr ⟨by simp, List.forall_mem_cons.mpr ⟨?_, restFree⟩⟩
        exact fun within => firstFree (within.trans (List.suffix_cons _ _).isInfix)
      · rw [unified]
        simp [joinWith, List.intercalate]
  | case4 byte next after other inductionHypothesis =>
    obtain ⟨first, rest, put, free, unified⟩ := inductionHypothesis
    obtain ⟨firstFree, restFree⟩ := List.forall_mem_cons.mp free
    refine ⟨byte :: first, rest, ?_, List.forall_mem_cons.mpr ⟨?_, restFree⟩, ?_⟩
    · rw [joinWith_cons_cons, ← put]
    · intro within
      rcases List.infix_cons_iff.mp within with starts | later
      · obtain ⟨sameByte, starts⟩ := List.cons_prefix_cons.mp starts
        obtain ⟨tail, rfl⟩ := starts
        rw [List.singleton_append, joinWith_cons_cons] at put
        exact other ⟨sameByte.symm, (List.cons.inj put).1⟩
      · exact firstFree later
    · rw [joinWith_cons_cons, unified]

/-- The lines of a source undo joining. Lines without line feeds that do not end with a carriage
return are found again, whichever ending each of them has, and a last line that is not empty needs
no ending. The lines of any source hold no line feed, and joined with line feeds they make up the
source with a line feed for each pair of carriage return and line feed, and without one line feed at
the very end if there is one. -/
theorem programLines_undo_joining :
    (∀ rows : List (Text × Ending),
      (∀ row ∈ rows, newline ∉ row.1 ∧ row.1.getLast? ≠ some 13) →
      (joined rows).programLines = rows.map Prod.fst ∧
      ∀ earlier last ending, rows = earlier ++ [(last, ending)] → last ≠ [] →
        (joined earlier ++ last).programLines = rows.map Prod.fst) ∧
    ∀ source : Text,
      (∀ row ∈ source.programLines, newline ∉ row) ∧
      ∃ parts : List Text, source = joinWith [13, newline] parts ∧
        (∀ part ∈ parts, ¬ [13, newline] <:+: part) ∧
        let unified := joinWith [newline] parts
        joinWith [newline] source.programLines ++ [newline] = unified ∨
          joinWith [newline] source.programLines = unified ∧ unified.getLast? ≠ some newline := by
  refine ⟨fun rows areLines => ⟨?_, ?_⟩, fun source => ⟨?_, ?_⟩⟩
  · simpa using programLines_joined areLines isRow_nil
  · rintro earlier last ending rfl nonempty
    have earlierLines : ∀ row ∈ earlier, row.1.IsRow ∧ row.1.getLast? ≠ some 13 :=
      fun row member => areLines row (List.mem_append_left _ member)
    have lastIsRow : IsRow last := (areLines (last, ending) (by simp)).1
    simpa [nonempty] using programLines_joined earlierLines lastIsRow
  · exact fun row => isRow_of_mem_programLines
  · obtain ⟨first, rest, put, free, unified⟩ := source.unifyNewlines_parts
    refine ⟨first :: rest, put, free, ?_⟩
    rw [joinWith_programLines, ← unified]
    obtain ⟨kept, same, dropped⟩ | ⟨other, dropped⟩ := dropEnding_cases newline source.unifyNewlines
    · exact .inl (by rw [dropped, same])
    · refine .inr ⟨dropped, fun ends => ?_⟩
      obtain ⟨kept, same⟩ := List.getLast?_eq_some_iff.mp ends
      exact other kept same

/-- Empty lines at the start, in the middle and at the end, a carriage return within a line, and a
source with two carriage returns before a line feed. -/
theorem programLines_undo_joining_mixed :
    let rows : List (Text × Ending) := [([], .feed), (utf8 "A\rB", .returnFeed), ([], .returnFeed),
      (utf8 "C", .feed), ([], .feed)]
    joined rows = utf8 "\nA\rB\r\n\r\nC\n\n" ∧
      (joined rows).programLines = [[], utf8 "A\rB", [], utf8 "C", []] ∧
      (utf8 "\nA\rB\r\n\r\nC").programLines = [[], utf8 "A\rB", [], utf8 "C"] ∧
      ∃ parts, utf8 "A\r\r\n\n" = joinWith [13, newline] parts ∧
        joinWith [newline] (utf8 "A\r\r\n\n").programLines ++ [newline] =
          joinWith [newline] parts := by
  intro rows
  have areLines : ∀ row ∈ rows, newline ∉ row.1 ∧ row.1.getLast? ≠ some 13 := by decide
  have shorter : ∀ row ∈ rows.take 4, newline ∉ row.1 ∧ row.1.getLast? ≠ some 13 :=
    fun row member => areLines row (List.mem_of_mem_take member)
  obtain ⟨inverse, unified⟩ := programLines_undo_joining
  refine ⟨by decide, (inverse rows areLines).1, ?_, ?_⟩
  · exact (inverse (rows.take 4) shorter).2 (rows.take 3) (utf8 "C") .feed rfl (by decide)
  · obtain ⟨-, parts, put, -, ends⟩ := unified (utf8 "A\r\r\n\n")
    refine ⟨parts, put, ends.resolve_right ?_⟩
    rintro ⟨same, other⟩
    rw [← same] at other
    exact absurd other (by decide)

end LineMachine.Text
