import LineMachine.Proofs.Canonical
import LineMachine.Proofs.Joining
import LineMachine.Proofs.Lifecycle
import LineMachine.Proofs.Literals
import LineMachine.Proofs.Passage
import LineMachine.Proofs.Silence

namespace LineMachine.Countdown

open Machine

/-- The source of a countdown from a word. -/
def source (start : Int64) : Text :=
  utf8 "INTEGER n\nINTEGER dec\nINTEGER z\nASSIGN n " ++ Number.text start ++
    utf8 ("\nASSIGN dec -1\nIF n 10      # done when n reaches 0\nPRINT n\nADD n dec\n" ++
      "IF z 6       # z is always 0: unconditional jump\nHLT\n")

/-- Its lines. -/
def rows (start : Int64) : List Text :=
  [utf8 "INTEGER n", utf8 "INTEGER dec", utf8 "INTEGER z", utf8 "ASSIGN n " ++ Number.text start,
    utf8 "ASSIGN dec -1", utf8 "IF n 10      # done when n reaches 0", utf8 "PRINT n",
    utf8 "ADD n dec", utf8 "IF z 6       # z is always 0: unconditional jump", utf8 "HLT"]

/-- What its lines ask for. -/
def instructions (start : Int64) : List (Operation × List Text) :=
  [(.integer, [utf8 "n"]), (.integer, [utf8 "dec"]), (.integer, [utf8 "z"]),
    (.assign, [utf8 "n", Number.text start]), (.assign, [utf8 "dec", utf8 "-1"]),
    (.branch, [utf8 "n", utf8 "10"]), (.print, [utf8 "n"]), (.add, [utf8 "n", utf8 "dec"]),
    (.branch, [utf8 "z", utf8 "6"]), (.halt, [])]

theorem source_eq (start : Int64) : source start = Text.lines (rows start) := by
  -- The number is cut out, since all that stands before and behind it is fixed.
  have cut : Text.lines (rows start) =
      Text.lines ((rows start).take 3) ++ utf8 "ASSIGN n " ++
        (Number.text start ++ Text.newline :: Text.lines ((rows start).drop 4)) := by
    simp [Text.lines, Text.line, rows]
  rw [cut, source, List.append_assoc]
  rfl

/-- The words of the line with the number. -/
def assignment (start : Int64) : List Text := [utf8 "ASSIGN", utf8 "n", Number.text start]

theorem isToken_assignment (start : Int64) {token : Text} (member : token ∈ assignment start) :
    token.IsToken := by
  simp only [assignment, List.mem_cons, List.not_mem_nil, or_false] at member
  rcases member with rfl | rfl | rfl
  · decide
  · decide
  · exact Text.isToken_ofInt start.toInt

theorem joinWith_assignment (start : Int64) :
    Text.joinWith [32] (assignment start) = utf8 "ASSIGN n " ++ Number.text start := by
  have joined : Text.joinWith [32] (assignment start) =
      utf8 "ASSIGN" ++ 32 :: (utf8 "n" ++ 32 :: Number.text start) := by
    simp [assignment, Text.joinWith, List.intercalate]
  rw [joined]
  rfl

theorem words_rows (start : Int64) :
    ((rows start).map fun text => (Line.code text).words) =
      (instructions start).map fun instruction => instruction.1.mnemonic :: instruction.2 := by
  have areTokens : ∀ token ∈ assignment start, token.IsToken :=
    fun _ member => isToken_assignment start member
  have words : (Line.code (utf8 "ASSIGN n " ++ Number.text start)).words = assignment start := by
    rw [← joinWith_assignment, Line.code_of_uncommented (Text.uncommented_joinWith areTokens),
      Text.words_joinWith areTokens]
  simp only [rows, List.map_cons, words, List.map_nil]
  rfl

/-- No row has a line feed in it or a carriage return at its end. -/
theorem isRow_of_mem_rows (start : Int64) :
    ∀ row ∈ rows start, row.IsRow ∧ row.getLast? ≠ some 13 := by
  have unreturned : (utf8 "ASSIGN n " ++ Number.text start).getLast? ≠ some 13 := by
    intro last
    rcases List.mem_append.mp (List.mem_of_getLast? last) with fixed | digits
    · revert fixed
      decide
    · have digit := Text.mem_ofInt digits
      revert digit
      decide
  have number : (utf8 "ASSIGN n " ++ Number.text start).IsRow :=
    Text.isRow_append.mpr ⟨by decide, Text.isRow_ofInt start.toInt⟩
  simp only [rows, List.forall_mem_cons]
  refine ⟨?_, ?_, ?_, ⟨number, unreturned⟩, ?_⟩
  all_goals decide

theorem programLines_source (start : Int64) : (source start).programLines = rows start := by
  have areLines : ∀ row ∈ (rows start).map (·, Text.Ending.feed),
      row.1.IsRow ∧ row.1.getLast? ≠ some 13 :=
    List.forall_mem_map.mpr (isRow_of_mem_rows start)
  have joined : source start = Text.joined ((rows start).map (·, .feed)) ++ [] := by
    rw [source_eq, Text.joined_eq_lines, List.append_nil, List.map_map]
    exact congrArg Text.lines (List.map_id _).symm
  rw [joined, Text.programLines_joined areLines Text.isRow_nil]
  simp [Function.comp_def]

/-- The table of the countdown, with what the first two of its names hold. -/
def table (current difference : Int64) : Table Int64 :=
  ((Table.empty.push (utf8 "n") .integer (.number current)).push (utf8 "dec") .integer
    (.number difference)).push (utf8 "z") .integer (.number 0)

/-- The table with the first name alone, and with the first two. -/
theorem wellFormed_part (current difference : Int64) :
    (Table.empty.push (utf8 "n") .integer (.number current)).WellFormed ∧
      ((Table.empty.push (utf8 "n") .integer (.number current)).push (utf8 "dec") .integer
        (.number difference)).WellFormed := by
  have first : (Table.empty.push (utf8 "n") .integer (.number current)).WellFormed :=
    Table.wellFormed_empty.push rfl rfl
  exact ⟨first, first.push rfl rfl⟩

theorem wellFormed_table (current difference : Int64) : (table current difference).WellFormed :=
  (wellFormed_part current difference).2.push rfl rfl

theorem table_put (current difference other : Int64) :
    (table current difference).put (utf8 "n") (.number other) = table other difference := rfl

theorem table_amountOf (current difference : Int64) :
    (table current difference).amountOf (utf8 "n") = current ∧
      (table current difference).amountOf (utf8 "dec") = difference := ⟨rfl, rfl⟩

/-- What the countdown prints in one round. -/
def row (number : Int) : Text := (utf8 "n = " ++ Text.ofInt number).line

variable (start current : Int64) (printed : List Text)

/-- The first lines declare the three names. -/
theorem passage_declare : Passage (instructions start) ⟨0, .empty, printed⟩ [0, 1, 2]
    ⟨3, table 0 0, printed⟩ := by
  obtain ⟨first, second⟩ := wellFormed_part 0 0
  exact (Passage.declare Table.wellFormed_empty printed rfl rfl).trans
    ((Passage.declare first printed rfl rfl).trans (Passage.declare second printed rfl rfl))

/-- The next two lines set the number and the difference. -/
theorem passage_assign : Passage (instructions start) ⟨3, table 0 0, printed⟩ [3, 4]
    ⟨5, table start (-1), printed⟩ := by
  have read : (Number.text start).toInt64? = some start.toInt :=
    Text.toInt64?_eq_some_iff.mpr (Standard.isLiteral_text start)
  have number : Passage (instructions start) ⟨3, table 0 0, printed⟩ [3]
      ⟨4, table start 0, printed⟩ := by
    have instruction :
        (instructions start)[3]? = some (.assign, [utf8 "n", Number.text start]) := rfl
    have same : (Number.ofInt start.toInt : Int64) = start := start.ofInt_toInt
    have passage := Passage.assign (wellFormed_table 0 0) printed instruction rfl read
    rwa [same, table_put] at passage
  have difference : Passage (instructions start) ⟨4, table start 0, printed⟩ [4]
      ⟨5, table start (-1), printed⟩ := by
    have instruction : (instructions start)[4]? = some (.assign, [utf8 "dec", utf8 "-1"]) := rfl
    exact .assign (wellFormed_table start 0) printed instruction rfl rfl
  exact number.trans difference

/-- The test at the start of a round leads out of the loop when the number is zero. -/
theorem passage_test : Passage (instructions start) ⟨5, table current (-1), printed⟩ [5]
    ⟨if current = 0 then 9 else 6, table current (-1), printed⟩ := by
  have isZero : ((table current (-1)).valueOf (utf8 "n")).isTrue = decide (current = 0) := by
    rw [Bool.eq_iff_iff, decide_eq_true_iff, ← Int64.toInt_inj]
    exact beq_iff_eq
  have instruction : (instructions start)[5]? = some (.branch, [utf8 "n", utf8 "10"]) := rfl
  have ten : (utf8 "10").toInt64? = some ((9 : Nat) + 1) := by decide
  have passage := Passage.branch (wellFormed_table current (-1)) printed instruction rfl ten
    (show 9 < 10 by decide)
  simpa only [isZero, decide_eq_true_iff] using passage

/-- A round prints the number and subtracts one. -/
theorem passage_round (nonzero : current ≠ 0) :
    Passage (instructions start) ⟨5, table current (-1), printed⟩ [5, 6, 7, 8]
      ⟨5, table (current - 1) (-1), printed ++ [row current.toInt]⟩ := by
  have test := passage_test start current printed
  rw [if_neg nonzero] at test
  have print : Passage (instructions start) ⟨6, table current (-1), printed⟩ [6]
      ⟨7, table current (-1), printed ++ [row current.toInt]⟩ := by
    have instruction : (instructions start)[6]? = some (.print, [utf8 "n"]) := rfl
    exact .print (wellFormed_table current (-1)) printed instruction rfl
  have subtract : Passage (instructions start)
      ⟨7, table current (-1), printed ++ [row current.toInt]⟩ [7]
      ⟨8, table (current - 1) (-1), printed ++ [row current.toInt]⟩ := by
    have instruction : (instructions start)[7]? = some (.add, [utf8 "n", utf8 "dec"]) := rfl
    have less : Number.add current (-1) = current - 1 := (Int64.sub_eq_add_neg current 1).symm
    obtain ⟨amount, difference⟩ := table_amountOf current (-1)
    have passage := Passage.add (wellFormed_table current (-1)) (printed ++ [row current.toInt])
      instruction rfl rfl
    rwa [amount, difference, less, table_put] at passage
  have again : Passage (instructions start)
      ⟨8, table (current - 1) (-1), printed ++ [row current.toInt]⟩ [8]
      ⟨5, table (current - 1) (-1), printed ++ [row current.toInt]⟩ := by
    have instruction : (instructions start)[8]? = some (.branch, [utf8 "z", utf8 "6"]) := rfl
    have six : (utf8 "6").toInt64? = some ((5 : Nat) + 1) := by decide
    exact .branch (wellFormed_table (current - 1) (-1)) _ instruction rfl six
      (show 5 < 10 by decide)
  exact test.trans (print.trans (subtract.trans again))

theorem toInt_sub_one : (current - 1).toInt = (current.toInt - 1).bmod 18446744073709551616 :=
  current.toInt_sub 1

theorem wrap_sub_one (amount : Int) :
    wrap ((current - 1).toInt - amount) = wrap (current.toInt - (amount + 1)) := by
  rw [wrap, wrap, toInt_sub_one, Int.bmod_sub_bmod]
  congr 1
  omega

/-- As many rounds as the word has without a sign lead to zero. -/
theorem passage_rounds (count : Nat) (counts : current.toInt % 18446744073709551616 = count) :
    Passage (instructions start) ⟨5, table current (-1), printed⟩
      (List.replicate count [5, 6, 7, 8]).flatten
      ⟨5, table 0 (-1), printed ++
        (List.range count).map fun index : Nat => row (wrap (current.toInt - index))⟩ := by
  have zero : (0 : Int64).toInt = 0 := rfl
  -- By induction on the rounds that are left; only a word with none of them left is zero.
  induction count generalizing current printed with
  | zero =>
    have low := current.le_toInt
    have high := current.toInt_lt
    obtain rfl : current = 0 := Int64.toInt_inj.mp (by omega)
    simpa using Passage.refl ⟨5, table 0 (-1), printed⟩
  | succ count inductionHypothesis =>
    have nonzero : current ≠ 0 := by
      rintro rfl
      omega
    have fewer : (current - 1).toInt % 18446744073709551616 = count := by
      have reduced := @Int.bmod_emod (current.toInt - 1) 18446744073709551616
      rw [← toInt_sub_one] at reduced
      omega
    have rest := inductionHypothesis (current - 1) (printed ++ [row current.toInt]) fewer
    have passage := (passage_round start current printed nonzero).trans rest
    have first : wrap current.toInt = current.toInt := Int64.toInt_bmod_size current
    simp only [wrap_sub_one] at passage
    simpa [List.range_succ_eq_map, List.replicate_succ, Function.comp_def, first] using passage

/-- The countdown leads from the first line to the last. -/
theorem passage_all (count : Nat) (counts : start.toInt % 18446744073709551616 = count) :
    Passage (instructions start) ⟨0, .empty, []⟩
      ([0, 1, 2, 3, 4] ++ (List.replicate count [5, 6, 7, 8]).flatten ++ [5])
      ⟨9, table 0 (-1),
        (List.range count).map fun index : Nat => row (wrap (start.toInt - index))⟩ := by
  have prepared := (passage_declare start []).trans (passage_assign start [])
  have counted := prepared.trans (passage_rounds start start [] count counts)
  exact counted.trans (passage_test start 0 _)

/-- A machine with the countdown walks through its rounds and halts. -/
theorem walk_halts (filename : Text) (tracing : Bool) (count : Nat)
    (counts : start.toInt % 18446744073709551616 = count) :
    ∃ last, Walk (· = Standard.set) (.load filename tracing (rows start))
        ([0, 1, 2, 3, 4] ++ (List.replicate count [5, 6, 7, 8]).flatten ++ [5, 9]) last ∧
      last.outcome = { status := .halted, fault := none, faultLine := 0, steps := 7 + 4 * count } ∧
      last.table = table 0 (-1) ∧ last.printed =
        ((List.range count).map fun index : Nat => row (wrap (start.toInt - index))).toArray := by
  have spells := spells_load (ν := Int64) filename tracing (words_rows start)
  obtain ⟨between, walked, betweenSpells, betweenStands⟩ :=
    passage_all start count counts _ spells ⟨rfl, rfl, rfl, rfl⟩
  obtain ⟨last, halting, halted, tableAfter, printed⟩ :=
    betweenSpells.halt betweenStands (wellFormed_table 0 (-1)) rfl
  have whole := walked.trans halting
  rw [List.append_assoc] at whole
  have coherent := (coherent_kept _).walk whole (coherent_load filename tracing (rows start))
  have sound : last.fault = none := by simpa using coherent.no_fault (by simp [halted])
  have steps : last.steps = 7 + 4 * count := by
    rw [whole.steps.1]
    simp [load]
    omega
  refine ⟨last, whole, ?_, tableAfter, Array.toList_inj.mp printed⟩
  rw [outcome, halted, sound, steps]

/-- The countdown is correct from every word. It halts after as many rounds as the word has when it
is read without a sign, so that a negative word wraps around through the smallest. It executes seven
lines and four in each round, and the count of the lines fits into a word for all that start at most
at two to the sixtieth. It prints the word and all that follow it down to one, and ends at zero. -/
theorem countdown_halts (settings : Settings) (start : Int64) :
    let count := (start.toInt % 18446744073709551616).toNat
    ∃ (after : Interpreter Int64) (last final : Machine Int64),
      (Interpreter.new settings).Concludes (source start) after last ∧
      Moves (· = Standard.set)
        (.load settings.filename settings.trace (source start).programLines) .run
        ([0, 1, 2, 3, 4] ++ (List.replicate count [5, 6, 7, 8]).flatten ++ [5, 9]) final ∧
      final.outcome = last.outcome ∧
      last.outcome = { status := .halted, fault := none, faultLine := 0, steps := 7 + 4 * count } ∧
      (0 ≤ start.toInt → start.toInt ≤ 1152921504606846976 →
        wrap last.steps = 7 + 4 * start.toInt) ∧
      after.output = ((List.range count).map fun index : Nat =>
          (utf8 "n = " ++ Text.ofInt (wrap (start.toInt - index))).line).toArray.push
        (utf8 ("--- final state ---\nn (int) = 0\n" ++
          "dec (int) = -1\nz (int) = 0\n--------------------\n")) := by
  intro count
  have counts : start.toInt % 18446744073709551616 = count := by omega
  obtain ⟨halted, walked, outcome, tableAfter, printed⟩ :=
    walk_halts start settings.filename settings.trace count counts
  rw [← programLines_source] at walked
  obtain ⟨patience, stepped⟩ := walked.iterate
  have status : halted.status = .halted := congrArg Outcome.status outcome
  have stopped : halted.status ≠ .running := by simp [status]
  have load := Interpreter.new_load (ν := Int64) settings (source start).programLines
  obtain ⟨output, -, ranStatus⟩ :=
    Interpreter.runSource_eq (Interpreter.new settings : Interpreter Int64) patience (source start)
  have ranOutcome := Interpreter.runSource_outcome (Interpreter.new settings : Interpreter Int64)
    patience (source start)
  rw [Interpreter.new_instructions, load, stepped] at output ranStatus ranOutcome
  refine ⟨_, _, _, Interpreter.concludes_of_stopped (by rwa [ranStatus]), .run walked stopped,
    ranOutcome.symm, ranOutcome.trans outcome, ?_, ?_⟩
  · intro nonnegative small
    have steps : ((Interpreter.new settings : Interpreter Int64).runSource patience
      (source start)).2.steps = 7 + 4 * count := congrArg Outcome.steps (ranOutcome.trans outcome)
    have unsigned : ((7 + 4 * count : Nat) : Int) = 7 + 4 * start.toInt := by
      have range := start.toInt_lt
      omega
    rw [steps, unsigned]
    exact Int.bmod_eq_of_le (by omega) (by omega)
  · have block : (table 0 (-1)).finalBlock = utf8 ("--- final state ---\nn (int) = 0\n" ++
        "dec (int) = -1\nz (int) = 0\n--------------------\n") := by decide +kernel
    rw [output, tableAfter, printed, block, Interpreter.new_eq]
    exact Array.empty_append

/-- Three rounds from three, and the longest countdown of all, from minus one. -/
theorem countdown_halts_short_long :
    let interpreter : Interpreter Int64 := .new {}
    (∃ after last, interpreter.Concludes (source 3) after last ∧ wrap last.steps = 19 ∧
      after.output = #[utf8 "n = 3\n", utf8 "n = 2\n", utf8 "n = 1\n",
        utf8 ("--- final state ---\nn (int) = 0\n" ++
          "dec (int) = -1\nz (int) = 0\n--------------------\n")]) ∧
    ∃ after last, interpreter.Concludes (source (-1)) after last ∧
      last.status = .halted ∧ last.steps = 73786976294838206467 := by
  constructor
  · obtain ⟨after, last, -, concluded, -, -, -, small, output⟩ := countdown_halts {} 3
    exact ⟨after, last, concluded, small (by decide) (by decide), output.trans (by decide +kernel)⟩
  · obtain ⟨after, last, -, concluded, -, -, outcome, -⟩ := countdown_halts {} (-1)
    have rounds : 7 + 4 * ((-1 : Int64).toInt % 18446744073709551616).toNat =
        73786976294838206467 := by decide +kernel
    exact ⟨after, last, concluded, congrArg Outcome.status outcome,
      (congrArg Outcome.steps outcome).trans rounds⟩

end LineMachine.Countdown
