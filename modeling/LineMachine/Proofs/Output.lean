import LineMachine.Proofs.Dump
import LineMachine.Proofs.Silence

namespace LineMachine

/-- The first row of the final table. -/
def finalHeader : Text := utf8 "--- final state ---"

/-- The start of the first row of a report. -/
def reportStart : Text := utf8 "Runtime error at line "

/-- A row that neither starts the final table nor reports a fault. -/
structure Text.IsInner (row : Text) : Prop where
  isRow : row.IsRow
  notFinal : row ≠ finalHeader
  notReport : reportStart.isPrefixOf row = false

namespace Text

/-- A row that starts with a name and a space is told apart by the byte after the space. -/
theorem isInner_named {name rest : Text} {byte : UInt8} (token : name.IsToken)
    (isRow : IsRow (byte :: rest)) (notFinal : byte ≠ 102) (notReport : byte ≠ 101) :
    IsInner (name ++ 32 :: byte :: rest) where
  isRow := isRow_append.mpr ⟨token.unbroken.isRow, isRow_cons.mpr ⟨by decide, isRow⟩⟩
  notFinal same := by
    have header : finalHeader = utf8 "---" ++ 32 :: 102 :: utf8 "inal state ---" := rfl
    rw [header] at same
    obtain ⟨-, after⟩ := cut_at token.unbroken.no_space (by decide) same
    exact notFinal (List.cons.inj after).1
  notReport := by
    rw [Bool.eq_false_iff]
    intro starts
    obtain ⟨more, same⟩ := List.isPrefixOf_iff_prefix.mp starts
    have report : reportStart ++ more =
        utf8 "Runtime" ++ 32 :: 101 :: (utf8 "rror at line " ++ more) := rfl
    rw [report] at same
    obtain ⟨-, after⟩ := cut_at (by decide) token.unbroken.no_space same
    exact notReport (List.cons.inj after).1.symm

/-- A row that is set in by two spaces is an inner row. -/
theorem isInner_indented {text : Text} (isRow : text.IsRow) : IsInner (utf8 "  " ++ text) where
  isRow := isRow_append.mpr ⟨by decide, isRow⟩
  notFinal same := by
    have sameStart : (some 32 : Option UInt8) = some 45 := congrArg List.head? same
    contradiction
  notReport := rfl

/-- Inner rows hold neither the final header nor the start of a report. -/
theorem count_inner {rows : List Text} (inner : ∀ row ∈ rows, row.IsInner) :
    rows.count finalHeader = 0 ∧ rows.countP reportStart.isPrefixOf = 0 := by
  constructor
  · rw [List.count_eq_zero]
    intro member
    exact (inner _ member).notFinal rfl
  · rw [List.countP_eq_zero]
    intro row member
    simp [(inner row member).notReport]

end Text

section

variable {ν : Type} [Number ν]

theorem Symbol.isInner_text {symbol : Symbol ν} (token : symbol.name.IsToken) :
    symbol.text.IsInner := by
  have isRow := Symbol.isRow_text token.unbroken.isRow
  rw [text_eq] at isRow ⊢
  exact Text.isInner_named token (Text.isRow_cons.mp (Text.isRow_append.mp isRow).2).2
    (by decide) (by decide)

namespace Table

/-- The rows of a table after its header: one for each symbol, and the footer. -/
def rows (table : Table ν) : List Text :=
  table.symbols.map Symbol.text ++ [utf8 "--------------------"]

theorem dump_eq_lines (header : Text) (table : Table ν) :
    table.dump header = Text.lines (header :: table.rows) := by
  simp [dump, rows, text_eq_lines, Text.lines]

theorem Named.isInner {table : Table ν} (named : table.Named) {row : Text}
    (member : row ∈ table.rows) : row.IsInner := by
  rcases List.mem_append.mp member with symbols | footer
  · obtain ⟨symbol, present, rfl⟩ := List.mem_map.mp symbols
    exact Symbol.isInner_text (named symbol present)
  · obtain rfl := List.mem_singleton.mp footer
    exact ⟨by decide, by decide, rfl⟩

end Table

/-- The rows that a line prints with a table, if it prints anything. -/
def Line.rows (line : Line) (table : Table ν) : List Text :=
  match Standard.operation? line.command, line.arguments with
  | some .print, [name] =>
    match table.get name with
    | .ok symbol => [symbol.name ++ utf8 " = " ++ symbol.value.text]
    | .error _ => []
  | some .printAll, [] => utf8 "--- symbol table ---" :: table.rows
  | _, _ => []

/-- What a line prints cannot be taken for the final table or for a report. -/
theorem Line.isInner_of_mem_rows {line : Line} {table : Table ν} (formed : table.WellFormed)
    (named : table.Named) {row : Text} (member : row ∈ line.rows table) : row.IsInner := by
  rw [rows] at member
  split at member
  · rename_i name _ _
    rw [formed.get_eq] at member
    cases found : table.find? name with
    | none => simp [found] at member
    | some symbol =>
      simp only [found, List.mem_singleton] at member
      have value := symbol.value.isRow_text
      have between : utf8 " = " = [32, 61, 32] := rfl
      rw [member, between, List.append_assoc]
      refine Text.isInner_named (named symbol (Table.find?_mem found)) ?_ (by decide) (by decide)
      simpa using ⟨by decide, by decide, value⟩
  · rcases List.mem_cons.mp member with rfl | later
    · exact ⟨by decide, by decide, rfl⟩
    · exact named.isInner later
  · contradiction

/-- Two operations print, and all others are silent. -/
theorem Operation.effect_printed {operation : Operation} (notPrint : operation ≠ .print)
    (notPrintAll : operation ≠ .printAll) {table : Table ν} {arguments : List Text}
    (enough : arguments.length = operation.arity) :
    (operation.effect table arguments).printed = [] := by
  cases operation with
  | print | printAll => contradiction
  | integer | list | changeSign =>
    obtain ⟨name, rfl⟩ := List.length_eq_one_iff.mp enough
    rfl
  | assign | add | copy | merge | head | tail =>
    obtain ⟨first, second, rfl⟩ := List.length_eq_two.mp enough
    rfl
  | branch =>
    obtain ⟨first, second, rfl⟩ := List.length_eq_two.mp enough
    rw [effect]
    split <;> rfl
  | halt =>
    obtain rfl := List.length_eq_zero_iff.mp enough
    rfl

/-- An answer prints exactly the rows of its line. -/
theorem Standard.dispatch_rows {table : Table ν} (formed : table.WellFormed) (line : Line)
    (length : Nat) :
    (Standard.set.dispatch line table length).printed.flatten = Text.lines (line.rows table) := by
  rw [Line.rows]
  split
  · rename_i name named given
    rw [dispatch_operation formed named (by rw [given]; rfl), given, formed.get_eq,
      Operation.failure?, Operation.checks]
    cases found : table.find? name with
    | none => simp [Check.failure?, found, Reply.fail, Reply.ofVerdict, Text.lines]
    | some symbol =>
      simp [Check.failure?, found, Effect.reply, Operation.effect, Table.valueOf, Text.lines,
        Table.find?_name found]
  · rename_i named given
    rw [dispatch_operation formed named (by rw [given]; rfl), given]
    simp [Operation.failure?, Operation.checks, Effect.reply, Operation.effect, Table.symbolBlock,
      Table.dump_eq_lines]
  · rename_i notPrint notPrintAll
    have answer := dispatch_answer formed line length
    generalize set.dispatch line table length = reply at answer ⊢
    cases answer with
    | blank | refused => rfl
    | performed operation named enough _ =>
      rw [Effect.reply, Operation.effect_printed ?_ ?_ enough]
      · rfl
      · rintro rfl
        obtain ⟨name, given⟩ := List.length_eq_one_iff.mp enough
        exact notPrint name named given
      · rintro rfl
        exact notPrintAll named (List.length_eq_zero_iff.mp enough)

end

/-- The causes that the language itself can name. -/
def Cause.IsOwn : Cause → Prop
  | .arity mnemonic _ _ => mnemonic.IsRow
  | .targetOutside _ | .noResult _ | .broken _ | .reported .. => False
  | _ => True

/-- The text of such a cause is one row, whatever names and literals it quotes. -/
theorem Cause.IsOwn.isRow_text {cause : Cause} (own : cause.IsOwn) : cause.text.IsRow := by
  have kind : cause.kind.text.IsRow := by
    cases cause with
    | noResult | broken | reported => contradiction
    | _ =>
      rw [Cause.kind]
      decide
  have message : cause.message.IsRow := by
    cases cause with
    | targetOutside | noResult | broken | reported => contradiction
    | undeclared name | unknown name | badLiteral name => exact Text.isRow_quote name
    | alreadyDeclared name => exact Text.isRow_append.mpr ⟨Text.isRow_quote name, by decide⟩
    | emptyHead name | badLineNumber name =>
      exact Text.isRow_append.mpr ⟨by decide, Text.isRow_quote name⟩
    | mismatch name declared expected =>
      simp only [Cause.message, Text.isRow_append]
      exact ⟨⟨⟨⟨Text.isRow_quote name, by decide⟩, declared.isRow_name⟩, by decide⟩,
        expected.isRow_name⟩
    | arity mnemonic expected given =>
      simp only [Cause.message, Text.isRow_append]
      exact ⟨⟨⟨⟨own, by decide⟩, Text.isRow_ofInt expected⟩, by decide⟩, Text.isRow_ofNat given⟩
    | targetBeyond line length =>
      simp only [Cause.message, Text.isRow_append]
      exact ⟨⟨⟨⟨by decide, Text.isRow_ofInt line⟩, by decide⟩, Text.isRow_ofNat length⟩, by decide⟩
  rw [Cause.text]
  split
  · exact kind
  · exact Text.isRow_append.mpr ⟨Text.isRow_append.mpr ⟨kind, by decide⟩, message⟩

section

variable {ν : Type} {table : Table ν}

theorem Table.isOwn_refusal? {name : Text} {kind : Kind} {cause : Cause}
    (refused : table.refusal? name kind = some cause) : cause.IsOwn := by
  simp only [refusal?] at refused
  split at refused
  · cases refused
    trivial
  · split at refused <;> cases refused
    trivial

/-- A check fails with a cause of the language. -/
theorem Check.isOwn_failure? {length : Nat} {check : Check} {cause : Cause}
    (failed : check.failure? table length = some cause) : cause.IsOwn := by
  cases check with
  | kindOf name expected => exact Table.isOwn_refusal? failed
  | receives target source =>
    simp only [failure?] at failed
    split at failed
    · exact Table.isOwn_refusal? failed
    · cases failed
  | lineLiteral token =>
    simp only [failure?] at failed
    split at failed
    · split at failed <;> cases failed
      trivial
    · cases failed
      trivial
  | lineWithin token =>
    simp only [failure?] at failed
    split at failed
    · split at failed <;> cases failed
      trivial
    · cases failed
  | fresh name | declared name | literal name | filled name =>
    simp only [failure?] at failed
    split at failed <;> cases failed
    trivial

theorem Operation.isRow_mnemonic (operation : Operation) : operation.mnemonic.IsRow := by
  cases operation <;> decide

variable [Number ν]

/-- A line is refused with a cause of the language. -/
theorem Standard.isOwn_of_dispatch (formed : table.WellFormed) {line : Line} {length : Nat}
    {cause : Cause} (refused : Standard.set.dispatch line table length = .fail table cause) :
    cause.IsOwn := by
  have same {first second : Cause} (same : Reply.fail table first = .fail table second) :
      first = second := by
    simpa [Reply.fail, Reply.ofVerdict, Failure.ofCause] using same
  rw [dispatch_eq formed] at refused
  split at refused
  · simp [Reply.fail, Reply.ofVerdict] at refused
  · split at refused
    · obtain rfl := same refused
      trivial
    · rename_i operation _
      split at refused
      · split at refused
        · rename_i failed
          obtain rfl := same refused
          obtain ⟨check, -, checkFailed⟩ := List.exists_of_findSome?_eq_some failed
          exact Check.isOwn_failure? checkFailed
        · simp [Effect.reply, Reply.fail, Reply.ofVerdict] at refused
      · obtain rfl := same refused
        exact operation.isRow_mnemonic

end

namespace Machine

/-- The rows of the report of a fault at a position. -/
def reportRows (position : Position) (fault : Fault) : List Text :=
  [reportStart ++ Text.ofInt position.line, utf8 "  " ++ position.text, utf8 "  " ++ fault.text]

theorem faultBlock_eq_lines (line : Line) (fault : Fault) :
    faultBlock line fault = Text.lines (reportRows line.position fault) := by
  simp [faultBlock, reportRows, Text.lines, reportStart]

variable {ν : Type}

/-- The lines that a machine executes in so many steps, in order, each with the table that it
finds. -/
def executed (set : InstructionSet ν) : Nat → Machine ν → List (Line × Table ν)
  | 0, _ => []
  | count + 1, machine =>
    match machine.status, machine.program[machine.counter]? with
    | .running, some line => (line, machine.table) :: executed set count (machine.step set)
    | _, _ => []

section

variable (set : InstructionSet ν) {machine : Machine ν}

theorem executed_succ (count : Nat) (running : machine.status = .running) {line : Line}
    (current : machine.program[machine.counter]? = some line) :
    machine.executed set (count + 1) =
      (line, machine.table) :: (machine.step set).executed set count := by
  rw [executed, running, current]

variable (idle : machine.status = .running → machine.program.size ≤ machine.counter)

include idle

/-- A machine that has stopped, or stands outside of its program, executes nothing. -/
theorem executed_of_idle (count : Nat) : machine.executed set count = [] := by
  cases count with
  | zero => rfl
  | succ count =>
    rw [executed]
    split
    · rename_i line running current
      rw [Array.getElem?_eq_none (idle running)] at current
      contradiction
    · rfl

/-- Such a machine has stopped after its next step. -/
theorem step_idle_stopped : (machine.step set).status ≠ .running := by
  cases step_stepped set machine with
  | stopped stopped unchanged => rwa [unchanged]
  | left _ _ completed =>
    obtain ⟨records, completed⟩ := completed
    simp [completed]
  | executed running line current =>
    rw [Array.getElem?_eq_none (idle running)] at current
    contradiction

end

/-- Every executed line is counted as a step. -/
theorem steps_executed (set : InstructionSet ν) (count : Nat) (machine : Machine ν) :
    ((step set)^[count] machine).steps = machine.steps + (machine.executed set count).length := by
  induction count generalizing machine with
  | zero => rfl
  | succ count inductionHypothesis =>
    rw [Function.iterate_succ_apply, inductionHypothesis]
    by_cases idle : machine.status = .running → machine.program.size ≤ machine.counter
    · have stopped := step_idle_stopped set idle
      rw [step_outside set idle, executed_of_idle set idle,
        executed_of_idle set fun running => absurd running stopped]
    · obtain ⟨running, inside⟩ := Classical.not_imp.mp idle
      have inside := Nat.lt_of_not_le inside
      rw [executed_succ set count running (Array.getElem?_eq_getElem inside),
        step_inside set running inside, List.length_cons]
      omega

/-- The bytes that a machine has printed. -/
def bytes (machine : Machine ν) : Text := machine.printed.toList.flatten

/-- The report of a machine: three rows if it has faulted, and nothing otherwise. -/
def FinalReport (machine : Machine ν) (report : List Text) : Prop :=
  if machine.status = .faulted then
    ∃ position fault, machine.fault = some fault ∧ fault.position = some position ∧
      report = reportRows position fault ∧ position.text.IsRow ∧ fault.text.IsRow
  else report = []

variable [Number ν]

/-- A machine whose program and names can be printed in rows. -/
structure Legible (filename : Text) (machine : Machine ν) : Prop where
  sourced : machine.Sourced filename
  formed : machine.table.WellFormed
  named : machine.table.Named
  rows : ∀ text ∈ machine.source, text.IsRow

theorem Legible.step {filename : Text} {machine : Machine ν} (legible : machine.Legible filename) :
    (machine.step Standard.set).Legible filename := by
  obtain ⟨⟨sourced, formed⟩, named⟩ := (named_kept filename).step rfl
    ⟨⟨legible.sourced, legible.formed⟩, legible.named⟩
  refine ⟨sourced, formed, named, ?_⟩
  rw [source, (step_program Standard.set machine).1]
  exact legible.rows

/-- The rows of the lines that are executed. -/
def executedRows (count : Nat) (machine : Machine ν) : List Text :=
  (executed Standard.set count machine).flatMap fun (line, table) => line.rows table

theorem executedRows_succ (count : Nat) {machine : Machine ν} (running : machine.status = .running)
    {line : Line} (current : machine.program[machine.counter]? = some line) :
    machine.executedRows (count + 1) =
      line.rows machine.table ++ (machine.step Standard.set).executedRows count := by
  rw [executedRows, executed_succ Standard.set count running current]
  rfl

theorem executedRows_of_idle (count : Nat) {machine : Machine ν}
    (idle : machine.status = .running → machine.program.size ≤ machine.counter) :
    machine.executedRows count = [] := by
  rw [executedRows, executed_of_idle Standard.set idle]
  rfl

omit [Number ν] in
/-- A machine that has not faulted reports nothing. -/
theorem finalReport_nil {machine : Machine ν} (sound : machine.status ≠ .faulted) :
    machine.FinalReport [] := by
  rw [FinalReport, if_neg sound]

/-- A step on a line prints the rows of the line and the report of its fault. -/
theorem Legible.execute {filename : Text} {machine : Machine ν} (legible : machine.Legible filename)
    (running : machine.status = .running) {line : Line}
    (current : machine.program[machine.counter]? = some line) :
    ∃ report, (machine.step Standard.set).FinalReport report ∧
      (machine.step Standard.set).bytes =
        machine.bytes ++ Text.lines (line.rows machine.table ++ report) := by
  have printedRows := Standard.dispatch_rows legible.formed line machine.program.size
  cases step_stepped Standard.set machine with
  | stopped stopped => contradiction
  | left _ outside =>
    rw [Array.getElem?_eq_none outside] at current
    contradiction
  | executed _ other otherAt _ turn =>
    obtain rfl := Option.some.inj (otherAt.symm.trans current)
    cases turn with
    | advance _ status _ _ printed | jump _ _ _ status _ _ printed | halt _ status _ _ printed =>
      refine ⟨[], finalReport_nil (by simp [status]), ?_⟩
      simp [bytes, printed, printedRows]
    | fault failure rejected status _ fault printed =>
      obtain ⟨cause, -, refused, rfl⟩ :=
        (Standard.dispatch_answer legible.formed other machine.program.size).rejected rejected
      obtain ⟨text, textAt, parsed⟩ := legible.sourced.line current
      have own := Standard.isOwn_of_dispatch legible.formed refused
      rw [locate_ofCause] at fault printed
      refine ⟨reportRows other.position ⟨cause, some other.position⟩, ?_, ?_⟩
      · rw [FinalReport, if_pos status]
        refine ⟨other.position, _, fault, rfl, rfl, ?_, own.isRow_text⟩
        rw [parsed, Line.parse_position]
        exact (legible.rows text (List.mem_of_getElem? textAt)).trim
      · simp [bytes, printed, printedRows, faultBlock_eq_lines, Text.lines]

/-- A run prints the rows of the lines that it executes, and at last the report of its fault. -/
theorem Legible.run {filename : Text} {machine : Machine ν} (legible : machine.Legible filename)
    (running : machine.status = .running) (count : Nat) :
    ∃ report, ((Machine.step Standard.set)^[count] machine).FinalReport report ∧
      ((Machine.step Standard.set)^[count] machine).bytes =
        machine.bytes ++ Text.lines (machine.executedRows count ++ report) := by
  induction count generalizing machine with
  | zero =>
    refine ⟨[], finalReport_nil (by simp [running]), ?_⟩
    simp [executedRows, executed, Text.lines]
  | succ count inductionHypothesis =>
    rw [Function.iterate_succ_apply]
    cases current : machine.program[machine.counter]? with
    | none =>
      -- The machine completes and prints nothing more.
      have idle := fun _ : machine.status = .running => Array.getElem?_eq_none_iff.mp current
      have fixed := step_of_stopped Standard.set (step_idle_stopped Standard.set idle)
      rw [Function.iterate_fixed fixed, executedRows_of_idle (count + 1) idle]
      cases step_stepped Standard.set machine with
      | stopped stopped => contradiction
      | executed _ line lineAt =>
        rw [current] at lineAt
        contradiction
      | left _ _ completed =>
        obtain ⟨records, completed⟩ := completed
        refine ⟨[], finalReport_nil (by simp [completed]), ?_⟩
        simp [completed, bytes, Text.lines]
    | some line =>
      obtain ⟨report, reports, printed⟩ := legible.execute running current
      rw [executedRows_succ count running current]
      by_cases goesOn : (machine.step Standard.set).status = .running
      · obtain rfl : report = [] := by
          rwa [FinalReport, if_neg (by simp [goesOn])] at reports
        obtain ⟨last, lastReports, lastPrinted⟩ := inductionHypothesis legible.step goesOn
        refine ⟨last, lastReports, ?_⟩
        rw [lastPrinted, printed]
        simp [Text.lines]
      · rw [Function.iterate_fixed (step_of_stopped Standard.set goesOn),
          executedRows_of_idle count fun running => absurd running goesOn, List.append_nil]
        exact ⟨report, reports, printed⟩

theorem Legible.iterate {filename : Text} {machine : Machine ν} (legible : machine.Legible filename)
    (count : Nat) : ((Machine.step Standard.set)^[count] machine).Legible filename :=
  Function.Iterate.rec (Legible filename) legible (fun _ legible => legible.step) count

/-- The executed lines print inner rows only. -/
theorem Legible.isInner {filename : Text} {machine : Machine ν} (legible : machine.Legible filename)
    {count : Nat} {row : Text} (member : row ∈ machine.executedRows count) : row.IsInner := by
  induction count generalizing machine with
  | zero => contradiction
  | succ count inductionHypothesis =>
    by_cases idle : machine.status = .running → machine.program.size ≤ machine.counter
    · rw [executedRows_of_idle _ idle] at member
      contradiction
    · obtain ⟨running, inside⟩ := Classical.not_imp.mp idle
      have current := Array.getElem?_eq_getElem (Nat.lt_of_not_le inside)
      rw [executedRows_succ count running current, List.mem_append] at member
      rcases member with here | later
      · exact Line.isInner_of_mem_rows legible.formed legible.named here
      · exact inductionHypothesis legible.step later

omit [Number ν] in
/-- A report is made of rows. None of them is the final header, and only the first one starts like a
report. -/
theorem FinalReport.count {machine : Machine ν} {report : List Text}
    (reports : machine.FinalReport report) :
    (∀ row ∈ report, row.IsRow) ∧ report.count finalHeader = 0 ∧
      report.countP reportStart.isPrefixOf = if machine.status = .faulted then 1 else 0 := by
  rw [FinalReport] at reports
  split at reports
  · rename_i faulted
    obtain ⟨position, fault, -, -, rfl, textRow, faultRow⟩ := reports
    have inner : ∀ row ∈ [utf8 "  " ++ position.text, utf8 "  " ++ fault.text], row.IsInner := by
      rw [List.forall_mem_cons, List.forall_mem_singleton]
      exact ⟨Text.isInner_indented textRow, Text.isInner_indented faultRow⟩
    obtain ⟨noFinal, noReport⟩ := Text.count_inner inner
    have firstRow : Text.IsRow (reportStart ++ Text.ofInt position.line) :=
      Text.isRow_append.mpr ⟨by decide, Text.isRow_ofInt position.line⟩
    have notFinal : reportStart ++ Text.ofInt position.line ≠ finalHeader := by
      intro same
      have sameStart : (some 82 : Option UInt8) = some 45 := congrArg List.head? same
      contradiction
    have starts : reportStart.isPrefixOf (reportStart ++ Text.ofInt position.line) :=
      List.isPrefixOf_iff_prefix.mpr (List.prefix_append _ _)
    refine ⟨?_, ?_, ?_⟩
    · rw [reportRows, List.forall_mem_cons]
      exact ⟨firstRow, fun row member => (inner row member).isRow⟩
    · rw [reportRows, List.count_cons_of_ne notFinal, noFinal]
    · rw [reportRows, List.countP_cons_of_pos starts, noReport, if_pos faulted]
  · rename_i sound
    subst reports
    simp [sound]

/-- The final table comes in rows after all that was printed before. -/
theorem flatten_printFinal (machine : Machine ν) :
    (machine.printed.push machine.table.finalBlock).toList.flatten =
      machine.bytes ++ Text.lines (finalHeader :: machine.table.rows) := by
  rw [← Table.dump_eq_lines]
  simp [bytes, Table.finalBlock, finalHeader]

/-- Inner rows, a report and a final table have one final header, and the start of a report only
when there is a fault. -/
theorem FinalReport.count_rows {machine : Machine ν} {report inner : List Text}
    (reports : machine.FinalReport report) (areInner : ∀ row ∈ inner, row.IsInner)
    (named : machine.table.Named) :
    let rows := inner ++ report ++ finalHeader :: machine.table.rows
    (∀ row ∈ rows, row.IsRow) ∧ rows.count finalHeader = 1 ∧
      rows.countP reportStart.isPrefixOf = if machine.status = .faulted then 1 else 0 := by
  have tableInner : ∀ row ∈ machine.table.rows, row.IsInner := fun row => named.isInner
  obtain ⟨reportRow, reportFinal, reportStarts⟩ := reports.count
  obtain ⟨innerFinal, innerStarts⟩ := Text.count_inner areInner
  obtain ⟨tableFinal, tableStarts⟩ := Text.count_inner tableInner
  refine ⟨?_, ?_, ?_⟩
  · simp only [List.forall_mem_append, List.forall_mem_cons]
    exact ⟨⟨fun row member => (areInner row member).isRow, reportRow⟩, by decide,
      fun row member => (tableInner row member).isRow⟩
  · simp only [List.count_append, List.count_cons_self, innerFinal, reportFinal, tableFinal]
  · rw [List.countP_append, List.countP_append, innerStarts, reportStarts,
      List.countP_cons_of_neg (by decide), tableStarts, Nat.zero_add, Nat.add_zero]

end Machine

namespace Interpreter

variable {ν : Type}

/-- The lines of a source are rows, and nothing is declared before the first of them. -/
theorem legible_start (interpreter : Interpreter ν) (source : Text) :
    ({ interpreter.load source.programLines with ledger := interpreter.ledger } :
      Machine ν).Legible interpreter.settings.filename where
  sourced := by
    obtain ⟨named, parsed⟩ : (interpreter.load source.programLines).Sourced _ :=
      Machine.sourced_load _ _ _
    exact ⟨named, parsed⟩
  formed := Table.wellFormed_empty
  named := by simp [load, Machine.load, Table.Named, Table.empty]
  rows text member := by
    have listed : text ∈ (interpreter.load source.programLines).source := member
    rw [load, Machine.source_load] at listed
    exact Text.isRow_of_mem_programLines listed

/-- The output of a run is made of whole rows. They come from the executed lines in the order of
execution, then from the report of a fault, then from the final table. The header of that table and
the start of the report cannot be forged. -/
theorem output_in_rows [Number ν] {interpreter : Interpreter ν}
    (standard : interpreter.instructions = Standard.set) (patience : Nat) (source : Text) :
    let start : Machine ν :=
      { interpreter.load source.programLines with ledger := interpreter.ledger }
    let outcome := (interpreter.execute patience source).2
    let table := (interpreter.runSource patience source).2.table
    ∃ (texts : Array Text) (report : List Text),
      (interpreter.execute patience source).1.output = interpreter.output ++ texts ∧
      let rows := start.executedRows patience ++ report ++ finalHeader ::
        (table.symbols.map Symbol.text ++ [utf8 "--------------------"])
      (start.executed Standard.set patience).length = outcome.steps ∧
      Text.pieces Text.newline texts.toList.flatten = rows ++ [[]] ∧
      rows.count finalHeader = 1 ∧
      rows.countP reportStart.isPrefixOf = (if outcome.status = .faulted then 1 else 0) ∧
      if outcome.status = .faulted then
        ∃ position fault, outcome.fault = some fault ∧ fault.position = some position ∧
          report = [reportStart ++ Text.ofInt position.line, utf8 "  " ++ position.text,
            utf8 "  " ++ fault.text]
      else report = [] := by
  intro start outcome table
  have legible : start.Legible interpreter.settings.filename := legible_start interpreter source
  obtain ⟨report, reports, printed⟩ := legible.run rfl patience
  obtain ⟨areRows, final, starts⟩ := reports.count_rows (fun row => legible.isInner)
    (legible.iterate patience).named
  obtain ⟨output, sameTable, -⟩ := runSource_eq interpreter patience source
  have sameOutcome := runSource_outcome interpreter patience source
  rw [standard] at output sameTable sameOutcome
  have outcomeIs : outcome = ((Machine.step Standard.set)^[patience] start).outcome := sameOutcome
  have tableIs : table = ((Machine.step Standard.set)^[patience] start).table := sameTable
  have bytes := Machine.flatten_printFinal ((Machine.step Standard.set)^[patience] start)
  have fresh : start.bytes = [] := rfl
  rw [printed, fresh, List.nil_append, ← Text.lines_append] at bytes
  rw [outcomeIs, tableIs]
  refine ⟨_, report, output, ?_, ?_, final, starts, ?_⟩
  · have steps := Machine.steps_executed Standard.set patience start
    rw [show start.steps = 0 from rfl, Nat.zero_add] at steps
    exact steps.symm
  · exact (congrArg (Text.pieces Text.newline) bytes).trans (Text.pieces_lines areRows)
  · rw [Machine.FinalReport] at reports
    split
    · rename_i faulted
      rw [if_pos (show Machine.status _ = .faulted from faulted)] at reports
      obtain ⟨position, fault, raised, placed, reportIs, -, -⟩ := reports
      exact ⟨position, fault, raised, placed, reportIs⟩
    · rename_i sound
      rwa [if_neg (show ¬ Machine.status _ = .faulted from sound)] at reports

/-- A run with names that look like the final header and like a report, and a fault about a name
with a control character. -/
theorem output_in_rows_lookalikes :
    let interpreter : Interpreter Int64 := .new {}
    let source := utf8 "INTEGER ---\nPRINT ---\nLIST Runtime\nPRINTALL\n PRINT error\x01\n"
    let result := interpreter.execute 9 source
    let rows := [utf8 "--- = 0", utf8 "--- symbol table ---", utf8 "--- (int) = 0",
      utf8 "Runtime (list) = []", utf8 "--------------------", utf8 "Runtime error at line 5",
      utf8 "  PRINT error\x01", utf8 "  undeclared identifier: \"error\\x01\"", finalHeader,
      utf8 "--- (int) = 0", utf8 "Runtime (list) = []", utf8 "--------------------"]
    result.2.status = .faulted ∧
      Text.pieces Text.newline result.1.output.toList.flatten = rows ++ [[]] ∧
      rows.count finalHeader = 1 ∧ rows.countP reportStart.isPrefixOf = 1 := by
  intro interpreter source result rows
  obtain ⟨faulted, evaluated, clean⟩ :
      result.2.status = .faulted ∧
        Text.pieces Text.newline result.1.output.toList.flatten = rows ++ [[]] ∧
        interpreter.output = #[] := by
    decide +kernel
  have standard : interpreter.instructions = Standard.set := new_instructions {}
  obtain ⟨texts, report, output, -, cut, final, starts, -⟩ := output_in_rows standard 9 source
  have printed : result.1.output = texts := output.trans (by rw [clean, Array.empty_append])
  have same := List.append_cancel_right (cut.symm.trans (printed ▸ evaluated))
  rw [same] at final starts
  exact ⟨faulted, evaluated, final, starts.trans (if_pos faulted)⟩

end Interpreter
end LineMachine
