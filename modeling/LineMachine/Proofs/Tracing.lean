import LineMachine.Proofs.Journal
import LineMachine.Proofs.Lifecycle
import LineMachine.Proofs.Output

namespace LineMachine

open Log (Category Record)

/-- A tracing record about the flow of control. -/
def flowRecord (message : Text) : Record where
  level := .trace
  category := Category.flow
  message := message

/-- The entry of such a record in a log. -/
def flowEntry (message : Text) : Text := (utf8 "[TRACE:flow] " ++ message).line

theorem flowRecord_text (message : Text) : (flowRecord message).text.line = flowEntry message :=
  congrArg Text.line (List.append_nil _)

/-- The entries of tracing records are told by their start. -/
def traceStart : Text := utf8 "[TRACE"

/-- The start of the entry of an executed line. -/
def lineStart : Text := utf8 "[TRACE:flow] pc="

/-- An entry that closes a trace. -/
def isClose (entry : Text) : Bool :=
  (utf8 "[TRACE:flow] halted at line ").isPrefixOf entry ||
    (utf8 "[TRACE:flow] pc ").isPrefixOf entry

/-- No record of another level that is not urgent looks like a tracing record. -/
theorem Log.Record.IsPlain.isTrace {record : Record} (plain : record.IsPlain) :
    traceStart.isPrefixOf record.text.line = decide (record.level = .trace) := by
  obtain ⟨level, category, message, position⟩ := record
  cases level with
  | trace | info | debug => rfl
  | notice | warn | error | fatal => cases plain.1

namespace Line

/-- What the trace tells of a line with an instruction. Places are counted from zero. -/
def announcement (line : Line) : Text :=
  utf8 "pc=" ++ Text.ofInt (line.position.line - 1) ++ 32 :: line.command ++
    32 :: Text.joinWith [32] line.arguments

/-- A blank line is not announced. -/
def announced (line : Line) : List Text := if line.isEmpty then [] else [line.announcement]

/-- What the trace tells of a jump. Lines are counted from one. -/
def jumped (line next : Line) : Text :=
  utf8 "jump " ++ Text.ofInt line.position.line ++ utf8 " -> " ++ Text.ofInt next.position.line

variable {ν : Type} [Number ν]

/-- The line is a branch, and it is taken on the table. -/
def branches (line : Line) (table : Table ν) : Bool :=
  match Standard.operation? line.command, line.arguments with
  | some .branch, [name, _] => (table.valueOf name).isTrue
  | _, _ => false

/-- What the trace tells between a line and the line that is executed next. -/
def departed (line : Line) (table : Table ν) : Option Line → List Text
  | some next => if line.branches table then [line.jumped next] else []
  | none => []

theorem departed_straight {line : Line} {table : Table ν} (straight : line.branches table = false)
    (next : Option Line) : line.departed table next = [] := by
  cases next with
  | none => rfl
  | some next => simp [departed, straight]

end Line

variable {ν : Type}

/-- The close of a trace: after a path that ends with a halting line, or behind the program, or
without a word where there is a fault. -/
inductive Closing (length : Nat) (path : List (Line × Table ν)) : Status → List Text → Prop where
  | halted (earlier : List (Line × Table ν)) (line : Line) (table : Table ν)
    (last : path = earlier ++ [(line, table)])
    (halts : Standard.operation? line.command = some .halt) :
    Closing length path .halted [utf8 "halted at line " ++ Text.ofInt line.position.line]
  | completed :
    Closing length path .completed
      [utf8 "pc " ++ Text.ofNat length ++ utf8 " outside program, stopping"]
  | faulted : Closing length path .faulted []

theorem Closing.cons {length : Nat} {path : List (Line × Table ν)} {status : Status}
    {closing : List Text} (closes : Closing length path status closing) (entry : Line × Table ν) :
    Closing length (entry :: path) status closing := by
  cases closes with
  | halted earlier line table last halts =>
    exact .halted (entry :: earlier) line table (by rw [last, List.cons_append]) halts
  | completed => exact .completed
  | faulted => exact .faulted

/-- A trace is closed by one entry, or by none where there is a fault. -/
theorem Closing.filter {length : Nat} {path : List (Line × Table ν)} {status : Status}
    {closing : List Text} (closes : Closing length path status closing) :
    (closing.map flowEntry).filter lineStart.isPrefixOf = [] ∧
      (closing.map flowEntry).filter isClose = closing.map flowEntry ∧
      closing.length = if status = .faulted then 0 else 1 := by
  cases closes with
  | halted | completed | faulted => exact ⟨rfl, rfl, rfl⟩

variable [Number ν]

/-- What the trace tells of a path, which is given as the executed lines with the tables that they
found. -/
def journey : List (Line × Table ν) → List Text
  | [] => []
  | (line, table) :: rest =>
    line.announced ++ line.departed table (rest.head?.map Prod.fst) ++ journey rest

/-- What an action says of its line: only a taken branch jumps, and only a halting line halts. -/
def Line.Takes (line : Line) (table : Table ν) : Action → Prop
  | .advance => line.branches table = false
  | .jump _ => line.branches table = true
  | .halt => Standard.operation? line.command = some .halt

namespace Standard.Answer

variable {line : Line} {table : Table ν} {length : Nat} {reply : Reply ν}

/-- The standard instructions never trace. -/
theorem untraced (answer : Answer line table length reply) :
    ∀ record ∈ reply.records, record.level = .debug := by
  cases answer with
  | blank | refused => simp [Reply.ofVerdict, Reply.fail]
  | performed =>
    intro record member
    obtain ⟨note, -, rfl⟩ := List.mem_map.mp member
    rfl

/-- The action of an answer is one that the line takes. -/
theorem takes (answer : Answer line table length reply) {action : Action}
    (verdict : reply.verdict = .ok (some action)) : line.Takes table action := by
  cases answer with
  | blank empty =>
    obtain rfl : .advance = action := by simpa [Reply.ofVerdict] using verdict
    simp [Line.Takes, Line.branches, operation?_blank empty]
  | refused => simp [Reply.fail, Reply.ofVerdict] at verdict
  | performed operation named enough _ =>
    obtain rfl : (operation.effect table line.arguments).action = action := by
      simpa [Effect.reply] using verdict
    cases operation with
    | branch =>
      obtain ⟨name, token, arguments⟩ := List.length_eq_two.mp enough
      by_cases taken : (table.valueOf name).isTrue
      · simp [Line.Takes, Operation.effect, Line.branches, named, arguments, taken]
      · simp [Line.Takes, Operation.effect, Line.branches, named, arguments, taken]
    | integer | list | changeSign | print =>
      obtain ⟨name, arguments⟩ := List.length_eq_one_iff.mp enough
      simp [Line.Takes, Operation.effect, Line.branches, named, arguments]
    | assign | add | copy | merge | head | tail =>
      obtain ⟨first, second, arguments⟩ := List.length_eq_two.mp enough
      simp [Line.Takes, Operation.effect, Line.branches, named, arguments]
    | halt | printAll =>
      have arguments := List.length_eq_zero_iff.mp enough
      simp [Line.Takes, Operation.effect, Line.branches, named, arguments]

end Standard.Answer

namespace Machine

section Records

variable {ν : Type}

/-- The tracing records of a machine. -/
def flow (machine : Machine ν) : List Record :=
  machine.records.toList.filter (·.level = .trace)

/-- What the verdict on a line adds to the trace, at a place of a program of some length. -/
def departure (place length : Nat) : Except Failure (Option Action) → List Text
  | .ok (some (.jump target)) =>
    if 0 ≤ target ∧ target < length then
      [utf8 "jump " ++ Text.ofNat (place + 1) ++ utf8 " -> " ++ Text.ofInt (target + 1)]
    else []
  | .ok (some .halt) => [utf8 "halted at line " ++ Text.ofNat (place + 1)]
  | _ => []

/-- A verdict that the machine rejects adds nothing. -/
theorem departure_rejected {line : Line} {verdict : Except Failure (Option Action)}
    {failure : Failure} {length : Nat} (rejected : rejection? line length verdict = some failure)
    (place : Nat) : departure place length verdict = [] := by
  match verdict with
  | .error _ | .ok none => rfl
  | .ok (some .advance) | .ok (some .halt) => simp [rejection?] at rejected
  | .ok (some (.jump target)) =>
    by_cases inside : 0 ≤ target ∧ target < length
    · simp [rejection?, inside] at rejected
    · exact if_neg inside

theorem noteFlow_flow (machine : Machine ν) (message : Text) :
    (machine.noteFlow message).flow = machine.flow ++ [flowRecord message] := by
  simp [flow, noteFlow, note, flowRecord]

theorem raise_flow (machine : Machine ν) (line : Line) (failure : Failure) :
    (machine.raise line failure).flow = machine.flow := by
  simp [flow, raise, note, print, faultRecord]

theorem traceLine_flow (machine : Machine ν) (tracing : machine.tracing = true) {line : Line}
    (numbered : line.position.line = machine.counter + 1) :
    (machine.traceLine line).flow = machine.flow ++ line.announced.map flowRecord := by
  have place : line.position.line - 1 = Int.ofNat machine.counter := by
    rw [numbered, Int.ofNat_eq_natCast]
    omega
  rw [traceLine, Line.announced, Line.announcement, place, tracing, Bool.true_and]
  cases line.isEmpty with
  | true => simp
  | false => exact noteFlow_flow machine _

theorem absorb_flow (machine : Machine ν) {reply : Reply ν}
    (untraced : ∀ record ∈ reply.records, record.level = .debug) :
    (machine.absorb reply).flow = machine.flow := by
  have none : reply.records.filter (·.level = .trace) = [] := by
    rw [List.filter_eq_nil_iff]
    intro record member
    simp [untraced record member]
  simp [flow, absorb, none]

theorem follow_flow (machine : Machine ν) (line : Line)
    (verdict : Except Failure (Option Action)) :
    (machine.follow line verdict).flow =
      machine.flow ++
        (departure machine.counter machine.program.size verdict).map flowRecord := by
  match verdict with
  | .error failure => simp [follow, departure, raise_flow]
  | .ok none => simp [follow, departure, raise_flow]
  | .ok (some .advance) => simp [follow, departure, flow]
  | .ok (some .halt) => exact noteFlow_flow _ _
  | .ok (some (.jump target)) =>
    by_cases inside : 0 ≤ target ∧ target < machine.program.size
    · rw [follow, if_pos inside, departure, if_pos inside]
      exact noteFlow_flow machine _
    · rw [follow, if_neg inside, departure, if_neg inside, raise_flow]
      simp

/-- The path of a running machine that comes to a stop starts with the line at its counter. -/
theorem executed_head (set : InstructionSet ν) {machine : Machine ν} {line : Line} {count : Nat}
    (running : machine.status = .running)
    (current : machine.program[machine.counter]? = some line)
    (stopped : ((step set)^[count] machine).status ≠ .running) :
    (machine.executed set count).head?.map Prod.fst = some line := by
  cases count with
  | zero => exact absurd running stopped
  | succ count =>
    rw [executed_succ set count running current]
    rfl

/-- The executed lines are lines of the program. -/
theorem executed_listed (set : InstructionSet ν) (count : Nat) (machine : Machine ν) :
    ∀ entry ∈ machine.executed set count,
      ∃ place : Nat, machine.program[place]? = some entry.1 := by
  induction count generalizing machine with
  | zero => simp [executed]
  | succ count inductionHypothesis =>
    by_cases idle : machine.status = .running → machine.program.size ≤ machine.counter
    · simp [executed_of_idle set idle]
    · obtain ⟨running, inside⟩ := Classical.not_imp.mp idle
      have current := Array.getElem?_eq_getElem (Nat.lt_of_not_le inside)
      intro entry member
      rw [executed_succ set count running current] at member
      rcases List.mem_cons.mp member with rfl | later
      · exact ⟨machine.counter, current⟩
      · rw [← (step_program set machine).1]
        exact inductionHypothesis (machine.step set) entry later

/-- No step changes whether a machine traces. -/
theorem step_tracing (set : InstructionSet ν) (machine : Machine ν) :
    (machine.step set).tracing = machine.tracing := by
  rw [step]
  split
  · split
    · rename_i line _
      obtain ⟨records, traced⟩ := traceLine_eq { machine with steps := machine.steps + 1 } line
      rw [execute, traced]
      simp only [follow]
      split
      · rfl
      · rfl
      · rfl
      · split <;> rfl
      · rfl
    · rfl
  · rfl

/-- Outside of its program a running machine tells its place and completes. -/
theorem step_left_flow (set : InstructionSet ν) {machine : Machine ν}
    (running : machine.status = .running) (outside : machine.program.size ≤ machine.counter) :
    (machine.step set).status = .completed ∧
      (machine.step set).flow = machine.flow ++
        [flowRecord (utf8 "pc " ++ Text.ofNat machine.counter ++
          utf8 " outside program, stopping")] := by
  rw [step, running, Array.getElem?_eq_none outside]
  exact ⟨rfl, noteFlow_flow _ _⟩

/-- A machine that traces the lines of a file, in good order. -/
structure Surveyed (filename : Text) (machine : Machine ν) : Prop where
  tracing : machine.tracing = true
  sourced : machine.Sourced filename
  formed : machine.table.WellFormed
  coherent : machine.Coherent

/-- The line at a place has the number of the place, counted from one. -/
theorem Surveyed.numbered {filename : Text} {machine : Machine ν}
    (surveyed : machine.Surveyed filename) {place : Nat} {line : Line}
    (current : machine.program[place]? = some line) : line.position.line = place + 1 := by
  obtain ⟨text, -, rfl⟩ := surveyed.sourced.line current
  simp

end Records

/-- What an executed line adds to the trace and where it leaves the machine. -/
inductive Leg (machine : Machine ν) (line : Line) (after : Machine ν) : Prop where
  | straight (goesOn : after.status = .running) (passes : line.branches machine.table = false)
    (told : after.flow = machine.flow ++ line.announced.map flowRecord)
  | jumped (next : Line) (goesOn : after.status = .running)
    (taken : line.branches machine.table = true)
    (nextAt : after.program[after.counter]? = some next)
    (told : after.flow = machine.flow ++ (line.announced ++ [line.jumped next]).map flowRecord)
  | halted (status : after.status = .halted)
    (halts : Standard.operation? line.command = some .halt)
    (told : after.flow = machine.flow ++
      (line.announced ++ [utf8 "halted at line " ++ Text.ofInt line.position.line]).map flowRecord)
  | faulted (status : after.status = .faulted)
    (told : after.flow = machine.flow ++ line.announced.map flowRecord)

namespace Surveyed

variable {filename : Text} {machine : Machine ν}

theorem step (surveyed : machine.Surveyed filename) :
    (machine.step Standard.set).Surveyed filename where
  tracing := (step_tracing Standard.set machine).trans surveyed.tracing
  sourced := (sourced_kept (· = Standard.set) filename).step rfl surveyed.sourced
  formed := wellFormed_kept.step rfl surveyed.formed
  coherent := surveyed.coherent.step Standard.set

/-- An executed line is announced, and then its verdict is told. -/
theorem execute_flow (surveyed : machine.Surveyed filename) {line : Line}
    (current : machine.program[machine.counter]? = some line) :
    (machine.execute Standard.set line).flow =
      machine.flow ++ (line.announced ++ departure machine.counter machine.program.size
        (Standard.set.dispatch line machine.table machine.program.size).verdict).map
          flowRecord := by
  have answer := Standard.dispatch_answer surveyed.formed line machine.program.size
  have announced := traceLine_flow { machine with steps := machine.steps + 1 } surveyed.tracing
    (surveyed.numbered current)
  obtain ⟨records, traced⟩ := traceLine_eq { machine with steps := machine.steps + 1 } line
  rw [execute, follow_flow, absorb_flow _ answer.untraced, announced, traced, List.map_append,
    List.append_assoc]
  rfl

/-- Every executed line is one leg. -/
theorem leg (surveyed : machine.Surveyed filename) (running : machine.status = .running)
    {line : Line} (current : machine.program[machine.counter]? = some line) :
    machine.Leg line (machine.step Standard.set) := by
  have told := surveyed.execute_flow current
  have turn : machine.Turn line _ _ := execute_turn Standard.set running
  have stepped : machine.step Standard.set = machine.execute Standard.set line := by
    rw [Machine.step, running, current]
  have answer := Standard.dispatch_answer surveyed.formed line machine.program.size
  rw [← stepped] at told turn
  cases turn with
  | advance verdict status =>
    refine .straight status (answer.takes verdict) ?_
    simp [told, verdict, departure]
  | jump target verdict inside status counter =>
    have nextAt := Array.getElem?_eq_getElem inside
    refine .jumped machine.program[target] status (answer.takes verdict) ?_ ?_
    · rw [(step_program Standard.set machine).1, counter, nextAt]
    · rw [told, verdict, departure,
        if_pos ⟨Int.natCast_nonneg target, Int.ofNat_lt.mpr inside⟩, Line.jumped,
        surveyed.numbered current, surveyed.numbered nextAt]
      rfl
  | halt verdict status =>
    refine .halted status (answer.takes verdict) ?_
    rw [told, verdict, departure, surveyed.numbered current]
    rfl
  | fault failure rejected status =>
    refine .faulted status ?_
    rw [told, departure_rejected rejected, List.append_nil]

/-- The trace of a run tells the path and then closes. -/
theorem run (surveyed : machine.Surveyed filename) (running : machine.status = .running)
    {count : Nat} (stopped : ((Machine.step Standard.set)^[count] machine).status ≠ .running) :
    ∃ closing,
      ((Machine.step Standard.set)^[count] machine).flow =
        machine.flow ++ (journey (machine.executed Standard.set count) ++ closing).map flowRecord ∧
      Closing machine.program.size (machine.executed Standard.set count)
        ((Machine.step Standard.set)^[count] machine).status closing := by
  induction count generalizing machine with
  | zero => exact absurd running stopped
  | succ count inductionHypothesis =>
    rw [Function.iterate_succ_apply] at stopped ⊢
    -- A machine that stops with this step keeps its trace and executes nothing more.
    have settled (ends : (machine.step Standard.set).status ≠ .running) :
        (Machine.step Standard.set)^[count] (machine.step Standard.set) =
            machine.step Standard.set ∧
          (machine.step Standard.set).executed Standard.set count = [] :=
      ⟨Function.iterate_fixed (step_of_stopped Standard.set ends) count,
        executed_of_idle Standard.set (fun goesOn => absurd goesOn ends) count⟩
    have sameLength : (machine.step Standard.set).program.size = machine.program.size := by
      rw [(step_program Standard.set machine).1]
    by_cases inside : machine.counter < machine.program.size
    · have current := Array.getElem?_eq_getElem inside
      rw [executed_succ Standard.set count running current]
      cases surveyed.leg running current with
      | straight goesOn passes told =>
        obtain ⟨closing, flow, closes⟩ := inductionHypothesis surveyed.step goesOn stopped
        refine ⟨closing, ?_, (sameLength ▸ closes).cons _⟩
        rw [flow, told, journey, Line.departed_straight passes]
        simp
      | jumped next goesOn taken nextAt told =>
        obtain ⟨closing, flow, closes⟩ := inductionHypothesis surveyed.step goesOn stopped
        refine ⟨closing, ?_, (sameLength ▸ closes).cons _⟩
        rw [flow, told, journey, executed_head Standard.set goesOn nextAt stopped, Line.departed,
          if_pos taken]
        simp
      | halted status halts told =>
        obtain ⟨final, nothing⟩ := settled (by simp [status])
        rw [final, nothing, told, status]
        exact ⟨_, by simp [journey, Line.departed], .halted [] _ _ rfl halts⟩
      | faulted status told =>
        obtain ⟨final, nothing⟩ := settled (by simp [status])
        rw [final, nothing, told, status]
        exact ⟨[], by simp [journey, Line.departed], .faulted⟩
    · have outside := Nat.le_of_not_lt inside
      have place : machine.counter = machine.program.size :=
        Nat.le_antisymm surveyed.coherent.within outside
      obtain ⟨completed, told⟩ := step_left_flow Standard.set running outside
      rw [(settled (by simp [completed])).1, executed_of_idle Standard.set fun _ => outside, told,
        completed, place]
      exact ⟨_, rfl, .completed⟩

end Surveyed

end Machine

/-- The entries of executed lines are those of the lines that are not blank, and no entry on the way
closes a trace. -/
theorem filter_journey (path : List (Line × Table ν)) :
    ((journey path).map flowEntry).filter lineStart.isPrefixOf =
        (path.filter (!·.1.isEmpty)).map (flowEntry ·.1.announcement) ∧
      ((journey path).map flowEntry).filter isClose = [] := by
  induction path with
  | nil => exact ⟨rfl, rfl⟩
  | cons entry rest inductionHypothesis =>
    obtain ⟨line, table⟩ := entry
    have announces : lineStart.isPrefixOf (flowEntry line.announcement) = true ∧
        isClose (flowEntry line.announcement) = false := ⟨rfl, rfl⟩
    have departs : ((line.departed table (rest.head?.map Prod.fst)).map flowEntry).filter
          lineStart.isPrefixOf = [] ∧
        ((line.departed table (rest.head?.map Prod.fst)).map flowEntry).filter isClose = [] := by
      cases rest.head? with
      | none => exact ⟨rfl, rfl⟩
      | some next =>
        rw [Option.map_some, Line.departed]
        cases line.branches table with
        | true | false => exact ⟨rfl, rfl⟩
    rw [journey, List.map_append, List.map_append, List.filter_append, List.filter_append,
      List.filter_append, List.filter_append, departs.1, departs.2, inductionHypothesis.1,
      inductionHypothesis.2, Line.announced]
    cases blank : line.isEmpty with
    | true => simp [blank]
    | false => simp [blank, announces]

/-- Settings that trace show every record about the flow of control, whatever else they show. -/
theorem Settings.filter_writeAll {settings : Settings} (tracing : settings.trace = true)
    {records : List Record} (plain : ∀ record ∈ records, record.IsPlain) {messages : List Text}
    (told : records.filter (·.level = .trace) = messages.map flowRecord) :
    (settings.logger.writeAll records).filter traceStart.isPrefixOf = messages.map flowEntry := by
  have shown : Category.flow ∈ settings.effective := by simp [effective, tracing]
  have same : (records.filter (·.category ∈ settings.effective)).filter
      (fun record => traceStart.isPrefixOf record.text.line) = messages.map flowRecord := by
    rw [← told, List.filter_filter]
    apply List.filter_congr
    intro record member
    rw [(plain record member).isTrace]
    by_cases traced : record.level = .trace
    · have listed : record ∈ messages.map flowRecord := by
        rw [← told]
        exact List.mem_filter.mpr ⟨member, decide_eq_true traced⟩
      obtain ⟨message, -, rfl⟩ := List.mem_map.mp listed
      rw [decide_eq_true (show (flowRecord message).category ∈ settings.effective from shown)]
      rfl
    · simp [traced]
  rw [settings.writeAll_plain plain, if_pos (.inr tracing), List.filter_map]
  rw [Function.comp_def, same, List.map_map]
  exact List.map_congr_left fun message _ => flowRecord_text message

/-- A choice among the tracing entries is a choice among all entries. -/
theorem filter_trace {choice : Text → Bool}
    (among : ∀ entry, choice entry → traceStart.isPrefixOf entry) (entries : List Text) :
    entries.filter choice = (entries.filter traceStart.isPrefixOf).filter choice := by
  rw [List.filter_filter]
  apply List.filter_congr
  intro entry _
  cases chosen : choice entry with
  | true => simp [among entry chosen]
  | false => rfl

theorem lineStart_traces (entry : Text) (starts : lineStart.isPrefixOf entry) :
    traceStart.isPrefixOf entry := by
  rw [List.isPrefixOf_iff_prefix] at *
  exact .trans (by decide) starts

theorem isClose_traces (entry : Text) (closes : isClose entry) :
    traceStart.isPrefixOf entry := by
  rw [isClose, Bool.or_eq_true] at closes
  rw [List.isPrefixOf_iff_prefix, List.isPrefixOf_iff_prefix] at *
  rcases closes with halts | leaves
  · exact .trans (by decide) halts
  · exact .trans (by decide) leaves

namespace Interpreter

omit [Number ν] in
/-- The machine that a tracing interpreter runs. -/
theorem surveyed_start {interpreter : Interpreter ν} (tracing : interpreter.settings.trace = true)
    (source : Text) :
    ({ interpreter.load source.programLines with ledger := interpreter.ledger } :
      Machine ν).Surveyed interpreter.settings.filename where
  tracing := tracing
  sourced := (legible_start interpreter source).sourced
  formed := Table.wellFormed_empty
  coherent := .of_open (by simp [load, Machine.load]) (by simp [load, Machine.load]) rfl
    (Nat.zero_le _)

/-- The trace is faithful. Whatever else is logged of a run that comes to a stop, its tracing
entries tell the path line by line, with a jump between two lines exactly where a branch is taken.
The steps are the announced lines and the blank ones. One entry closes the trace of a run that halts
or completes, and none that of a run with a fault. -/
theorem trace_tells_path {interpreter : Interpreter ν}
    (standard : interpreter.instructions = Standard.set)
    (logs : interpreter.logger = interpreter.settings.logger)
    (tracing : interpreter.settings.trace = true) {patience : Nat} {source : Text}
    (stopped : (interpreter.execute patience source).2.status ≠ .running) :
    let filename := interpreter.settings.filename
    let lines := source.programLines
    let outcome := (interpreter.execute patience source).2
    let start : Machine ν := { interpreter.load lines with ledger := interpreter.ledger }
    let path := start.executed Standard.set patience
    ∃ (entries : List Text) (closing : List Text),
      (interpreter.execute patience source).1.log = interpreter.log ++ entries ∧
      entries.filter traceStart.isPrefixOf = (journey path ++ closing).map flowEntry ∧
      entries.filter lineStart.isPrefixOf =
        (path.filter (!·.1.isEmpty)).map (flowEntry ·.1.announcement) ∧
      outcome.steps = entries.countP lineStart.isPrefixOf + path.countP (·.1.isEmpty) ∧
      entries.filter isClose = closing.map flowEntry ∧
      closing.length = (if outcome.status = .faulted then 0 else 1) ∧
      Closing lines.length path outcome.status closing ∧
      ∀ entry ∈ path, ∃ (place : Nat) (text : Text), lines[place]? = some text ∧
        entry.1 = .parse filename text (place + 1) := by
  intro filename lines outcome start path
  have ran : (interpreter.execute patience source).2 =
      ((Machine.step Standard.set)^[patience] start).outcome := by
    rw [← standard]
    exact runSource_outcome interpreter patience source
  have surveyed : start.Surveyed filename := surveyed_start tracing source
  have length : start.program.size = lines.length := by
    simp [start, load, Machine.load, Line.parseAll]
  rw [show outcome = _ from ran]
  obtain ⟨closing, told, closes⟩ := surveyed.run rfl (fun running => stopped (ran ▸ running))
  have log := execute_log interpreter patience source
  rw [standard, logs] at log
  -- All that the machine has recorded is plain, and so is the record of the source.
  have traced : (interpreter.settings.logger.writeAll (executing source ::
      ((Machine.step Standard.set)^[patience] start).records.toList)).filter
        traceStart.isPrefixOf = (journey path ++ closing).map flowEntry := by
    obtain ⟨more, grown, plain⟩ := Machine.iterate_reports surveyed.formed patience
    refine Settings.filter_writeAll tracing ?_ ?_
    · intro record member
      rcases List.mem_cons.mp member with rfl | reported
      · exact executing_isPlain source
      · rw [grown] at reported
        exact plain record (by simpa [start, load, Machine.load] using reported)
    · rw [List.filter_cons_of_neg (by simp [executing])]
      exact told
  obtain ⟨noLine, allClose, one⟩ := closes.filter
  obtain ⟨lineEntries, noClose⟩ := filter_journey path
  have announced := (filter_trace lineStart_traces _).trans (congrArg (List.filter _) traced)
  rw [List.map_append, List.filter_append, lineEntries, noLine, List.append_nil] at announced
  have closed := (filter_trace isClose_traces _).trans (congrArg (List.filter _) traced)
  rw [List.map_append, List.filter_append, noClose, allClose, List.nil_append] at closed
  refine ⟨_, closing, log, traced, announced, ?_, closed, one, length ▸ closes, ?_⟩
  · have steps : _ = 0 + path.length := Machine.steps_executed Standard.set patience start
    rw [List.length_eq_countP_add_countP (·.1.isEmpty), Nat.zero_add, Nat.add_comm] at steps
    rw [List.countP_eq_length_filter, announced, List.length_map, ← List.countP_eq_length_filter]
    simpa [Machine.outcome] using steps
  · intro entry member
    obtain ⟨place, current⟩ := Machine.executed_listed Standard.set patience start entry member
    obtain ⟨text, textAt, parsed⟩ := surveyed.sourced.line current
    have source : (interpreter.load lines).source = lines := Machine.source_load _ _ _
    exact ⟨place, text, source ▸ textAt, parsed⟩

/-- A jump from a line to a comment and on to a halt, with a blank line before it. -/
theorem trace_tells_path_detour :
    let source := utf8 "INTEGER x\n\nif x 5\nHLT\n # on\nhlt\n"
    let interpreter : Interpreter Int64 := new { trace := true, categories := [Category.parse] }
    let result := interpreter.execute 9 source
    ∃ (path : List (Line × Table Int64)) (closing : List Text),
      result.2.status = .halted ∧ Closing 6 path .halted closing ∧
      (journey path ++ closing).map flowEntry =
        [utf8 "[TRACE:flow] pc=0 INTEGER x\n", utf8 "[TRACE:flow] pc=2 IF x 5\n",
          utf8 "[TRACE:flow] jump 3 -> 5\n", utf8 "[TRACE:flow] pc=5 HLT \n",
          utf8 "[TRACE:flow] halted at line 6\n"] ∧
      result.2.steps = 3 + path.countP (·.1.isEmpty) := by
  intro source interpreter result
  obtain ⟨halted, six, unlogged, logged⟩ :
      result.2.status = .halted ∧ source.programLines.length = 6 ∧ interpreter.log = #[] ∧
      result.1.log.toList =
        [utf8 "[TRACE:flow] pc=0 INTEGER x\n",
          utf8 "[TRACE:flow] pc=2 IF x 5\n",
          utf8 "[DEBUG:flow] IF x taken, jumping to line 5\n  at <program>:3\n  > if x 5\n",
          utf8 "[TRACE:flow] jump 3 -> 5\n", utf8 "[TRACE:flow] pc=5 HLT \n",
          utf8 "[TRACE:flow] halted at line 6\n"] := by
    decide +kernel
  have logs : interpreter.logger = interpreter.settings.logger := by
    rw [show interpreter = _ from new_eq _]
  obtain ⟨entries, closing, log, traced, -, steps, -, -, closes, -⟩ :=
    trace_tells_path (new_instructions _) logs rfl
      (show result.2.status ≠ .running by simp [halted])
  have entered : result.1.log.toList = entries := by
    have joined : result.1.log = interpreter.log ++ entries := log
    simp [joined, unlogged]
  rw [← entered, logged] at traced steps
  rw [six, show Outcome.status _ = .halted from halted] at closes
  exact ⟨_, closing, halted, closes, traced.symm.trans (by decide), steps⟩

end Interpreter
end LineMachine
