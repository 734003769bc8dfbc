import LineMachine.Proofs.Silence

namespace LineMachine

open Log (Category Record Logger)

namespace Log

/-- A plain record is not urgent and has a named category. -/
def Record.IsPlain (record : Record) : Prop :=
  record.level.isUrgent = false ∧ record.category ∈ Category.all

/-- What a log shows of a plain record, under its category. -/
def Record.entry (record : Record) : Category × Text := (record.category, record.text.line)

namespace Logger

theorem isEnabledFor_enable (logger : Logger) (category other : Category) :
    (logger.enable category).isEnabledFor other ↔ logger.isEnabledFor other ∨ other = category := by
  rw [enable]
  split
  · rename_i already
    constructor
    · exact .inl
    · rintro (enabled | rfl)
      · exact enabled
      · exact already
  · simp [isEnabledFor]

theorem enable_enabled (logger : Logger) (category : Category) :
    (logger.enable category).enabled = logger.enabled := by
  rw [enable]
  split <;> rfl

theorem isEnabledFor_enableEach (logger : Logger) (categories : List Category) (other : Category) :
    (logger.enableEach categories).isEnabledFor other ↔
      logger.isEnabledFor other ∨ other ∈ categories := by
  rw [enableEach]
  induction categories generalizing logger with
  | nil => simp
  | cons category rest inductionHypothesis =>
    rw [List.foldl_cons, inductionHypothesis, isEnabledFor_enable, List.mem_cons, or_assoc]

theorem enableEach_enabled (logger : Logger) (categories : List Category) :
    (logger.enableEach categories).enabled = logger.enabled := by
  rw [enableEach]
  induction categories generalizing logger with
  | nil => rfl
  | cons category rest inductionHypothesis =>
    rw [List.foldl_cons, inductionHypothesis, enable_enabled]

/-- A plain record is written as it is where the logger is enabled for its category. -/
theorem write_plain (logger : Logger) {record : Record} (plain : record.IsPlain) :
    logger.write record =
      if logger.enabled ∧ logger.isEnabledFor record.category then some record.text.line
      else none := by
  -- A record without any category would be shown under every choice of categories.
  have named : record.category.isEmpty = false := by
    have none : [] ∉ Category.all := by decide
    cases category : record.category with
    | nil => exact absurd (category ▸ plain.2) none
    | cons => rfl
  cases enabled : logger.enabled <;> cases shown : logger.isEnabledFor record.category <;>
    simp [write, shows, plain.1, named, enabled, shown]

end Logger
end Log

namespace Settings

/-- The categories that settings show: the chosen ones, or all where none is chosen, and the flow of
control where it is traced. -/
def effective (settings : Settings) : List Category :=
  (if settings.categories = [] then Category.all else settings.categories) ++
    if settings.trace then [Category.flow] else []

theorem logger_enabled (settings : Settings) :
    settings.logger.enabled = (settings.debug || settings.trace) := by
  rw [logger]
  split
  · rw [Logger.enable_enabled, Logger.enableEach_enabled]
  · rw [Logger.enableEach_enabled]

theorem logger_isEnabledFor (settings : Settings) (category : Category) :
    settings.logger.isEnabledFor category ↔ category ∈ settings.effective := by
  have unset (enabled : Bool) : ¬ ({ enabled } : Logger).isEnabledFor category := by
    simp [Logger.isEnabledFor]
  rw [logger, effective, List.mem_append]
  simp only [List.isEmpty_iff]
  cases settings.trace with
  | true =>
    rw [if_pos rfl, if_pos rfl, Logger.isEnabledFor_enable, Logger.isEnabledFor_enableEach]
    simp [unset]
  | false =>
    rw [if_neg Bool.false_ne_true, if_neg Bool.false_ne_true, Logger.isEnabledFor_enableEach]
    simp [unset]

/-- What settings show of plain records. -/
theorem writeAll_plain (settings : Settings) {records : List Record}
    (plain : ∀ record ∈ records, record.IsPlain) :
    settings.logger.writeAll records =
      if settings.debug ∨ settings.trace then
        (records.filter (·.category ∈ settings.effective)).map (·.text.line)
      else [] := by
  rw [Logger.writeAll]
  induction records with
  | nil => simp
  | cons record rest inductionHypothesis =>
    have written := settings.logger.write_plain (plain record List.mem_cons_self)
    simp only [logger_enabled, logger_isEnabledFor, Bool.or_eq_true] at written
    rw [List.filterMap_cons, written, List.filter_cons,
      inductionHypothesis fun record member => plain record (List.mem_cons_of_mem _ member)]
    by_cases enabled : settings.debug ∨ settings.trace
    · by_cases shown : record.category ∈ settings.effective
      · simp [enabled, shown]
      · simp [enabled, shown]
    · simp [enabled]

end Settings

namespace Operation

variable {ν : Type} [Number ν]

/-- What an operation notes has a named category. -/
theorem effect_notes (operation : Operation) (table : Table ν) (arguments : List Text) :
    ∀ note ∈ (operation.effect table arguments).notes, note.1 ∈ Category.all := by
  unfold effect
  split
  all_goals try split
  all_goals simp [Category.all]

end Operation

/-- What the standard instruction set records of a line is plain. -/
theorem Standard.Answer.plain {ν : Type} [Number ν] {line : Line} {table : Table ν} {length : Nat}
    {reply : Reply ν} (answer : Standard.Answer line table length reply) :
    ∀ record ∈ reply.records, record.IsPlain := by
  cases answer with
  | blank | refused => simp [Reply.ofVerdict, Reply.fail]
  | performed operation =>
    intro record member
    obtain ⟨note, noted, rfl⟩ := List.mem_map.mp member
    exact ⟨rfl, operation.effect_notes table line.arguments note noted⟩

namespace Machine

variable {ν : Type}

/-- One machine has added plain records to those of another. -/
def Reports (before after : Machine ν) : Prop :=
  ∃ more : List Record, after.records = before.records ++ more ∧ ∀ record ∈ more, record.IsPlain

namespace Reports

variable {first second third : Machine ν}

theorem refl (machine : Machine ν) : machine.Reports machine := ⟨[], by simp, by simp⟩

theorem trans (before : first.Reports second) (after : second.Reports third) :
    first.Reports third := by
  obtain ⟨more, grown, plain⟩ := before
  obtain ⟨further, grownFurther, plainFurther⟩ := after
  refine ⟨more ++ further, ?_, ?_⟩
  · rw [grownFurther, grown]
    exact Array.toList_inj.mp (by simp)
  · intro record member
    exact (List.mem_append.mp member).elim (plain record) (plainFurther record)

/-- A machine that has one more record. -/
theorem push {record : Record} (plain : record.IsPlain)
    (pushed : second.records = first.records.push record) : first.Reports second :=
  ⟨[record], by simp [pushed], by simpa using plain⟩

end Reports

theorem flow_isPlain (message : Text) :
    Record.IsPlain { level := .trace, category := Category.flow, message } :=
  ⟨rfl, by simp [Category.all]⟩

theorem faultRecord_isPlain (command : Text) (fault : Fault) :
    (faultRecord command fault).IsPlain :=
  ⟨rfl, by simp [faultRecord, Category.all]⟩

theorem raise_reports (machine : Machine ν) (line : Line) (failure : Failure) :
    machine.Reports (machine.raise line failure) :=
  .push (faultRecord_isPlain line.command _) rfl

theorem traceLine_reports (machine : Machine ν) (line : Line) :
    machine.Reports (machine.traceLine line) := by
  rw [traceLine]
  split
  · exact .push (flow_isPlain _) rfl
  · exact .refl machine

theorem absorb_reports (machine : Machine ν) {reply : Reply ν}
    (plain : ∀ record ∈ reply.records, record.IsPlain) : machine.Reports (machine.absorb reply) :=
  ⟨reply.records, rfl, plain⟩

theorem follow_reports (machine : Machine ν) (line : Line)
    (verdict : Except Failure (Option Action)) : machine.Reports (machine.follow line verdict) := by
  simp only [follow]
  split
  · exact machine.raise_reports line _
  · exact machine.raise_reports line _
  · exact .refl machine
  · split
    · exact .push (flow_isPlain _) rfl
    · exact machine.raise_reports line _
  · exact .push (flow_isPlain _) rfl

variable [Number ν]

theorem execute_reports {machine : Machine ν} (formed : machine.table.WellFormed) (line : Line) :
    machine.Reports (machine.execute Standard.set line) := by
  have answer := Standard.dispatch_answer formed line machine.program.size
  rw [execute]
  exact ((traceLine_reports { machine with steps := machine.steps + 1 } line).trans
    (absorb_reports _ answer.plain)).trans (follow_reports _ line _)

theorem step_reports {machine : Machine ν} (formed : machine.table.WellFormed) :
    machine.Reports (machine.step Standard.set) := by
  rw [step]
  split
  · split
    · exact execute_reports formed _
    · exact .push (flow_isPlain _) rfl
  · exact .refl machine

/-- However many steps a machine makes, all that it adds is plain. -/
theorem iterate_reports {machine : Machine ν} (formed : machine.table.WellFormed) (count : Nat) :
    machine.Reports ((step Standard.set)^[count] machine) := by
  induction count generalizing machine with
  | zero => exact .refl machine
  | succ count inductionHypothesis =>
    rw [Function.iterate_succ_apply]
    exact (step_reports formed).trans (inductionHypothesis (wellFormed_kept.step rfl formed))

end Machine

namespace Interpreter

variable {ν : Type} [Number ν]

/-- The records of the standard instructions. -/
def registrations : List Record :=
  Standard.operations.map fun operation => registration operation.mnemonic operation.arity

theorem registrations_isPlain : ∀ record ∈ registrations, record.IsPlain := by
  intro record member
  obtain ⟨operation, -, rfl⟩ := List.mem_map.mp member
  exact ⟨rfl, by simp [registration, Category.all]⟩

theorem executing_isPlain (source : Text) : (executing source).IsPlain :=
  ⟨rfl, by simp [executing, Category.all]⟩

/-- All that a new interpreter has to tell about so many steps of a source. -/
def journal (ν : Type) [Number ν] (filename : Text) (trace : Bool) (source : Text) (steps : Nat) :
    List Record :=
  (Standard.operations.map fun operation => registration operation.mnemonic operation.arity) ++
    executing source ::
      ((Machine.step Standard.set)^[steps]
        (.load filename trace source.programLines : Machine ν)).records.toList

theorem journal_isPlain (filename : Text) (trace : Bool) (source : Text) (steps : Nat) :
    ∀ record ∈ journal ν filename trace source steps, record.IsPlain := by
  intro record member
  rcases List.mem_append.mp member with registered | told
  · exact registrations_isPlain record registered
  · rcases List.mem_cons.mp told with rfl | reported
    · exact executing_isPlain source
    · have start : (Machine.load filename trace source.programLines : Machine ν).table.WellFormed :=
        Table.wellFormed_empty
      obtain ⟨more, grown, plain⟩ := Machine.iterate_reports start steps
      rw [grown] at reported
      exact plain record (by simpa [Machine.load] using reported)

theorem journal_grows (filename : Text) (trace : Bool) (source : Text) (steps more : Nat) :
    journal ν filename trace source steps <+: journal ν filename trace source (more + steps) := by
  have start : (Machine.load filename trace source.programLines : Machine ν).table.WellFormed :=
    Table.wellFormed_empty
  have formed := Machine.wellFormed_iterate start steps
  obtain ⟨further, grown, -⟩ := Machine.iterate_reports formed more
  rw [journal, journal, Function.iterate_add_apply, grown]
  exact ⟨further, by simp⟩

/-- Nothing is added to the journal of a run that has come to a stop. -/
theorem journal_settles {settings : Settings} {source : Text} {steps : Nat}
    (stopped : ((new settings : Interpreter ν).runSource steps source).2.status ≠ .running)
    (more : Nat) :
    journal ν settings.filename settings.trace source (more + steps) =
      journal ν settings.filename settings.trace source steps := by
  rw [(runSource_eq _ steps source).2.2, new_instructions, new_load] at stopped
  rw [journal, journal, Function.iterate_add_apply,
    Function.iterate_fixed (Machine.step_of_stopped Standard.set stopped)]

/-- A run logs its source and then what its machine has recorded. -/
theorem runSource_log (interpreter : Interpreter ν) (patience : Nat) (source : Text) :
    (interpreter.runSource patience source).1.log =
      interpreter.log ++ (interpreter.logger.write (executing source)).toArray ++
        ((Machine.step interpreter.instructions)^[patience]
          { interpreter.load source.programLines with
            ledger := interpreter.ledger }).records.filterMap interpreter.logger.write := by
  rw [← Machine.resume_eq_iterate interpreter.instructions patience rfl, runSource, note_eq]
  rfl

/-- What a run adds to the log is what the logger writes of one list of records. -/
theorem execute_log (interpreter : Interpreter ν) (patience : Nat) (source : Text) :
    let start : Machine ν :=
      { interpreter.load source.programLines with ledger := interpreter.ledger }
    (interpreter.execute patience source).1.log = interpreter.log ++
      interpreter.logger.writeAll (executing source ::
        ((Machine.step interpreter.instructions)^[patience] start).records.toList) := by
  intro start
  refine (runSource_log interpreter patience source).trans ?_
  rw [Logger.writeAll, List.filterMap_cons]
  apply Array.toList_inj.mp
  cases interpreter.logger.write (executing source) with
  | none => simp [start]
  | some text => simp [start]

/-- The log of a new interpreter is what its logger writes of the journal. -/
theorem new_log (settings : Settings) (patience : Nat) (source : Text) :
    ((new settings : Interpreter ν).runSource patience source).1.log.toList =
      settings.logger.writeAll
        (journal ν settings.filename settings.trace source patience) := by
  rw [runSource_log, new_instructions, new_load, new_eq, journal, Logger.writeAll,
    List.filterMap_append, List.filterMap_cons, List.filterMap_map]
  cases settings.logger.write (executing source) with
  | none => simp
  | some text => simp

/-- The log is exactly a filter. About every source there is a journal of categories and texts that
grows with the steps until the run stops, and of which the settings show the categories that they
choose, in order, or nothing when they neither debug nor trace. -/
theorem log_eq_filter_journal (filename : Text) (trace : Bool) (source : Text) :
    ∃ journal : Nat → List (Category × Text),
      (∀ steps, ∀ entry ∈ journal steps, entry.1 ∈ Category.all) ∧
      (∀ steps more, journal steps <+: journal (more + steps)) ∧
      ∀ debug categories patience,
        let settings : Settings := { debug, trace, categories, filename }
        let ran := (new settings : Interpreter ν).runSource patience source
        ran.1.log.toList =
          (if debug ∨ trace then
            ((journal patience).filter (·.1 ∈ settings.effective)).map Prod.snd
          else []) ∧
        (ran.2.status ≠ .running → ∀ more, journal (more + patience) = journal patience) := by
  refine ⟨fun steps => (journal ν filename trace source steps).map Record.entry, ?_, ?_, ?_⟩
  · intro steps told member
    obtain ⟨record, noted, rfl⟩ := List.mem_map.mp member
    exact (journal_isPlain filename trace source steps record noted).2
  · intro steps more
    exact (journal_grows filename trace source steps more).map Record.entry
  · intro debug categories patience settings ran
    constructor
    · rw [new_log, settings.writeAll_plain (journal_isPlain filename trace source patience)]
      simp only [List.filter_map, List.map_map]
      rfl
    · intro stopped more
      exact congrArg (List.map Record.entry) (journal_settles stopped more)

/-- The journal of a jump and a fault, shown for the flow of control only. -/
theorem log_eq_filter_journal_jump :
    let source := utf8 "INTEGER x\nCHS x\nIF x 4\nHEAD x x\n"
    let settings : Settings := { debug := true, categories := [Category.flow] }
    ∃ journal : Nat → List (Category × Text),
      ((new settings : Interpreter Int64).runSource 4 source).2.status ≠ .running ∧
      (∀ more, journal (more + 4) = journal 4) ∧
      ((journal 4).filter (·.1 ∈ [Category.flow])).map Prod.snd =
        [utf8 "[DEBUG:flow] IF x taken, jumping to line 4\n  at <program>:3\n  > IF x 4\n",
          utf8 "[TRACE:flow] jump 3 -> 4\n"] := by
  intro source settings
  obtain ⟨stopped, logged⟩ :
      ((new settings : Interpreter Int64).runSource 4 source).2.status ≠ .running ∧
      ((new settings : Interpreter Int64).runSource 4 source).1.log.toList =
        [utf8 "[DEBUG:flow] IF x taken, jumping to line 4\n  at <program>:3\n  > IF x 4\n",
          utf8 "[TRACE:flow] jump 3 -> 4\n"] := by
    decide +kernel
  obtain ⟨journal, -, -, logs⟩ := log_eq_filter_journal (ν := Int64) [] false source
  obtain ⟨shown, settles⟩ := logs true [Category.flow] 4
  rw [if_pos (.inl rfl)] at shown
  exact ⟨journal, stopped, settles stopped, shown.symm.trans logged⟩

end Interpreter
end LineMachine
