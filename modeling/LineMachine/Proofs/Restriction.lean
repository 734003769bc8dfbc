import LineMachine.Proofs.Independence
import LineMachine.Proofs.Interaction
import LineMachine.Proofs.Journal

namespace LineMachine

open Log (Category Record Logger)

/-- Colour makes no difference to plain records. -/
theorem Log.Logger.writeAll_colored (logger : Logger) (colored : Bool) {records : List Record}
    (plain : ∀ record ∈ records, record.IsPlain) :
    { logger with colored }.writeAll records = logger.writeAll records := by
  apply List.filterMap_congr
  intro record member
  rw [write_plain _ (plain record member), write_plain _ (plain record member)]
  rfl

namespace Machine

variable {ν : Type} [Number ν]

/-- However long a machine goes on, all that it adds is plain. -/
theorem resume_reports {machine : Machine ν} (formed : machine.table.WellFormed) (patience : Nat) :
    machine.Reports (machine.resume Standard.set patience) := by
  have awake : machine.Reports machine.wake := by
    rw [wake]
    split <;> exact .refl machine
  rw [resume, drive_eq_iterate]
  exact awake.trans (iterate_reports (wellFormed_kept.wake formed) patience)

theorem wellFormed_resume {machine : Machine ν} (formed : machine.table.WellFormed)
    (patience : Nat) : (machine.resume Standard.set patience).table.WellFormed := by
  rw [resume, drive_eq_iterate]
  exact wellFormed_iterate (wellFormed_kept.wake formed) patience

/-- A standard line keeps no fault, so the ledger stays as it is. -/
theorem step_standard_ledger (machine : Machine ν) :
    (machine.step Standard.set).ledger = machine.ledger := by
  cases step_stepped Standard.set machine with
  | stopped _ unchanged => rw [unchanged]
  | left _ _ completed =>
    obtain ⟨records, completed⟩ := completed
    rw [completed]
  | executed running line current =>
    rw [step_ledger Standard.set running current]
    cases rejected : rejection? line machine.program.size
        (Standard.set.dispatch line machine.table machine.program.size).verdict with
    | none => rfl
    | some failure =>
      obtain ⟨cause, rfl⟩ : ∃ cause, failure = .ofCause cause := by
        rcases rejection?_cases rejected with reported | caused
        · exact Standard.dispatch_failure reported
        · exact caused
      rfl

theorem iterate_standard_ledger (machine : Machine ν) (count : Nat) :
    ((step Standard.set)^[count] machine).ledger = machine.ledger := by
  induction count with
  | zero => rfl
  | succ count inductionHypothesis =>
    rw [Function.iterate_succ_apply', step_standard_ledger, inductionHypothesis]

end Machine

namespace Session

variable {ν : Type}

/-- The session that is left when its machine has acted. -/
def left (acted : Machine ν) : Session ν :=
  ⟨{ acted with printed := #[], records := #[] }.recover, acted.status = .halted⟩

theorem left_machine (acted : Machine ν) :
    (left acted).machine.table = acted.table ∧ (left acted).machine.ledger = acted.ledger ∧
      (left acted).machine.printed = #[] ∧ (left acted).machine.records = #[] := by
  rw [left, Machine.recover]
  split <;> exact ⟨rfl, rfl, rfl, rfl⟩

variable [Number ν]

/-- All that a session has to tell about lines that it gets one after another. -/
def journal (patience : Nat) : Session ν → List Text → List Record
  | _, [] => []
  | session, text :: rest =>
    if session.done then []
    else
      let acted := (session.machine.append text).resume Standard.set patience
      acted.records.toList ++ journal patience (left acted) rest

/-- An interpreter has taken over all that the machine of a session has printed and recorded. -/
structure Collected (interpreter : Interpreter ν) (session : Session ν) : Prop where
  standard : interpreter.instructions = Standard.set
  acting : interpreter.acting session = session.machine
  formed : session.machine.table.WellFormed

theorem Collected.opened {interpreter : Interpreter ν}
    (standard : interpreter.instructions = Standard.set) (unused : interpreter.ledger = []) :
    Collected interpreter interpreter.openSession where
  standard := standard
  acting := by
    rw [Interpreter.acting, unused]
    rfl
  formed := Table.wellFormed_empty

/-- What the machine of a session has printed and recorded is taken over after every line. -/
theorem Collected.left {interpreter : Interpreter ν}
    (standard : interpreter.instructions = Standard.set) {acted : Machine ν}
    (ledger : interpreter.ledger = acted.ledger) (formed : acted.table.WellFormed) :
    Collected interpreter (left acted) where
  standard := standard
  acting := by
    obtain ⟨-, kept, printed, records⟩ := left_machine acted
    rw [Interpreter.acting, ledger, ← kept, ← printed, ← records]
  formed := by rwa [(left_machine acted).1]

/-- A line of an open session adds to the log what the machine has to tell. -/
theorem Collected.feed {interpreter : Interpreter ν} {session : Session ν}
    (collected : Collected interpreter session) (unfinished : session.done = false)
    {patience : Nat} {text : Text} {acted : Machine ν}
    (ran : (session.machine.append text).resume Standard.set patience = acted) :
    let fed := interpreter.feed patience session text
    fed.2.1 = .left acted ∧ Collected fed.1 (.left acted) ∧ fed.1.logger = interpreter.logger ∧
      fed.1.log.toList =
        interpreter.log.toList ++ interpreter.logger.writeAll acted.records.toList := by
  have formed : acted.table.WellFormed := by
    rw [← ran]
    exact Machine.wellFormed_resume (Machine.wellFormed_kept.append text collected.formed) patience
  have resumed : ((interpreter.acting session).append text).resume interpreter.instructions
      patience = acted := by
    rw [collected.acting, collected.standard, ran]
  rw [Interpreter.feed_eq interpreter patience unfinished text, resumed]
  refine ⟨rfl, .left ?_ rfl formed, rfl, ?_⟩
  · exact collected.standard
  · simp [Logger.writeAll]

/-- The log of a session is what the logger writes of its journal. -/
theorem Collected.feedEach {interpreter : Interpreter ν} {session : Session ν}
    (collected : Collected interpreter session) (patience : Nat) (lines : List Text) :
    (interpreter.feedEach patience session lines).1.log.toList =
      interpreter.log.toList ++ interpreter.logger.writeAll (session.journal patience lines) := by
  induction lines generalizing interpreter session with
  | nil => simp [Interpreter.feedEach, journal, Logger.writeAll]
  | cons text rest inductionHypothesis =>
    cases done : session.done with
    | true =>
      rw [Interpreter.feedEach_of_done done, journal, if_pos done]
      simp [Logger.writeAll]
    | false =>
      obtain ⟨acted, ran⟩ :
          ∃ acted, (session.machine.append text).resume Standard.set patience = acted := ⟨_, rfl⟩
      obtain ⟨next, collectedNext, logger, log⟩ := collected.feed done ran
      rw [Interpreter.feedEach, journal, if_neg (by simp [done])]
      simp only [next, inductionHypothesis collectedNext, logger, log, ran]
      simp [Logger.writeAll]

/-- All that a session has to tell is plain. -/
theorem journal_isPlain {session : Session ν} (formed : session.machine.table.WellFormed)
    (recordless : session.machine.records = #[]) (patience : Nat) (lines : List Text) :
    ∀ record ∈ session.journal patience lines, record.IsPlain := by
  induction lines generalizing session with
  | nil => simp [journal]
  | cons text rest inductionHypothesis =>
    have appended : (session.machine.append text).table.WellFormed := formed
    obtain ⟨more, grown, plain⟩ := Machine.resume_reports appended patience
    have stillFormed := Machine.wellFormed_resume appended patience
    rw [journal]
    split
    · simp
    · generalize (session.machine.append text).resume Standard.set patience = acted at *
      intro record member
      rcases List.mem_append.mp member with told | later
      · rw [grown, show (session.machine.append text).records = #[] from recordless] at told
        exact plain record (by simpa using told)
      · obtain ⟨table, -, -, records⟩ := left_machine acted
        exact inductionHypothesis (table ▸ stillFormed) records record later

end Session

/-- The end of a session logs nothing. -/
theorem Interpreter.close_log {ν : Type} [Number ν] (interpreter : Interpreter ν)
    (session : Session ν) : (interpreter.close session).1.log = interpreter.log := by
  simp [close, act, Machine.printFinal, Machine.print]

namespace Interactive

/-- The piped lines that a session is fed: those before the first that is too long or asks to
leave. -/
def readable (raws : List Text) : List Text :=
  (raws.takeWhile fun raw => raw.length < lineLimit && !isExit (pipedLine raw)).map pipedLine

theorem feedPiped_eq {ν : Type} (patience : Nat) (interpreter : Interpreter ν)
    (session : Session ν) (raws : List Text) :
    let piped := feedPiped patience interpreter session raws
    (piped.1, piped.2.1) = interpreter.feedEach patience session (readable raws) := by
  induction raws generalizing interpreter session with
  | nil => rfl
  | cons raw rest inductionHypothesis =>
    cases done : session.done with
    | true => simp [feedPiped, done, Interpreter.feedEach_of_done done]
    | false =>
      rw [readable, List.takeWhile_cons, feedPiped, done, if_neg Bool.false_ne_true]
      by_cases tooLong : lineLimit ≤ raw.length
      · simp [tooLong, Nat.not_lt_of_le tooLong, Interpreter.feedEach]
      · cases leaves : isExit (pipedLine raw) with
        | true => simp [tooLong, Interpreter.feedEach]
        | false =>
          simp only [tooLong, Nat.lt_of_not_le tooLong]
          exact inductionHypothesis _ _

/-- A session on piped input logs what its lines log. -/
theorem runPiped_log {ν : Type} [Number ν] {interpreter : Interpreter ν}
    (collected : Session.Collected interpreter interpreter.openSession) (patience : Nat)
    (input : Text) :
    (runPiped patience interpreter input).1.log.toList =
      interpreter.log.toList ++ interpreter.logger.writeAll
        (interpreter.openSession.journal patience (readable (rawLines input))) := by
  rw [← collected.feedEach, ← feedPiped_eq]
  exact congrArg Array.toList (Interpreter.close_log _ _)

end Interactive

namespace Cli

namespace Command

open LineMachine.Cli.Configuration

/-- All that so many steps of a source have to tell. -/
def runRecords (trace : Bool) (patience : Nat) (path content : Text) : List Record :=
  Interpreter.executing content ::
    ((Machine.step Standard.set)^[patience]
      (.load path trace content.programLines : Machine Int64)).records.toList

theorem runRecords_isPlain (trace : Bool) (patience : Nat) (path content : Text) :
    ∀ record ∈ runRecords trace patience path content, record.IsPlain := by
  intro record member
  exact Interpreter.journal_isPlain (ν := Int64) path trace content patience record
    (List.mem_append_right _ member)

/-- What one episode of watching has to tell. -/
def episodeRecords (trace : Bool) (patience : Nat) (path : Text) : Episode → List Record
  | .read content => runRecords trace patience path content
  | .unread _ | .failed _ => []

namespace Task

/-- All that the command has to tell about a task, with so many steps for each program or each line
of its input. -/
def journal (trace : Bool) (patience : Nat) : Task → List Record
  | .session input =>
    Interpreter.registrations ++
      Session.journal patience (⟨.load (utf8 "<stdin>") trace [], false⟩ : Session Int64)
        (Interactive.readable (Interactive.rawLines input))
  | .file path (.ok content) =>
    Interpreter.registrations ++ runRecords trace patience path content
  | .watch path episodes _ =>
    Interpreter.registrations ++ episodes.flatMap (episodeRecords trace patience path)
  | .file _ (.error _) | .usage => []

/-- The message about a task that has failed. -/
def complaint (colored : Bool) : Task → Text
  | .session _ => message colored (utf8 "Error reading input: bufio.Scanner: token too long\n")
  | .file path _ => message colored (utf8 "Error: file not found: " ++ path ++ utf8 "\n")
  | .watch _ _ failure =>
    message colored (utf8 "Error: " ++ failure.getD [] ++ utf8 "\n")
  | .usage => Cli.usage

theorem journal_isPlain (trace : Bool) (patience : Nat) (task : Task) :
    ∀ record ∈ task.journal trace patience, record.IsPlain := by
  have registered {records : List Record} (plain : ∀ record ∈ records, record.IsPlain) :
      ∀ record ∈ Interpreter.registrations ++ records, record.IsPlain :=
    List.forall_mem_append.mpr ⟨Interpreter.registrations_isPlain, plain⟩
  cases task with
  | session input =>
    exact registered (Session.journal_isPlain Table.wellFormed_empty rfl patience _)
  | file path content =>
    cases content with
    | error reason => simp [journal]
    | ok content => exact registered (runRecords_isPlain trace patience path content)
  | watch path episodes failure =>
    apply registered
    intro record member
    obtain ⟨episode, -, told⟩ := List.mem_flatMap.mp member
    cases episode with
    | read content => exact runRecords_isPlain trace patience path content record told
    | unread reason | failed reason => contradiction
  | usage => simp [journal]

end Task

/-- The settings of the interpreter under a configuration. -/
def settings (configuration : Configuration) (filename : Text) : Settings where
  debug := configuration.debug
  trace := configuration.trace
  categories := categories configuration.logCategories
  filename := filename

section

variable (colored : Bool) (configuration : Configuration)

theorem interpreter_eq (filename : Text) :
    let settings := settings configuration filename
    interpreter colored configuration filename =
      { settings
        logger := { settings.logger with colored }
        instructions := Standard.set
        log := (settings.logger.writeAll Interpreter.registrations).toArray } := by
  intro settings
  have registered : settings.logger.writeAll Interpreter.registrations =
      Standard.operations.filterMap fun operation =>
        settings.logger.write (Interpreter.registration operation.mnemonic operation.arity) :=
    List.filterMap_map
  rw [registered, interpreter, Interpreter.new_eq]
  rfl

theorem interpreter_trace (filename : Text) :
    (interpreter colored configuration filename).settings.trace = configuration.trace := by
  rw [interpreter_eq]
  rfl

/-- What the interpreter of the command logs after it has been set up. -/
theorem interpreter_log (filename : Text) {records : List Record}
    (plain : ∀ record ∈ records, record.IsPlain) :
    (interpreter colored configuration filename).log.toList ++
        (interpreter colored configuration filename).logger.writeAll records =
      (settings configuration filename).logger.writeAll (Interpreter.registrations ++ records) := by
  rw [interpreter_eq]
  simp only
  rw [Logger.writeAll_colored _ _ plain, Logger.writeAll, Logger.writeAll, Logger.writeAll,
    List.filterMap_append]

/-- One interpreter is set up as another one that has not met a kept fault. What they have written is
their own. -/
structure Alike (first second : Interpreter Int64) : Prop where
  settings : second.settings = first.settings
  logger : second.logger = first.logger
  standard : second.instructions = Standard.set
  unused : second.ledger = []

theorem alike_interpreter (filename : Text) :
    Alike (interpreter colored configuration filename)
      (interpreter colored configuration filename) := by
  refine ⟨rfl, rfl, ?_, ?_⟩ <;> rw [interpreter_eq]

end

/-- A run of a file logs what the run has to tell and leaves the interpreter as it was set up. -/
theorem Alike.executeFile {first second : Interpreter Int64} (alike : Alike first second)
    (patience : Nat) (path content : Text) :
    let ran := (second.executeFile patience content path).1
    Alike first ran ∧ ran.log.toList = second.log.toList ++
      first.logger.writeAll (runRecords first.settings.trace patience path content) := by
  intro ran
  let named := { second with settings := { second.settings with filename := path } }
  have started : { named.load content.programLines with ledger := named.ledger } =
      Machine.load path first.settings.trace content.programLines := by
    rw [show named.ledger = [] from alike.unused, ← alike.settings]
    rfl
  obtain ⟨-, logger, instructions⟩ := named.runSource_frame patience content
  have ledger := named.runSource_ledger patience content
  rw [started, show named.instructions = _ from alike.standard,
    Machine.iterate_standard_ledger] at ledger
  have log := named.execute_log patience content
  rw [started, show named.instructions = _ from alike.standard,
    show named.logger = _ from alike.logger] at log
  refine ⟨⟨alike.settings, logger.trans alike.logger, instructions.trans alike.standard, ledger⟩, ?_⟩
  rw [show ran.log = _ from log, Array.toList_appendList]
  rfl

/-- An episode of watching logs what its run has to tell. -/
theorem Alike.see {first : Interpreter Int64} {watching : Watching}
    (alike : Alike first watching.interpreter) (patience : Nat) (consoleColor : Bool) (path : Text)
    (episode : Episode) :
    let seen := watching.see patience consoleColor path episode
    Alike first seen.interpreter ∧
      seen.interpreter.log.toList = watching.interpreter.log.toList ++
        first.logger.writeAll (episodeRecords first.settings.trace patience path episode) := by
  cases episode with
  | unread reason | failed reason => exact ⟨alike, (List.append_nil _).symm⟩
  | read content =>
    have announced : Alike first (watching.announce path) ∧
        (watching.announce path).log = watching.interpreter.log := by
      rw [Watching.announce]
      split
      · exact ⟨⟨alike.settings, alike.logger, alike.standard, alike.unused⟩, rfl⟩
      · exact ⟨alike, rfl⟩
    have ran := announced.1.executeFile patience path content
    rwa [announced.2] at ran

/-- All episodes of watching together log what their runs have to tell. -/
theorem Alike.seeAll {first : Interpreter Int64} {watching : Watching}
    (alike : Alike first watching.interpreter) (patience : Nat) (consoleColor : Bool) (path : Text)
    (episodes : List Episode) :
    (episodes.foldl (Watching.see patience consoleColor path) watching).interpreter.log.toList =
      watching.interpreter.log.toList ++ first.logger.writeAll
        (episodes.flatMap (episodeRecords first.settings.trace patience path)) := by
  induction episodes generalizing watching with
  | nil => exact (List.append_nil _).symm
  | cons episode rest inductionHypothesis =>
    obtain ⟨stillAlike, log⟩ := alike.see patience consoleColor path episode
    rw [List.foldl_cons, inductionHypothesis stillAlike, log, List.flatMap_cons, Logger.writeAll,
      Logger.writeAll, Logger.writeAll, List.filterMap_append, List.append_assoc]

section

variable (patience : Nat) (consoleColor colored : Bool) (configuration : Configuration)

/-- A session on piped input logs what its lines have to tell. -/
theorem runPiped_log (input : Text) :
    (Interactive.runPiped patience (interpreter colored configuration (utf8 "<stdin>"))
        input).1.log.toList =
      (settings configuration (utf8 "<stdin>")).logger.writeAll
        (Task.journal configuration.trace patience (.session input)) := by
  have opened : (interpreter colored configuration (utf8 "<stdin>")).openSession =
      ⟨.load (utf8 "<stdin>") configuration.trace [], false⟩ := by
    rw [interpreter_eq]
    rfl
  have alike := alike_interpreter colored configuration (utf8 "<stdin>")
  have plain := Task.journal_isPlain configuration.trace patience (.session input)
  rw [Interactive.runPiped_log (.opened alike.standard alike.unused), opened]
  exact interpreter_log colored configuration _ fun record member =>
    plain record (List.mem_append_right _ member)

/-- A file logs what its run has to tell. -/
theorem runContent_log (path content : Text) :
    ((interpreter colored configuration path).executeFile patience content path).1.log.toList =
      (settings configuration path).logger.writeAll
        (Task.journal configuration.trace patience (.file path (.ok content))) := by
  have log := ((alike_interpreter colored configuration path).executeFile patience path content).2
  rw [interpreter_trace] at log
  exact log.trans (interpreter_log colored configuration path
    (runRecords_isPlain configuration.trace patience path content))

/-- A watched file logs what all its runs have to tell. -/
theorem runWatched_log (path : Text) (episodes : List Episode) (failure : Option Text) :
    (episodes.foldl (Watching.see patience consoleColor path)
        { interpreter := interpreter colored configuration path }).interpreter.log.toList =
      (settings configuration path).logger.writeAll
        (Task.journal configuration.trace patience (.watch path episodes failure)) := by
  let unseen : Watching := { interpreter := interpreter colored configuration path }
  have alike : Alike unseen.interpreter unseen.interpreter :=
    alike_interpreter colored configuration path
  have log := alike.seeAll patience consoleColor path episodes
  have plain := Task.journal_isPlain configuration.trace patience (.watch path episodes failure)
  rw [interpreter_trace] at log
  exact log.trans (interpreter_log colored configuration path fun record member =>
    plain record (List.mem_append_right _ member))

/-- What a task leaves in the error stream is what the logger of the settings writes of its journal,
and a message after that if the task has failed. -/
theorem perform_errors (task : Task) :
    let result := perform patience consoleColor colored configuration task
    result.errors =
      ((settings configuration []).logger.writeAll
        (task.journal configuration.trace patience)).flatten ++
      if result.exit = 0 then [] else task.complaint colored := by
  cases task with
  | session input =>
    have log := runPiped_log patience colored configuration input
    rw [perform, runInteractive]
    generalize Interactive.runPiped patience
      (interpreter colored configuration (utf8 "<stdin>")) input = ran at log ⊢
    obtain ⟨after, session, tooLong⟩ := ran
    cases tooLong with
    | true => exact congrArg (·.flatten ++ _) log
    | false => exact (congrArg List.flatten log).trans (List.append_nil _).symm
  | file path content =>
    cases content with
    | error reason => rfl
    | ok content =>
      have log := runContent_log patience colored configuration path content
      exact (congrArg List.flatten log).trans (List.append_nil _).symm
  | watch path episodes failure =>
    have log := runWatched_log patience consoleColor colored configuration path episodes failure
    cases failure with
    | none => exact (congrArg List.flatten log).trans (List.append_nil _).symm
    | some reason => exact congrArg (·.flatten ++ _) log
  | usage => rfl

end

/-- The names in a list of categories, as they are compared. -/
def named (configuration : Configuration) : List Text :=
  configuration.logCategories.map fun name => name.trim.lower

theorem mem_categories {configuration : Configuration} {category : Category} :
    category ∈ categories configuration.logCategories ↔
      category ∈ named configuration ∧ category ∈ Category.all := by
  simp only [categories, List.mem_filter, List.contains_iff_mem, named]

/-- The categories that are shown: those that are named, the flow of control where it is traced, and
all of them where no known one is named. -/
theorem mem_effective {configuration : Configuration} {filename : Text} {category : Category}
    (known : category ∈ Category.all) :
    category ∈ (settings configuration filename).effective ↔
      category ∈ named configuration ∨ (configuration.trace ∧ category = Category.flow) ∨
        ∀ name ∈ named configuration, name ∉ Category.all := by
  have none : categories configuration.logCategories = [] ↔
      ∀ name ∈ named configuration, name ∉ Category.all := by
    rw [List.eq_nil_iff_forall_not_mem]
    exact forall_congr' fun name => by rw [mem_categories, not_and]
  have traced : (category ∈ if configuration.trace then [Category.flow] else []) ↔
      configuration.trace ∧ category = Category.flow := by
    cases configuration.trace <;> simp
  rw [Settings.effective, settings, List.mem_append, traced, ← none]
  by_cases empty : categories configuration.logCategories = []
  · simp [empty, known]
  · simp [empty, mem_categories, known]

/-- A list of categories restricts the log. Whatever the command does, on whatever disk and with
whatever decoder of configurations, its error stream holds those records of the journal that have a
category on the list, up to case and blanks, and those about the flow of control where it is traced.
A list that names no known category shows all records. A warning about the configuration comes before
the log, and the message about a failure after it. -/
theorem log_restricted {World : Type} {environment : Environment (StateM World)}
    {invocation : Invocation} {options : Options} {world : World} {configuration : Configuration}
    (parsed : Options.parse invocation.arguments = .ok options)
    (unlicensed : options.license = false)
    (valid : (override options
      (usable (loading environment invocation options world).1)).validate = (configuration, none))
    (patience : Nat) :
    let loaded := loading environment invocation options world
    let given := ((task patience environment options).run loaded.2).1
    let result := ((run patience environment invocation).run world).1
    let journal := given.journal configuration.trace patience
    let names := configuration.logCategories.map fun name => name.trim.lower
    let shown (category : Category) := category ∈ names ∨
      (configuration.trace ∧ category = Category.flow) ∨ ∀ name ∈ names, name ∉ Category.all
    (∀ record ∈ journal, record.IsPlain) ∧
      result.errors = warning invocation.supportsColor loaded.1.2 ++
        ((if configuration.debug ∨ configuration.trace then
          (journal.filter fun record => shown record.category).map (·.text.line)
        else []).flatten ++
        if result.exit = 0 then []
        else given.complaint (isColored invocation.supportsColor configuration)) := by
  intro loaded given result journal names shown
  have plain := given.journal_isPlain configuration.trace patience
  have chosen : journal.filter (·.category ∈ (settings configuration []).effective) =
      journal.filter fun record => shown record.category :=
    List.filter_congr fun record member =>
      decide_eq_decide.mpr (mem_effective (plain record member).2)
  have ran := run_accepted parsed unlicensed valid patience
  have errors : result.errors = _ := congrArg Result.errors ran
  have exit : result.exit = _ := congrArg Result.exit ran
  have told := perform_errors patience invocation.consoleColor
    (isColored invocation.supportsColor configuration) configuration given
  rw [(settings configuration []).writeAll_plain plain, chosen] at told
  refine ⟨plain, ?_⟩
  rw [errors, exit]
  exact congrArg (_ ++ ·) told

/-- A list with one known name, which is written in capitals, and an unknown one. The file with the
list is at the root of the disk. -/
theorem log_restricted_mathematics :
    let content := utf8 "INTEGER x\nASSIGN x 5\nBAD\n"
    let files : Files := ⟨[([utf8 "home", utf8 "p.ppl"], .file content), ([utf8 "c.yaml"],
      .file (utf8 "debug: true\nlog_categories: [\" MATH \", nope]\n"))], [utf8 "home"]⟩
    let invocation : Invocation :=
      { arguments := [utf8 "-config", utf8 "/c.yaml", utf8 "p.ppl"], home := none }
    let result := ((run 9 (Files.environment []) invocation).run files).1
    let journal := Task.journal false 9 (.file (utf8 "p.ppl") (.ok content))
    result.errors = utf8 "[DEBUG:math] x := 5\n  at p.ppl:2\n  > ASSIGN x 5\n" ∧
      result.errors = ((journal.filter fun record =>
        record.category ∈ [utf8 "math", utf8 "nope"]).map (·.text.line)).flatten := by
  intro content files invocation result journal
  let configuration : Configuration :=
    { debug := true, logCategories := [utf8 " MATH ", utf8 "nope"] }
  let options : Options := { config := some (utf8 "/c.yaml"), arguments := [utf8 "p.ppl"] }
  let loaded := loading (Files.environment []) invocation options files
  obtain ⟨parsed, unwarned, read, valid, named, exit, errors⟩ :
      Options.parse invocation.arguments = .ok options ∧
      warning invocation.supportsColor loaded.1.2 = [] ∧
      ((Files.storage.read (utf8 "p.ppl")).run loaded.2).1 = .ok content ∧
      (override options (usable loaded.1)).validate = (configuration, none) ∧
      configuration.logCategories.map (fun name => name.trim.lower) =
        [utf8 "math", utf8 "nope"] ∧
      result.exit = 0 ∧
      result.errors = utf8 "[DEBUG:math] x := 5\n  at p.ppl:2\n  > ASSIGN x 5\n" := by
    decide +kernel
  have asked : ((task 9 (Files.environment []) options).run loaded.2).1 =
      .file (utf8 "p.ppl") (.ok content) := by
    rw [← read]
    exact task_file rfl rfl rfl 9 (Files.environment []) loaded.2
  have restricted := (log_restricted parsed rfl valid 9).2
  have known : ¬ ∀ name ∈ [utf8 "math", utf8 "nope"], name ∉ Category.all := by decide
  refine ⟨errors, restricted.trans ?_⟩
  rw [unwarned, List.nil_append, asked, if_pos exit, List.append_nil, if_pos (.inl rfl), named]
  refine congrArg List.flatten (congrArg (List.map _) (List.filter_congr fun record _ => ?_))
  refine decide_eq_decide.mpr ⟨?_, .inl⟩
  rintro (listed | traced | unknown)
  · exact listed
  · exact absurd traced.1 Bool.false_ne_true
  · exact absurd unknown known

/-- Where no known category is named, the list restricts nothing. -/
theorem unknown_categories_unrestricted :
    let files : Files := ⟨[([utf8 "p.ppl"], .file (utf8 "INTEGER x\n")), ([utf8 "c.yaml"],
      .file (utf8 "debug: true\nlog_categories: [nonsense]\n"))], []⟩
    let invocation : Invocation :=
      { arguments := [utf8 "-config", utf8 "c.yaml", utf8 "p.ppl"], home := none }
    let configuration := ((load yaml Files.storage (utf8 "c.yaml")).run files).1.1
    let result := ((run 9 (Files.environment []) invocation).run files).1
    configuration.debug = true ∧ configuration.trace = false ∧
      configuration.logCategories = [utf8 "nonsense"] ∧
      Category.system ∉ configuration.logCategories.map (fun name => name.trim.lower) ∧
      (utf8 "[DEBUG:system] Registered instruction: INTEGER/1\n").isPrefixOf result.errors := by
  intro files invocation configuration result
  decide +kernel

end Command
end Cli
end LineMachine
