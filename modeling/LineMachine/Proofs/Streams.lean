import LineMachine.Proofs.Filing
import LineMachine.Proofs.Restriction

namespace LineMachine

variable {ν : Type}

/-- The same lines make twin machines, whatever the file is called and whether they are traced. -/
theorem Machine.Twin.load (filename other : Text) (tracing otherTracing : Bool)
    (lines : List Text) :
    (Machine.load filename tracing lines : Machine ν).Twin (.load other otherTracing lines) where
  program := by
    rw [Machine.load, Machine.load]
    induction lines using List.reverseRecOn with
    | nil => exact .nil
    | append_singleton lines text inductionHypothesis =>
      rw [Line.parseAll_concat, Line.parseAll_concat]
      exact List.rel_append inductionHypothesis (.cons (Line.twin_parse (.inl rfl) _ _ _) .nil)
  counter := rfl
  status := rfl
  table := rfl
  printed := rfl
  formed := Table.wellFormed_empty

namespace Interpreter

variable [Number ν]

/-- New interpreters give a source the same output and stop at the same time, whatever their
settings. -/
theorem execute_alike (first second : Settings) (patience : Nat) (source : Text) :
    let ran := (new first : Interpreter ν).execute patience source
    let otherRan := (new second : Interpreter ν).execute patience source
    otherRan.1.output = ran.1.output ∧ otherRan.2.status = ran.2.status := by
  intro ran otherRan
  have twin := (Machine.Twin.load (ν := ν) first.filename second.filename first.trace second.trace
    source.programLines).resume patience
  rw [Machine.resume_eq_iterate Standard.set patience rfl,
    Machine.resume_eq_iterate Standard.set patience rfl] at twin
  obtain ⟨output, -, status⟩ := runSource_eq (new first : Interpreter ν) patience source
  obtain ⟨otherOutput, -, otherStatus⟩ :=
    runSource_eq (new second : Interpreter ν) patience source
  rw [new_instructions, new_load] at output status otherOutput otherStatus
  constructor
  · have printed : ran.1.output = _ := output
    refine otherOutput.trans ?_
    rw [printed, twin.printed, twin.table, new_eq, new_eq]
  · have stood : ran.2.status = _ := status
    refine otherStatus.trans ?_
    rw [stood, twin.status]

end Interpreter

namespace Cli

namespace Command

open LineMachine.Cli.Configuration

/-- Messages are coloured as the colour says before it is normalized, or else where the error stream
shows colours. -/
theorem isColored_normalized (supportsColor : Bool) (configuration : Configuration) :
    isColored supportsColor { configuration with color := normalizeColor configuration.color } =
      isColored supportsColor { configuration with color := configuration.color.trim.lower } := by
  rw [isColored, isColored, normalizeColor]
  simp only [List.isEmpty_iff]
  split
  · rename_i none
    rw [none]
    rfl
  · rfl

/-- A program that ends in time leaves the output that a new interpreter gives it, and its journal
in the error stream. -/
theorem runContent_stopped {content : Text} {patience : Nat}
    (stopped : ((Interpreter.new {} : Interpreter Int64).execute patience content).2.status ≠
      .running) {enough : Nat} (more : patience ≤ enough) (colored : Bool)
    (configuration : Configuration) (path : Text) :
    runContent enough colored configuration path content =
      { exit := 0
        output := ((Interpreter.new {} : Interpreter Int64).execute patience
          content).1.output.toList.flatten
        errors := ((settings configuration path).logger.writeAll
          (Task.journal configuration.trace patience (.file path (.ok content)))).flatten } := by
  obtain ⟨extra, rfl⟩ := Nat.exists_eq_add_of_le' more
  have settles : (Interpreter.new {} : Interpreter Int64).execute (extra + patience) content =
      (Interpreter.new {} : Interpreter Int64).execute patience content := by
    rw [Interpreter.execute, Interpreter.runSource_add stopped, Interpreter.execute]
  have unused : (interpreter colored configuration path).output = #[] := by rw [interpreter_eq]
  obtain ⟨output, -⟩ := Interpreter.executeFile_eq_new
    (alike_interpreter colored configuration path).standard (extra + patience) content path
  obtain ⟨sameOutput, -⟩ := Interpreter.execute_alike (ν := Int64) {}
    { (interpreter colored configuration path).settings with filename := path }
    (extra + patience) content
  rw [unused, sameOutput, settles, Array.empty_append] at output
  -- The interpreter of the command stops when the other one does, so its journal is complete.
  have otherStopped : ((Interpreter.new (settings configuration path) :
      Interpreter Int64).runSource patience content).2.status ≠ .running := by
    intro running
    exact stopped ((Interpreter.execute_alike {} _ patience content).2.symm.trans running)
  have complete : Task.journal configuration.trace (extra + patience) (.file path (.ok content)) =
      Task.journal configuration.trace patience (.file path (.ok content)) :=
    Interpreter.journal_settles otherStopped extra
  have log := runContent_log (extra + patience) colored configuration path content
  rw [complete] at log
  rw [runContent, written, output, log]

/-- The command warns and runs the file under an accepted colour. -/
theorem run_file {World : Type} {environment : Environment (StateM World)}
    {invocation : Invocation} {options : Options} {path : Text} {world : World}
    (parsed : Options.parse invocation.arguments = .ok options)
    (unlicensed : options.license = false) (batch : options.interactive = false)
    (unwatched : options.watch = false) (single : options.arguments = [path])
    (accepted : (override options
      (usable (loading environment invocation options world).1)).color.trim.lower ∈ [] :: colors)
    {content : Except Text Text}
    (read : ((environment.storage.read path).run
      (loading environment invocation options world).2).1 = content) (patience : Nat) :
    let loaded := loading environment invocation options world
    let configuration := override options (usable loaded.1)
    let ran := runFile patience
      (isColored invocation.supportsColor
        { configuration with color := configuration.color.trim.lower })
      { configuration with color := normalizeColor configuration.color } path content
    ((run patience environment invocation).run world).1 =
      { ran with errors := warning invocation.supportsColor loaded.1.2 ++ ran.errors } := by
  intro loaded configuration ran
  have performed := run_accepted parsed unlicensed (validate_accepted accepted) patience
  simp only [task_file batch unwatched single, read, isColored_normalized] at performed
  exact performed

/-- The output stream depends on the program alone, whatever disk the command is on and whatever the
decoder makes of the configuration. A call for one file fails with an empty output if the colour is
not accepted, and then if the file cannot be read. Otherwise a program that ends, with a fault or
without, leaves no error code and just the output that an interpreter with default settings gives
it. The warning about the configuration, the log and all messages are in the error stream. On a disk
that nobody else changes, what the command reads is what the path held before the call, unless it is
the file of the configuration or a lost path that climbs. -/
theorem output_of_program_alone {World : Type} (environment : Environment (StateM World))
    {invocation : Invocation} {options : Options} {path : Text}
    (parsed : Options.parse invocation.arguments = .ok options)
    (unlicensed : options.license = false) (batch : options.interactive = false)
    (unwatched : options.watch = false) (single : options.arguments = [path]) (world : World) :
    let config := options.config.getD (defaultPath invocation.home)
    let loaded := loading environment invocation options world
    let read := ((environment.storage.read path).run loaded.2).1
    let configuration := override options (usable loaded.1)
    let color := configuration.color.trim.lower
    let warned := warning invocation.supportsColor loaded.1.2
    let result (patience : Nat) := ((run patience environment invocation).run world).1
    (color ∉ [[], utf8 "auto", utf8 "always", utf8 "never"] → ∀ patience, result patience =
      { exit := 2
        output := []
        errors := warned ++ message invocation.supportsColor
          (utf8 "Error: " ++ (ConfigurationError.badColor color).text ++ utf8 "\n") }) ∧
    (color ∈ [[], utf8 "auto", utf8 "always", utf8 "never"] →
      (∀ reason, read = .error reason → ∀ patience, result patience =
        { exit := 1
          output := []
          errors := warned ++ message
            (isColored invocation.supportsColor { configuration with color })
            (utf8 "Error: file not found: " ++ path ++ utf8 "\n") }) ∧
      ∀ content, read = .ok content → ∀ patience,
        let executed := (Interpreter.new {} : Interpreter Int64).execute patience content
        executed.2.status ≠ .running → ∀ enough ≥ patience, result enough =
          { exit := 0
            output := executed.1.output.toList.flatten
            errors := warned ++ ((settings configuration path).logger.writeAll
              (Task.journal configuration.trace patience (.file path (.ok content)))).flatten }) ∧
    ∀ files : Files,
      let reached := ((load environment.decode Files.storage config).run files).2
      let held (files : Files) := ((Files.storage.read path).run files).1
      ¬ reached.Same path config → ∀ content,
        (held files = .ok content → held reached = .ok content) ∧
        ((files.locate path = .error .notFound → files.IsRooted ∧ utf8 ".." ∉ Path.names path) →
          held reached = .ok content → held files = .ok content) := by
  intro config loaded read configuration color warned result
  refine ⟨fun refused patience => ?_, fun accepted => ?_, load_read environment.decode path config⟩
  · exact run_refused parsed unlicensed (validate_refused refused) patience
  · constructor
    · intro reason unreadable patience
      exact run_file parsed unlicensed batch unwatched single accepted unreadable patience
    · intro content readable patience executed stopped enough more
      have ran := run_file parsed unlicensed batch unwatched single accepted readable enough
      simp only [runFile, runContent_stopped stopped more] at ran
      exact ran

/-- A program with a fault at a path from the root, under a configuration that is rejected and with
messages in colour; the same call without the program; a colour that nobody knows; and a
configuration that is made beside the program. -/
theorem output_of_program_alone_rejected :
    let content := utf8 "INTEGER x\nADD x y\n"
    let unknown := utf8 "colour: red\n"
    let program : Location × FileEntry := ([utf8 "p.ppl"], .file content)
    let config : Location × FileEntry := ([utf8 "home", utf8 "c.yaml"], .file unknown)
    let invocation (color : String) : Invocation :=
      { arguments := [utf8 "-config", utf8 "c.yaml", utf8 "-trace", utf8 "-color", utf8 color,
          utf8 "/p.ppl"]
        home := none }
    let disk (entries : List (Location × FileEntry)) : Files := ⟨entries, [utf8 "home"]⟩
    let result (color : String) (entries : List (Location × FileEntry)) :=
      ((run 9 (Files.environment []) (invocation color)).run (disk entries)).1
    let warned := utf8 ("Warning: config: parse c.yaml: yaml: unmarshal errors:\n" ++
      "  line 1: field colour not found in type main.CLIConfig (using defaults)\n")
    let made := ((load yaml Files.storage (utf8 "c.yaml")).run (disk [program])).2
    (result " ALWAYS " [program, config]).exit = 0 ∧
      (result " ALWAYS " [program, config]).output =
        utf8 ("Runtime error at line 2\n  ADD x y\n  undeclared identifier: \"y\"\n" ++
          "--- final state ---\nx (int) = 0\n--------------------\n") ∧
      (result " ALWAYS " [config]) =
        { exit := 1, errors := warned ++ utf8 "\x1b[93mError: file not found: /p.ppl\n\x1b[0m" } ∧
      (result "pink" [program, config]) =
        { exit := 2
          errors := warned ++
            utf8 "Error: config: color must be auto, always or never, got \"pink\"\n" } ∧
      ((Files.storage.read (utf8 "c.yaml")).run made).1 = .ok initialConfiguration ∧
      ((Files.storage.read (utf8 "/p.ppl")).run made).1 = .ok content := by
  intro content unknown program config invocation disk result warned made
  let options (color : String) : Options :=
    { trace := some true, config := some (utf8 "c.yaml"), color := some (utf8 color)
      arguments := [utf8 "/p.ppl"] }
  let loaded (color : String) (entries : List (Location × FileEntry)) :=
    loading (Files.environment []) (invocation color) (options color) (disk entries)
  let used (color : String) (entries : List (Location × FileEntry)) : Configuration :=
    override (options color) (usable (loaded color entries).1)
  let read (color : String) (entries : List (Location × FileEntry)) : Except Text Text :=
    ((Files.storage.read (utf8 "/p.ppl")).run (loaded color entries).2).1
  let executed := (Interpreter.new {} : Interpreter Int64).execute 9 content
  obtain ⟨parsed, parsedPink, colored, coloredBare, coloredPink, readable, unreadable, stopped,
      printed, failed, refused, initial, apart, before⟩ :
      Options.parse (invocation " ALWAYS ").arguments = .ok (options " ALWAYS ") ∧
      Options.parse (invocation "pink").arguments = .ok (options "pink") ∧
      (used " ALWAYS " [program, config]).color.trim.lower = utf8 "always" ∧
      (used " ALWAYS " [config]).color.trim.lower = utf8 "always" ∧
      (used "pink" [program, config]).color.trim.lower = utf8 "pink" ∧
      read " ALWAYS " [program, config] = .ok content ∧
      read " ALWAYS " [config] = .error (utf8 "open /p.ppl: no such file or directory") ∧
      executed.2.status ≠ .running ∧
      executed.1.output.toList.flatten =
        utf8 ("Runtime error at line 2\n  ADD x y\n  undeclared identifier: \"y\"\n" ++
          "--- final state ---\nx (int) = 0\n--------------------\n") ∧
      warning false (loaded " ALWAYS " [config]).1.2 ++
        message (isColored false { used " ALWAYS " [config] with
            color := (used " ALWAYS " [config]).color.trim.lower })
          (utf8 "Error: file not found: " ++ utf8 "/p.ppl" ++ utf8 "\n") =
        warned ++ utf8 "\x1b[93mError: file not found: /p.ppl\n\x1b[0m" ∧
      warning false (loaded "pink" [program, config]).1.2 ++ message false (utf8 "Error: " ++
        (ConfigurationError.badColor (used "pink" [program, config]).color.trim.lower).text ++
        utf8 "\n") = warned ++
          utf8 "Error: config: color must be auto, always or never, got \"pink\"\n" ∧
      ((Files.storage.read (utf8 "c.yaml")).run made).1 = .ok initialConfiguration ∧
      made.locate (utf8 "/p.ppl") ≠ made.locate (utf8 "c.yaml") ∧
      ((Files.storage.read (utf8 "/p.ppl")).run (disk [program])).1 = .ok content := by
    decide +kernel
  have known : utf8 "always" ∈ [[], utf8 "auto", utf8 "always", utf8 "never"] := by decide
  obtain ⟨-, accepted, -⟩ := output_of_program_alone (Files.environment []) parsed rfl rfl rfl rfl
    (disk [program, config])
  have ended : ∃ errors, result " ALWAYS " [program, config] =
      { output := executed.1.output.toList.flatten, errors } :=
    ⟨_, (accepted (colored.symm ▸ known)).2 content readable 9 stopped 9 (Nat.le_refl 9)⟩
  obtain ⟨-, accepted, same⟩ := output_of_program_alone (Files.environment []) parsed rfl rfl rfl
    rfl (disk [config])
  have unfound := (accepted (coloredBare.symm ▸ known)).1 _ unreadable 9
  obtain ⟨rejected, -⟩ := output_of_program_alone (Files.environment []) parsedPink rfl rfl rfl rfl
    (disk [program, config])
  have strange := rejected (coloredPink.symm ▸ by decide) 9
  have different : ¬ made.Same (utf8 "/p.ppl") (utf8 "c.yaml") := by
    rintro ⟨location, led, leads⟩
    exact apart (led.trans leads.symm)
  have kept := (same (disk [program]) different content).1 before
  obtain ⟨errors, ended⟩ := ended
  rw [printed] at ended
  refine ⟨congrArg Result.exit ended, congrArg Result.output ended, ?_, ?_, initial, kept⟩
  · rw [← failed]
    exact unfound
  · rw [← refused]
    exact strange

end Command

end Cli
end LineMachine
