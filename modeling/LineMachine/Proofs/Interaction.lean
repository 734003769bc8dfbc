import LineMachine.Edge.Simulation
import LineMachine.Proofs.Calls
import LineMachine.Proofs.Silence
import LineMachine.Proofs.Twins

namespace LineMachine

namespace Interpreter

variable {ν : Type}

/-- Feeds lines to a session, one after another. -/
def feedEach (patience : Nat) : Interpreter ν → Session ν → List Text → Interpreter ν × Session ν
  | interpreter, session, [] => (interpreter, session)
  | interpreter, session, text :: rest =>
    let (fed, next, _) := interpreter.feed patience session text
    feedEach patience fed next rest

/-- Each of the lines comes to a stop in time. -/
def stopsEach (patience : Nat) : Interpreter ν → Session ν → List Text → Bool
  | _, _, [] => true
  | interpreter, session, text :: rest =>
    let (fed, next, outcome) := interpreter.feed patience session text
    outcome.status ≠ .running && stopsEach patience fed next rest

/-- A session that is done takes no more lines. -/
theorem feedEach_of_done {session : Session ν} (done : session.done = true) (patience : Nat)
    (interpreter : Interpreter ν) (lines : List Text) :
    interpreter.feedEach patience session lines = (interpreter, session) := by
  induction lines with
  | nil => rfl
  | cons text rest inductionHypothesis =>
    rw [feedEach, Session.feed_of_done done]
    exact inductionHypothesis

/-- A line that has come to a stop does not use more patience. -/
theorem feed_add {interpreter : Interpreter ν} {session : Session ν} {patience : Nat} {text : Text}
    (stopped : (interpreter.feed patience session text).2.2.status ≠ .running) (more : Nat) :
    interpreter.feed (more + patience) session text = interpreter.feed patience session text := by
  cases done : session.done with
  | true => rw [Session.feed_of_done done, Session.feed_of_done done]
  | false =>
    rw [feed_eq interpreter patience done] at stopped
    rw [feed_eq interpreter _ done, feed_eq interpreter _ done, Machine.resume_add _ stopped]

theorem feedEach_add {patience : Nat} {interpreter : Interpreter ν} {session : Session ν}
    {lines : List Text} (stops : interpreter.stopsEach patience session lines) (more : Nat) :
    interpreter.feedEach (more + patience) session lines =
      interpreter.feedEach patience session lines := by
  induction lines generalizing interpreter session with
  | nil => rfl
  | cons text rest inductionHypothesis =>
    simp only [stopsEach, Bool.and_eq_true, decide_eq_true_eq] at stops
    rw [feedEach, feed_add stops.1, feedEach]
    exact inductionHypothesis stops.2

variable [Number ν]

/-- What an interpreter has printed after a session of some lines. -/
def sessionOutput (patience : Nat) (interpreter : Interpreter ν) (lines : List Text) : Text :=
  let fed := interpreter.feedEach patience interpreter.openSession lines
  (fed.1.close fed.2).1.output.toList.flatten

theorem sessionOutput_add {patience : Nat} {interpreter : Interpreter ν} {lines : List Text}
    (stops : interpreter.stopsEach patience interpreter.openSession lines) {enough : Nat}
    (more : patience ≤ enough) :
    interpreter.sessionOutput enough lines = interpreter.sessionOutput patience lines := by
  obtain ⟨extra, rfl⟩ := Nat.exists_eq_add_of_le' more
  rw [sessionOutput, feedEach_add stops, sessionOutput]

end Interpreter

open Interpreter

variable {ν : Type}

/-- Twin sessions stay twins over lines that end alike. -/
theorem Session.Twin.feedEach [Number ν] {interpreter other : Interpreter ν}
    {session otherSession : Session ν} (twin : Session.Twin interpreter session other otherSession)
    (patience : Nat) {lines otherLines : List Text}
    (alike : List.Forall₂ Interactive.EndsAlike lines otherLines) :
    Session.Twin (interpreter.feedEach patience session lines).1
      (interpreter.feedEach patience session lines).2
      (other.feedEach patience otherSession otherLines).1
      (other.feedEach patience otherSession otherLines).2 := by
  induction alike generalizing interpreter session other otherSession with
  | nil => exact twin
  | cons first rest inductionHypothesis => exact inductionHypothesis (twin.feed patience first)

/-- Twin sessions of lines that end alike print the same. -/
theorem Session.Twin.sessionOutput [Number ν] {interpreter other : Interpreter ν}
    (twin : Session.Twin interpreter interpreter.openSession other other.openSession)
    (patience : Nat) {lines otherLines : List Text}
    (alike : List.Forall₂ Interactive.EndsAlike lines otherLines) :
    other.sessionOutput patience otherLines = interpreter.sessionOutput patience lines := by
  rw [Interpreter.sessionOutput, Interpreter.sessionOutput, (twin.feedEach patience alike).close]

namespace Interactive

/-- The lines before the first that asks to leave. -/
def beforeExit (lines : List Text) : List Text := lines.takeWhile fun line => !isExit line

theorem EndsAlike.beforeExit {lines others : List Text}
    (alike : List.Forall₂ EndsAlike lines others) :
    List.Forall₂ EndsAlike (beforeExit lines) (beforeExit others) := by
  induction alike with
  | nil => exact .nil
  | @cons line other lines others first rest inductionHypothesis =>
    rw [Interactive.beforeExit, Interactive.beforeExit, List.takeWhile_cons, List.takeWhile_cons,
      first.isExit]
    split
    · exact .cons first inductionHypothesis
    · exact .nil

/-- Piped lines that are short enough are fed up to the first that asks to leave. -/
theorem feedPiped_short (patience : Nat) (interpreter : Interpreter ν) (session : Session ν)
    {raws : List Text} (short : ∀ raw ∈ raws, raw.length < lineLimit) :
    feedPiped patience interpreter session raws =
      let fed := interpreter.feedEach patience session (beforeExit (raws.map pipedLine))
      (fed.1, fed.2, false) := by
  induction raws generalizing interpreter session with
  | nil => rfl
  | cons raw rest inductionHypothesis =>
    obtain ⟨shortEnough, short⟩ := List.forall_mem_cons.mp short
    rw [feedPiped]
    split
    · rename_i done
      rw [feedEach_of_done done]
    · rw [if_neg (Nat.not_le_of_lt shortEnough), List.map_cons, beforeExit, List.takeWhile_cons]
      split
      · rename_i leaves
        rw [leaves]
        rfl
      · rename_i stays
        rw [Bool.not_eq_true] at stays
        rw [stays]
        exact inductionHypothesis _ _ short

/-- A piped line that is too long ends the session after the lines before it, unless it has ended
already. -/
theorem feedPiped_long (patience : Nat) (interpreter : Interpreter ν) (session : Session ν)
    {before : List Text} (short : ∀ raw ∈ before, raw.length < lineLimit)
    (staying : ∀ raw ∈ before, isExit (pipedLine raw) = false) {long : Text}
    (tooLong : lineLimit ≤ long.length) (rest : List Text)
    (unfinished : (interpreter.feedEach patience session (before.map pipedLine)).2.done = false) :
    feedPiped patience interpreter session (before ++ long :: rest) =
      let fed := interpreter.feedEach patience session (before.map pipedLine)
      (fed.1, fed.2, true) := by
  induction before generalizing interpreter session with
  | nil =>
    have unfinished : session.done = false := unfinished
    rw [List.nil_append, feedPiped, if_neg (by simp [unfinished]), if_pos tooLong]
    rfl
  | cons raw before inductionHypothesis =>
    obtain ⟨shortEnough, short⟩ := List.forall_mem_cons.mp short
    obtain ⟨stays, staying⟩ := List.forall_mem_cons.mp staying
    have undone : ¬ session.done = true := by
      intro done
      rw [feedEach_of_done done, done] at unfinished
      contradiction
    rw [List.cons_append, feedPiped, if_neg undone, if_neg (Nat.not_le_of_lt shortEnough),
      if_neg (by simp [stays])]
    exact inductionHypothesis _ _ short staying unfinished

/-- The line that was typed to its end, if it was. -/
def Typed.line? : Typed → Option Text
  | .line text => some text
  | .interrupt _ => none

/-- Typed lines are fed up to the first that asks to leave, and an interrupt within a line does
nothing. -/
theorem feedTyped_eq (patience : Nat) (interpreter : Interpreter ν) (session : Session ν)
    {typed : List Typed} (begun : ∀ pending, .interrupt pending ∈ typed → pending ≠ []) :
    feedTyped patience interpreter session typed =
      interpreter.feedEach patience session (beforeExit (typed.filterMap Typed.line?)) := by
  induction typed generalizing interpreter session with
  | nil => rfl
  | cons first rest inductionHypothesis =>
    have begunRest : ∀ pending, .interrupt pending ∈ rest → pending ≠ [] :=
      fun pending member => begun pending (List.mem_cons_of_mem first member)
    cases done : session.done with
    | true =>
      rw [feedEach_of_done done]
      cases first <;> simp [feedTyped, done]
    | false =>
      cases first with
      | interrupt pending =>
        have nonempty : ¬ (session.done || pending.isEmpty) = true := by
          simpa [done] using begun pending List.mem_cons_self
        rw [feedTyped, if_neg nonempty, inductionHypothesis _ _ begunRest]
        rfl
      | line text =>
        rw [feedTyped, List.filterMap_cons, Typed.line?, beforeExit, List.takeWhile_cons, done,
          Bool.false_or]
        split
        · rename_i leaves
          rw [leaves]
          rfl
        · rename_i stays
          rw [Bool.not_eq_true] at stays
          rw [stays]
          exact inductionHypothesis _ _ begunRest

end Interactive

namespace Cli

namespace Command

open LineMachine.Cli.Configuration

variable {World : Type} {invocation : Invocation} {options : Options}

/-- A call for an interactive session runs one on the input, under some configuration. -/
theorem run_interactive (parsed : Options.parse invocation.arguments = .ok options)
    (interactive : options.interactive = true) (unlicensed : options.license = false)
    (colored : ∀ color ∈ options.color, normalizeColor color ∈ colors)
    (environment : Environment (StateM World)) (input : Text) (patience : Nat) (world : World) :
    let ran := ((run patience { environment with input := pure input } invocation).run world).1
    ∃ colored configuration,
      ran.exit = (runInteractive patience colored configuration input).exit ∧
      ran.output = (runInteractive patience colored configuration input).output := by
  intro ran
  obtain ⟨configuration, valid⟩ :=
    loading_valid colored { environment with input := pure input } invocation world
  have asked : task patience { environment with input := pure input } options =
      pure (.session input) := by
    rw [task, interactive]
    rfl
  rw [show ran = _ from run_accepted parsed unlicensed valid patience, asked]
  exact ⟨_, configuration, rfl, rfl⟩

open Interactive Interpreter

/-- The interpreter of the command is set up like any new one, as far as a session can tell. -/
theorem opened_twin (colored : Bool) (configuration : Configuration) (filename : Text)
    (settings : Settings) :
    Session.Twin (interpreter colored configuration filename)
      (interpreter colored configuration filename).openSession (.new settings)
      (Interpreter.new settings).openSession := by
  apply Session.Twin.opened
  · rw [interpreter, Interpreter.new_eq]
  · rw [Interpreter.new_eq]
  · rw [interpreter, Interpreter.new_eq, Interpreter.new_eq]

section

variable {settings : Settings} {patience enough : Nat} {input : Text}

/-- Short piped lines make up a session that ends without an error. -/
theorem runInteractive_short (colored : Bool) (configuration : Configuration)
    (short : ∀ piece ∈ input.pieces Text.newline, piece.length ≤ 65535)
    (stops : (Interpreter.new settings : Interpreter Int64).stopsEach patience
      (Interpreter.new settings).openSession (beforeExit input.programLines))
    (more : patience ≤ enough) :
    (runInteractive enough colored configuration input).exit = 0 ∧
      (runInteractive enough colored configuration input).output =
        (Interpreter.new settings : Interpreter Int64).sessionOutput patience
          (beforeExit input.programLines) := by
  have shortRaws : ∀ raw ∈ rawLines input, raw.length < lineLimit := fun raw member =>
    Nat.lt_succ_of_le (short raw (mem_pieces_of_mem_rawLines member))
  have alike := EndsAlike.beforeExit (piped_endsAlike input)
  rw [← sessionOutput_add stops more,
    (opened_twin colored configuration (utf8 "<stdin>") settings).sessionOutput enough alike,
    runInteractive, runPiped, feedPiped_short enough _ _ shortRaws]
  exact ⟨rfl, rfl⟩

/-- A piped line that is too long ends the session after the lines before it and is an error. -/
theorem runInteractive_long (colored : Bool) (configuration : Configuration)
    {before rest : List Text} {long : Text}
    (split : input.pieces Text.newline = before ++ long :: rest)
    (short : ∀ piece ∈ before, piece.length ≤ 65535) (tooLong : 65535 < long.length)
    (staying : ∀ line ∈ before.map pipedLine, isExit line = false)
    (stops : (Interpreter.new settings : Interpreter Int64).stopsEach patience
      (Interpreter.new settings).openSession (before.map pipedLine))
    (unfinished : ((Interpreter.new settings : Interpreter Int64).feedEach patience
      (Interpreter.new settings).openSession (before.map pipedLine)).2.done = false)
    (more : patience ≤ enough) :
    (runInteractive enough colored configuration input).exit = 1 ∧
      (runInteractive enough colored configuration input).output =
        (Interpreter.new settings : Interpreter Int64).sessionOutput patience
          (before.map pipedLine) := by
  have twin := opened_twin colored configuration (utf8 "<stdin>") settings
  have same : List.Forall₂ EndsAlike (before.map pipedLine) (before.map pipedLine) :=
    List.forall₂_same.mpr fun _ _ => .inl rfl
  have stillOpen := (twin.feedEach enough same).done
  obtain ⟨extra, rfl⟩ := Nat.exists_eq_add_of_le' more
  rw [feedEach_add stops, unfinished] at stillOpen
  obtain ⟨⟨later, raws⟩, -⟩ := lines_before split (List.ne_nil_of_length_pos (by omega))
  have fed := feedPiped_long (extra + patience) (interpreter colored configuration (utf8 "<stdin>"))
    (interpreter colored configuration (utf8 "<stdin>")).openSession
    (fun raw member => Nat.lt_succ_of_le (short raw member))
    (fun raw member => staying _ (List.mem_map_of_mem member)) tooLong later stillOpen.symm
  rw [← sessionOutput_add stops more, twin.sessionOutput _ same, runInteractive, runPiped, raws,
    fed]
  exact ⟨rfl, rfl⟩

/-- A line editor that delivers lines, with interrupts within lines, makes up a session of them. -/
theorem runTyped_lines (other : Settings) {typed : List Typed}
    (begun : ∀ pending, .interrupt pending ∈ typed → pending ≠ [])
    (stops : (Interpreter.new settings : Interpreter Int64).stopsEach patience
      (Interpreter.new settings).openSession (beforeExit (typed.filterMap Typed.line?)))
    (more : patience ≤ enough) :
    (runTyped enough (.new other : Interpreter Int64) typed).1.output.toList.flatten =
      (Interpreter.new settings : Interpreter Int64).sessionOutput patience
        (beforeExit (typed.filterMap Typed.line?)) := by
  have twin : Session.Twin (Interpreter.new other : Interpreter Int64)
      (Interpreter.new other).openSession (Interpreter.new settings)
      (Interpreter.new settings).openSession := by
    apply Session.Twin.opened <;> simp only [Interpreter.new_eq]
  rw [← sessionOutput_add stops more,
    twin.sessionOutput enough (List.forall₂_same.mpr fun _ _ => .inl rfl), runTyped,
    feedTyped_eq enough _ _ begun]
  rfl

end

/-- The drivers of a session agree, whatever disk the command is on and whatever the decoder makes of
the configuration. A call for an interactive session on piped input with short lines ends without an
error and prints what a new session prints that is fed the lines of the source before the first that
asks to leave, and is then closed. So does a line editor that delivers such lines, with interrupts
anywhere within lines. A line that is too long, when the session comes to it, ends the session after
the lines before it and is an error. -/
theorem interactive_drivers_agree (parsed : Options.parse invocation.arguments = .ok options)
    (interactive : options.interactive = true) (unlicensed : options.license = false)
    (colored : ∀ color ∈ options.color, normalizeColor color ∈ colors)
    (environment : Environment (StateM World)) (world : World) (settings : Settings)
    (patience : Nat) (input : Text) :
    let start : Interpreter Int64 := .new settings
    let ran (enough : Nat) :=
      ((run enough { environment with input := pure input } invocation).run world).1
    let lines := beforeExit input.programLines
    (start.stopsEach patience start.openSession lines →
      ((∀ piece ∈ input.pieces Text.newline, piece.length ≤ 65535) → ∀ enough ≥ patience,
        (ran enough).exit = 0 ∧ (ran enough).output = start.sessionOutput patience lines) ∧
      ∀ (other : Settings) (typed : List Typed),
        (∀ pending, .interrupt pending ∈ typed → pending ≠ []) →
        beforeExit (typed.filterMap Typed.line?) = lines → ∀ enough ≥ patience,
          (runTyped enough (.new other : Interpreter Int64) typed).1.output.toList.flatten =
            start.sessionOutput patience lines) ∧
    ∀ before long rest, input.pieces Text.newline = before ++ long :: rest →
      (∀ piece ∈ before, piece.length ≤ 65535) → 65535 < long.length →
      let earlier := input.programLines.take before.length
      (∀ line ∈ earlier, isExit line = false) →
      start.stopsEach patience start.openSession earlier →
      (start.feedEach patience start.openSession earlier).2.done = false → ∀ enough ≥ patience,
        (ran enough).exit = 1 ∧ (ran enough).output = start.sessionOutput patience earlier := by
  intro start ran lines
  refine ⟨fun stops => ⟨fun short enough more => ?_,
    fun other typed begun same enough more => ?_⟩, ?_⟩
  · obtain ⟨emphasised, configuration, exit, output⟩ :=
      run_interactive parsed interactive unlicensed colored environment input enough world
    obtain ⟨noError, printed⟩ := runInteractive_short emphasised configuration short stops more
    exact ⟨exit.trans noError, output.trans printed⟩
  · rw [← same] at stops ⊢
    exact runTyped_lines other begun stops more
  · intro before long rest split short tooLong earlier staying stops unfinished enough more
    obtain ⟨emphasised, configuration, exit, output⟩ :=
      run_interactive parsed interactive unlicensed colored environment input enough world
    have piped : earlier = before.map pipedLine :=
      (lines_before split (List.ne_nil_of_length_pos (by omega))).2
    rw [piped] at staying stops unfinished ⊢
    obtain ⟨anError, printed⟩ :=
      runInteractive_long emphasised configuration split short tooLong staying stops unfinished
        more
    exact ⟨exit.trans anError, output.trans printed⟩

/-- Lines that end in every way, with a fault, before a word that asks to leave; the same lines at a
line editor; and a line that is too long after one that faults. -/
theorem interactive_drivers_agree_endings :
    let invocation : Invocation := { arguments := [utf8 "-i"], home := none }
    let input := utf8 "INTEGER x\r\nADD x y\n\r\r\nPRINT x\n eXit \r"
    let typed : List Typed := [.line (utf8 "INTEGER x"), .interrupt (utf8 "A"),
      .line (utf8 "ADD x y"), .line (utf8 "\r"), .line (utf8 "PRINT x"), .line (utf8 "quit")]
    let long := utf8 "PRINT y\r\n" ++ List.replicate 65536 65
    let ran (input : Text) := ((run 9 (Files.environment input) invocation).run (.empty [])).1
    let printed := utf8 ("Runtime error at line 2\n  ADD x y\n  undeclared identifier: \"y\"\n" ++
      "x = 0\n--- final state ---\nx (int) = 0\n--------------------\n")
    (ran input).exit = 0 ∧ (ran input).output = printed ∧
      (runTyped 9 (.new {} : Interpreter Int64) typed).1.output.toList.flatten = printed ∧
      (ran long).exit = 1 ∧ (ran long).output =
        utf8 ("Runtime error at line 1\n  PRINT y\n  undeclared identifier: \"y\"\n" ++
          "--- final state ---\n--------------------\n") := by
  intro invocation input typed long ran printed
  have parsed : Options.parse invocation.arguments = .ok { interactive := true } := by
    decide +kernel
  let start : Interpreter Int64 := .new {}
  obtain ⟨short, stops, begun, same, output⟩ :
      (∀ piece ∈ input.pieces Text.newline, piece.length ≤ 65535) ∧
      start.stopsEach 9 start.openSession (beforeExit input.programLines) ∧
      (∀ typing ∈ typed, typing ≠ .interrupt []) ∧
      beforeExit (typed.filterMap Typed.line?) = beforeExit input.programLines ∧
      start.sessionOutput 9 (beforeExit input.programLines) = printed := by
    decide +kernel
  obtain ⟨drivers, -⟩ := interactive_drivers_agree parsed rfl rfl (by simp)
    (Files.environment []) (.empty []) {} 9 input
  obtain ⟨piped, edited⟩ := drivers stops
  obtain ⟨exit, shown⟩ := piped short 9 (Nat.le_refl 9)
  have edited :=
    edited {} typed (fun _ member empty => begun _ member (by rw [empty])) same 9 (Nat.le_refl 9)
  obtain ⟨-, tooLong⟩ := interactive_drivers_agree parsed rfl rfl (by simp)
    (Files.environment []) (.empty []) {} 9 long
  -- The long line is never evaluated: its text is cut by the lemma on lines and a rest.
  have length : (List.replicate 65536 (65 : UInt8)).length = 65536 := List.length_replicate
  have isRow : Text.IsRow (List.replicate 65536 65) := fun member =>
    absurd (List.eq_of_mem_replicate member) (by decide)
  have areRows : ∀ row ∈ [utf8 "PRINT y\r"], row.IsRow := by decide +kernel
  have split : long.pieces Text.newline = [utf8 "PRINT y\r"] ++ List.replicate 65536 65 :: [] :=
    Text.pieces_lines_append areRows isRow
  have earlier : long.programLines.take 1 = [utf8 "PRINT y"] :=
    (lines_before split (List.ne_nil_of_length_pos (by omega))).2
  have tooLong := tooLong _ _ _ split (by decide) (by omega)
  simp only [List.length_singleton, earlier] at tooLong
  obtain ⟨staying, stops, unfinished, outputEarly⟩ :
      (∀ line ∈ [utf8 "PRINT y"], isExit line = false) ∧
      start.stopsEach 9 start.openSession [utf8 "PRINT y"] ∧
      (start.feedEach 9 start.openSession [utf8 "PRINT y"]).2.done = false ∧
      start.sessionOutput 9 [utf8 "PRINT y"] =
        utf8 ("Runtime error at line 1\n  PRINT y\n  undeclared identifier: \"y\"\n" ++
          "--- final state ---\n--------------------\n") := by
    decide +kernel
  obtain ⟨exitEarly, shownEarly⟩ := tooLong staying stops unfinished 9 (Nat.le_refl 9)
  exact ⟨exit, shown.trans output, edited.trans output, exitEarly, shownEarly.trans outputEarly⟩

end Command
end Cli
end LineMachine
