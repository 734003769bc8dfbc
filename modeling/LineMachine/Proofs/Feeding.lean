import LineMachine.Proofs.Growth

namespace LineMachine.Interpreter

open Machine (Mirrors Finishes)

variable {ν : Type}

/-- A session gets lines one after another, and after each of them comes to a stop without a
fault. -/
inductive Feeds : Interpreter ν → Session ν → List Text → Interpreter ν → Session ν → Prop where
  | all (interpreter : Interpreter ν) (session : Session ν) :
    Feeds interpreter session [] interpreter session
  | line {interpreter after : Interpreter ν} {session last : Session ν} {text : Text}
    {rest : List Text} (patience : Nat)
    (stopped : (interpreter.feed patience session text).2.2.status ≠ .running)
    (sound : (interpreter.feed patience session text).2.2.status ≠ .faulted)
    (more : Feeds (interpreter.feed patience session text).1
      (interpreter.feed patience session text).2.1 rest after last) :
    Feeds interpreter session (text :: rest) after last

/-- Feeds the lines to a session, if each of them comes to a stop in time and without a fault. -/
def feedAll? (patience : Nat) :
    Interpreter ν → Session ν → List Text → Option (Interpreter ν × Session ν)
  | interpreter, session, [] => some (interpreter, session)
  | interpreter, session, text :: rest =>
    let (fed, next, outcome) := interpreter.feed patience session text
    if outcome.status = .running ∨ outcome.status = .faulted then none
    else feedAll? patience fed next rest

theorem feeds_of_feedAll? {patience : Nat} {interpreter after : Interpreter ν}
    {session last : Session ν} {lines : List Text}
    (fed : interpreter.feedAll? patience session lines = some (after, last)) :
    Feeds interpreter session lines after last := by
  induction lines generalizing interpreter session with
  | nil =>
    obtain ⟨rfl, rfl⟩ := Prod.mk.inj (Option.some.inj fed)
    exact .all interpreter session
  | cons text rest inductionHypothesis =>
    rw [feedAll?] at fed
    dsimp only at fed
    split at fed
    · contradiction
    · rename_i stopped
      obtain ⟨notRunning, sound⟩ := not_or.mp stopped
      exact .line patience notRunning sound (inductionHypothesis fed)

/-- A session that is done takes no more lines. -/
theorem Feeds.of_done {interpreter after : Interpreter ν} {session last : Session ν}
    {lines : List Text} (feeds : Feeds interpreter session lines after last)
    (done : session.done = true) : after = interpreter ∧ last = session := by
  induction feeds with
  | all => exact ⟨rfl, rfl⟩
  | line patience _ _ _ inductionHypothesis =>
    rw [feed, if_pos done] at inductionHypothesis
    exact inductionHypothesis done

/-- The machine of a session, when the interpreter lets it act. -/
def acting (interpreter : Interpreter ν) (session : Session ν) : Machine ν :=
  { session.machine with ledger := interpreter.ledger, printed := #[], records := #[] }

/-- A line of an open session goes to its machine, and what the machine prints is collected. -/
theorem feed_eq (interpreter : Interpreter ν) (patience : Nat) {session : Session ν}
    (unfinished : session.done = false) (text : Text) :
    let acted := ((interpreter.acting session).append text).resume interpreter.instructions patience
    interpreter.feed patience session text =
      ({ interpreter with
          ledger := acted.ledger
          output := interpreter.output ++ acted.printed
          log := interpreter.log ++ acted.records.filterMap interpreter.logger.write },
        ⟨{ acted with printed := #[], records := #[] }.recover, acted.status = .halted⟩,
        acted.outcome) := by
  intro acted
  rw [feed, if_neg (by simp [unfinished])]
  rfl

/-- A record changes nothing but the log. -/
theorem note_eq (interpreter : Interpreter ν) (record : Log.Record) :
    interpreter.note record =
      { interpreter with log := interpreter.log ++ (interpreter.logger.write record).toArray } := by
  rw [note]
  cases interpreter.logger.write record with
  | some text => rfl
  | none => simp

variable [Number ν]

/-- A session on standard instructions stands where a machine with the whole program stands, and
what it has printed was collected after the earlier output of its interpreter. -/
structure Serves (filename : Text) (earlier : Array Text) (rest : List Text)
    (interpreter : Interpreter ν) (session : Session ν) (whole : Machine ν) : Prop where
  standard : interpreter.instructions = Standard.set
  clean : session.machine.printed = #[]
  ended : session.machine.status = .halted ∨
    session.machine.program.size ≤ session.machine.counter
  mirrors : ∃ before, interpreter.output = earlier ++ before ∧
    Mirrors filename before rest session.machine whole

/-- An open session serves one line more, and is done when its machine halts. -/
theorem Serves.feed {filename text : Text} {earlier : Array Text} {rest : List Text}
    {interpreter : Interpreter ν} {session : Session ν} {whole : Machine ν} {patience : Nat}
    (serves : Serves filename earlier (text :: rest) interpreter session whole)
    (unfinished : session.done = false)
    (stopped : (interpreter.feed patience session text).2.2.status ≠ .running)
    (sound : (interpreter.feed patience session text).2.2.status ≠ .faulted) :
    ((interpreter.feed patience session text).2.1.done = true ↔
      (interpreter.feed patience session text).2.1.machine.status = .halted) ∧
    ∃ more, Serves filename earlier rest (interpreter.feed patience session text).1
      (interpreter.feed patience session text).2.1 ((Machine.step Standard.set)^[more] whole) := by
  obtain ⟨before, output, mirrors⟩ := serves.mirrors
  rw [feed_eq interpreter patience unfinished text, serves.standard] at stopped sound ⊢
  generalize acted :
    ((interpreter.acting session).append text).resume Standard.set patience = after at *
  have finished : Finishes Standard.set ((interpreter.acting session).appendAll [text]) after :=
    ⟨patience, acted, stopped⟩
  have unrecovered : { after with printed := #[], records := #[] }.recover =
      { after with printed := #[], records := #[] } := if_neg sound
  have collected : Mirrors filename (before ++ session.machine.printed) ([text] ++ rest)
      (interpreter.acting session) whole := mirrors.collect interpreter.ledger #[]
  obtain ⟨more, followed⟩ := collected.chunk finished sound
  rw [unrecovered]
  refine ⟨decide_eq_true_iff, more, rfl, rfl, finished.ended sound,
    before ++ after.printed, ?_, ?_⟩
  · rw [output]
    exact Array.append_assoc
  · simpa [serves.clean] using followed.collect after.ledger #[]

/-- A whole machine follows a session that is fed line by line. -/
theorem Feeds.followed {filename : Text} {earlier : Array Text} {lines : List Text}
    {interpreter after : Interpreter ν} {session last : Session ν} {whole : Machine ν}
    (feeds : Feeds interpreter session lines after last)
    (serves : Serves filename earlier lines interpreter session whole)
    (unfinished : session.done = false) :
    ∃ more rest, Serves filename earlier rest after last
      ((Machine.step Standard.set)^[more] whole) ∧
      (last.machine.status = .halted ∨ rest = []) := by
  induction feeds generalizing whole with
  | all => exact ⟨0, [], serves, .inr rfl⟩
  | @line interpreter after session last text rest patience stopped sound fed inductionHypothesis =>
    obtain ⟨halting, more, served⟩ := serves.feed unfinished stopped sound
    -- A session that is done ignores the rest, which the whole machine has but never reaches.
    cases done : (interpreter.feed patience session text).2.1.done with
    | true =>
      obtain ⟨rfl, rfl⟩ := fed.of_done done
      exact ⟨more, rest, served, .inl (halting.mp done)⟩
    | false =>
      obtain ⟨further, left, reached, ended⟩ := inductionHypothesis served done
      exact ⟨further + more, left, by rwa [Function.iterate_add_apply], ended⟩

/-- A source runs on a machine of its own, and its output ends with the final table. -/
theorem runSource_eq (interpreter : Interpreter ν) (patience : Nat) (source : Text) :
    let batch := (Machine.step interpreter.instructions)^[patience]
      { interpreter.load source.programLines with ledger := interpreter.ledger }
    (interpreter.runSource patience source).1.output =
        interpreter.output ++ batch.printed.push batch.table.finalBlock ∧
      (interpreter.runSource patience source).2.table = batch.table ∧
      (interpreter.runSource patience source).2.status = batch.status := by
  intro batch
  have resumed : Machine.resume interpreter.instructions patience
      { interpreter.load source.programLines with ledger := interpreter.ledger } = batch :=
    Machine.resume_eq_iterate interpreter.instructions patience rfl
  rw [runSource, note_eq, ← resumed]
  exact ⟨rfl, rfl, rfl⟩

/-- A new interpreter has the standard instructions. -/
theorem new_instructions (settings : Settings) :
    (new settings : Interpreter ν).instructions = Standard.set := by
  rw [new, registerStandard, Standard.set, Standard.extend]
  refine (List.foldl_hom instructions fun interpreter entry => ?_).symm
  rw [register, note_eq]

/-- A new session serves every program. -/
theorem openSession_serves {interpreter : Interpreter ν}
    (standard : interpreter.instructions = Standard.set) (lines : List Text) :
    Serves interpreter.settings.filename interpreter.output lines interpreter
      interpreter.openSession
      { interpreter.load lines with ledger := interpreter.ledger } where
  standard := standard
  clean := rfl
  ended := .inr (Nat.le_refl 0)
  mirrors := ⟨#[], by simp, Mirrors.load _ _ _ _⟩

/-- A session that is fed the lines of a source without a fault ends with the table of a run of the
source, and its output is the output of that run before the final table. -/
theorem feeds_runSource {interpreter after : Interpreter ν} {last : Session ν} {source : Text}
    (standard : interpreter.instructions = Standard.set)
    (feeds : Feeds interpreter interpreter.openSession source.programLines after last) :
    ∃ patience, (interpreter.runSource patience source).2.status =
        (if last.machine.status = .halted then .halted else .completed) ∧
      (interpreter.runSource patience source).2.table = last.machine.table ∧
      (interpreter.runSource patience source).1.output =
        after.output.push last.machine.table.finalBlock := by
  obtain ⟨more, rest, served, fed⟩ := feeds.followed (openSession_serves standard _) rfl
  obtain ⟨before, output, mirrors⟩ := served.mirrors
  have ended : last.machine.status = .halted ∨
      rest = [] ∧ last.machine.program.size ≤ last.machine.counter := by
    rcases served.ended with halted | outside
    · exact .inl halted
    · exact fed.imp_right fun none => ⟨none, outside⟩
  obtain ⟨final, table, printed, -, -, status⟩ := mirrors.finish ended
  rw [← Function.iterate_add_apply] at table printed status
  obtain ⟨ranOutput, ranTable, ranStatus⟩ := runSource_eq interpreter (final + more) source
  rw [standard] at ranOutput ranTable ranStatus
  refine ⟨final + more, ranStatus.trans status, ranTable.trans table, ?_⟩
  rw [ranOutput, table, printed, output, served.clean]
  simp

/-- A program that is given in chunks, with a stop after each of them and without a fault, ends as
the whole program does: with the same table, output, count and place, halted or completed. So a
session that is fed line by line has the table and the output of a run, up to the final table. -/
theorem incremental_agrees :
    (∀ (filename : Text) (tracing : Bool) (chunks : List (List Text)) (last : Machine ν),
      Machine.Grown (.load filename tracing []) chunks last →
      ∃ batch, Finishes Standard.set (.load filename tracing chunks.flatten) batch ∧
        batch.table = last.table ∧ batch.printed = last.printed ∧ batch.steps = last.steps ∧
        batch.counter = last.counter ∧
        batch.status = if last.status = .halted then .halted else .completed) ∧
    ∀ (interpreter after : Interpreter ν) (last : Session ν) (source : Text),
      interpreter.instructions = Standard.set →
      Feeds interpreter interpreter.openSession source.programLines after last →
      ∃ patience, (interpreter.runSource patience source).2.status =
          (if last.machine.status = .halted then .halted else .completed) ∧
        (interpreter.runSource patience source).2.table = last.machine.table ∧
        (interpreter.runSource patience source).1.output =
          after.output.push last.machine.table.finalBlock := by
  constructor
  · intro filename tracing chunks last grown
    have start : Mirrors filename #[] chunks.flatten (.load filename tracing [])
        (.load filename tracing chunks.flatten : Machine ν) :=
      Mirrors.load filename tracing chunks.flatten []
    obtain ⟨more, rest, mirrors, ended⟩ := grown.followed start (.inr (Nat.le_refl 0))
    obtain ⟨final, table, printed, steps, counter, status⟩ := mirrors.finish ended
    rw [← Function.iterate_add_apply] at table printed steps counter status
    refine ⟨_, ⟨final + more, Machine.resume_eq_iterate _ _ rfl, ?_⟩, table, ?_, steps, counter,
      status⟩
    · rw [status]
      split <;> simp
    · rw [printed, Array.empty_append]
  · intro interpreter after last source standard feeds
    exact feeds_runSource standard feeds

/-- A loop back over lines of earlier chunks with a halt before the last chunk, and a session of two
lines. -/
theorem incremental_agrees_loop :
    let chunks := [[utf8 "INTEGER c", utf8 "ASSIGN c -1", utf8 "INTEGER one", utf8 "ASSIGN one 1"],
      [utf8 "ADD c one", utf8 "PRINT c"], [utf8 "IF c 5"], [], [utf8 "HLT"], [utf8 "PRINT c"]]
    let interpreter : Interpreter Int64 := .new {}
    let source := utf8 "LIST l\nPRINT l\n"
    (∃ batch : Machine Int64, Finishes Standard.set (.load [] false chunks.flatten) batch ∧
      batch.status = .halted ∧ batch.counter = 7 ∧ batch.steps = 11 ∧
      batch.printed = #[utf8 "c = 0\n", utf8 "c = 1\n"]) ∧
    ∃ patience, (interpreter.runSource patience source).2.status = .completed ∧
      (interpreter.runSource patience source).1.output =
        #[utf8 "l = []\n", utf8 "--- final state ---\nl (list) = []\n--------------------\n"] := by
  intro chunks interpreter source
  obtain ⟨grown, fed⟩ :
      ((Machine.load [] false [] : Machine Int64).grow? 9 chunks).map
        (fun last => (last.status, last.counter, last.steps, last.printed)) =
        some (.halted, 7, 11, #[utf8 "c = 0\n", utf8 "c = 1\n"]) ∧
      (interpreter.feedAll? 2 interpreter.openSession source.programLines).map
        (fun (after, last) => (last.machine.status,
          after.output.push last.machine.table.finalBlock)) =
        some (.completed, #[utf8 "l = []\n",
          utf8 "--- final state ---\nl (list) = []\n--------------------\n"]) := by
    decide +kernel
  constructor
  · obtain ⟨last, grows, reached⟩ := Option.map_eq_some_iff.mp grown
    simp only [Prod.mk.injEq] at reached
    obtain ⟨halted, place, count, texts⟩ := reached
    obtain ⟨batch, finished, -, printed, steps, counter, status⟩ :=
      incremental_agrees.1 [] false chunks last (Machine.grown_of_grow? grows)
    exact ⟨batch, finished, status.trans (if_pos halted), counter.trans place, steps.trans count,
      printed.trans texts⟩
  · obtain ⟨⟨after, last⟩, feeds, reached⟩ := Option.map_eq_some_iff.mp fed
    obtain ⟨completed, output⟩ := Prod.mk.inj reached
    obtain ⟨patience, status, -, ran⟩ :=
      incremental_agrees.2 interpreter after last source (new_instructions {})
        (feeds_of_feedAll? feeds)
    exact ⟨patience, by rw [status, completed]; rfl, ran.trans output⟩

end LineMachine.Interpreter
