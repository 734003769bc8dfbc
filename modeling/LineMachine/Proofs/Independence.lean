import LineMachine.Proofs.Silence

namespace LineMachine

namespace Machine

variable {ν : Type}

/-- The second machine is like the first, except that it may have another ledger and other records
and has printed some texts before. -/
def Resembles (earlier : Array Text) (first second : Machine ν) : Prop :=
  ∃ ledger printed records, second = { first with ledger, printed, records } ∧
    printed = earlier ++ first.printed

namespace Resembles

variable {earlier : Array Text} {first second : Machine ν}

theorem traceLine (resembles : first.Resembles earlier second) (line : Line) :
    (first.traceLine line).Resembles earlier (second.traceLine line) := by
  obtain ⟨ledger, printed, records, rfl, same⟩ := resembles
  rw [Machine.traceLine, Machine.traceLine]
  split <;> exact ⟨_, _, _, rfl, same⟩

theorem absorb (resembles : first.Resembles earlier second) (reply : Reply ν) :
    (first.absorb reply).Resembles earlier (second.absorb reply) := by
  obtain ⟨ledger, printed, records, rfl, rfl⟩ := resembles
  refine ⟨_, _, _, rfl, ?_⟩
  exact Array.toList_inj.mp (by simp [Machine.absorb])

/-- A cause without a place is reported in the same way, whatever was reported before. -/
theorem raise (resembles : first.Resembles earlier second) (line : Line) (cause : Cause) :
    (first.raise line (.ofCause cause)).Resembles earlier (second.raise line (.ofCause cause)) := by
  obtain ⟨ledger, printed, records, rfl, rfl⟩ := resembles
  exact ⟨_, _, _, rfl, Array.append_push.symm⟩

theorem follow (resembles : first.Resembles earlier second) (line : Line)
    {verdict : Except Failure (Option Action)}
    (unplaced : ∀ failure, verdict = .error failure → ∃ cause, failure = .ofCause cause) :
    (first.follow line verdict).Resembles earlier (second.follow line verdict) := by
  have sameSize : second.program.size = first.program.size := by
    obtain ⟨_, _, _, rfl, -⟩ := resembles
    rfl
  simp only [Machine.follow]
  split
  · obtain ⟨cause, rfl⟩ := unplaced _ rfl
    exact resembles.raise line cause
  · exact resembles.raise line _
  · obtain ⟨_, _, _, rfl, same⟩ := resembles
    exact ⟨_, _, _, rfl, same⟩
  · rw [sameSize]
    split
    · obtain ⟨_, _, _, rfl, same⟩ := resembles
      exact ⟨_, _, _, rfl, same⟩
    · exact resembles.raise line _
  · obtain ⟨_, _, _, rfl, same⟩ := resembles
    exact ⟨_, _, _, rfl, same⟩

variable [Number ν]

/-- A standard line makes the same of both machines. -/
theorem execute (resembles : first.Resembles earlier second) (line : Line) :
    (first.execute Standard.set line).Resembles earlier (second.execute Standard.set line) := by
  have counted : { first with steps := first.steps + 1 }.Resembles earlier
      { second with steps := second.steps + 1 } := by
    obtain ⟨_, _, _, rfl, same⟩ := resembles
    exact ⟨_, _, _, rfl, same⟩
  have sameReply : Standard.set.dispatch line second.table second.program.size =
      Standard.set.dispatch line first.table first.program.size := by
    obtain ⟨_, _, _, rfl, -⟩ := resembles
    rfl
  rw [Machine.execute, Machine.execute, sameReply]
  exact ((counted.traceLine line).absorb _).follow line fun _ => Standard.dispatch_failure

theorem step (resembles : first.Resembles earlier second) :
    (first.step Standard.set).Resembles earlier (second.step Standard.set) := by
  have sameStatus : second.status = first.status := by
    obtain ⟨_, _, _, rfl, -⟩ := resembles
    rfl
  have sameLine : second.program[second.counter]? = first.program[first.counter]? := by
    obtain ⟨_, _, _, rfl, -⟩ := resembles
    rfl
  rw [Machine.step, Machine.step, sameStatus, sameLine]
  split
  · split
    · exact resembles.execute _
    · obtain ⟨_, _, _, rfl, same⟩ := resembles
      exact ⟨_, _, _, rfl, same⟩
  · exact resembles

theorem iterate (resembles : first.Resembles earlier second) (count : Nat) :
    ((Machine.step Standard.set)^[count] first).Resembles earlier
      ((Machine.step Standard.set)^[count] second) := by
  induction count with
  | zero => exact resembles
  | succ count inductionHypothesis =>
    rw [Function.iterate_succ_apply', Function.iterate_succ_apply']
    exact inductionHypothesis.step

omit [Number ν] in
/-- What does not show of a difference in the past. -/
theorem agree (resembles : first.Resembles earlier second) :
    second.outcome = first.outcome ∧ second.counter = first.counter ∧
      second.table = first.table ∧ second.program = first.program ∧
      second.printed = earlier ++ first.printed := by
  obtain ⟨_, _, _, rfl, same⟩ := resembles
  exact ⟨rfl, rfl, rfl, rfl, same⟩

omit [Number ν] in
/-- What the first machine has printed may be collected. -/
theorem collect (resembles : first.Resembles earlier second) (ledger : Ledger) :
    { first with ledger, printed := #[], records := #[] }.Resembles (earlier ++ first.printed)
      second := by
  obtain ⟨_, _, _, rfl, rfl⟩ := resembles
  exact ⟨_, _, _, rfl, by simp⟩

end Resembles
end Machine

namespace Interpreter

variable {ν : Type} [Number ν]

/-- A run on an interpreter with the standard instructions adds to the output what a new interpreter
prints, and has the same outcome. -/
theorem execute_eq_new {interpreter : Interpreter ν}
    (standard : interpreter.instructions = Standard.set) (patience : Nat) (source : Text) :
    let alone := (new interpreter.settings : Interpreter ν).execute patience source
    (interpreter.execute patience source).1.output = interpreter.output ++ alone.1.output ∧
      (interpreter.execute patience source).2 = alone.2 := by
  intro alone
  have start : (Machine.load interpreter.settings.filename interpreter.settings.trace
      source.programLines).Resembles #[]
      { interpreter.load source.programLines with ledger := interpreter.ledger } :=
    ⟨_, _, _, rfl, rfl⟩
  obtain ⟨outcome, -, table, -, printed⟩ := (start.iterate patience).agree
  obtain ⟨output, -⟩ := runSource_eq interpreter patience source
  obtain ⟨aloneOutput, -⟩ := runSource_eq (new interpreter.settings : Interpreter ν) patience source
  have sameOutcome := runSource_outcome interpreter patience source
  have aloneOutcome := runSource_outcome (new interpreter.settings : Interpreter ν) patience source
  rw [standard] at output sameOutcome
  rw [new_instructions, new_load] at aloneOutput aloneOutcome
  constructor
  · have shown : alone.1.output = _ := aloneOutput
    rw [shown, new_eq]
    refine output.trans ?_
    rw [table, printed]
    simp
  · exact sameOutcome.trans (outcome.trans aloneOutcome.symm)

/-- A run under a file name has the output and the outcome of a run under settings with that
name. -/
theorem executeFile_eq_new {interpreter : Interpreter ν}
    (standard : interpreter.instructions = Standard.set) (patience : Nat) (source filename : Text) :
    let alone :=
      (new { interpreter.settings with filename } : Interpreter ν).execute patience source
    (interpreter.executeFile patience source filename).1.output =
        interpreter.output ++ alone.1.output ∧
      (interpreter.executeFile patience source filename).2 = alone.2 := by
  have renamed : ({ interpreter with settings := { interpreter.settings with filename } } :
      Interpreter ν).instructions = Standard.set := standard
  exact execute_eq_new renamed patience source

end Interpreter

/-- A reader delivers some text and then comes to its end or fails. -/
structure Reader where
  delivered : Text
  failure : Option Text := none
deriving DecidableEq, Repr

/-- All that a reader delivers, unless it fails. -/
def Reader.content (reader : Reader) : Except Text Text :=
  match reader.failure with
  | some failure => .error failure
  | none => .ok reader.delivered

/-- What a host may ask for: runs of sources on its interpreter, and steps of a machine that it
holds apart. -/
inductive Request where
  | execute (patience : Nat) (source : Text)
  | executeFile (patience : Nat) (source filename : Text)
  | executeReader (patience : Nat) (reader : Reader) (filename : Text)
  | step
deriving DecidableEq, Repr

/-- An interpreter and a machine that is held apart from its runs. -/
structure Desk (ν : Type) where
  interpreter : Interpreter ν
  held : Machine ν

namespace Desk

variable {ν : Type} [Number ν]

def serve (desk : Desk ν) : Request → Desk ν
  | .execute patience source =>
    { desk with interpreter := (desk.interpreter.execute patience source).1 }
  | .executeFile patience source filename =>
    { desk with interpreter := (desk.interpreter.executeFile patience source filename).1 }
  | .executeReader patience reader filename =>
    { desk with
      interpreter := (desk.interpreter.executeReader patience reader.content filename).1 }
  | .step =>
    let (interpreter, held) :=
      desk.interpreter.act desk.held (·.step desk.interpreter.instructions)
    { interpreter, held }

/-- Serves requests in the order in which they come. -/
def serveAll (desk : Desk ν) (requests : List Request) : Desk ν := requests.foldl serve desk

/-- The interpreter knows the standard instructions and has some settings, and the machine held
apart stands where another one stands that is alone. -/
structure Undisturbed (settings : Settings) (alone : Machine ν) (desk : Desk ν) : Prop where
  standard : desk.interpreter.instructions = Standard.set
  settings : desk.interpreter.settings = settings
  held : ∃ earlier, desk.held.Resembles earlier alone

namespace Undisturbed

variable {settings : Settings} {alone : Machine ν} {desk : Desk ν}

/-- A run does not disturb the machine that is held apart. -/
theorem execute (undisturbed : desk.Undisturbed settings alone) (patience : Nat) (source : Text) :
    (desk.serve (.execute patience source)).Undisturbed settings alone := by
  obtain ⟨sameSettings, -, sameInstructions⟩ := desk.interpreter.runSource_frame patience source
  exact ⟨sameInstructions.trans undisturbed.standard, sameSettings.trans undisturbed.settings,
    undisturbed.held⟩

theorem executeFile (undisturbed : desk.Undisturbed settings alone) (patience : Nat)
    (source filename : Text) :
    (desk.serve (.executeFile patience source filename)).Undisturbed settings alone := by
  obtain ⟨-, -, sameInstructions⟩ := Interpreter.runSource_frame
    { desk.interpreter with settings := { desk.interpreter.settings with filename } } patience
    source
  exact ⟨sameInstructions.trans undisturbed.standard, undisturbed.settings, undisturbed.held⟩

theorem executeReader (undisturbed : desk.Undisturbed settings alone) (patience : Nat)
    (reader : Reader) (filename : Text) :
    (desk.serve (.executeReader patience reader filename)).Undisturbed settings alone := by
  rw [serve, Interpreter.executeReader.eq_def]
  cases reader.content with
  | error failure => exact undisturbed
  | ok source => exact undisturbed.executeFile patience source filename

/-- A step of the machine that is held apart is a step of the one that is alone. -/
theorem step (undisturbed : desk.Undisturbed settings alone) :
    (desk.serve .step).Undisturbed settings (alone.step Standard.set) := by
  obtain ⟨earlier, resembles⟩ := undisturbed.held
  let acting := { desk.held with ledger := desk.interpreter.ledger, printed := #[], records := #[] }
  have stepped : (acting.step Standard.set).Resembles _ (alone.step Standard.set) :=
    (resembles.collect desk.interpreter.ledger).step
  have served : (desk.serve .step).held =
      { acting.step Standard.set with printed := #[], records := #[] } := by
    rw [serve, undisturbed.standard]
    rfl
  refine ⟨undisturbed.standard, undisturbed.settings,
    earlier ++ desk.held.printed ++ (acting.step Standard.set).printed, ?_⟩
  rw [served]
  exact stepped.collect (acting.step Standard.set).ledger

/-- Whatever a host asks for, the machine held apart stands where its own steps have led it. -/
theorem serveAll (undisturbed : desk.Undisturbed settings alone) (requests : List Request) :
    (desk.serveAll requests).Undisturbed settings
      ((Machine.step Standard.set)^[requests.count .step] alone) := by
  induction requests generalizing desk alone with
  | nil => exact undisturbed
  | cons request rest inductionHypothesis =>
    rw [Desk.serveAll, List.foldl_cons, ← Desk.serveAll]
    cases request with
    | execute patience source =>
      rw [List.count_cons_of_ne (by simp)]
      exact inductionHypothesis (undisturbed.execute patience source)
    | executeFile patience source filename =>
      rw [List.count_cons_of_ne (by simp)]
      exact inductionHypothesis (undisturbed.executeFile patience source filename)
    | executeReader patience reader filename =>
      rw [List.count_cons_of_ne (by simp)]
      exact inductionHypothesis (undisturbed.executeReader patience reader filename)
    | step =>
      rw [List.count_cons_self, Function.iterate_succ_apply]
      exact inductionHypothesis undisturbed.step

end Undisturbed

/-- Runs on one interpreter are independent. After any requests, a source adds to the output what a
new interpreter with the same settings prints, and has the outcome that it has there, also under a
file name of its own and when a reader delivers it. A reader that fails changes nothing. The
settings are always what they were, and a machine that is held apart stands where its own steps
have led it. -/
theorem runs_independent {interpreter : Interpreter ν}
    (standard : interpreter.instructions = Standard.set) (held : Machine ν)
    (requests : List Request) :
    let desk := serveAll { interpreter, held } requests
    let alone := (Machine.step Standard.set)^[requests.count .step] held
    let settings := interpreter.settings
    (desk.held.counter = alone.counter ∧ desk.held.status = alone.status ∧
      desk.held.table = alone.table ∧ desk.held.steps = alone.steps ∧
      desk.held.fault = alone.fault ∧ desk.held.program = alone.program) ∧
    desk.interpreter.settings = settings ∧
    (∀ patience source,
      let ran := desk.interpreter.execute patience source
      let fresh := (Interpreter.new settings : Interpreter ν).execute patience source
      ran.1.output = desk.interpreter.output ++ fresh.1.output ∧ ran.2 = fresh.2) ∧
    (∀ patience source filename,
      let ran := desk.interpreter.executeFile patience source filename
      let fresh := (Interpreter.new { settings with filename } : Interpreter ν).execute patience
        source
      ran.1.output = desk.interpreter.output ++ fresh.1.output ∧ ran.2 = fresh.2) ∧
    ∀ patience (reader : Reader) filename,
      let ran := desk.interpreter.executeReader patience reader.content filename
      match reader.failure with
      | some failure => ran = (desk.interpreter, .error failure)
      | none =>
        let fresh := (Interpreter.new { settings with filename } : Interpreter ν).execute patience
          reader.delivered
        ran.1.output = desk.interpreter.output ++ fresh.1.output ∧ ran.2 = .ok fresh.2 := by
  intro desk alone settings
  have start : Undisturbed settings held { interpreter, held } :=
    ⟨standard, rfl, #[], _, _, _, rfl, by simp⟩
  have undisturbed : desk.Undisturbed settings alone := start.serveAll requests
  have known := undisturbed.standard
  refine ⟨?_, undisturbed.settings, ?_, ?_, ?_⟩
  · obtain ⟨earlier, resembles⟩ := undisturbed.held
    obtain ⟨outcome, counter, table, program, -⟩ := resembles.agree
    exact ⟨counter.symm, (congrArg Outcome.status outcome).symm, table.symm,
      (congrArg Outcome.steps outcome).symm, (congrArg Outcome.fault outcome).symm, program.symm⟩
  · intro patience source
    have ran := Interpreter.execute_eq_new known patience source
    rwa [undisturbed.settings] at ran
  · intro patience source filename
    have ran := Interpreter.executeFile_eq_new known patience source filename
    rwa [undisturbed.settings] at ran
  · intro patience reader filename ran
    cases failure : reader.failure with
    | some failure => simp [ran, Interpreter.executeReader, Reader.content, failure]
    | none =>
      have filed := Interpreter.executeFile_eq_new known patience reader.delivered filename
      rw [undisturbed.settings] at filed
      simp only [ran, Interpreter.executeReader, Reader.content, failure]
      exact ⟨filed.1, congrArg Except.ok filed.2⟩

/-- A machine held apart that faults with its second step, between a run that faults, a reader that
breaks off and a run that halts; and a run after all of them that faults in a file of its own. -/
theorem runs_independent_interleaved :
    let interpreter : Interpreter Int64 := .new { filename := utf8 "main" }
    let held := interpreter.load [utf8 "INTEGER a", utf8 "ADD a b"]
    let requests : List Request := [.execute 9 (utf8 "PRINT x\n"), .step,
      .executeReader 9 { delivered := utf8 "INTEGER", failure := some (utf8 "broken") } (utf8 "r"),
      .executeFile 9 (utf8 "LIST a\nHLT\n") (utf8 "f"), .step]
    let desk := serveAll { interpreter, held } requests
    let ran := desk.interpreter.executeFile 9 (utf8 "INTEGER a\nCHS l\n") (utf8 "g")
    desk.held.counter = 1 ∧ desk.held.status = .faulted ∧ desk.held.steps = 2 ∧
      desk.interpreter.settings.filename = utf8 "main" ∧
      ran.1.output = desk.interpreter.output ++
        #[utf8 "Runtime error at line 2\n  CHS l\n  undeclared identifier: \"l\"\n",
          utf8 "--- final state ---\na (int) = 0\n--------------------\n"] ∧
      ran.2.fault = some ⟨.undeclared (utf8 "l"), some ⟨2, utf8 "CHS l", utf8 "g"⟩⟩ := by
  intro interpreter held requests
  have standard : interpreter.instructions = Standard.set := Interpreter.new_instructions _
  have named : interpreter.settings = { filename := utf8 "main" } := by
    simp only [interpreter, Interpreter.new_eq]
  obtain ⟨⟨counter, status, -, steps, -, -⟩, settings, -, filed, -⟩ :=
    runs_independent standard held requests
  generalize serveAll { interpreter, held } requests = last at counter status steps settings filed ⊢
  intro desk ran
  obtain ⟨output, outcome⟩ := filed 9 (utf8 "INTEGER a\nCHS l\n") (utf8 "g")
  have twice : requests.count .step = 2 := by decide
  rw [twice] at counter status steps
  rw [named] at settings output outcome
  obtain ⟨aloneCounter, aloneStatus, aloneSteps, freshOutput, freshFault⟩ :
      let alone := (Machine.step Standard.set)^[2] held
      let fresh := (Interpreter.new { filename := utf8 "g" } : Interpreter Int64).execute 9
        (utf8 "INTEGER a\nCHS l\n")
      alone.counter = 1 ∧ alone.status = .faulted ∧ alone.steps = 2 ∧
      fresh.1.output =
        #[utf8 "Runtime error at line 2\n  CHS l\n  undeclared identifier: \"l\"\n",
          utf8 "--- final state ---\na (int) = 0\n--------------------\n"] ∧
      fresh.2.fault = some ⟨.undeclared (utf8 "l"), some ⟨2, utf8 "CHS l", utf8 "g"⟩⟩ := by
    decide +kernel
  refine ⟨counter.trans aloneCounter, status.trans aloneStatus, steps.trans aloneSteps,
    congrArg Settings.filename settings, ?_, ?_⟩
  · exact output.trans (congrArg _ freshOutput)
  · exact (congrArg Outcome.fault outcome).trans freshFault

end Desk
end LineMachine
