import LineMachine.Proofs.Growth
import LineMachine.Proofs.Lifecycle
import LineMachine.Proofs.Literals
import Mathlib.Data.List.Perm.Subperm

namespace LineMachine

/-- The line does not branch back: where it asks for a branch to a line with a number, that line
comes after its own place. Lines are numbered from one and places from zero. -/
def Line.Forward (line : Line) (place : Nat) : Prop :=
  ∀ name token number, line.Asks .branch [name, token] → token.IsLiteral number →
    (place : Int) + 1 < number

/-- Whether a line branches back can be read off its arguments. -/
theorem Line.forward_iff (line : Line) (place : Nat) :
    line.Forward place ↔ line.command = Operation.branch.mnemonic → line.arguments.length = 2 →
      ∀ number ∈ (line.arguments.getD 1 []).toInt64?, (place : Int) + 1 < number := by
  constructor
  · intro forward command two number read
    obtain ⟨name, token, given⟩ := List.length_eq_two.mp two
    rw [given] at read
    exact forward name token number ⟨command, given⟩ (Text.toInt64?_eq_some_iff.mp read)
  · intro ahead name token number asks isLiteral
    have read : number ∈ (line.arguments.getD 1 []).toInt64? := by
      rw [asks.given]
      exact Text.toInt64?_eq_some_iff.mpr isLiteral
    exact ahead asks.command (by rw [asks.given]; rfl) number read

instance (line : Line) (place : Nat) : Decidable (line.Forward place) :=
  decidable_of_iff _ (line.forward_iff place).symm

/-- A line that jumps asks for a branch to the line with that number. -/
theorem Standard.Answer.jumped {ν : Type} [Number ν] {line : Line} {table : Table ν} {length : Nat}
    {reply : Reply ν} (answer : Answer line table length reply) {target : Int}
    (verdict : reply.verdict = .ok (some (.jump target))) :
    ∃ name token, line.Asks .branch [name, token] ∧ token.IsLiteral (target + 1) := by
  cases answer with
  | blank | refused => simp [Reply.ofVerdict, Reply.fail] at verdict
  | performed operation named enough passed =>
    have command : operation.mnemonic = line.command := by simpa using List.find?_some named
    have jumps : (operation.effect table line.arguments).action = .jump target := by
      simpa [Effect.reply] using verdict
    obtain ⟨rfl, name, token, given, -, read⟩ := Operation.effect_jump_branch enough passed jumps
    exact ⟨name, token, ⟨command.symm, given⟩, Text.toInt64?_eq_some_iff.mp read⟩

namespace Machine

variable {ν : Type}

/-- No line of the program branches back. -/
structure Forward (machine : Machine ν) : Prop where
  formed : machine.table.WellFormed
  lines : ∀ {place : Nat} {line : Line}, machine.program[place]? = some line → line.Forward place

theorem forward_load (filename : Text) (tracing : Bool) {lines : List Text}
    (forward : ∀ place (inside : place < lines.length),
      (Line.parse filename lines[place] (place + 1)).Forward place) :
    (load filename tracing lines : Machine ν).Forward := by
  refine ⟨Table.wellFormed_empty, ?_⟩
  intro place line current
  rw [← Array.getElem?_toList, load, Line.parseAll_getElem?] at current
  obtain ⟨text, textAt, rfl⟩ := Option.map_eq_some_iff.mp current
  obtain ⟨inside, rfl⟩ := List.getElem?_eq_some_iff.mp textAt
  exact forward place inside

variable [Number ν] {machine after : Machine ν} {places : List Nat}

namespace Forward

theorem step (onward : machine.Forward) : (machine.step Standard.set).Forward := by
  refine ⟨wellFormed_kept.step rfl onward.formed, ?_⟩
  rw [(step_program Standard.set machine).1]
  exact onward.lines

/-- A step that leaves the machine running is on a line and takes it farther. -/
theorem counter_lt (onward : machine.Forward)
    (stillRunning : (machine.step Standard.set).status = .running) :
    machine.counter < machine.program.size ∧
      machine.counter < (machine.step Standard.set).counter := by
  cases step_stepped Standard.set machine with
  | stopped stopped unchanged =>
    rw [unchanged] at stillRunning
    exact absurd stillRunning stopped
  | left _ _ completed =>
    obtain ⟨records, completed⟩ := completed
    simp [completed] at stillRunning
  | executed _ line current _ turn =>
    obtain ⟨inside, -⟩ := Array.getElem?_eq_some_iff.mp current
    refine ⟨inside, ?_⟩
    cases turn with
    | advance _ _ counter => omega
    | jump target verdict _ _ counter =>
      have answer := Standard.dispatch_answer onward.formed line machine.program.size
      obtain ⟨name, token, asks, isLiteral⟩ := answer.jumped verdict
      have ahead := onward.lines current name token _ asks isLiteral
      omega
    | halt _ status | fault _ _ status => simp [status] at stillRunning

/-- The machine stops within one step more than there are lines left. -/
theorem stops (onward : machine.Forward) {count : Nat}
    (enough : machine.program.size - machine.counter < count) :
    ((Machine.step Standard.set)^[count] machine).status ≠ .running := by
  induction count generalizing machine with
  | zero => omega
  | succ count inductionHypothesis =>
    rw [Function.iterate_succ_apply]
    by_cases stillRunning : (machine.step Standard.set).status = .running
    · obtain ⟨inside, farther⟩ := onward.counter_lt stillRunning
      have sameProgram := (step_program Standard.set machine).1
      exact inductionHypothesis onward.step (by rw [sameProgram]; omega)
    · rwa [Function.iterate_fixed (step_of_stopped Standard.set stillRunning)]

/-- The places of a walk increase from the counter on. -/
theorem increasing (onward : machine.Forward)
    (walked : Walk (· = Standard.set) machine places after) :
    places.Pairwise (· < ·) ∧ ∀ place ∈ places, machine.counter ≤ place := by
  induction walked with
  | stay machine => simp
  | @line machine after places set known _ _ rest inductionHypothesis =>
    subst known
    obtain ⟨sorted, later⟩ := inductionHypothesis onward.step
    have beyond : ∀ place ∈ places, machine.counter < place := by
      intro place member
      by_cases stillRunning : (machine.step Standard.set).status = .running
      · exact Nat.lt_of_lt_of_le (onward.counter_lt stillRunning).2 (later place member)
      · rw [(rest.of_stopped stillRunning).1] at member
        contradiction
    refine ⟨List.pairwise_cons.mpr ⟨beyond, sorted⟩, ?_⟩
    intro place member
    rcases List.mem_cons.mp member with rfl | more
    · exact Nat.le_refl _
    · exact Nat.le_of_lt (beyond place more)
  | leave set known _ outside rest _ =>
    subst known
    have stopped := fun stillRunning => Nat.not_lt_of_le outside (onward.counter_lt stillRunning).1
    simp [(rest.of_stopped stopped).1]

end Forward

/-- A program without a branch back comes to an end, within one step more than it has lines. The
places of the executed lines increase, so that no line is executed twice and there are at most as
many steps as lines. -/
theorem forward_run_ends (filename : Text) (tracing : Bool) {lines : List Text}
    (forward : ∀ place (inside : place < lines.length),
      (Line.parse filename lines[place] (place + 1)).Forward place)
    {patience : Nat} (enough : lines.length < patience) :
    let machine : Machine ν := .load filename tracing lines
    let final := machine.run Standard.set patience
    (final.status = .halted ∨ final.status = .faulted ∨ final.status = .completed) ∧
      ∃ places, Moves (· = Standard.set) machine .run places final ∧
        places.Pairwise (· < ·) ∧ places.Nodup ∧
        final.steps = places.length ∧ final.steps ≤ lines.length := by
  intro machine final
  have onward : machine.Forward := forward_load filename tracing forward
  have size : machine.program.size = lines.length := by simp [machine, load, Line.parseAll]
  have stopped : final.status ≠ .running := by
    have ended : ((Machine.step Standard.set)^[patience] machine).status ≠ .running :=
      onward.stops (by omega)
    rwa [← resume_eq_iterate Standard.set patience rfl] at ended
  obtain ⟨places, walked⟩ :=
    drive_walk (· = Standard.set) Standard.set rfl patience machine.wake
  have moved : Moves (· = Standard.set) machine .run places final := .run walked stopped
  have sorted : places.Pairwise (· < ·) :=
    (onward.increasing (by rwa [wake_of_not_completed (by simp [machine, load])] at walked)).1
  have distinct : places.Nodup := sorted.imp Nat.ne_of_lt
  obtain ⟨steps, inside⟩ := moved.steps
  have fewer : places.length ≤ lines.length := by
    have listed : places ⊆ List.range lines.length := by
      intro place member
      rw [List.mem_range, ← size]
      exact inside place member
    simpa using (List.subperm_of_subset distinct listed).length_le
  have counted : final.steps = places.length := by simpa [machine, load] using steps
  refine ⟨?_, places, moved, sorted, distinct, counted, counted.trans_le fewer⟩
  cases status : final.status with
  | running => exact absurd status stopped
  | halted => exact .inl rfl
  | faulted => exact .inr (.inl rfl)
  | completed => exact .inr (.inr rfl)

/-- Two branches forward, one of them over a branch to no line at all, and a fault behind them. -/
theorem forward_run_ends_fault :
    let lines := [utf8 "INTEGER x", utf8 "IF x 5", utf8 "PRINT x", utf8 "IF x zero", utf8 "# x",
      utf8 "if x +7", utf8 "ADD x"]
    let machine : Machine Int64 := .load [] false lines
    let final := machine.run Standard.set 8
    final.status = .faulted ∧ final.counter = 6 ∧ final.steps = 5 ∧
      ∃ places, Moves (· = Standard.set) machine .run places final ∧
        places.Pairwise (· < ·) ∧ places.length = 5 := by
  intro lines machine final
  obtain ⟨forward, status, counter, steps⟩ :
      (∀ place (inside : place < lines.length),
        (Line.parse [] lines[place] (place + 1)).Forward place) ∧
      final.status = .faulted ∧ final.counter = 6 ∧ final.steps = 5 := by
    decide +kernel
  obtain ⟨-, places, moved, sorted, -, counted, -⟩ :=
    forward_run_ends (ν := Int64) [] false forward (show lines.length < 8 by decide)
  exact ⟨status, counter, steps, places, moved, sorted, counted.symm.trans steps⟩

end Machine
end LineMachine
