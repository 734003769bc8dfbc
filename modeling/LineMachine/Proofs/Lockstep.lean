import LineMachine.Proofs.Growth
import LineMachine.Proofs.Renaming
import Mathlib.Logic.Equiv.Basic

namespace LineMachine

/-- The kind of a fault and the line where it was found. -/
def Fault.site (fault : Fault) : FaultKind × Option Int :=
  (fault.cause.kind, fault.position.map Position.line)

namespace Machine

variable {ν : Type}

/-- The fault line is read off the site of the fault. -/
theorem outcome_faultLine (machine : Machine ν) :
    machine.outcome.faultLine = ((machine.fault.map Fault.site).bind Prod.snd).getD 0 := by
  rw [outcome]
  cases machine.fault with
  | none => rfl
  | some fault =>
    obtain ⟨cause, _ | position⟩ := fault <;> rfl

/-- Two machines are at the same point of a program under different names. -/
structure Corresponds (naming : Renaming) (first second : Machine ν) : Prop where
  counter : second.counter = first.counter
  status : second.status = first.status
  steps : second.steps = first.steps
  fault : second.fault.map Fault.site = first.fault.map Fault.site
  store : second.table.store = first.table.store.renamed naming
  names : ∀ name ∈ first.table.store.names, name.IsToken

/-- A machine and one that has its program under other names, with well-formed tables. -/
structure Lockstep (naming : Renaming) (filename : Text) (first second : Machine ν) : Prop where
  sourced : first.Sourced filename
  otherSourced : second.Sourced filename
  source : second.source = first.source.map naming.line
  formed : first.table.WellFormed
  otherFormed : second.table.WellFormed
  corresponds : Corresponds naming first second

namespace Lockstep

variable {naming : Renaming} {filename : Text} {first second : Machine ν}

theorem load (naming : Renaming) (filename : Text) (tracing : Bool) (lines : List Text) :
    Lockstep naming filename (.load filename tracing lines : Machine ν)
      (.load filename tracing (lines.map naming.line)) where
  sourced := sourced_load filename tracing lines
  otherSourced := sourced_load filename tracing (lines.map naming.line)
  source := by rw [source_load, source_load]
  formed := Table.wellFormed_empty
  otherFormed := Table.wellFormed_empty
  corresponds := ⟨rfl, rfl, rfl, rfl, rfl, fun _ member => absurd member List.not_mem_nil⟩

theorem size (lockstep : Lockstep naming filename first second) :
    second.program.size = first.program.size := by
  simpa [Machine.source] using congrArg List.length lockstep.source

/-- A line and the line at the same place of the other program. -/
theorem line (lockstep : Lockstep naming filename first second) {place : Nat} {line : Line}
    (current : first.program[place]? = some line) :
    ∃ other, second.program[place]? = some other ∧ other.command = line.command ∧
      other.arguments = naming.arguments line.command line.arguments ∧
      other.position.line = line.position.line ∧ ∀ word ∈ line.arguments, word.IsToken := by
  obtain ⟨text, textAt, rfl⟩ := lockstep.sourced.line current
  refine ⟨.parse filename (naming.line text) (place + 1), ?_,
    Line.parse_renaming_command naming filename text _,
    Line.parse_renaming_arguments naming filename text _, by simp,
    fun word => Line.isToken_of_mem_arguments⟩
  rw [← Array.getElem?_toList, lockstep.otherSourced.parsed, Line.parseAll_getElem?,
    lockstep.source, List.getElem?_map, textAt]
  rfl

/-- The symbols are the same up to their names. -/
theorem symbols (lockstep : Lockstep naming filename first second) :
    second.table.symbols = first.table.symbols.map fun symbol =>
      { symbol with name := naming.apply symbol.name } := by
  rw [lockstep.otherFormed.symbols_eq, lockstep.corresponds.store, lockstep.formed.symbols_eq]
  simp [Store.renamed, Function.comp_def]

end Lockstep

variable [Number ν]

section Turn

variable {machine after : Machine ν} {line : Line} {response : Response ν}

/-- Where the language gives an action, the machine goes where it leads. -/
theorem Turn.acted (formed : machine.table.WellFormed)
    (turn : machine.Turn line (Standard.set.dispatch line machine.table machine.program.size) after)
    (realizes : Realizes (Standard.set.dispatch line machine.table machine.program.size) response)
    {action : Action} (verdict : response.verdict = .ok action) :
    after.status = (if action = .halt then .halted else .running) ∧
      after.counter = next machine.counter action ∧ after.fault = machine.fault := by
  have replied := realizes.verdict
  rw [verdict] at replied
  cases turn with
  | advance acted status counter fault =>
    obtain rfl : action = .advance := by simpa [replied] using acted
    exact ⟨status, counter, fault⟩
  | jump target acted _ status counter fault =>
    obtain rfl : action = .jump target := by simpa [replied] using acted
    exact ⟨status, counter, fault⟩
  | halt acted status counter fault =>
    obtain rfl : action = .halt := by simpa [replied] using acted
    exact ⟨status, counter, fault⟩
  | fault failure rejected =>
    obtain ⟨cause, -, failed, -⟩ :=
      (Standard.dispatch_answer formed line machine.program.size).rejected rejected
    simp [failed, Reply.fail, Reply.ofVerdict] at replied

/-- Where the language finds a fault, the machine stops with a fault of that kind. -/
theorem Turn.refused
    (turn : machine.Turn line (Standard.set.dispatch line machine.table machine.program.size) after)
    (realizes : Realizes (Standard.set.dispatch line machine.table machine.program.size) response)
    {kind : FaultKind} (verdict : response.verdict = .error kind) :
    after.status = .faulted ∧ after.counter = machine.counter ∧
      after.fault.map Fault.site = some (kind, some line.position.line) := by
  have replied := realizes.verdict
  rw [verdict] at replied
  obtain ⟨cause, rfl, replied⟩ := replied
  cases turn with
  | advance acted | jump _ acted | halt acted => simp [replied] at acted
  | fault failure rejected status counter fault =>
    obtain rfl : Failure.ofCause cause = failure := by simpa [replied, rejection?] using rejected
    rw [locate_ofCause] at fault
    exact ⟨status, counter, by rw [fault]; rfl⟩

/-- Two machines at the same place, perhaps with different numbers, go the same way when the
language gives their lines the same verdict. -/
theorem Turn.together {μ : Type} [Number μ] {other otherAfter : Machine μ} {otherLine : Line}
    {otherResponse : Response μ} (formed : machine.table.WellFormed)
    (otherFormed : other.table.WellFormed)
    (turn : machine.Turn line (Standard.set.dispatch line machine.table machine.program.size) after)
    (otherTurn : other.Turn otherLine
      (Standard.set.dispatch otherLine other.table other.program.size) otherAfter)
    (realizes : Realizes (Standard.set.dispatch line machine.table machine.program.size) response)
    (otherRealizes : Realizes
      (Standard.set.dispatch otherLine other.table other.program.size) otherResponse)
    (sameVerdict : otherResponse.verdict = response.verdict)
    (sameCounter : other.counter = machine.counter)
    (sameFault : other.fault.map Fault.site = machine.fault.map Fault.site)
    (sameNumber : otherLine.position.line = line.position.line) :
    otherAfter.counter = after.counter ∧ otherAfter.status = after.status ∧
      otherAfter.fault.map Fault.site = after.fault.map Fault.site := by
  cases verdict : response.verdict with
  | ok action =>
    obtain ⟨status, counter, fault⟩ := turn.acted formed realizes verdict
    obtain ⟨otherStatus, otherCounter, otherFault⟩ :=
      otherTurn.acted otherFormed otherRealizes (sameVerdict.trans verdict)
    exact ⟨by rw [otherCounter, counter, sameCounter], otherStatus.trans status.symm,
      by rw [otherFault, fault, sameFault]⟩
  | error kind =>
    obtain ⟨status, counter, fault⟩ := turn.refused realizes verdict
    obtain ⟨otherStatus, otherCounter, otherFault⟩ :=
      otherTurn.refused otherRealizes (sameVerdict.trans verdict)
    exact ⟨by rw [otherCounter, counter, sameCounter], otherStatus.trans status.symm,
      by rw [otherFault, fault, sameNumber]⟩

end Turn

namespace Lockstep

variable {naming : Renaming} {filename : Text} {first second : Machine ν}

/-- One step keeps two machines at the same point. -/
theorem step_corresponds (lockstep : Lockstep naming filename first second) :
    Corresponds naming (first.step Standard.set) (second.step Standard.set) := by
  have same := lockstep.corresponds
  cases step_steppedBoth Standard.set Standard.set same.status same.counter lockstep.size with
  | stopped unchanged otherUnchanged =>
    rw [unchanged, otherUnchanged]
    exact same
  | left completed otherCompleted =>
    obtain ⟨records, completed⟩ := completed
    obtain ⟨otherRecords, otherCompleted⟩ := otherCompleted
    rw [completed, otherCompleted]
    exact ⟨same.counter, rfl, same.steps, same.fault, same.store, same.names⟩
  | executed running line other current otherCurrent frame otherFrame turn otherTurn =>
    obtain ⟨found, foundCurrent, sameCommand, arguments, sameNumber, tokens⟩ :=
      lockstep.line current
    obtain rfl : other = found := Option.some.inj (otherCurrent.symm.trans foundCurrent)
    obtain ⟨response, meaning, realizes⟩ :=
      Standard.dispatch_realizes lockstep.formed line first.program.size
    obtain ⟨otherResponse, otherMeaning, otherRealizes⟩ :=
      Standard.dispatch_realizes lockstep.otherFormed other second.program.size
    -- The language has one response to the renamed line, and it is the renamed response.
    obtain ⟨renamed, renamedMeaning, renames⟩ := meaning.renamed naming sameCommand arguments
    rw [same.store, lockstep.size] at otherMeaning
    obtain rfl := renamedMeaning.unique otherMeaning
    have store : (second.step Standard.set).table.store =
        (first.step Standard.set).table.store.renamed naming := by
      rw [otherFrame.table, otherRealizes.store, renames.store, frame.table, realizes.store]
    have names : ∀ name ∈ (first.step Standard.set).table.store.names, name.IsToken := by
      intro name member
      rw [frame.table, realizes.store] at member
      exact (List.mem_append.mp (meaning.names member)).elim (same.names name) (tokens name)
    have steps : (second.step Standard.set).steps = (first.step Standard.set).steps := by
      rw [otherFrame.steps, frame.steps, same.steps]
    obtain ⟨counter, status, fault⟩ := turn.together lockstep.formed lockstep.otherFormed
      otherTurn realizes otherRealizes renames.verdict same.counter same.fault sameNumber
    exact ⟨counter, status, steps, fault, store, names⟩

theorem step (lockstep : Lockstep naming filename first second) :
    Lockstep naming filename (first.step Standard.set) (second.step Standard.set) where
  sourced := (sourced_kept (· = Standard.set) filename).step rfl lockstep.sourced
  otherSourced := (sourced_kept (· = Standard.set) filename).step rfl lockstep.otherSourced
  source := by
    rw [Machine.source, (step_program Standard.set second).1, Machine.source,
      (step_program Standard.set first).1]
    exact lockstep.source
  formed := wellFormed_kept.step rfl lockstep.formed
  otherFormed := wellFormed_kept.step rfl lockstep.otherFormed
  corresponds := lockstep.step_corresponds

theorem iterate (lockstep : Lockstep naming filename first second) (count : Nat) :
    Lockstep naming filename ((Machine.step Standard.set)^[count] first)
      ((Machine.step Standard.set)^[count] second) := by
  induction count generalizing first second with
  | zero => exact lockstep
  | succ count inductionHypothesis =>
    rw [Function.iterate_succ_apply, Function.iterate_succ_apply]
    exact inductionHypothesis lockstep.step

end Lockstep

/-- Identifiers are opaque. A program whose identifiers are renamed runs in lock step with the
original: after every number of steps the two are at the same place, with the same status, count,
fault line and kind of fault, and the table of the one is the table of the other with each name,
which is always an identifier, replaced by its new name. -/
theorem renamed_in_lockstep (naming : Renaming) (filename : Text) (tracing : Bool)
    (lines : List Text) (count : Nat) :
    let first := (step Standard.set)^[count] (load filename tracing lines : Machine ν)
    let second := (step Standard.set)^[count]
      (load filename tracing (lines.map naming.line) : Machine ν)
    second.counter = first.counter ∧ second.outcome.status = first.outcome.status ∧
      second.outcome.steps = first.outcome.steps ∧
      second.outcome.faultLine = first.outcome.faultLine ∧
      second.outcome.fault.map (·.cause.kind) = first.outcome.fault.map (·.cause.kind) ∧
      (∀ symbol ∈ first.table.symbols, symbol.name.IsToken) ∧
      second.table.symbols = first.table.symbols.map fun symbol =>
        { symbol with name := naming.apply symbol.name } := by
  intro first second
  have lockstep := (Lockstep.load (ν := ν) naming filename tracing lines).iterate count
  have same := lockstep.corresponds
  have sameKind : second.fault.map (·.cause.kind) = first.fault.map (·.cause.kind) := by
    simpa [Function.comp_def, Fault.site] using congrArg (Option.map Prod.fst) same.fault
  refine ⟨same.counter, same.status, same.steps, ?_, sameKind, ?_, lockstep.symbols⟩
  · rw [outcome_faultLine, outcome_faultLine, same.fault]
  · intro symbol member
    apply same.names
    exact List.mem_map_of_mem (List.mem_map_of_mem member)

/-- A loop in which a name changes places with one that looks like a mnemonic. -/
theorem renamed_in_lockstep_swap :
    let name : Identifier := ⟨utf8 "x", by decide⟩
    let other : Identifier := ⟨utf8 "ADD", by decide⟩
    let naming : Renaming := (Equiv.swap name other).toEmbedding
    let lines := [utf8 "INTEGER x", utf8 "INTEGER ADD", utf8 "ASSIGN x -1", utf8 "ASSIGN ADD 1",
      utf8 "\tadd x  ADD # x", utf8 "IF x 5", utf8 "HEAD x ADD"]
    let renamed : Machine Int64 :=
      (step Standard.set)^[9] (load [] false (lines.map naming.line))
    lines.map naming.line = [utf8 "INTEGER ADD", utf8 "INTEGER x", utf8 "ASSIGN ADD -1",
      utf8 "ASSIGN x 1", utf8 "\tadd ADD  x # x", utf8 "IF ADD 5", utf8 "HEAD ADD x"] ∧
    renamed.outcome.status = .faulted ∧ renamed.outcome.faultLine = 7 ∧
      renamed.table.symbols.map Symbol.name = [utf8 "ADD", utf8 "x"] := by
  intro name other naming lines renamed
  obtain ⟨texts, faulted, seventh, names⟩ :
      lines.map naming.line = [utf8 "INTEGER ADD", utf8 "INTEGER x", utf8 "ASSIGN ADD -1",
        utf8 "ASSIGN x 1", utf8 "\tadd ADD  x # x", utf8 "IF ADD 5", utf8 "HEAD ADD x"] ∧
      ((step Standard.set)^[9] (load [] false lines : Machine Int64)).outcome.status = .faulted ∧
      ((step Standard.set)^[9] (load [] false lines : Machine Int64)).outcome.faultLine = 7 ∧
      ((step Standard.set)^[9] (load [] false lines : Machine Int64)).table.symbols.map
        (fun symbol => naming.apply symbol.name) = [utf8 "ADD", utf8 "x"] := by
    decide +kernel
  obtain ⟨-, status, -, faultLine, -, -, symbols⟩ :=
    renamed_in_lockstep (ν := Int64) naming [] false lines 9
  refine ⟨texts, status.trans faulted, faultLine.trans seventh, ?_⟩
  rw [symbols, List.map_map]
  exact names

end Machine
end LineMachine
