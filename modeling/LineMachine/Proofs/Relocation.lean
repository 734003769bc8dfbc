import LineMachine.Proofs.Decimals
import LineMachine.Proofs.Growth
import Mathlib.Data.List.Forall2

namespace LineMachine

/-- A target before and after a new line gets a number in a program of some length. A target from
that number up to the last line is raised by one, and every other word stays. -/
def Text.Retargets (number length : Nat) (token moved : Text) : Prop :=
  match token.toInt64? with
  | some target =>
    if number ≤ target ∧ target ≤ length then moved.toInt64? = some (target + 1) else moved = token
  | none => moved = token

/-- The words of a line before and after a new line gets a number in a program of some length. The
target of a branch is adapted, and all else stays. -/
inductive Relocates (number length : Nat) : List Text → List Text → Prop where
  | branch {mnemonic name token moved : Text} (rest : List Text)
    (named : Standard.operation? mnemonic.upper = some .branch)
    (retargets : token.Retargets number length moved) :
    Relocates number length (mnemonic :: name :: token :: rest) (mnemonic :: name :: moved :: rest)
  | other {words : List Text}
    (untargeted : ∀ mnemonic name token, words = [mnemonic, name, token] →
      Standard.operation? mnemonic.upper ≠ some .branch) :
    Relocates number length words words

/-- A text with the words of a line that is relocated. -/
def Line.Relocated (number length : Nat) (text moved : Text) : Prop :=
  Relocates number length (code text).words (code moved).words

/-- The decimal form of an adapted target. -/
def Text.retarget (number length : Nat) (token : Text) : Text :=
  match token.toInt64? with
  | some target => if number ≤ target ∧ target ≤ length then ofInt (target + 1) else token
  | none => token

/-- The line with its target adapted in place; blanks and comment stay. -/
def Line.relocate (number length : Nat) (text : Text) : Text :=
  if Standard.operation? (parse [] text 0).command = some .branch then
    rewrite [id, id, Text.retarget number length] text
  else text

namespace Text

theorem isToken_retarget (number length : Nat) {token : Text} (isToken : token.IsToken) :
    (token.retarget number length).IsToken := by
  rw [retarget]
  split
  · split
    · exact isToken_ofInt _
    · exact isToken
  · exact isToken

/-- The adapted target can be read, because the longer program still has its length in a word. -/
theorem retargets_retarget {number length : Nat} (fits : length + 1 < wordLimit) (token : Text) :
    token.Retargets number length (token.retarget number length) := by
  rw [Retargets, retarget]
  cases read : token.toInt64? with
  | none => rfl
  | some target =>
    by_cases behind : number ≤ target ∧ target ≤ length
    · simp only [behind, and_self, if_true]
      exact toInt64?_ofInt (by omega)
    · simp only [behind, if_false]

end Text

/-- A line that is changed in place is relocated. -/
theorem Line.relocated_relocate {number length : Nat} (fits : length + 1 < Text.wordLimit)
    (text : Text) : Relocated number length text (relocate number length text) := by
  have command := parse_command [] text 0
  rw [Relocated, relocate]
  split
  · rename_i named
    have kept : ∀ change ∈ [id, id, Text.retarget number length], ∀ word : Text,
        word.IsToken → Text.IsToken (change word) := by
      intro change member word token
      simp only [List.mem_cons, List.not_mem_nil, or_false] at member
      rcases member with rfl | rfl | rfl
      · exact token
      · exact token
      · exact Text.isToken_retarget number length token
    rw [words_rewrite kept]
    rw [command] at named
    -- Only the third word is changed, and fewer words have no target.
    generalize (code text).words = words at named
    rcases words with _ | ⟨mnemonic, _ | ⟨name, _ | ⟨token, rest⟩⟩⟩
    · exact .other (by simp)
    · exact .other (by simp)
    · exact .other (by simp)
    · exact .branch rest named (Text.retargets_retarget fits token)
  · rename_i unnamed
    refine .other fun mnemonic name token words named => unnamed ?_
    rw [command, words]
    exact named

/-- The place of a line after a new line has been inserted at a place. -/
def shifted (place counter : Nat) : Nat := if counter < place then counter else counter + 1

/-- Where an action leads after a new line has been inserted at a place. -/
def Action.relocated (place : Nat) : Action → Action
  | .jump target => .jump (if target < place then target else target + 1)
  | .advance => .advance
  | .halt => .halt

namespace Operation

variable {ν : Type} [Number ν] {table : Table ν} {arguments : List Text}

/-- No operation but a branch jumps. -/
theorem effect_relocated {operation : Operation} (other : operation ≠ .branch) (place : Nat) :
    (operation.effect table arguments).action.relocated place =
      (operation.effect table arguments).action := by
  unfold effect
  split
  all_goals first | rfl | exact absurd rfl other

/-- A branch with an adapted target passes its checks in the longer program and leads to the place
where the line of its target has gone. -/
theorem branch_relocated {place length : Nat} {name token moved : Text}
    (passed : branch.failure? [name, token] table length = none)
    (retargets : token.Retargets (place + 1) length moved) :
    branch.failure? [name, moved] table (length + 1) = none ∧
      (branch.effect table [name, moved]).table = (branch.effect table [name, token]).table ∧
      (branch.effect table [name, moved]).printed = (branch.effect table [name, token]).printed ∧
      (branch.effect table [name, moved]).action =
        (branch.effect table [name, token]).action.relocated place := by
  rw [failure?, List.findSome?_eq_none_iff] at passed
  have declared := passed (.declared name) (by simp [checks])
  have numbered := passed (.lineLiteral token) (by simp [checks])
  have within := passed (.lineWithin token) (by simp [checks])
  simp only [Check.failure?] at declared numbered within
  cases read : token.toInt64? with
  | none => simp [read] at numbered
  | some target =>
    simp only [read, ite_eq_left_iff, reduceCtorEq, imp_false, not_not] at numbered within
    obtain ⟨reached, movedRead, back⟩ : ∃ reached : Int, moved.toInt64? = some reached ∧
        reached = if target ≤ place then target else target + 1 := by
      rw [Text.Retargets, read] at retargets
      by_cases behind : (place : Int) + 1 ≤ target
      · refine ⟨target + 1, ?_, by rw [if_neg (by omega)]⟩
        simpa [behind, within] using retargets
      · refine ⟨target, ?_, by rw [if_pos (by omega)]⟩
        have same : moved = token := by simpa [behind] using retargets
        rw [same, read]
    have positive : 1 ≤ reached := by split at back <;> omega
    have inside : reached ≤ (length : Int) + 1 := by split at back <;> omega
    refine ⟨?_, ?_⟩
    · simp [failure?, checks, Check.failure?, declared, movedRead, positive, inside]
    · simp only [effect, movedRead, read, Option.getD_some]
      split
      · refine ⟨rfl, rfl, ?_⟩
        simp only [Action.relocated, Action.jump.injEq]
        split at back <;> split <;> omega
      · exact ⟨rfl, rfl, rfl⟩

end Operation

variable {ν : Type} [Number ν]

/-- A relocated line is answered like the line, up to where it leads. -/
theorem Standard.dispatch_relocated {table : Table ν} (formed : table.WellFormed)
    {place length : Nat} {line moved : Line} {words movedWords : List Text}
    (relocates : Relocates (place + 1) length words movedWords)
    (command : line.command = (words.head?.map Text.upper).getD [])
    (arguments : line.arguments = words.tail)
    (movedCommand : moved.command = (movedWords.head?.map Text.upper).getD [])
    (movedArguments : moved.arguments = movedWords.tail) {action : Action}
    (accepted : (set.dispatch line table length).verdict = .ok (some action)) :
    (set.dispatch moved table (length + 1)).table = (set.dispatch line table length).table ∧
      (set.dispatch moved table (length + 1)).printed = (set.dispatch line table length).printed ∧
      (set.dispatch moved table (length + 1)).verdict = .ok (some (action.relocated place)) := by
  have sameCommand : moved.command = line.command := by
    rw [movedCommand, command]
    cases relocates <;> rfl
  have answer := dispatch_answer formed line length
  generalize set.dispatch line table length = reply at answer accepted
  cases answer with
  | refused cause => simp [Reply.fail, Reply.ofVerdict] at accepted
  | blank empty =>
    have movedEmpty : moved.isEmpty := by rwa [Line.isEmpty, sameCommand]
    obtain rfl : .advance = action := by simpa [Reply.ofVerdict] using accepted
    rw [dispatch_eq formed, if_pos movedEmpty]
    exact ⟨rfl, rfl, rfl⟩
  | performed operation named enough passed =>
    have movedNamed : operation? moved.command = some operation := by rw [sameCommand, named]
    obtain rfl : (operation.effect table line.arguments).action = action := by
      simpa [Effect.reply] using accepted
    cases relocates with
    | branch rest isBranch retargets =>
      obtain rfl : .branch = operation := by
        rw [command] at named
        exact Option.some.inj (isBranch.symm.trans named)
      rw [arguments] at enough passed ⊢
      obtain rfl : rest = [] := by simpa [Operation.arity] using enough
      obtain ⟨movedPassed, sameTable, samePrinted, leads⟩ :=
        Operation.branch_relocated passed retargets
      rw [dispatch_operation formed movedNamed (by rw [movedArguments]; rfl), movedArguments]
      simp only [List.tail_cons, movedPassed]
      exact ⟨sameTable, samePrinted, by rw [Effect.reply, leads]⟩
    | other untargeted =>
      have stays : operation ≠ .branch := by
        rintro rfl
        obtain ⟨name, token, given⟩ := List.length_eq_two.mp enough
        cases words with
        | nil => simp [given] at arguments
        | cons mnemonic rest =>
          rw [command] at named
          refine untargeted mnemonic name token ?_ named
          rw [← given, arguments, List.tail_cons]
      have sameArguments : moved.arguments = line.arguments := movedArguments.trans arguments.symm
      rw [dispatch_operation formed movedNamed (by rw [sameArguments, enough]), sameArguments,
        Operation.failure?_grows (Nat.le_succ length) passed, Operation.effect_relocated stays]
      exact ⟨rfl, rfl, rfl⟩

namespace Machine

/-- The longer program has a line without an instruction at a place, and the lines of the shorter
one around it, relocated. -/
structure Opened (place : Nat) (short long : Array Line) : Prop where
  size : long.size = short.size + 1
  blank : ∃ line, long[place]? = some line ∧ line.isEmpty
  line : ∀ {counter line}, short[counter]? = some line → ∃ filename text moved number other,
    line = .parse filename text number ∧
    long[shifted place counter]? = some (.parse filename moved other) ∧
    Line.Relocated (place + 1) short.size text moved

/-- A machine with a program and one with the longer program are at the same point of a run, but for
their counters. -/
structure Abreast (place : Nat) (short long : Machine ν) : Prop where
  opened : Opened place short.program long.program
  formed : short.table.WellFormed
  table : long.table = short.table
  printed : long.printed = short.printed
  status : long.status = short.status

omit [Number ν] in
/-- The place of the new line is not behind the end of the shorter program. -/
theorem Opened.within {place : Nat} {short long : Array Line} (opened : Opened place short long) :
    place ≤ short.size := by
  obtain ⟨line, blankAt, -⟩ := opened.blank
  obtain ⟨inside, -⟩ := Array.getElem?_eq_some_iff.mp blankAt
  have := opened.size
  omega

omit [Number ν] in
/-- An action that is accepted leads in the longer program to where the next line has gone, or onto
the new line before it. -/
theorem next_relocated (place counter : Nat) (moved : Line) {line : Line} {length : Nat}
    {action : Action} (accepted : rejection? line length (.ok (some action)) = none) :
    rejection? moved (length + 1) (.ok (some (action.relocated place))) = none ∧
      (next (shifted place counter) (action.relocated place) = shifted place (next counter action) ∨
        next (shifted place counter) (action.relocated place) = place ∧
          next counter action = place ∧ action ≠ .halt) := by
  cases action with
  | advance =>
    refine ⟨rfl, ?_⟩
    by_cases before : counter + 1 = place
    · right
      simp only [next, shifted, Action.relocated]
      grind
    · left
      simp only [next, shifted, Action.relocated]
      grind
  | halt => exact ⟨rfl, .inl rfl⟩
  | jump target =>
    simp only [rejection?, ite_eq_left_iff, reduceCtorEq, imp_false, not_not] at accepted
    obtain ⟨target, rfl⟩ := Int.eq_ofNat_of_zero_le accepted.1
    by_cases before : target < place
    · have beforeInt : (target : Int) < place := Int.ofNat_lt.mpr before
      simp only [rejection?, Action.relocated, next, shifted, before, beforeInt, if_true,
        Int.toNat_natCast, true_or, and_true]
      exact if_pos (by omega)
    · have behindInt : ¬ (target : Int) < place := by omega
      simp only [rejection?, Action.relocated, next, shifted, before, behindInt, if_false,
        Int.toNat_natCast]
      exact ⟨if_pos (by omega), .inl rfl⟩

namespace Abreast

variable {place : Nat} {short long : Machine ν}

/-- The machine with the longer program passes over the new line. -/
theorem pass (abreast : Abreast place short long) (running : short.status = .running)
    (onBlank : long.counter = place) :
    Abreast place short (long.step Standard.set) ∧
      (long.step Standard.set).counter = place + 1 := by
  obtain ⟨line, blankAt, empty⟩ := abreast.opened.blank
  have formed : long.table.WellFormed := by
    rw [abreast.table]
    exact abreast.formed
  cases step_stepped Standard.set long with
  | stopped stopped => exact absurd (abreast.status.trans running) stopped
  | left _ outside =>
    rw [← onBlank, Array.getElem?_eq_none outside] at blankAt
    contradiction
  | executed _ other current frame turn =>
    rw [onBlank] at current
    obtain rfl : line = other := Option.some.inj (blankAt.symm.trans current)
    rw [Standard.dispatch_eq formed, if_pos empty] at frame turn
    obtain ⟨action, verdict, status, counter, printed⟩ := turn.performed rfl
    obtain rfl : .advance = action := by simpa [Reply.ofVerdict] using verdict
    refine ⟨⟨?_, abreast.formed, ?_, ?_, ?_⟩, ?_⟩
    · rw [frame.program]
      exact abreast.opened
    · rw [frame.table]
      exact abreast.table
    · rw [printed, ← abreast.printed]
      simp [Reply.ofVerdict]
    · rw [status, running]
      rfl
    · rw [counter, onBlank]
      rfl

/-- Wherever the machine with the longer program arrives, it gets to the line that the other one is
at. -/
theorem arrive (abreast : Abreast place short long)
    (near : long.counter = shifted place short.counter ∨
      long.counter = place ∧ short.counter = place ∧ short.status = .running) :
    ∃ count, Abreast place short ((Machine.step Standard.set)^[count] long) ∧
      ((Machine.step Standard.set)^[count] long).counter = shifted place short.counter := by
  rcases near with arrived | ⟨onBlank, before, running⟩
  · exact ⟨0, abreast, arrived⟩
  · obtain ⟨passed, counter⟩ := abreast.pass running onBlank
    refine ⟨1, passed, ?_⟩
    rw [Function.iterate_one, counter, before, shifted, if_neg (Nat.lt_irrefl place)]

/-- A line that is executed without a fault is executed in the same way in the longer program. -/
theorem execute (abreast : Abreast place short long)
    (counters : long.counter = shifted place short.counter) (running : short.status = .running)
    {line : Line} (current : short.program[short.counter]? = some line)
    (frame : short.Frame (Standard.set.dispatch line short.table short.program.size)
      (short.step Standard.set))
    (turn : short.Turn line (Standard.set.dispatch line short.table short.program.size)
      (short.step Standard.set))
    (sound : (short.step Standard.set).status ≠ .faulted) :
    ∃ count, Abreast place (short.step Standard.set) ((Machine.step Standard.set)^[count] long) ∧
      ((Machine.step Standard.set)^[count] long).counter =
        shifted place (short.step Standard.set).counter := by
  have accepted := turn.accepted sound
  obtain ⟨action, verdict, status, counter, printed⟩ := turn.performed accepted
  obtain ⟨filename, text, moved, number, other, rfl, movedAt, relocated⟩ :=
    abreast.opened.line current
  rw [← counters] at movedAt
  obtain ⟨sameTable, samePrinted, leads⟩ := Standard.dispatch_relocated abreast.formed relocated
    (Line.parse_command filename text number) (Line.parse_arguments filename text number)
    (Line.parse_command filename moved other) (Line.parse_arguments filename moved other) verdict
  cases step_stepped Standard.set long with
  | stopped stopped => exact absurd (abreast.status.trans running) stopped
  | left _ outside =>
    rw [Array.getElem?_eq_none outside] at movedAt
    contradiction
  | executed _ found foundAt movedFrame movedTurn =>
    obtain rfl := Option.some.inj (movedAt.symm.trans foundAt)
    rw [abreast.table, abreast.opened.size] at movedFrame movedTurn
    rw [verdict] at accepted
    obtain ⟨movedAccepted, near⟩ :=
      next_relocated place short.counter (.parse filename moved other) accepted
    obtain ⟨movedAction, movedVerdict, movedStatus, movedCounter, movedPrinted⟩ :=
      movedTurn.performed (by rwa [leads, abreast.opened.size])
    obtain rfl : action.relocated place = movedAction := by simpa [leads] using movedVerdict
    have sameHalt : action.relocated place = .halt ↔ action = .halt := by
      cases action <;> simp [Action.relocated]
    have reached : Abreast place (short.step Standard.set) (long.step Standard.set) := by
      refine ⟨?_, wellFormed_kept.step rfl abreast.formed, ?_, ?_, ?_⟩
      · rw [movedFrame.program, frame.program]
        exact abreast.opened
      · rw [movedFrame.table, sameTable, frame.table]
      · rw [movedPrinted, samePrinted, abreast.printed, printed]
      · rw [movedStatus, status]
        simp only [sameHalt]
    have arrives := reached.arrive (by
      rw [movedCounter, counters, counter, status]
      exact near.imp_right fun ⟨onBlank, before, unhalted⟩ =>
        ⟨onBlank, before, if_neg unhalted⟩)
    obtain ⟨count, abreast, arrived⟩ := arrives
    exact ⟨count + 1, by rwa [Function.iterate_succ_apply],
      by rwa [Function.iterate_succ_apply]⟩

/-- Where a machine steps without a fault, the one with the longer program follows it. -/
theorem step (abreast : Abreast place short long)
    (counters : long.counter = shifted place short.counter)
    (sound : (short.step Standard.set).status ≠ .faulted) :
    ∃ count, Abreast place (short.step Standard.set) ((Machine.step Standard.set)^[count] long) ∧
      ((Machine.step Standard.set)^[count] long).counter =
        shifted place (short.step Standard.set).counter := by
  cases step_stepped Standard.set short with
  | stopped _ unchanged =>
    rw [unchanged]
    exact ⟨0, abreast, counters⟩
  | executed running line current frame turn =>
    exact abreast.execute counters running current frame turn sound
  | left running outside completed =>
    obtain ⟨records, completed⟩ := completed
    have within := abreast.opened.within
    have size := abreast.opened.size
    have behind : long.program.size ≤ long.counter := by
      rw [counters, shifted, if_neg (by omega)]
      omega
    refine ⟨1, ?_⟩
    rw [Function.iterate_one]
    cases step_stepped Standard.set long with
    | stopped stopped => exact absurd (abreast.status.trans running) stopped
    | executed _ line current =>
      rw [Array.getElem?_eq_none behind] at current
      contradiction
    | left _ _ longCompleted =>
      obtain ⟨longRecords, longCompleted⟩ := longCompleted
      rw [completed, longCompleted]
      exact ⟨⟨abreast.opened, abreast.formed, abreast.table, abreast.printed, rfl⟩, counters⟩

/-- Where a machine goes without a fault, the one with the longer program can follow. -/
theorem run (abreast : Abreast place short long)
    (counters : long.counter = shifted place short.counter) (count : Nat)
    (sound : ((Machine.step Standard.set)^[count] short).status ≠ .faulted) :
    ∃ more, Abreast place ((Machine.step Standard.set)^[count] short)
        ((Machine.step Standard.set)^[more] long) ∧
      ((Machine.step Standard.set)^[more] long).counter =
        shifted place ((Machine.step Standard.set)^[count] short).counter := by
  induction count with
  | zero => exact ⟨0, abreast, counters⟩
  | succ count inductionHypothesis =>
    rw [Function.iterate_succ_apply'] at sound ⊢
    -- A faulted machine stays faulted, so there was no fault one step earlier.
    have soundBefore : ((Machine.step Standard.set)^[count] short).status ≠ .faulted := by
      intro faulted
      rw [step_of_stopped _ (by simp [faulted])] at sound
      exact sound faulted
    obtain ⟨more, followed, level⟩ := inductionHypothesis soundBefore
    obtain ⟨last, reached⟩ := followed.step level sound
    exact ⟨last + more, by rwa [Function.iterate_add_apply]⟩

end Abreast

omit [Number ν] in
/-- A loaded program and the program with a line inserted. -/
theorem opened_load (filename : Text) (tracing : Bool) {lines moved : List Text} {place : Nat}
    {blank : Text} (within : place ≤ lines.length)
    (isBlank : ∀ glyph ∈ (Line.code blank).glyphs, glyph.isBlank)
    (relocated : List.Forall₂ (Line.Relocated (place + 1) lines.length) lines moved) :
    Opened place (load filename tracing lines : Machine ν).program
      (load filename tracing (moved.insertIdx place blank) : Machine ν).program := by
  have sameLength := relocated.length_eq
  have size : (Line.parseAll filename lines).length = lines.length := by simp [Line.parseAll]
  refine ⟨?_, ⟨.parse filename blank (place + 1), ?_, ?_⟩, ?_⟩
  · simp only [load, List.size_toArray, Line.parseAll, List.length_mapIdx, List.length_insertIdx]
    rw [if_pos (by omega)]
    omega
  · simp only [load, List.getElem?_toArray, Line.parseAll_getElem?, List.getElem?_insertIdx]
    rw [if_neg (Nat.lt_irrefl place), if_pos trivial, if_pos (by omega)]
    rfl
  · exact (Line.parse_isEmpty_iff filename blank _).mpr isBlank
  · intro counter line current
    simp only [load, List.getElem?_toArray, Line.parseAll_getElem?] at current
    obtain ⟨text, textAt, rfl⟩ := Option.map_eq_some_iff.mp current
    obtain ⟨inside, rfl⟩ := List.getElem?_eq_some_iff.mp textAt
    have movedInside : counter < moved.length := by omega
    refine ⟨filename, lines[counter], moved[counter], _, (shifted place counter : Int) + 1, rfl,
      ?_, ?_⟩
    · simp only [load, List.getElem?_toArray, Line.parseAll_getElem?, List.getElem?_insertIdx]
      by_cases before : counter < place
      · simp only [shifted, before, if_true, List.getElem?_eq_getElem movedInside, Option.map_some]
      · have notBefore : ¬ counter + 1 < place := by omega
        have notAt : counter + 1 ≠ place := by omega
        simp only [shifted, before, if_false, notBefore, notAt, Nat.add_sub_cancel,
          List.getElem?_eq_getElem movedInside, Option.map_some]
    · have pair := relocated.get inside movedInside
      simpa [load, size] using pair

/-- Programs are relocatable. A program that runs without a fault runs in the same way with a line
inserted that has nothing but blanks before its comment, if the targets of its branches from there
on are raised by one: it comes to the same status, in particular to an end, with the same table and
output. Targets can be adapted in place, as long as the length of the longer program fits into a
word. -/
theorem relocatable (filename : Text) (tracing : Bool) (lines : List Text) {number : Nat}
    (positive : 1 ≤ number) (within : number ≤ lines.length + 1) {blank : Text}
    (isBlank : ∀ glyph ∈ (Line.code blank).glyphs, glyph.isBlank) {patience : Nat}
    (sound : ((load filename tracing lines : Machine ν).run Standard.set patience).status ≠
      .faulted) :
    (∀ moved, List.Forall₂ (Line.Relocated number lines.length) lines moved →
      ∃ more, let ran := (load filename tracing lines : Machine ν).run Standard.set patience
        let longer := (load filename tracing (moved.insertIdx (number - 1) blank) : Machine ν).run
          Standard.set more
        longer.status = ran.status ∧ longer.table = ran.table ∧ longer.printed = ran.printed) ∧
    (lines.length + 1 < Text.wordLimit →
      List.Forall₂ (Line.Relocated number lines.length) lines
        (lines.map (Line.relocate number lines.length))) := by
  obtain ⟨place, rfl⟩ : ∃ place, number = place + 1 := ⟨number - 1, by omega⟩
  constructor
  · intro moved relocated
    have ran (program : List Text) (count : Nat) :
        (load filename tracing program : Machine ν).run Standard.set count =
          ((step Standard.set)^[count] (load filename tracing program)).printFinal := by
      rw [run, resume_eq_iterate Standard.set count rfl]
    rw [ran] at sound
    have start : Abreast place (load filename tracing lines : Machine ν)
        (load filename tracing (moved.insertIdx place blank)) :=
      ⟨opened_load filename tracing (by omega) isBlank relocated, Table.wellFormed_empty, rfl, rfl,
        rfl⟩
    have near : 0 = shifted place 0 ∨ 0 = place ∧ 0 = place ∧ Status.running = .running := by
      cases place with
      | zero => exact .inr ⟨rfl, rfl, rfl⟩
      | succ place => exact .inl rfl
    obtain ⟨first, arrived, level⟩ := start.arrive near
    obtain ⟨more, reached, -⟩ := arrived.run level patience sound
    rw [← Function.iterate_add_apply] at reached
    refine ⟨more + first, ?_⟩
    simp only [ran, Nat.add_sub_cancel]
    refine ⟨reached.status, reached.table, ?_⟩
    simp only [printFinal, print, reached.printed, reached.table]
  · intro fits
    rw [List.forall₂_map_right_iff, List.forall₂_same]
    intro text _
    exact Line.relocated_relocate fits text

/-- A comment goes before the first line of a loop, to which the program jumps back. -/
theorem relocatable_loop :
    let lines := [utf8 "INTEGER c", utf8 "ASSIGN c -1", utf8 "INTEGER one", utf8 "ASSIGN one 1",
      utf8 "ADD c one", utf8 "PRINT c", utf8 "\tif c +5 # again", utf8 "HLT"]
    let longer := [utf8 "INTEGER c", utf8 "ASSIGN c -1", utf8 "INTEGER one", utf8 "ASSIGN one 1",
      utf8 " # loop", utf8 "ADD c one", utf8 "PRINT c", utf8 "\tif c 6 # again", utf8 "HLT"]
    (lines.map (Line.relocate 5 8)).insertIdx 4 (utf8 " # loop") = longer ∧
    ∃ more, let ran := (load [] false longer : Machine Int64).run Standard.set more
      ran.status = .halted ∧ ran.printed = #[utf8 "c = 0\n", utf8 "c = 1\n",
        utf8 "--- final state ---\nc (int) = 1\none (int) = 1\n--------------------\n"] := by
  intro lines longer
  obtain ⟨halted, printed, moved, isBlank⟩ :
      ((load [] false lines : Machine Int64).run Standard.set 12).status = .halted ∧
      ((load [] false lines : Machine Int64).run Standard.set 12).printed =
        #[utf8 "c = 0\n", utf8 "c = 1\n",
          utf8 "--- final state ---\nc (int) = 1\none (int) = 1\n--------------------\n"] ∧
      (lines.map (Line.relocate 5 8)).insertIdx 4 (utf8 " # loop") = longer ∧
      ∀ glyph ∈ (Line.code (utf8 " # loop")).glyphs, glyph.isBlank := by
    decide +kernel
  have sound : ((load [] false lines : Machine Int64).run Standard.set 12).status ≠ .faulted := by
    simp [halted]
  obtain ⟨runs, adapted⟩ :=
    relocatable [] false lines (by decide : 1 ≤ 5) (by decide) isBlank sound
  obtain ⟨more, status, -, output⟩ := runs _ (adapted (by decide))
  rw [show (lines.map (Line.relocate 5 lines.length)).insertIdx (5 - 1) (utf8 " # loop") = longer
    from moved] at status output
  exact ⟨moved, more, status.trans halted, output.trans printed⟩

end Machine
end LineMachine
