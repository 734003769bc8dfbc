import LineMachine.Proofs.Capitals
import LineMachine.Proofs.Feeding
import LineMachine.Proofs.Words
import Mathlib.Data.List.Induction

namespace LineMachine

namespace InstructionSet

variable {ν : Type}

/-- The entries are in increasing order of their names, each name once. -/
def Sorted (entries : List (Instruction ν)) : Prop :=
  entries.Pairwise fun first second => first.name < second.name

theorem mem_of_mem_insert {instruction entry : Instruction ν} {entries : List (Instruction ν)}
    (member : entry ∈ insert instruction entries) : entry = instruction ∨ entry ∈ entries := by
  induction entries with
  | nil => exact .inl (List.mem_singleton.mp member)
  | cons first rest inductionHypothesis =>
    rw [insert] at member
    split at member
    · exact List.mem_cons.mp member
    · split at member
      · rcases List.mem_cons.mp member with same | later
        · exact .inl same
        · exact .inr (List.mem_cons_of_mem first later)
      · rcases List.mem_cons.mp member with rfl | later
        · exact .inr List.mem_cons_self
        · exact (inductionHypothesis later).imp_right (List.mem_cons_of_mem first)

theorem Sorted.insert {entries : List (Instruction ν)} (sorted : Sorted entries)
    (instruction : Instruction ν) : Sorted (insert instruction entries) := by
  induction entries with
  | nil => exact List.pairwise_singleton _ _
  | cons first rest inductionHypothesis =>
    obtain ⟨least, sortedRest⟩ := List.pairwise_cons.mp sorted
    rw [InstructionSet.insert]
    split
    · rename_i below
      refine List.pairwise_cons.mpr ⟨?_, sorted⟩
      intro entry member
      rcases List.mem_cons.mp member with rfl | later
      · exact below
      · exact List.lt_trans below (least entry later)
    · split
      · rename_i same
        refine List.pairwise_cons.mpr ⟨?_, sortedRest⟩
        rw [same]
        exact least
      · rename_i notBelow other
        have above : first.name < instruction.name :=
          (List.le_iff_lt_or_eq.mp (List.not_lt.mp notBelow)).resolve_right (Ne.symm other)
        refine List.pairwise_cons.mpr ⟨?_, inductionHypothesis sortedRest⟩
        intro entry member
        rcases mem_of_mem_insert member with rfl | later
        · exact above
        · exact least entry later

theorem find?_unregister (set : InstructionSet ν) (name other : Text) :
    (set.unregister name).find? other = if name.upper = other then none else set.find? other := by
  rw [unregister, find?, List.find?_filter]
  split
  · rename_i same
    rw [List.find?_eq_none]
    simp [same]
  · rename_i different
    rw [find?]
    congr 1
    funext entry
    by_cases named : entry.name = other
    · simp [named, Ne.symm different]
    · simp [named]

/-- Removing what is not there changes nothing. -/
theorem unregister_of_get?_eq_none {set : InstructionSet ν} {name : Text}
    (unknown : set.get? name = none) : set.unregister name = set := by
  rw [get?, find?, List.find?_eq_none] at unknown
  rw [unregister, List.filter_eq_self.mpr]
  simpa using unknown

theorem mem_names_iff (set : InstructionSet ν) (name : Text) :
    name ∈ set.names ↔ ∃ entry, set.find? name = some entry := by
  rw [← Option.isSome_iff_exists, find?, List.find?_isSome, names]
  simp

/-- What an instruction set makes of the words of a line. -/
inductive Selection (ν : Type) where
  | unknown
  | miscounted (definition : Instruction ν)
  | called (definition : Instruction ν)

namespace Selection

/-- The reply to a line of which the selection is known. -/
def reply (line : Line) (table : Table ν) (length : Nat) : Selection ν → Reply ν
  | unknown => .fail table (.unknown line.command)
  | miscounted definition =>
    .fail table (.arity definition.name definition.arity line.arguments.length)
  | called definition =>
    definition.handler
      { arguments := line.arguments, position := line.position, table, programLength := length }

/-- The selection from what is found under the mnemonic. -/
def ofFound (count : Nat) : Option (Instruction ν) → Selection ν
  | none => unknown
  | some definition => if count = definition.arity then called definition else miscounted definition

section

variable (count : Nat) (found : Option (Instruction ν)) (definition : Instruction ν)

theorem ofFound_eq_unknown_iff : ofFound count found = unknown ↔ found = none := by
  cases found with
  | none => simp [ofFound]
  | some other => by_cases counted : (count : Int) = other.arity <;> simp [ofFound, counted]

theorem ofFound_eq_miscounted_iff :
    ofFound count found = miscounted definition ↔
      found = some definition ∧ definition.arity ≠ count := by
  cases found with
  | none => simp [ofFound]
  | some other =>
    by_cases counted : (count : Int) = other.arity <;> simp [ofFound, counted] <;> grind

theorem ofFound_eq_called_iff :
    ofFound count found = called definition ↔
      found = some definition ∧ definition.arity = count := by
  cases found with
  | none => simp [ofFound]
  | some other =>
    by_cases counted : (count : Int) = other.arity <;> simp [ofFound, counted] <;> grind

end

end Selection

/-- A line with an instruction is answered by the selection. -/
theorem dispatch_selected {line : Line} (instructed : ¬ line.isEmpty) (set : InstructionSet ν)
    (table : Table ν) (length : Nat) :
    set.dispatch line table length =
      (Selection.ofFound line.arguments.length (set.find? line.command)).reply line table length := by
  rw [dispatch, if_neg instructed]
  cases set.find? line.command with
  | none => rfl
  | some definition =>
    by_cases counted : (line.arguments.length : Int) = definition.arity <;>
      simp [Selection.ofFound, Selection.reply, counted]

end InstructionSet

/-- One change of what an interpreter knows. -/
inductive Registration (ν : Type) where
  | register (name : Text) (arity : Int) (handler : Handler ν)
  | unregister (name : Text)

namespace Registration

variable {ν : Type}

/-- The mnemonic that is registered or removed, in any case. -/
def name : Registration ν → Text
  | register name _ _ | unregister name => name

def apply (interpreter : Interpreter ν) : Registration ν → Interpreter ν
  | register name arity handler => interpreter.register name arity handler
  | unregister name => (interpreter.unregister name).1

/-- A definition is live after a history: it was registered, under a mnemonic in any case, and the
mnemonic did not occur since. -/
def Live (history : List (Registration ν)) (definition : Instruction ν) : Prop :=
  ∃ earlier name later,
    history = earlier ++ register name definition.arity definition.handler :: later ∧
      name.upper = definition.name ∧ ∀ change ∈ later, change.name.upper ≠ definition.name

/-- A change brings a definition to life, or leaves it alone. -/
theorem live_append_iff (history : List (Registration ν)) (change : Registration ν)
    (definition : Instruction ν) :
    Live (history ++ [change]) definition ↔
      (∃ name, change = register name definition.arity definition.handler ∧
        name.upper = definition.name) ∨
      (change.name.upper ≠ definition.name ∧ Live history definition) := by
  constructor
  · rintro ⟨earlier, name, later, split, named, untouched⟩
    rcases List.eq_nil_or_concat later with rfl | ⟨before, last, rfl⟩
    · obtain ⟨-, same⟩ := List.append_inj' split rfl
      exact .inl ⟨name, (List.cons.inj same).1, named⟩
    · rw [List.concat_eq_append, ← List.cons_append, ← List.append_assoc] at split
      obtain ⟨same, lastSame⟩ := List.append_inj' split rfl
      obtain rfl := (List.cons.inj lastSame).1
      refine .inr ⟨untouched change (by simp), earlier, name, before, same, named, ?_⟩
      intro other member
      exact untouched other (by simp [member])
  · rintro (⟨name, rfl, named⟩ | ⟨other, earlier, name, later, rfl, named, untouched⟩)
    · exact ⟨history, name, [], rfl, named, by simp⟩
    · refine ⟨earlier, name, later ++ [change], by simp, named, ?_⟩
      intro occurring member
      rcases List.mem_append.mp member with before | last
      · exact untouched occurring before
      · rwa [List.mem_singleton.mp last]

end Registration

namespace Interpreter

open InstructionSet Registration

variable {ν : Type}

/-- An interpreter after some changes of what it knows. -/
def registered (interpreter : Interpreter ν) (history : List (Registration ν)) : Interpreter ν :=
  history.foldl Registration.apply interpreter

theorem registered_append (interpreter : Interpreter ν) (history : List (Registration ν))
    (change : Registration ν) :
    interpreter.registered (history ++ [change]) = change.apply (interpreter.registered history) := by
  rw [registered, List.foldl_append]
  rfl

theorem unregister_eq (interpreter : Interpreter ν) (name : Text) :
    (interpreter.unregister name).1.instructions = interpreter.instructions.unregister name ∧
      (interpreter.unregister name).2 = (interpreter.instructions.get? name).isSome := by
  rw [unregister]
  split
  · rename_i known
    exact ⟨congrArg instructions (note_eq _ _), known.symm⟩
  · rename_i unknown
    rw [Bool.not_eq_true] at unknown
    rw [note_eq, unknown, unregister_of_get?_eq_none (by simpa using unknown)]
    exact ⟨rfl, rfl⟩

/-- The names stay in order and distinct. -/
theorem sorted_registered (settings : Settings) (history : List (Registration ν)) :
    Sorted ((bare settings).registered history).instructions.entries := by
  induction history using List.reverseRecOn with
  | nil => exact List.Pairwise.nil
  | append_singleton history change inductionHypothesis =>
    rw [registered_append]
    cases change with
    | register name arity handler =>
      rw [Registration.apply, register, note_eq]
      exact inductionHypothesis.insert _
    | unregister name =>
      rw [Registration.apply, (unregister_eq _ name).1]
      exact inductionHypothesis.filter _

/-- The definitions that are found are those that are live. -/
theorem find?_registered (settings : Settings) (history : List (Registration ν)) (key : Text)
    (definition : Instruction ν) :
    ((bare settings).registered history).instructions.find? key = some definition ↔
      Live history definition ∧ definition.name = key := by
  induction history using List.reverseRecOn with
  | nil =>
    simp [registered, bare, InstructionSet.empty, find?, Live]
  | append_singleton history change inductionHypothesis =>
    rw [registered_append, live_append_iff]
    cases change with
    | register name arity handler =>
      rw [Registration.apply, register, note_eq, find?_register]
      split
      · rename_i same
        constructor
        · rintro ⟨rfl⟩
          exact ⟨.inl ⟨name, rfl, rfl⟩, same⟩
        · rintro ⟨⟨other, ⟨rfl⟩, named⟩ | ⟨other, -⟩, rfl⟩
          · rw [named]
          · exact absurd same other
      · rename_i other
        rw [inductionHypothesis]
        constructor
        · rintro ⟨live, rfl⟩
          exact ⟨.inr ⟨other, live⟩, rfl⟩
        · rintro ⟨⟨again, ⟨rfl⟩, named⟩ | ⟨-, live⟩, rfl⟩
          · exact absurd named other
          · exact ⟨live, rfl⟩
    | unregister name =>
      rw [Registration.apply, (unregister_eq _ name).1, find?_unregister]
      split
      · rename_i same
        constructor
        · intro found
          contradiction
        · rintro ⟨⟨again, made, -⟩ | ⟨other, -⟩, rfl⟩
          · contradiction
          · exact absurd same other
      · rename_i other
        rw [inductionHypothesis]
        constructor
        · rintro ⟨live, rfl⟩
          exact ⟨.inr ⟨other, live⟩, rfl⟩
        · rintro ⟨⟨again, made, -⟩ | ⟨-, live⟩, rfl⟩
          · contradiction
          · exact ⟨live, rfl⟩

/-- The registry is coherent after every history of registrations and removals, in whatever case the
mnemonics are written. A line with words is answered by the live definition of its first word; it is
unknown when there is none, and miscounted when the definition wants another number of words. A
removal tells whether there was a live definition. The names are those of the live definitions, in
strictly increasing order, and each of them leads to a definition of that name. -/
theorem registry_coherent (settings : Settings) (history : List (Registration ν)) :
    let interpreter := (bare settings).registered history
    (∀ (filename text : Text) (number : Int) (mnemonic : Text) (arguments : List Text),
      (Line.code text).words = mnemonic :: arguments →
      ∃ selection : Selection ν,
        (∀ table length,
          interpreter.instructions.dispatch (Line.parse filename text number) table length =
            selection.reply (Line.parse filename text number) table length) ∧
        (selection = .unknown ↔
          ∀ definition, Live history definition → definition.name ≠ mnemonic.upper) ∧
        (∀ definition, selection = .miscounted definition ↔
          Live history definition ∧ definition.name = mnemonic.upper ∧
            definition.arity ≠ arguments.length) ∧
        ∀ definition, selection = .called definition ↔
          Live history definition ∧ definition.name = mnemonic.upper ∧
            definition.arity = arguments.length) ∧
    (∀ name, (interpreter.unregister name).2 = true ↔
      ∃ definition, Live history definition ∧ definition.name = name.upper) ∧
    interpreter.instructions.names.Pairwise (· < ·) ∧
    (∀ name, name ∈ interpreter.instructions.names ↔
      ∃ definition, Live history definition ∧ definition.name = name) ∧
    ∀ name ∈ interpreter.instructions.names,
      ∃ definition, interpreter.instructions.get? name = some definition ∧
        definition.name = name := by
  intro interpreter
  have found := find?_registered settings history
  refine ⟨?_, ?_, ?_, ?_, ?_⟩
  · intro filename text number mnemonic arguments words
    have command : (Line.parse filename text number).command = mnemonic.upper := by
      rw [Line.parse, words]
    have counted : (Line.parse filename text number).arguments = arguments := by
      rw [Line.parse, words]
    have instructed : ¬ (Line.parse filename text number).isEmpty := by
      rw [Line.parse_isEmpty_iff, ← Text.words_eq_nil_iff, words]
      exact List.cons_ne_nil mnemonic arguments
    refine ⟨_, dispatch_selected instructed interpreter.instructions, ?_⟩
    rw [command, counted]
    refine ⟨?_, fun definition => ?_, fun definition => ?_⟩
    · simp only [Selection.ofFound_eq_unknown_iff, Option.eq_none_iff_forall_ne_some, ne_eq, found,
        not_and, interpreter]
    · rw [Selection.ofFound_eq_miscounted_iff, found, and_assoc]
    · rw [Selection.ofFound_eq_called_iff, found, and_assoc]
  · intro name
    rw [(unregister_eq interpreter name).2, Option.isSome_iff_exists]
    exact exists_congr fun definition => found name.upper definition
  · exact List.pairwise_map.mpr (sorted_registered settings history)
  · intro name
    rw [mem_names_iff]
    exact exists_congr fun definition => found name definition
  · intro name listed
    obtain ⟨definition, named⟩ := (mem_names_iff _ _).mp listed
    obtain ⟨live, rfl⟩ := (found name definition).mp named
    obtain ⟨earlier, written, later, -, upper, -⟩ := live
    rw [get?, ← upper, Text.upper_upper, upper]
    exact ⟨definition, named, rfl⟩

/-- A mnemonic that is registered again with a long s is answered by the second definition, and one
stray byte stands for every other. -/
theorem registry_coherent_lookalikes :
    let first : Handler Int64 := fun call => .ofVerdict call.table (.ok none)
    let second : Handler Int64 := fun call => .ofVerdict call.table (.ok (some .halt))
    let history := [.register (utf8 "set") 0 first, .register (utf8 "ſet") 1 second,
      .register [0xFE] 0 first, .register (utf8 "gone") 0 first, .unregister (utf8 "Gone")]
    let set := ((bare {}).registered history).instructions
    ∀ table length,
      set.dispatch (Line.parse [] (utf8 " sEt x # y") 1) table length =
        .ofVerdict table (.ok (some .halt)) ∧
      set.dispatch (Line.parse [] [0xFF] 1) table length = .ofVerdict table (.ok none) := by
  intro first second history set table length
  obtain ⟨selects, -⟩ := registry_coherent {} history
  obtain ⟨words, otherWords, upper, otherUpper, untouched, otherUntouched⟩ :
      (Line.code (utf8 " sEt x # y")).words = [utf8 "sEt", utf8 "x"] ∧
      (Line.code [0xFF]).words = [[0xFF]] ∧ (utf8 "ſet").upper = (utf8 "sEt").upper ∧
      Text.upper [0xFE] = Text.upper [0xFF] ∧
      (∀ change ∈ history.drop 2, change.name.upper ≠ (utf8 "sEt").upper) ∧
      ∀ change ∈ history.drop 3, change.name.upper ≠ Text.upper [0xFF] := by
    decide +kernel
  obtain ⟨selection, replies, -, -, called⟩ := selects [] _ 1 _ _ words
  obtain ⟨otherSelection, otherReplies, -, -, otherCalled⟩ := selects [] _ 1 _ _ otherWords
  have live : Live history ⟨_, 1, second⟩ :=
    ⟨history.take 1, _, history.drop 2, rfl, upper, untouched⟩
  have otherLive : Live history ⟨_, 0, first⟩ :=
    ⟨history.take 2, _, history.drop 3, rfl, otherUpper, otherUntouched⟩
  rw [replies, (called _).mpr ⟨live, rfl, rfl⟩, otherReplies,
    (otherCalled _).mpr ⟨otherLive, rfl, rfl⟩]
  exact ⟨rfl, rfl⟩

end Interpreter
end LineMachine
