import LineMachine.Proofs.Refinement
import LineMachine.Proofs.Source
import Mathlib.Logic.Embedding.Basic

namespace LineMachine

/-- Every token can be an identifier. -/
abbrev Identifier := { text : Text // text.IsToken }

/-- A renaming gives different identifiers different new names. -/
abbrev Renaming := Identifier ↪ Identifier

/-- How many of its first arguments an operation takes as identifiers. -/
def Operation.identifiers : Operation → Nat
  | .halt | .printAll => 0
  | .integer | .list | .assign | .changeSign | .branch | .print => 1
  | .add | .copy | .merge | .head | .tail => 2

namespace Renaming

variable (naming : Renaming)

/-- The new name of a word. What is no identifier stays as it is. -/
def apply (word : Text) : Text := if token : word.IsToken then naming ⟨word, token⟩ else word

theorem isToken_apply {word : Text} (token : word.IsToken) : (naming.apply word).IsToken := by
  rw [apply, dif_pos token]
  exact (naming ⟨word, token⟩).property

theorem apply_injective : Function.Injective naming.apply := by
  -- Identifiers go to identifiers and other words to themselves, so the two sorts never meet.
  have token_iff (word : Text) : (naming.apply word).IsToken ↔ word.IsToken := by
    refine ⟨fun renamed => ?_, naming.isToken_apply⟩
    by_contra other
    rw [apply, dif_neg other] at renamed
    exact other renamed
  intro first second same
  have sameToken : first.IsToken ↔ second.IsToken := by rw [← token_iff, same, token_iff]
  by_cases token : first.IsToken
  · rw [apply, apply, dif_pos token, dif_pos (sameToken.mp token)] at same
    exact congrArg Subtype.val (naming.injective (Subtype.ext same))
  · rwa [apply, apply, dif_neg token, dif_neg (fun other => token (sameToken.mpr other))] at same

end Renaming

/-- The arguments of an operation with new identifiers. -/
def Operation.renamed (operation : Operation) (naming : Renaming) (arguments : List Text) :
    List Text :=
  Text.applyEach (List.replicate operation.identifiers naming.apply) arguments

namespace Renaming

variable (naming : Renaming)

/-- The arguments of a command with new names. A word that is no mnemonic has no identifiers. -/
def arguments (command : Text) (arguments : List Text) : List Text :=
  match Standard.operation? command with
  | some operation => operation.renamed naming arguments
  | none => arguments

/-- The line with its identifiers renamed; blanks, literals and comment stay. -/
def line (text : Text) : Text :=
  match Standard.operation? (Line.parse [] text 0).command with
  | some operation =>
    Line.rewrite (id :: List.replicate operation.identifiers naming.apply) text
  | none => text

end Renaming

namespace Line

/-- The words of a renamed line. -/
theorem words_renaming (naming : Renaming) (text : Text) :
    (code (naming.line text)).words =
      match Standard.operation? (parse [] text 0).command with
      | some operation => Text.applyEach
          (id :: List.replicate operation.identifiers naming.apply) (code text).words
      | none => (code text).words := by
  rw [Renaming.line]
  cases Standard.operation? (parse [] text 0).command with
  | none => rfl
  | some operation =>
    apply words_rewrite
    intro change member word token
    rcases List.mem_cons.mp member with rfl | replicated
    · exact token
    · rw [List.eq_of_mem_replicate replicated]
      exact naming.isToken_apply token

theorem parse_renaming_command (naming : Renaming) (filename text : Text) (number : Int) :
    (parse filename (naming.line text) number).command = (parse filename text number).command := by
  rw [parse_command, parse_command, words_renaming]
  cases Standard.operation? (parse [] text 0).command with
  | none => rfl
  | some operation => cases (code text).words <;> rfl

theorem parse_renaming_arguments (naming : Renaming) (filename text : Text) (number : Int) :
    (parse filename (naming.line text) number).arguments =
      naming.arguments (parse filename text number).command
        (parse filename text number).arguments := by
  have sameCommand : (parse [] text 0).command = (parse filename text number).command := by
    rw [parse_command, parse_command]
  rw [parse_arguments, parse_arguments, words_renaming, sameCommand, Renaming.arguments]
  cases Standard.operation? (parse filename text number).command with
  | none => rfl
  | some operation => cases (code text).words <;> simp [Operation.renamed, Text.applyEach]

end Line

namespace Store

variable {ν : Type} (store : Store ν) (naming : Renaming)

/-- The store with new names. -/
def renamed : Store ν := store.map fun (name, value) => (naming.apply name, value)

theorem lookup_renamed (name : Text) :
    (store.renamed naming).lookup (naming.apply name) = store.lookup name := by
  induction store with
  | nil => rfl
  | cons first rest inductionHypothesis =>
    obtain ⟨other, value⟩ := first
    simp only [renamed, List.map_cons, List.lookup_cons] at inductionHypothesis ⊢
    rw [inductionHypothesis]
    by_cases same : name = other
    · simp [same]
    · have different : naming.apply name ≠ naming.apply other := naming.apply_injective.ne same
      simp only [beq_eq_false_iff_ne.mpr same, beq_eq_false_iff_ne.mpr different]

theorem assign_renamed (name : Text) (value : Value ν) :
    (store.renamed naming).assign (naming.apply name) value =
      (store.assign name value).renamed naming := by
  simp [renamed, assign, naming.apply_injective.eq_iff]

/-- The declared names in order. -/
def names : List Text := store.map Prod.fst

theorem names_assign (name : Text) (value : Value ν) :
    (store.assign name value).names = store.names := by
  simp [names, assign]

end Store

namespace Requirement

variable {ν : Type} (naming : Renaming)

/-- The requirement under new names; tokens that are read as numbers stay. -/
def renamed : Requirement → Requirement
  | .fresh name => .fresh (naming.apply name)
  | .declared name => .declared (naming.apply name)
  | .ofKind name kind => .ofKind (naming.apply name) kind
  | .filled name => .filled (naming.apply name)
  | .fitsHead target source => .fitsHead (naming.apply target) (naming.apply source)
  | .literal token => .literal token
  | .lineNumber token => .lineNumber token
  | .inProgram token => .inProgram token

theorem fault_renamed (requirement : Requirement) :
    (requirement.renamed naming).fault = requirement.fault := by
  cases requirement <;> rfl

theorem isMet_renamed (store : Store ν) (length : Nat) (requirement : Requirement) :
    (requirement.renamed naming).isMet (store.renamed naming) length =
      requirement.isMet store length := by
  cases requirement <;> simp only [renamed, isMet, Store.lookup_renamed]

end Requirement

namespace Operation

theorem length_renamed (operation : Operation) (naming : Renaming) (arguments : List Text) :
    (operation.renamed naming arguments).length = arguments.length := by
  rw [renamed]
  generalize operation.identifiers = count
  induction count generalizing arguments with
  | zero => simp [Text.applyEach]
  | succ count inductionHypothesis =>
    cases arguments with
    | nil => rfl
    | cons first rest => simp [List.replicate_succ, Text.applyEach, inductionHypothesis]

theorem requirements_renamed (operation : Operation) (naming : Renaming) (arguments : List Text) :
    operation.requirements (operation.renamed naming arguments) =
      (operation.requirements arguments).map (Requirement.renamed naming) := by
  rcases arguments with _ | ⟨first, _ | ⟨second, _ | ⟨third, rest⟩⟩⟩ <;> cases operation <;> rfl

end Operation

variable {ν : Type} [Number ν]

/-- A response under new names. What is printed may show the names. -/
structure Response.Renames (naming : Renaming) (response other : Response ν) : Prop where
  store : other.store = response.store.renamed naming
  verdict : other.verdict = response.verdict

section

variable {store : Store ν} {length : Nat} {operation : Operation} {arguments : List Text}
  {response : Response ν} (naming : Renaming)

theorem Performs.renamed (performs : Performs store operation arguments response) :
    ∃ other, Performs (store.renamed naming) operation (operation.renamed naming arguments) other ∧
      response.Renames naming other := by
  have held {name : Text} {value : Value ν} (held : store.lookup name = some value) :
      (store.renamed naming).lookup (naming.apply name) = some value :=
    (store.lookup_renamed naming name).trans held
  have assigned := store.assign_renamed naming
  cases performs with
  | integer name => exact ⟨_, .integer (naming.apply name), by simp [Store.renamed], rfl⟩
  | list name => exact ⟨_, .list (naming.apply name), by simp [Store.renamed], rfl⟩
  | assign read => exact ⟨_, .assign read, assigned _ _, rfl⟩
  | changeSign amount => exact ⟨_, .changeSign (held amount), assigned _ _, rfl⟩
  | add first second => exact ⟨_, .add (held first) (held second), assigned _ _, rfl⟩
  | copy items => exact ⟨_, .copy (held items), assigned _ _, rfl⟩
  | merge value items => exact ⟨_, .merge (held value) (held items), assigned _ _, rfl⟩
  | head items => exact ⟨_, .head (held items), assigned _ _, rfl⟩
  | tail items => exact ⟨_, .tail (held items), assigned _ _, rfl⟩
  | jumpOnZero amount zero read => exact ⟨_, .jumpOnZero (held amount) zero read, rfl, rfl⟩
  | jumpOnEmpty items read => exact ⟨_, .jumpOnEmpty (held items) read, rfl, rfl⟩
  | passNumber amount other => exact ⟨_, .passNumber (held amount) other, rfl, rfl⟩
  | passList items => exact ⟨_, .passList (held items), rfl, rfl⟩
  | halt => exact ⟨_, .halt, rfl, rfl⟩
  | print value => exact ⟨_, .print (held value), rfl, rfl⟩
  | printAll => exact ⟨_, .printAll, rfl, rfl⟩

theorem Executes.renamed (executes : Executes store length operation arguments response) :
    ∃ other, Executes (store.renamed naming) length operation (operation.renamed naming arguments)
      other ∧ response.Renames naming other := by
  have sameLength := operation.length_renamed naming arguments
  have sameRequirements := operation.requirements_renamed naming arguments
  cases executes with
  | miscounted wrong => exact ⟨_, .miscounted (by rwa [sameLength]), rfl, rfl⟩
  | @refused requirement enough first =>
    have found : (operation.requirements (operation.renamed naming arguments)).find?
        (fun requirement => !requirement.isMet (store.renamed naming) length) =
          some (requirement.renamed naming) := by
      rw [sameRequirements, List.find?_map]
      simp only [Function.comp_def, Requirement.isMet_renamed, first, Option.map_some]
    exact ⟨_, .refused (sameLength.trans enough) found, rfl,
      congrArg Except.error (requirement.fault_renamed naming)⟩
  | performed enough met performs =>
    obtain ⟨other, otherPerforms, renames⟩ := performs.renamed naming
    refine ⟨other, .performed (sameLength.trans enough) ?_ otherPerforms, renames⟩
    rw [sameRequirements]
    intro requirement member
    obtain ⟨original, required, rfl⟩ := List.mem_map.mp member
    rw [Requirement.isMet_renamed]
    exact met original required

end

/-- The language does not look at names: a line with renamed identifiers means on a renamed store
what the line means on the store. -/
theorem Meaning.renamed {line other : Line} {store : Store ν} {length : Nat} {response : Response ν}
    (naming : Renaming) (sameCommand : other.command = line.command)
    (arguments : other.arguments = naming.arguments line.command line.arguments)
    (meaning : Meaning line store length response) :
    ∃ otherResponse, Meaning other (store.renamed naming) length otherResponse ∧
      response.Renames naming otherResponse := by
  have sameEmpty : other.isEmpty = line.isEmpty := congrArg List.isEmpty sameCommand
  cases meaning with
  | blank empty => exact ⟨_, .blank (sameEmpty.trans empty), rfl, rfl⟩
  | unknown instructed unnamed =>
    exact ⟨_, .unknown (by rwa [sameEmpty]) (by rwa [sameCommand]), rfl, rfl⟩
  | known named executes =>
    obtain ⟨otherResponse, otherExecutes, renames⟩ := executes.renamed naming
    simp only [Renaming.arguments, named] at arguments
    rw [← arguments] at otherExecutes
    exact ⟨otherResponse, .known (by rw [sameCommand, named]) otherExecutes, renames⟩

section

variable {store : Store ν} {response : Response ν}

/-- No name comes from anywhere but the arguments of an operation. -/
theorem Performs.names {operation : Operation} {arguments : List Text}
    (performs : Performs store operation arguments response) :
    response.store.names ⊆ store.names ++ arguments := by
  cases performs with
  | integer name | list name => simp [Store.names]
  | assign | changeSign | add | copy | merge | head | tail =>
    rw [Store.names_assign]
    exact List.subset_append_left _ _
  | jumpOnZero | jumpOnEmpty | passNumber | passList | halt | print | printAll =>
    exact List.subset_append_left _ _

theorem Meaning.names {line : Line} {length : Nat} (meaning : Meaning line store length response) :
    response.store.names ⊆ store.names ++ line.arguments := by
  cases meaning with
  | blank | unknown => exact List.subset_append_left _ _
  | known _ executes =>
    cases executes with
    | miscounted | refused => exact List.subset_append_left _ _
    | performed _ _ performs => exact performs.names

end

end LineMachine
