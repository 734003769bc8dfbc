import LineMachine.Cli.Command

namespace LineMachine.Cli

variable {World : Type}

/-- One action after another. -/
theorem run_then {α β : Type} (action : StateM World α) (next : α → StateM World β)
    (world : World) :
    (action >>= next).run world = (next (action.run world).1).run (action.run world).2 :=
  rfl

namespace Configuration

/-- The ways to colour messages. -/
def colors : List Text := [utf8 "auto", utf8 "always", utf8 "never"]

theorem validate_eq_none_iff (configuration : Configuration) :
    configuration.validate.2 = none ↔ normalizeColor configuration.color ∈ colors := by
  rw [← List.contains_iff_mem, validate, colors]
  simp only
  split
  · rename_i accepted
    exact iff_of_true rfl accepted
  · rename_i refused
    exact iff_of_false (Option.some_ne_none _) refused

/-- A colour that is accepted is normal. -/
theorem normalizeColor_of_mem {color : Text} (accepted : color ∈ colors) :
    normalizeColor color = color := by
  simp only [colors, List.mem_cons, List.not_mem_nil, or_false] at accepted
  rcases accepted with rfl | rfl | rfl <;> decide

/-- A colour is accepted if it is one of those known, or none, without the blanks around it and in
any case. -/
theorem normalizeColor_mem_iff (color : Text) :
    normalizeColor color ∈ colors ↔ color.trim.lower ∈ [] :: colors := by
  rw [normalizeColor]
  simp only [List.isEmpty_iff]
  split
  · rename_i none
    rw [none]
    exact iff_of_true (by decide) List.mem_cons_self
  · rename_i some
    exact (List.mem_cons.trans (or_iff_right some)).symm

/-- A colour that is not accepted is named in the error. -/
theorem validate_refused {configuration : Configuration}
    (refused : configuration.color.trim.lower ∉ [] :: colors) :
    configuration.validate =
      ({ configuration with color := configuration.color.trim.lower },
        some (.badColor configuration.color.trim.lower)) := by
  have normal : normalizeColor configuration.color = configuration.color.trim.lower := by
    have nonempty := List.ne_of_not_mem_cons refused
    rw [normalizeColor]
    simp [nonempty]
  have unknown : colors.contains configuration.color.trim.lower = false := by
    simpa using List.not_mem_of_not_mem_cons refused
  rw [validate, normal]
  simp only [show [utf8 "auto", utf8 "always", utf8 "never"] = colors from rfl, unknown]
  rfl

theorem validate_accepted {configuration : Configuration}
    (accepted : configuration.color.trim.lower ∈ [] :: colors) :
    configuration.validate =
      ({ configuration with color := normalizeColor configuration.color }, none) :=
  Prod.ext rfl ((validate_eq_none_iff configuration).mpr
    ((normalizeColor_mem_iff configuration.color).mpr accepted))

/-- Whatever a decoder makes of a file, the colour is checked. -/
theorem ofDelivery_accepted {decode : Decoder} {path : Text} {delivery : Delivery}
    (sound : (ofDelivery decode path delivery).2 = none) :
    normalizeColor (ofDelivery decode path delivery).1.color ∈ colors := by
  rw [ofDelivery] at sound ⊢
  cases decoded : decode {} delivery.bytes (delivery.failure.map (·.during "read" path)) with
  | error reason =>
    rw [decoded] at sound
    contradiction
  | ok configuration =>
    rw [decoded] at sound
    have accepted := (validate_eq_none_iff configuration).mp sound
    show normalizeColor (normalizeColor configuration.color) ∈ colors
    rwa [normalizeColor_of_mem accepted]

/-- What is loaded: the defaults where there is no path or no file, what the file says, or the
defaults with an error. -/
theorem load_cases (decode : Decoder) (storage : Storage (StateM World)) (path : Text)
    (world : World) :
    let loaded := ((load decode storage path).run world).1
    loaded = ({}, none) ∨ (∃ delivery, loaded = ofDelivery decode path delivery) ∨
      ∃ error, loaded = ({}, some (.unreadable path error)) := by
  intro loaded
  have loads : loaded = ((load decode storage path).run world).1 := rfl
  rw [load] at loads
  split at loads
  · exact .inl loads
  · rw [run_then] at loads
    generalize (storage.fetch path).run world = fetched at loads
    obtain ⟨result, reached⟩ := fetched
    cases result with
    | ok delivery => exact .inr (.inl ⟨delivery, loads⟩)
    | error failure =>
      cases failure with
      | notFound =>
        simp only [run_then] at loads
        split at loads <;> exact .inl loads
      | _ => exact .inr (.inr ⟨_, loads⟩)

/-- A configuration that is loaded without an error has an accepted colour, whatever the disk holds
and whatever the decoder makes of it. -/
theorem load_accepted (decode : Decoder) (storage : Storage (StateM World)) (path : Text)
    (world : World) (sound : ((load decode storage path).run world).1.2 = none) :
    normalizeColor ((load decode storage path).run world).1.1.color ∈ colors := by
  rcases load_cases decode storage path world with default | ⟨delivery, said⟩ | ⟨error, failed⟩
  · rw [default]
    decide
  · rw [said] at sound ⊢
    exact ofDelivery_accepted sound
  · rw [failed] at sound
    contradiction

end Configuration

namespace Command

open LineMachine.Cli.Configuration

/-- What the command loads, with the world afterwards. -/
def loading (environment : Environment (StateM World)) (invocation : Invocation)
    (options : Options) (world : World) :
    (Configuration × Option ConfigurationError) × World :=
  (load environment.decode environment.storage
    (options.config.getD (defaultPath invocation.home))).run world

section

variable {environment : Environment (StateM World)} {invocation : Invocation} {options : Options}
  {world : World} {configuration : Configuration}

/-- The command warns and does its task under a valid configuration. -/
theorem run_accepted (parsed : Options.parse invocation.arguments = .ok options)
    (unlicensed : options.license = false)
    (accepted : (override options
      (usable (loading environment invocation options world).1)).validate = (configuration, none))
    (patience : Nat) :
    let loaded := loading environment invocation options world
    let performed := perform patience invocation.consoleColor
      (isColored invocation.supportsColor configuration) configuration
      ((task patience environment options).run loaded.2).1
    ((run patience environment invocation).run world).1 =
      { performed with
        errors := warning invocation.supportsColor loaded.1.2 ++ performed.errors } := by
  intro loaded performed
  rw [run, parsed]
  simp only [unlicensed, Bool.false_eq_true, if_false, run_then]
  rw [loading] at accepted
  simp only [accepted]
  rfl

/-- The command warns and stops if the configuration is not valid. -/
theorem run_refused (parsed : Options.parse invocation.arguments = .ok options)
    (unlicensed : options.license = false) {problem : ConfigurationError}
    (refused : (override options
      (usable (loading environment invocation options world).1)).validate =
        (configuration, some problem))
    (patience : Nat) :
    ((run patience environment invocation).run world).1 =
      { exit := 2
        errors := warning invocation.supportsColor
            (loading environment invocation options world).1.2 ++
          message invocation.supportsColor (utf8 "Error: " ++ problem.text ++ utf8 "\n") } := by
  rw [run, parsed]
  simp only [unlicensed, Bool.false_eq_true, if_false, run_then]
  rw [loading] at refused
  simp only [refused]
  rfl

/-- One path, neither watched nor interactive, is read to be run. -/
theorem task_file {path : Text} (batch : options.interactive = false)
    (unwatched : options.watch = false) (single : options.arguments = [path]) (rounds : Nat)
    (environment : Environment (StateM World)) (world : World) :
    ((task rounds environment options).run world).1 =
      .file path ((environment.storage.read path).run world).1 := by
  rw [task, batch, single, unwatched]
  rfl

/-- Options with an accepted colour lead to a valid configuration, whatever has been loaded. -/
theorem loading_valid (colored : ∀ color ∈ options.color, normalizeColor color ∈ colors)
    (environment : Environment (StateM World)) (invocation : Invocation) (world : World) :
    ∃ valid, (override options
      (usable (loading environment invocation options world).1)).validate = (valid, none) := by
  have accepted : normalizeColor
      (usable (loading environment invocation options world).1).color ∈ colors := by
    rw [usable]
    split
    · decide
    · rename_i sound
      exact load_accepted _ _ _ _ (Option.not_isSome_iff_eq_none.mp sound)
  refine ⟨_, Prod.ext rfl ((validate_eq_none_iff _).mpr ?_)⟩
  cases given : options.color with
  | none => simpa [override, given] using accepted
  | some color => simpa [override, given] using colored color given

end

end Command
end LineMachine.Cli
