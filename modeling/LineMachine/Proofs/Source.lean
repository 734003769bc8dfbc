import LineMachine.Proofs.History

namespace LineMachine

namespace Line

variable (filename : Text)

@[simp] theorem parse_raw (text : Text) (number : Int) : (parse filename text number).raw = text := by
  rw [parse]
  split <;> rfl

@[simp] theorem parse_position (text : Text) (number : Int) :
    (parse filename text number).position = ⟨number, text.trim, filename⟩ := by
  rw [parse]
  split <;> rfl

@[simp] theorem parseAll_raw (lines : List Text) : (parseAll filename lines).map raw = lines := by
  apply List.ext_getElem?
  intro place
  simp [parseAll, Function.comp_def]

/-- One more line of text is one more line of the program. -/
theorem parseAll_concat (lines : List Text) (text : Text) :
    parseAll filename (lines ++ [text]) =
      parseAll filename lines ++ [parse filename text (lines.length + 1)] := by
  simp [parseAll, List.mapIdx_append]

/-- The lines of a text come first among the lines of a longer text. -/
theorem parseAll_append (lines rest : List Text) :
    parseAll filename lines <+: parseAll filename (lines ++ rest) := by
  simp [parseAll, List.mapIdx_append]

theorem parseAll_getElem? (lines : List Text) (place : Nat) :
    (parseAll filename lines)[place]? = lines[place]?.map fun text => parse filename text (place + 1) := by
  simp [parseAll]

end Line

namespace Machine

variable {ν : Type}

/-- The text of the program. -/
def source (machine : Machine ν) : List Text := machine.program.toList.map Line.raw

/-- The program is parsed from its own text under a file name. -/
structure Sourced (filename : Text) (machine : Machine ν) : Prop where
  named : machine.filename = filename
  parsed : machine.program.toList = Line.parseAll filename machine.source

@[simp] theorem source_load (filename : Text) (tracing : Bool) (lines : List Text) :
    (load filename tracing lines : Machine ν).source = lines := by
  simp [source, load]

theorem sourced_load (filename : Text) (tracing : Bool) (lines : List Text) :
    (load filename tracing lines : Machine ν).Sourced filename := by
  refine ⟨rfl, ?_⟩
  rw [source_load]
  rfl

@[simp] theorem source_append (machine : Machine ν) (text : Text) :
    (machine.append text).source = machine.source ++ [text] := by
  simp [source, append]

/-- A line that is added is parsed with the number after the last. -/
theorem Sourced.append {filename : Text} {machine : Machine ν} (sourced : machine.Sourced filename)
    (text : Text) : (machine.append text).Sourced filename := by
  refine ⟨sourced.named, ?_⟩
  have length : machine.source.length = machine.program.size := by simp [source]
  rw [source_append, Line.parseAll_concat, ← sourced.parsed, length, ← sourced.named]
  simp [Machine.append]

/-- Everything a machine can do keeps its program in line with its source. -/
theorem sourced_kept (inForce : InstructionSet ν → Prop) (filename : Text) :
    Kept inForce (Sourced filename) where
  step {set machine} _ sourced := by
    obtain ⟨program, sameFile⟩ := step_program set machine
    refine ⟨sameFile.trans sourced.named, ?_⟩
    rw [source, program]
    exact sourced.parsed
  wake {machine} sourced := by
    rw [wake]
    split
    · exact ⟨sourced.named, sourced.parsed⟩
    · exact sourced
  append text sourced := sourced.append text
  recover {machine} sourced := by
    rw [recover]
    split
    · exact ⟨sourced.named, sourced.parsed⟩
    · exact sourced
  print _ sourced := ⟨sourced.named, sourced.parsed⟩

/-- The line at a place is parsed from the text at that place. -/
theorem Sourced.line {filename : Text} {machine : Machine ν} (sourced : machine.Sourced filename)
    {place : Nat} {line : Line} (current : machine.program[place]? = some line) :
    ∃ text, machine.source[place]? = some text ∧ line = .parse filename text (place + 1) := by
  rw [← Array.getElem?_toList, sourced.parsed, Line.parseAll_getElem?] at current
  obtain ⟨text, textAt, rfl⟩ := Option.map_eq_some_iff.mp current
  exact ⟨text, textAt, rfl⟩

end Machine
end LineMachine
