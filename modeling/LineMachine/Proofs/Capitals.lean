import LineMachine.Proofs.Glyphs
import LineMachine.Text.Case

namespace LineMachine

namespace Case

/-- A run has a code among its members. -/
def Holds (run : Run) (code : Nat) : Prop :=
  run.1 ≤ code ∧ code ≤ run.2.1 ∧ (code - run.1) % run.2.2.1 = 0

/-- A code is moved by a run that holds it, or stays where it is. -/
theorem image_cases (runs : List Run) (code : Nat) :
    (∃ run ∈ runs, Holds run code ∧ image runs code = run.2.2.2 + (code - run.1)) ∨
      image runs code = code := by
  rw [image]
  split
  · rename_i found
    refine .inl ⟨_, List.mem_of_find?_eq_some found, ?_, rfl⟩
    simpa [Holds, and_assoc] using List.find?_some found
  · exact .inr rfl

/-- The images of a run stay clear of another run: they lie below it, or above it, or between its
members. -/
def misses : Run → Run → Bool
  | (first, last, step, target), (otherFirst, otherLast, otherStep, _) =>
    Nat.blt (target + (last - first)) otherFirst || Nat.blt otherLast target ||
      ((Nat.beq first last || Nat.beq (step % otherStep) 0) &&
        !Nat.beq (target % otherStep) (otherFirst % otherStep))

theorem not_holds_of_misses {run other : Run} {code : Nat} (clear : misses run other)
    (holds : Holds run code) : ¬ Holds other (run.2.2.2 + (code - run.1)) := by
  obtain ⟨first, last, step, target⟩ := run
  obtain ⟨otherFirst, otherLast, otherStep, _⟩ := other
  rintro ⟨otherAbove, otherBelow, otherOnStep⟩
  simp only [Holds] at holds otherAbove otherBelow otherOnStep
  simp only [misses, Bool.or_eq_true, Bool.and_eq_true, Bool.not_eq_true', ← Bool.not_eq_true,
    Nat.blt_eq, Nat.beq_eq] at clear
  obtain (beneath | beyond) | ⟨regular, between⟩ := clear
  · omega
  · omega
  · have aligned : otherStep ∣ code - first := by
      obtain single | multiple := regular
      · rw [show code - first = 0 by omega]
        exact Nat.dvd_zero otherStep
      · exact Nat.dvd_trans (Nat.dvd_of_mod_eq_zero multiple) (Nat.dvd_of_mod_eq_zero holds.2.2)
    obtain ⟨distance, travelled⟩ := aligned
    obtain ⟨otherDistance, otherTravelled⟩ := Nat.dvd_of_mod_eq_zero otherOnStep
    apply between
    calc target % otherStep
        = (target + otherStep * distance) % otherStep := (Nat.add_mul_mod_self_left ..).symm
      _ = (otherFirst + otherStep * otherDistance) % otherStep := by
        rw [show target + otherStep * distance = otherFirst + otherStep * otherDistance by omega]
      _ = otherFirst % otherStep := Nat.add_mul_mod_self_left ..

/-- Every run of upper case stays clear of all of them and among the characters. -/
theorem upperRuns_settled :
    upperRuns.all (fun run => upperRuns.all (misses run)) ∧
      upperRuns.all fun (first, last, _, target) =>
        target + (last - first) < 0xD800 ||
          (0xDFFF < target && target + (last - first) < 0x110000) := by
  decide +kernel

theorem image_image (code : Nat) :
    image upperRuns (image upperRuns code) = image upperRuns code := by
  obtain ⟨run, member, holds, moved⟩ | same := image_cases upperRuns code
  · obtain ⟨other, otherMember, otherHolds, -⟩ | same :=
      image_cases upperRuns (image upperRuns code)
    · have clear := List.all_eq_true.mp
        (List.all_eq_true.mp upperRuns_settled.1 run member) other otherMember
      rw [moved] at otherHolds
      exact absurd otherHolds (not_holds_of_misses clear holds)
    · exact same
  · rw [same, same]

theorem isValidChar_image {code : Nat} (valid : code.isValidChar) :
    (image upperRuns code).isValidChar := by
  obtain ⟨⟨first, last, step, target⟩, member, holds, moved⟩ | same := image_cases upperRuns code
  · have inside := List.all_eq_true.mp upperRuns_settled.2 _ member
    simp only [Bool.or_eq_true, Bool.and_eq_true, decide_eq_true_eq] at inside
    simp only [Holds] at holds moved
    rw [moved, Nat.isValidChar]
    omega
  · rwa [same]

theorem toNat_upper (character : Char) :
    (upper character).toNat = image upperRuns character.toNat :=
  (Glyph.ofNat_eq_iff (isValidChar_image character.valid) (upper character)).mp rfl

/-- A character in upper case is its own upper case. -/
theorem upper_upper (character : Char) : upper (upper character) = upper character := by
  rw [upper, toNat_upper, image_image, ← upper]

end Case

namespace Text

/-- Characters are read back from their bytes. -/
theorem glyphs_encode (characters : List Char) :
    glyphs (characters.flatMap String.utf8EncodeChar) = characters.map .scalar := by
  induction characters with
  | nil => rfl
  | cons first rest inductionHypothesis =>
    rw [List.flatMap_cons, (Reads.encode first _).glyphs_eq, inductionHypothesis, List.map_cons]

theorem glyphs_mapCharacters (f : Char → Char) (text : Text) :
    (text.mapCharacters f).glyphs = text.glyphs.map fun glyph => .scalar (f glyph.character) := by
  have encoded := glyphs_encode (text.glyphs.map fun glyph => f glyph.character)
  rwa [List.flatMap_map, List.map_map] at encoded

/-- A text in upper case is its own upper case. -/
@[simp] theorem upper_upper (text : Text) : text.upper.upper = text.upper := by
  rw [upper, mapCharacters, upper, glyphs_mapCharacters, List.flatMap_map, mapCharacters]
  simp only [Glyph.character, Case.upper_upper]

end Text
end LineMachine
