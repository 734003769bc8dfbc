import LineMachine.Proofs.Words
import LineMachine.Text.Decimal
import Mathlib.Data.List.Basic

namespace LineMachine.Text

theorem isDigit_iff {byte : UInt8} : isDigit byte ↔ 48 ≤ byte.toNat ∧ byte.toNat ≤ 57 := by
  simp [isDigit, UInt8.le_iff_toNat_le]

/-- At least one byte, each of them a decimal digit. -/
structure IsDecimal (digits : Text) : Prop where
  nonempty : digits ≠ []
  digits : ∀ byte ∈ digits, isDigit byte

/-- Digits are read without a sign. -/
theorem IsDecimal.toInt?_eq {digits : Text} (isDecimal : digits.IsDecimal) :
    toInt? digits = (toNat? digits).map Int.ofNat := by
  cases digits with
  | nil => exact absurd rfl isDecimal.nonempty
  | cons byte rest =>
    have digit := isDigit_iff.mp (isDecimal.digits byte (by simp))
    have notPlus : byte ≠ 43 := by rintro rfl; simp at digit
    have notMinus : byte ≠ 45 := by rintro rfl; simp at digit
    rw [toInt?]
    · simpa using notPlus
    · simpa using notMinus

/-- The byte of a decimal digit has the number of the character. -/
theorem toNat_digit {number : Nat} {digit : Char} (member : digit ∈ Nat.toDigits 10 number) :
    48 ≤ digit.toNat ∧ digit.toNat ≤ 57 ∧ (UInt8.ofNat digit.toNat).toNat = digit.toNat := by
  have isDigit := Nat.isDigit_of_mem_toDigits (by decide) (by decide) member
  simp only [Char.isDigit, Bool.and_eq_true, decide_eq_true_eq, UInt32.le_iff_toNat_le,
    ge_iff_le, Char.toNat_val] at isDigit
  have low : 48 ≤ digit.toNat := isDigit.1
  have high : digit.toNat ≤ 57 := isDigit.2
  refine ⟨low, high, ?_⟩
  rw [UInt8.toNat_ofNat']
  omega

theorem ofNat_ne_nil (number : Nat) : ofNat number ≠ [] := by
  simp [ofNat]

theorem isDigit_of_mem_ofNat {number : Nat} {byte : UInt8} (member : byte ∈ ofNat number) :
    isDigit byte := by
  obtain ⟨digit, inDigits, rfl⟩ := List.mem_map.mp member
  obtain ⟨low, high, sameNumber⟩ := toNat_digit inDigits
  rw [isDigit_iff, sameNumber]
  exact ⟨low, high⟩

theorem isDecimal_ofNat (number : Nat) : (ofNat number).IsDecimal :=
  ⟨ofNat_ne_nil number, fun _ member => isDigit_of_mem_ofNat member⟩

/-- A natural number is read back from its digits. -/
theorem toNat?_ofNat (number : Nat) : toNat? (ofNat number) = some number := by
  have digits : (ofNat number).all isDigit :=
    List.all_eq_true.mpr fun byte member => isDigit_of_mem_ofNat member
  have value :
      (ofNat number).foldl (fun value byte => 10 * value + (byte.toNat - 48)) 0 = number := by
    calc (ofNat number).foldl (fun value byte => 10 * value + (byte.toNat - 48)) 0
        = (Nat.toDigits 10 number).foldl
            (fun value digit => 10 * value + (digit.toNat - 48)) 0 := by
          rw [ofNat, List.foldl_map]
          refine List.foldl_ext _ _ _ fun value digit member => ?_
          rw [(toNat_digit member).2.2]
      _ = Nat.ofDigitChars 10 (Nat.toDigits 10 number) 0 := rfl
      _ = number := Nat.ofDigitChars_ten_toDigits
  simp [toNat?, ofNat_ne_nil, digits, value]

/-- The bytes of a decimal form are digits and a minus sign. -/
theorem mem_ofInt {number : Int} {byte : UInt8} (member : byte ∈ ofInt number) :
    byte = 45 ∨ isDigit byte := by
  cases number with
  | ofNat number => exact .inr (isDigit_of_mem_ofNat member)
  | negSucc number =>
    rcases List.mem_cons.mp member with sign | digit
    · exact .inl sign
    · exact .inr (isDigit_of_mem_ofNat digit)

/-- An integer is read back from its decimal form. -/
theorem toInt?_ofInt (number : Int) : toInt? (ofInt number) = some number := by
  cases number with
  | ofNat number =>
    rw [ofInt, (isDecimal_ofNat number).toInt?_eq, toNat?_ofNat]
    rfl
  | negSucc number => simp [ofInt, toInt?, toNat?_ofNat, Int.negSucc_eq]

theorem ofInt_injective : Function.Injective ofInt := by
  intro first second same
  have read := toInt?_ofInt first
  rw [same, toInt?_ofInt] at read
  exact (Option.some.inj read).symm

/-- A number that fits into a word is read back as a literal. -/
theorem toInt64?_ofInt {number : Int} (fits : -(wordLimit : Int) ≤ number ∧ number < wordLimit) :
    toInt64? (ofInt number) = some number := by
  rw [toInt64?, toInt?_ofInt]
  exact if_pos fits

/-- A decimal form is one token. -/
theorem isToken_ofInt (number : Int) : (ofInt number).IsToken where
  nonempty := by
    cases number with
    | ofNat number => exact ofNat_ne_nil number
    | negSucc number => simp [ofInt]
  unbroken := by
    have ascii : ∀ byte ∈ ofInt number, byte < 0x80 := by
      intro byte member
      rcases mem_ofInt member with rfl | digit
      · decide
      · have bounds := isDigit_iff.mp digit
        simp only [UInt8.lt_iff_toNat_lt, UInt8.reduceToNat]
        omega
    rw [IsUnbroken, glyphs_ascii ascii]
    intro glyph member
    obtain ⟨byte, written, rfl⟩ := List.mem_map.mp member
    rcases mem_ofInt written with rfl | digit
    · decide
    · have bounds := isDigit_iff.mp digit
      have number := (Glyph.ofNat_eq_iff (Or.inl (by omega)) (Char.ofNat byte.toNat)).mp rfl
      simp only [Glyph.isBlank, LineMachine.isBlank, number, Bool.or_eq_false_iff,
        Bool.and_eq_false_iff, decide_eq_false_iff_not, beq_eq_false_iff_ne]
      omega
  uncommented := by
    intro member
    rcases mem_ofInt member with sign | digit
    · contradiction
    · simp [isDigit] at digit

end LineMachine.Text
