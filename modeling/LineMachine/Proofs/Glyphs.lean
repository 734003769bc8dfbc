import LineMachine.Text.Glyph
import Mathlib.Logic.Basic

namespace LineMachine

namespace Glyph

theorem isContinuation_iff {byte : UInt8} :
    isContinuation byte ↔ 128 ≤ byte.toNat ∧ byte.toNat ≤ 191 := by
  simp [isContinuation, UInt8.le_iff_toNat_le]

/-- A character is the one of a valid number exactly when it has that number. -/
theorem ofNat_eq_iff {number : Nat} (valid : number.isValidChar) (character : Char) :
    Char.ofNat number = character ↔ character.toNat = number := by
  constructor
  · rintro rfl
    rw [Char.ofNat, dif_pos valid]
    rfl
  · rintro rfl
    exact Char.ofNat_toNat character

section

variable {a b c d : UInt8} {character : Char}

theorem pair?_eq_some_iff :
    pair? a b = some character ↔
      (194 ≤ a.toNat ∧ a.toNat ≤ 223 ∧ 128 ≤ b.toNat ∧ b.toNat ≤ 191) ∧
        character.toNat = a.toNat % 32 * 64 + payload b := by
  have payloadB : payload b = b.toNat % 64 := rfl
  have valid : (a.toNat % 32 * 64 + payload b).isValidChar := by
    left
    omega
  rw [← ofNat_eq_iff valid]
  simp [pair?, isContinuation, UInt8.le_iff_toNat_le, and_assoc]

theorem triple?_eq_some_iff :
    triple? a b c = some character ↔
      (224 ≤ a.toNat ∧ a.toNat ≤ 239 ∧ 128 ≤ b.toNat ∧ b.toNat ≤ 191 ∧
        (a.toNat = 224 → 160 ≤ b.toNat) ∧ (a.toNat = 237 → b.toNat ≤ 159) ∧
        128 ≤ c.toNat ∧ c.toNat ≤ 191) ∧
        character.toNat = a.toNat % 16 * 4096 + payload b * 64 + payload c := by
  have payloadB : payload b = b.toNat % 64 := rfl
  have payloadC : payload c = c.toNat % 64 := rfl
  have lowest : a = 0xE0 ↔ a.toNat = 224 := UInt8.toNat_inj.symm
  have surrogate : a = 0xED ↔ a.toNat = 237 := UInt8.toNat_inj.symm
  simp only [triple?, isContinuation, UInt8.le_iff_toNat_le, lowest, surrogate,
    apply_ite UInt8.toNat, Option.ite_none_right_eq_some, Bool.and_eq_true, decide_eq_true_eq,
    Option.some.injEq, UInt8.reduceToNat]
  refine Iff.trans (and_congr_left' ?_) (and_congr_right fun bounds => ofNat_eq_iff ?_ character)
  · split <;> split <;> omega
  · simp only [Nat.isValidChar]
    omega

theorem quadruple?_eq_some_iff :
    quadruple? a b c d = some character ↔
      (240 ≤ a.toNat ∧ a.toNat ≤ 244 ∧ 128 ≤ b.toNat ∧ b.toNat ≤ 191 ∧
        (a.toNat = 240 → 144 ≤ b.toNat) ∧ (a.toNat = 244 → b.toNat ≤ 143) ∧
        (128 ≤ c.toNat ∧ c.toNat ≤ 191) ∧ 128 ≤ d.toNat ∧ d.toNat ≤ 191) ∧
        character.toNat =
          a.toNat % 8 * 262144 + payload b * 4096 + payload c * 64 + payload d := by
  have payloadB : payload b = b.toNat % 64 := rfl
  have payloadC : payload c = c.toNat % 64 := rfl
  have payloadD : payload d = d.toNat % 64 := rfl
  have lowest : a = 0xF0 ↔ a.toNat = 240 := UInt8.toNat_inj.symm
  have highest : a = 0xF4 ↔ a.toNat = 244 := UInt8.toNat_inj.symm
  simp only [quadruple?, isContinuation, UInt8.le_iff_toNat_le, lowest, highest,
    apply_ite UInt8.toNat, Option.ite_none_right_eq_some, Bool.and_eq_true, decide_eq_true_eq,
    Option.some.injEq, UInt8.reduceToNat]
  refine Iff.trans (and_congr_left' ?_) (and_congr_right fun bounds => ofNat_eq_iff ?_ character)
  · split <;> split <;> omega
  · simp only [Nat.isValidChar]
    omega

theorem pair?_eq_none (other : a.toNat < 194 ∨ 223 < a.toNat) : pair? a b = none := by
  rw [Option.eq_none_iff_forall_ne_some]
  intro character read
  obtain ⟨bounds, -⟩ := pair?_eq_some_iff.mp read
  omega

theorem triple?_eq_none (other : a.toNat < 224 ∨ 239 < a.toNat) : triple? a b c = none := by
  rw [Option.eq_none_iff_forall_ne_some]
  intro character read
  obtain ⟨bounds, -⟩ := triple?_eq_some_iff.mp read
  omega

theorem not_ascii_iff : ¬ a < 0x80 ↔ 128 ≤ a.toNat := by
  simp [UInt8.lt_iff_toNat_lt]

/-- An ASCII byte is the whole of its character. -/
theorem encode_single (low : a < 0x80) : String.utf8EncodeChar (Char.ofNat a.toNat) = [a] := by
  have small : a.toNat < 128 := by simpa [UInt8.lt_iff_toNat_lt] using low
  have number := (ofNat_eq_iff (Or.inl (by omega)) (Char.ofNat a.toNat)).mp rfl
  rw [String.utf8EncodeChar, Char.toNat_val, number, if_pos (by omega), UInt8.ofNat_toNat]

/-- A character that was read has the bytes that it was read from. -/
theorem encode_of_pair? (read : pair? a b = some character) :
    String.utf8EncodeChar character = [a, b] := by
  have payloadB : payload b = b.toNat % 64 := rfl
  obtain ⟨bounds, number⟩ := pair?_eq_some_iff.mp read
  rw [String.utf8EncodeChar, Char.toNat_val, number, if_neg (by omega), if_pos (by omega)]
  simp only [List.cons.injEq, ← UInt8.toNat_inj, UInt8.toNat_ofNat', and_true]
  omega

theorem encode_of_triple? (read : triple? a b c = some character) :
    String.utf8EncodeChar character = [a, b, c] := by
  have payloadB : payload b = b.toNat % 64 := rfl
  have payloadC : payload c = c.toNat % 64 := rfl
  obtain ⟨bounds, number⟩ := triple?_eq_some_iff.mp read
  rw [String.utf8EncodeChar, Char.toNat_val, number, if_neg (by omega), if_neg (by omega),
    if_pos (by omega)]
  simp only [List.cons.injEq, ← UInt8.toNat_inj, UInt8.toNat_ofNat', and_true]
  omega

theorem encode_of_quadruple? (read : quadruple? a b c d = some character) :
    String.utf8EncodeChar character = [a, b, c, d] := by
  have payloadB : payload b = b.toNat % 64 := rfl
  have payloadC : payload c = c.toNat % 64 := rfl
  have payloadD : payload d = d.toNat % 64 := rfl
  obtain ⟨bounds, number⟩ := quadruple?_eq_some_iff.mp read
  rw [String.utf8EncodeChar, Char.toNat_val, number, if_neg (by omega), if_neg (by omega),
    if_neg (by omega)]
  simp only [List.cons.injEq, ← UInt8.toNat_inj, UInt8.toNat_ofNat', and_true]
  omega

end

end Glyph

namespace Text

open Glyph

/-- A text starts with a character, and the rest comes after it. -/
inductive Reads : Text → Char → Text → Prop where
  | single {a : UInt8} {rest : Text} (low : a < 0x80) : Reads (a :: rest) (Char.ofNat a.toNat) rest
  | pair {a b : UInt8} {rest : Text} {character : Char} (read : pair? a b = some character) :
    Reads (a :: b :: rest) character rest
  | triple {a b c : UInt8} {rest : Text} {character : Char}
    (read : triple? a b c = some character) : Reads (a :: b :: c :: rest) character rest
  | quadruple {a b c d : UInt8} {rest : Text} {character : Char}
    (read : quadruple? a b c d = some character) : Reads (a :: b :: c :: d :: rest) character rest

namespace Reads

variable {text rest : Text} {character : Char}

/-- The first glyph of a text is the character that it starts with. -/
theorem glyphs_eq (reads : Reads text character rest) :
    glyphs text = .scalar character :: glyphs rest := by
  rw [glyphs.eq_def]
  cases reads with
  | single low => simp only [low, if_true]
  | @pair a b rest _ read =>
    obtain ⟨bounds, -⟩ := pair?_eq_some_iff.mp read
    have high : ¬ a < 0x80 := not_ascii_iff.mpr (by omega)
    simp only [high, if_false, read]
  | @triple a b c rest _ read =>
    obtain ⟨bounds, -⟩ := triple?_eq_some_iff.mp read
    have high : ¬ a < 0x80 := not_ascii_iff.mpr (by omega)
    have noPair : pair? a b = none := pair?_eq_none (by omega)
    simp only [high, if_false, noPair, read]
  | @quadruple a b c d rest _ read =>
    obtain ⟨bounds, -⟩ := quadruple?_eq_some_iff.mp read
    have high : ¬ a < 0x80 := not_ascii_iff.mpr (by omega)
    have noPair : pair? a b = none := pair?_eq_none (by omega)
    have noTriple : triple? a b c = none := triple?_eq_none (by omega)
    simp only [high, if_false, noPair, noTriple, read]

/-- A text that starts with a character starts with its bytes. -/
theorem bytes_eq (reads : Reads text character rest) :
    text = String.utf8EncodeChar character ++ rest := by
  cases reads with
  | single low => rw [encode_single low, List.singleton_append]
  | pair read => rw [encode_of_pair? read, List.cons_append, List.singleton_append]
  | triple read => rw [encode_of_triple? read]; rfl
  | quadruple read => rw [encode_of_quadruple? read]; rfl

/-- A character is read from its bytes, whatever comes after them. -/
theorem encode (character : Char) (rest : Text) :
    Reads (String.utf8EncodeChar character ++ rest) character rest := by
  have valid := character.valid
  rw [UInt32.isValidChar, Char.toNat_val, Nat.isValidChar] at valid
  rw [String.utf8EncodeChar, Char.toNat_val]
  split
  · have low : UInt8.ofNat character.toNat < 0x80 := by
      simp only [UInt8.lt_iff_toNat_lt, UInt8.toNat_ofNat', UInt8.reduceToNat]
      omega
    have number : (UInt8.ofNat character.toNat).toNat = character.toNat := by
      rw [UInt8.toNat_ofNat']
      omega
    have reads : Reads (UInt8.ofNat character.toNat :: rest) _ rest := .single low
    rwa [number, Char.ofNat_toNat] at reads
  · split
    · apply pair
      rw [pair?_eq_some_iff, payload]
      simp only [UInt8.toNat_ofNat']
      omega
    · split
      · apply triple
        rw [triple?_eq_some_iff, payload, payload]
        simp only [UInt8.toNat_ofNat']
        omega
      · apply quadruple
        rw [quadruple?_eq_some_iff, payload, payload, payload]
        simp only [UInt8.toNat_ofNat']
        omega

/-- More text at the end does not change the character at the start. -/
theorem append (reads : Reads text character rest) (more : Text) :
    Reads (text ++ more) character (rest ++ more) := by
  cases reads with
  | single low => exact .single low
  | pair read => exact .pair read
  | triple read => exact .triple read
  | quadruple read => exact .quadruple read

theorem length_lt (reads : Reads text character rest) : rest.length < text.length := by
  cases reads <;> simp only [List.length_cons] <;> omega

end Reads

/-- A text that does not start with a continuation byte. -/
def IsBoundary (text : Text) : Prop := ∀ byte ∈ text.head?, ¬ isContinuation byte

/-- A character starts with a byte that continues nothing. -/
theorem Reads.isBoundary {text rest : Text} {character : Char}
    (reads : Reads text character rest) : IsBoundary text := by
  intro byte first
  rw [isContinuation_iff]
  cases reads with
  | single low =>
    obtain rfl := Option.some.inj first
    simp only [UInt8.lt_iff_toNat_lt, UInt8.reduceToNat] at low
    omega
  | pair read =>
    obtain rfl := Option.some.inj first
    obtain ⟨bounds, -⟩ := pair?_eq_some_iff.mp read
    omega
  | triple read =>
    obtain rfl := Option.some.inj first
    obtain ⟨bounds, -⟩ := triple?_eq_some_iff.mp read
    omega
  | quadruple read =>
    obtain rfl := Option.some.inj first
    obtain ⟨bounds, -⟩ := quadruple?_eq_some_iff.mp read
    omega

/-- A character goes on with continuation bytes. -/
theorem isContinuation_encode (character : Char) :
    ∀ byte ∈ (String.utf8EncodeChar character).tail, isContinuation byte := by
  have continues (number : Nat) : isContinuation (UInt8.ofNat (number % 64 + 128)) := by
    rw [isContinuation_iff, UInt8.toNat_ofNat']
    omega
  intro byte member
  rw [String.utf8EncodeChar, Char.toNat_val] at member
  split at member
  · simp at member
  · split at member
    · simp only [List.tail_cons, List.mem_singleton] at member
      exact member ▸ continues _
    · split at member
      · simp only [List.tail_cons, List.mem_cons, List.not_mem_nil, or_false] at member
        rcases member with rfl | rfl <;> exact continues _
      · simp only [List.tail_cons, List.mem_cons, List.not_mem_nil, or_false] at member
        rcases member with rfl | rfl | rfl <;> exact continues _

/-- No character reaches over a boundary. -/
theorem Reads.of_append {first : UInt8} {text more rest : Text} {character : Char}
    (reads : Reads (first :: text ++ more) character rest) (boundary : IsBoundary more) :
    ∃ kept, Reads (first :: text) character kept := by
  rcases List.append_eq_append_iff.mp reads.bytes_eq with
    ⟨tail, bytes, moreBytes⟩ | ⟨kept, bytes, -⟩
  · cases tail with
    | nil =>
      rw [List.append_nil] at bytes
      refine ⟨[], ?_⟩
      rw [← bytes, ← List.append_nil (String.utf8EncodeChar character)]
      exact encode character []
    | cons byte others =>
      have continues := isContinuation_encode character byte (by rw [bytes]; simp)
      exact absurd continues (boundary byte (by rw [moreBytes]; rfl))
  · rw [bytes]
    exact ⟨kept, encode character kept⟩

/-- A byte that starts no character is a glyph of its own. -/
theorem glyphs_stray {first : UInt8} {text : Text}
    (unread : ∀ character rest, ¬ Reads (first :: text) character rest) :
    glyphs (first :: text) = .stray first :: glyphs text := by
  have high : ¬ first < 0x80 := fun low => unread _ _ (.single low)
  rw [glyphs.eq_def]
  simp only [high, if_false]
  cases text with
  | nil => rfl
  | cons b text =>
    have noPair : pair? first b = none :=
      Option.eq_none_iff_forall_ne_some.mpr fun _ read => unread _ _ (.pair read)
    simp only [noPair]
    cases text with
    | nil => rfl
    | cons c text =>
      have noTriple : triple? first b c = none :=
        Option.eq_none_iff_forall_ne_some.mpr fun _ read => unread _ _ (.triple read)
      simp only [noTriple]
      cases text with
      | nil => rfl
      | cons d text =>
        have noQuadruple : quadruple? first b c d = none :=
          Option.eq_none_iff_forall_ne_some.mpr fun _ read => unread _ _ (.quadruple read)
        simp only [noQuadruple]

/-- A text is empty, or starts with a character, or with a stray byte. -/
@[elab_as_elim] theorem readInduction {motive : Text → Prop} (nil : motive [])
    (scalar : ∀ text character rest, Reads text character rest → motive rest → motive text)
    (stray : ∀ (first : UInt8) (text : Text),
      (∀ character rest, ¬ Reads (first :: text) character rest) →
      motive text → motive (first :: text)) (text : Text) : motive text := by
  match text with
  | [] => exact nil
  | first :: text =>
    by_cases read : ∃ character rest, Reads (first :: text) character rest
    · obtain ⟨character, rest, reads⟩ := read
      have shorter := reads.length_lt
      exact scalar _ _ _ reads (readInduction nil scalar stray rest)
    · simp only [not_exists] at read
      exact stray first text read (readInduction nil scalar stray text)
termination_by text.length
decreasing_by
  · exact shorter
  · exact Nat.lt_succ_self text.length

/-- The glyphs of a text have the bytes of the text. -/
@[simp] theorem text_glyphs (text : Text) : Glyph.text text.glyphs = text := by
  induction text using readInduction with
  | nil => rfl
  | scalar text character rest reads inductionHypothesis =>
    rw [reads.glyphs_eq, Glyph.text, List.flatMap_cons, ← Glyph.text, inductionHypothesis, bytes,
      ← reads.bytes_eq]
  | stray first text unread inductionHypothesis =>
    rw [glyphs_stray unread, Glyph.text, List.flatMap_cons, ← Glyph.text, inductionHypothesis,
      bytes, List.singleton_append]

/-- A text may be read in two parts if there is a boundary between them. -/
theorem glyphs_append (text : Text) {more : Text} (boundary : IsBoundary more) :
    glyphs (text ++ more) = glyphs text ++ glyphs more := by
  induction text using readInduction with
  | nil => rfl
  | scalar text character rest reads inductionHypothesis =>
    rw [(reads.append more).glyphs_eq, inductionHypothesis, reads.glyphs_eq, List.cons_append]
  | stray first text unread inductionHypothesis =>
    have unreadLonger : ∀ character rest, ¬ Reads (first :: text ++ more) character rest := by
      intro character rest reads
      obtain ⟨kept, shorter⟩ := reads.of_append boundary
      exact unread character kept shorter
    rw [glyphs_stray unread, List.cons_append, List.cons_append, ← inductionHypothesis]
    exact glyphs_stray unreadLonger

/-- An ASCII text has one glyph for each byte. -/
theorem glyphs_ascii {text : Text} (ascii : ∀ byte ∈ text, byte < 0x80) :
    text.glyphs = text.map fun byte => .scalar (Char.ofNat byte.toNat) := by
  induction text with
  | nil => rfl
  | cons first rest inductionHypothesis =>
    have reads : Reads (first :: rest) _ rest := .single (ascii first List.mem_cons_self)
    rw [reads.glyphs_eq, List.map_cons,
      inductionHypothesis fun byte member => ascii byte (List.mem_cons_of_mem first member)]

end Text
end LineMachine
