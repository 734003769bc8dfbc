import LineMachine.Proofs.Capitals
import LineMachine.Proofs.Source
import LineMachine.Proofs.Words

namespace LineMachine

namespace Case

/-- The ranges of the codes of blank characters, and the code of the sign that starts a comment. -/
def reserved : List (Nat × Nat) :=
  [(0x9, 0xD), (0x20, 0x20), (0x23, 0x23), (0x85, 0x85), (0xA0, 0xA0), (0x1680, 0x1680),
    (0x2000, 0x200A), (0x2028, 0x2029), (0x202F, 0x202F), (0x205F, 0x205F), (0x3000, 0x3000)]

/-- A character is blank or starts a comment. -/
def IsReserved (character : Char) : Prop := isBlank character ∨ character = '#'

instance (character : Char) : Decidable (IsReserved character) :=
  inferInstanceAs (Decidable (isBlank character ∨ character = '#'))

theorem IsReserved.exists_range {character : Char} (isReserved : IsReserved character) :
    ∃ range ∈ reserved, range.1 ≤ character.toNat ∧ character.toNat ≤ range.2 := by
  rcases isReserved with blank | rfl
  · simp only [isBlank, Bool.or_eq_true, Bool.and_eq_true, decide_eq_true_eq, beq_iff_eq] at blank
    simp only [reserved, List.mem_cons, List.not_mem_nil, or_false, exists_eq_or_imp,
      exists_eq_left]
    omega
  · exact ⟨(0x23, 0x23), by simp [reserved], by decide, by decide⟩

/-- The images of a run lie below a range of codes or above it. -/
def avoids (range : Nat × Nat) : Run → Bool
  | (first, last, _, target) =>
    Nat.blt (target + (last - first)) range.1 || Nat.blt range.2 target

theorem upperRuns_avoid : reserved.all fun range => upperRuns.all (avoids range) := by
  decide +kernel

/-- No other character becomes a blank or the sign that starts a comment. -/
theorem upper_eq_of_isReserved {character : Char} (isReserved : IsReserved (upper character)) :
    upper character = character := by
  obtain ⟨range, inReserved, above, below⟩ := isReserved.exists_range
  rw [toNat_upper] at above below
  obtain ⟨⟨first, last, step, target⟩, inRuns, ⟨-, inside, -⟩, moved⟩ | same :=
    image_cases upperRuns character.toNat
  · have avoided :=
      List.all_eq_true.mp (List.all_eq_true.mp upperRuns_avoid range inReserved) _ inRuns
    simp only [avoids, Bool.or_eq_true, Nat.blt_eq] at avoided
    simp only at inside moved
    omega
  · rw [upper, same, Char.ofNat_toNat]

end Case

namespace Text

/-- No character becomes reserved in upper case. -/
theorem scalar_mem_of_upper {text : Text} {character : Char}
    (isReserved : Case.IsReserved character) (member : .scalar character ∈ text.upper.glyphs) :
    .scalar character ∈ text.glyphs := by
  rw [upper, glyphs_mapCharacters] at member
  obtain ⟨glyph, inText, image⟩ := List.mem_map.mp member
  have becomes : Case.upper glyph.character = character := Glyph.scalar.inj image
  have same : glyph.character = character := by
    rw [← becomes] at isReserved
    rw [← becomes, Case.upper_eq_of_isReserved isReserved]
  cases glyph with
  | scalar original => exact same ▸ inText
  | stray byte =>
    have standIn : ¬ Case.IsReserved Glyph.replacement := by decide
    rw [← same] at isReserved
    exact absurd isReserved standIn

/-- A token in upper case is a token. -/
theorem IsToken.upper {token : Text} (isToken : token.IsToken) : token.upper.IsToken where
  nonempty := mt (upper_eq_nil_iff token).mp isToken.nonempty
  unbroken := by
    intro glyph member
    cases blank : glyph.isBlank with
    | false => rfl
    | true =>
      obtain ⟨character, rfl⟩ := isBlank_scalar blank
      rw [← blank]
      exact isToken.unbroken _ (scalar_mem_of_upper (.inl blank) member)
  uncommented := by
    intro member
    have sign := scalar_mem_of_upper (.inr rfl) (scalar_mem_glyphs member (by decide))
    apply isToken.uncommented
    rw [← text_glyphs token, Glyph.text, List.mem_flatMap]
    exact ⟨_, sign, by decide⟩

/-- The words of a text with a blank character are those before it and those after it. -/
theorem words_cut (text : Text) {blank : Glyph} (isBlank : blank.isBlank) (rest : Text) :
    (text ++ (blank.bytes ++ rest)).words = text.words ++ rest.words := by
  have opened (before after : List Glyph) : openWords (before ++ blank :: after) =
      ((openWords before).1,
        (openWords before).2 ++ closeWord (openWords after).1 (openWords after).2) := by
    induction before with
    | nil => simp [openWords, isBlank]
    | cons glyph before inductionHypothesis =>
      rw [List.cons_append, openWords, inductionHypothesis, openWords]
      cases glyph.isBlank with
      | true =>
        simp only [if_true, closeWord]
        split <;> rfl
      | false => rfl
  obtain ⟨character, rfl⟩ := isBlank_scalar isBlank
  have reads := Reads.encode character rest
  rw [words, Glyph.bytes, glyphs_append _ reads.isBoundary, reads.glyphs_eq, opened, words, words,
    ← List.map_append]
  simp only [closeWord]
  split <;> rfl

section blanks

variable {blanks : List Glyph} (areBlank : ∀ glyph ∈ blanks, glyph.isBlank)

include areBlank

/-- Blanks at the start of a text are no part of its words. -/
theorem words_blanks_append (text : Text) : (Glyph.text blanks ++ text).words = text.words := by
  induction blanks with
  | nil => rfl
  | cons blank blanks inductionHypothesis =>
    rw [List.forall_mem_cons] at areBlank
    have cut := words_cut [] areBlank.1 (Glyph.text blanks ++ text)
    rw [inductionHypothesis areBlank.2] at cut
    rw [Glyph.text, List.flatMap_cons, List.append_assoc]
    exact cut

/-- Blanks at the end of a text are no part of its words. -/
theorem words_append_blanks (text : Text) : (text ++ Glyph.text blanks).words = text.words := by
  cases blanks with
  | nil => rw [Glyph.text, List.flatMap_nil, List.append_nil]
  | cons blank blanks =>
    rw [List.forall_mem_cons] at areBlank
    have none := words_blanks_append areBlank.2 []
    rw [List.append_nil] at none
    rw [Glyph.text, List.flatMap_cons, words_cut text areBlank.1, ← Glyph.text, none]
    exact List.append_nil _

theorem uncommented_blanks : 35 ∉ Glyph.text blanks := by
  rw [Glyph.text, List.mem_flatMap]
  rintro ⟨blank, member, sign⟩
  exact blank_uncommented (areBlank blank member) sign

end blanks

/-- A text is its trimmed form between blanks. -/
theorem exists_trim (text : Text) :
    ∃ before after : List Glyph, (∀ glyph ∈ before, glyph.isBlank) ∧
      (∀ glyph ∈ after, glyph.isBlank) ∧
      text = Glyph.text before ++ (text.trim ++ Glyph.text after) := by
  have taken {glyphs : List Glyph} {glyph : Glyph}
      (member : glyph ∈ glyphs.takeWhile Glyph.isBlank) : glyph.isBlank :=
    List.all_eq_true.mp List.all_takeWhile glyph member
  let rest := (text.glyphs.dropWhile Glyph.isBlank).reverse
  refine ⟨text.glyphs.takeWhile Glyph.isBlank, (rest.takeWhile Glyph.isBlank).reverse,
    fun glyph => taken, fun glyph member => taken (List.mem_reverse.mp member), ?_⟩
  have ends : (rest.dropWhile Glyph.isBlank).reverse ++ (rest.takeWhile Glyph.isBlank).reverse =
      text.glyphs.dropWhile Glyph.isBlank := by
    rw [← List.reverse_append, List.takeWhile_append_dropWhile, List.reverse_reverse]
  calc text = Glyph.text text.glyphs := (text_glyphs text).symm
    _ = Glyph.text (text.glyphs.takeWhile Glyph.isBlank ++
          ((rest.dropWhile Glyph.isBlank).reverse ++ (rest.takeWhile Glyph.isBlank).reverse)) := by
        rw [ends, List.takeWhile_append_dropWhile]
    _ = _ := by simp only [Glyph.text, List.flatMap_append, trim, trimGlyphs, rest]

/-- A text of blank characters only. -/
def IsBlank (text : Text) : Prop := ∀ glyph ∈ text.glyphs, glyph.isBlank

instance (text : Text) : Decidable text.IsBlank :=
  inferInstanceAs (Decidable (∀ glyph ∈ text.glyphs, glyph.isBlank))

/-- Tokens are the words of their joined text. -/
theorem words_joinWith {tokens : List Text} (areTokens : ∀ token ∈ tokens, token.IsToken) :
    (joinWith [32] tokens).words = tokens := by
  have single {token : Text} (isToken : token.IsToken) : token.words = [token] := by
    rw [words_unbroken isToken.unbroken, if_neg (by simpa using isToken.nonempty)]
  induction tokens with
  | nil => rfl
  | cons token tokens inductionHypothesis =>
    rw [List.forall_mem_cons] at areTokens
    cases tokens with
    | nil => simpa [joinWith] using single areTokens.1
    | cons next tokens =>
      have space : Glyph.isBlank (.scalar ' ') := by decide
      have cut := words_cut token space (joinWith [32] (next :: tokens))
      rw [inductionHypothesis areTokens.2, single areTokens.1] at cut
      exact cut

theorem uncommented_joinWith {tokens : List Text} (areTokens : ∀ token ∈ tokens, token.IsToken) :
    35 ∉ joinWith [32] tokens := by
  induction tokens with
  | nil => exact List.not_mem_nil
  | cons token tokens inductionHypothesis =>
    rw [List.forall_mem_cons] at areTokens
    have later := inductionHypothesis areTokens.2
    cases tokens with
    | nil => simpa [joinWith] using areTokens.1.uncommented
    | cons next tokens =>
      rw [joinWith] at later
      simp [joinWith, List.intercalate_cons_cons, areTokens.1.uncommented, later]

end Text

namespace Line

/-- A text without a comment is code up to its end. -/
theorem code_append {text : Text} (uncommented : 35 ∉ text) (rest : Text) :
    code (text ++ rest) = text ++ code rest := by
  rw [code, Text.before, List.takeWhile_append_of_pos, ← Text.before, ← code]
  intro byte member
  simpa using fun sign : byte = 35 => uncommented (sign ▸ member)

/-- What stands after a comment has started is no code. -/
theorem code_append_of_mem {text : Text} (commented : 35 ∈ text) (rest : Text) :
    code (text ++ rest) = code text := by
  rw [code, Text.before, List.takeWhile_append, if_neg, ← Text.before, ← code]
  intro whole
  have same := (List.takeWhile_prefix (· != 35)).eq_of_length whole
  exact uncommented_code text (by rwa [code, Text.before, same])

theorem code_of_uncommented {text : Text} (uncommented : 35 ∉ text) : code text = text := by
  simpa [code, Text.before] using code_append uncommented []

/-- A comment adds nothing to the code of a text. -/
theorem code_append_comment (text comment : Text) : code (text ++ 35 :: comment) = code text := by
  by_cases commented : 35 ∈ text
  · exact code_append_of_mem commented _
  · rw [code_append commented, code_of_uncommented commented]
    exact List.append_nil text

section blanks

variable {blanks : List Glyph} (areBlank : ∀ glyph ∈ blanks, glyph.isBlank)

include areBlank

/-- Blanks before a line do not change what it says. -/
theorem words_code_blanks_append (text : Text) :
    (code (Glyph.text blanks ++ text)).words = (code text).words := by
  rw [code_append (Text.uncommented_blanks areBlank), Text.words_blanks_append areBlank]

/-- Blanks after a line do not change what it says, inside a comment or outside. -/
theorem words_code_append_blanks (text : Text) :
    (code (text ++ Glyph.text blanks)).words = (code text).words := by
  by_cases commented : 35 ∈ text
  · rw [code_append_of_mem commented]
  · rw [code_append commented, code_of_uncommented (Text.uncommented_blanks areBlank),
      Text.words_append_blanks areBlank, code_of_uncommented commented]

end blanks

/-- A line is trimmed without a change of what it says. -/
theorem words_code_trim (text : Text) : (code text.trim).words = (code text).words := by
  obtain ⟨before, after, areBefore, areAfter, apart⟩ := text.exists_trim
  calc (code text.trim).words
      = (code (text.trim ++ Glyph.text after)).words :=
        (words_code_append_blanks areAfter text.trim).symm
    _ = (code (Glyph.text before ++ (text.trim ++ Glyph.text after))).words :=
        (words_code_blanks_append areBefore _).symm
    _ = (code text).words := by rw [← apart]

/-- The mnemonic, if there is one, and the arguments. -/
def tokens (line : Line) : List Text :=
  (if line.isEmpty then [] else [line.command]) ++ line.arguments

/-- A text has the mnemonic and the arguments of a line, wherever it stands. -/
def SpelledBy (line : Line) (text : Text) : Prop :=
  ∀ filename number, (parse filename text number).command = line.command ∧
    (parse filename text number).arguments = line.arguments

theorem spelledBy_of_words {text other : Text} (same : (code other).words = (code text).words)
    (filename : Text) (number : Int) : (parse filename text number).SpelledBy other := by
  intro elsewhere place
  simp only [parse_command, parse_arguments, same, and_self]

/-- The tokens of a line are its words with the first one in upper case. -/
theorem tokens_parse (filename text : Text) (number : Int) :
    (parse filename text number).tokens = Text.applyEach [Text.upper] (code text).words := by
  rw [tokens, isEmpty, parse_command, parse_arguments]
  cases words : (code text).words with
  | nil => rfl
  | cons mnemonic arguments =>
    have token : mnemonic.IsToken :=
      Text.isToken_of_mem_words (uncommented_code text) (by simp [words])
    simp [Text.applyEach, Text.upper_eq_nil_iff, token.nonempty]

theorem isToken_of_mem_tokens {filename text token : Text} {number : Int}
    (member : token ∈ (parse filename text number).tokens) : token.IsToken := by
  have areTokens {word : Text} (member : word ∈ (code text).words) : word.IsToken :=
    Text.isToken_of_mem_words (uncommented_code text) member
  rw [tokens_parse] at member
  cases words : (code text).words with
  | nil => simp [words, Text.applyEach] at member
  | cons mnemonic arguments =>
    rw [words, Text.applyEach, List.mem_cons] at member
    rcases member with rfl | later
    · exact (areTokens (by simp [words])).upper
    · exact areTokens (by simp_all [Text.applyEach])

/-- The canonical form of a line has the mnemonic and the arguments of the line. -/
theorem spelledBy_tokens (filename text : Text) (number : Int) :
    (parse filename text number).SpelledBy
      (Text.joinWith [32] (parse filename text number).tokens) := by
  have areTokens : ∀ token ∈ (parse filename text number).tokens, token.IsToken :=
    fun token member => isToken_of_mem_tokens member
  have joined : (code (Text.joinWith [32] (parse filename text number).tokens)).words =
      Text.applyEach [Text.upper] (code text).words := by
    rw [code_of_uncommented (Text.uncommented_joinWith areTokens), Text.words_joinWith areTokens,
      tokens_parse]
  intro elsewhere place
  rw [parse_command, parse_arguments, joined, parse_command, parse_arguments]
  cases (code text).words with
  | nil => exact ⟨rfl, rfl⟩
  | cons mnemonic arguments => simp [Text.applyEach]

/-- A parsed line is in canonical form. Its tokens are words of the language, and its mnemonic and
arguments are read again from the tokens with spaces between them, from its trimmed text, and from
the line with blanks around it or a comment after it. It is empty exactly when there are only blanks
before its comment. -/
theorem parse_canonical (filename text : Text) (number : Int) :
    let line := parse filename text number
    (∀ token ∈ line.tokens, token.IsToken) ∧
      line.SpelledBy (Text.joinWith [32] line.tokens) ∧
      line.SpelledBy line.position.text ∧
      (∀ blanks : Text, blanks.IsBlank →
        line.SpelledBy (blanks ++ text) ∧ line.SpelledBy (text ++ blanks)) ∧
      (∀ comment, line.SpelledBy (text ++ 35 :: comment)) ∧
      (line.command = [] ↔ (code text).IsBlank) := by
  intro line
  refine ⟨fun token => isToken_of_mem_tokens, spelledBy_tokens filename text number, ?_, ?_, ?_, ?_⟩
  · rw [parse_position]
    exact spelledBy_of_words (words_code_trim text) filename number
  · intro blanks areBlank
    rw [← Text.text_glyphs blanks]
    exact ⟨spelledBy_of_words (words_code_blanks_append areBlank text) filename number,
      spelledBy_of_words (words_code_append_blanks areBlank text) filename number⟩
  · intro comment
    exact spelledBy_of_words (by rw [code_append_comment]) filename number
  · rw [← List.isEmpty_iff]
    exact parse_isEmpty_iff filename text number

/-- A line with a dotless letter, rare blanks, a stray byte and a comment is read as before with more
blanks around it. -/
theorem parse_canonical_strange :
    let text := utf8 "\u00a0mer\u0131\u2003" ++ [0xC2] ++ utf8 "x l # MERGE"
    let blanks := utf8 "\t\u3000"
    let line := parse [] text 7
    blanks.IsBlank ∧ line.tokens = [utf8 "MERI", 0xC2 :: utf8 "x", utf8 "l"] ∧
      line.SpelledBy (blanks ++ text) ∧ line.SpelledBy (text ++ blanks) := by
  intro text blanks line
  obtain ⟨areBlank, tokens⟩ : blanks.IsBlank ∧
      line.tokens = [utf8 "MERI", 0xC2 :: utf8 "x", utf8 "l"] := by
    decide +kernel
  obtain ⟨-, -, -, between, -, -⟩ := parse_canonical [] text 7
  exact ⟨areBlank, tokens, between blanks areBlank⟩

end Line
end LineMachine
