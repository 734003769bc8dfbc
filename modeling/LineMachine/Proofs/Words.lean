import LineMachine.Line
import LineMachine.Proofs.Glyphs

namespace LineMachine

namespace Text

/-- No character of the text is blank. -/
def IsUnbroken (text : Text) : Prop := ∀ glyph ∈ text.glyphs, glyph.isBlank = false

/-- A token is what a program can use as one word: not empty, without blanks and without the sign
that starts a comment. -/
structure IsToken (text : Text) : Prop where
  nonempty : text ≠ []
  unbroken : text.IsUnbroken
  uncommented : 35 ∉ text

instance (text : Text) : Decidable text.IsUnbroken :=
  inferInstanceAs (Decidable (∀ glyph ∈ text.glyphs, glyph.isBlank = false))

instance (text : Text) : Decidable text.IsToken :=
  decidable_of_iff (text ≠ [] ∧ text.IsUnbroken ∧ 35 ∉ text)
    ⟨fun ⟨nonempty, unbroken, uncommented⟩ => ⟨nonempty, unbroken, uncommented⟩,
      fun token => ⟨token.nonempty, token.unbroken, token.uncommented⟩⟩

/-- A text cut at its blank characters. -/
inductive Layout where
  | last (piece : Text)
  | more (piece : Text) (blank : Glyph) (rest : Layout)
deriving DecidableEq, Repr

namespace Layout

def text : Layout → Text
  | .last piece => piece
  | .more piece blank rest => piece ++ (blank.bytes ++ rest.text)

/-- The pieces that are not empty. -/
def words : Layout → List Text
  | .last piece => if piece.isEmpty then [] else [piece]
  | .more piece _ rest => if piece.isEmpty then rest.words else piece :: rest.words

/-- The layout with one more glyph at the start of its first piece. -/
def prepend (glyph : Glyph) : Layout → Layout
  | .last piece => .last (glyph.bytes ++ piece)
  | .more piece blank rest => .more (glyph.bytes ++ piece) blank rest

def ofGlyphs : List Glyph → Layout
  | [] => .last []
  | glyph :: rest =>
    if glyph.isBlank then .more [] glyph (ofGlyphs rest) else (ofGlyphs rest).prepend glyph

/-- The layout with changed words: the first change is for the first word, and so on. Words without
a change stay as they are. -/
def change : List (Text → Text) → Layout → Layout
  | [], layout => layout
  | first :: _, .last piece => .last (if piece.isEmpty then piece else first piece)
  | first :: others, .more piece blank rest =>
    if piece.isEmpty then .more piece blank (rest.change (first :: others))
    else .more (first piece) blank (rest.change others)

/-- The words of the layout are tokens, and its blanks are blank. -/
def Valid : Layout → Prop
  | .last piece => piece ≠ [] → piece.IsToken
  | .more piece blank rest => (piece ≠ [] → piece.IsToken) ∧ blank.isBlank ∧ rest.Valid

end Layout

/-- The layout of a text. -/
def layout (text : Text) : Layout := .ofGlyphs text.glyphs

/-- Changes for the first items of a list; the others stay as they are. -/
def applyEach : List (Text → Text) → List Text → List Text
  | change :: changes, word :: words => change word :: applyEach changes words
  | _, words => words

theorem isUnbroken_nil : IsUnbroken [] := by
  intro glyph member
  simp [glyphs] at member

/-- A blank character is no stray byte. -/
theorem isBlank_scalar {glyph : Glyph} (blank : glyph.isBlank) :
    ∃ character, glyph = .scalar character := by
  cases glyph with
  | scalar character => exact ⟨character, rfl⟩
  | stray byte => simp [Glyph.isBlank] at blank

/-- Glyphs that are not blank belong to the first word. -/
theorem openWords_append {word : List Glyph} (unbroken : ∀ glyph ∈ word, glyph.isBlank = false)
    (rest : List Glyph) :
    openWords (word ++ rest) = (word ++ (openWords rest).1, (openWords rest).2) := by
  induction word with
  | nil => rfl
  | cons glyph word inductionHypothesis =>
    rw [List.cons_append, openWords, inductionHypothesis fun other member =>
      unbroken other (by simp [member])]
    simp [unbroken glyph (by simp)]

/-- A text is empty when it has no glyphs. -/
theorem glyphs_isEmpty (text : Text) : text.glyphs.isEmpty = text.isEmpty := by
  cases text with
  | nil => rfl
  | cons first rest =>
    have bytes := text_glyphs (first :: rest)
    cases read : glyphs (first :: rest) with
    | nil => simp [read, Glyph.text] at bytes
    | cons glyph glyphs => rfl

/-- A text without blanks is one word or none. -/
theorem words_unbroken {text : Text} (unbroken : text.IsUnbroken) :
    text.words = if text.isEmpty then [] else [text] := by
  have opened := openWords_append unbroken []
  simp only [List.append_nil, openWords] at opened
  rw [words, opened]
  simp only [closeWord, glyphs_isEmpty]
  split <;> simp

/-- The words of a text with a blank character are those before it and those after it. -/
theorem words_append_blank {text : Text} (unbroken : text.IsUnbroken) {blank : Glyph}
    (isBlank : blank.isBlank) (rest : Text) :
    (text ++ (blank.bytes ++ rest)).words =
      if text.isEmpty then rest.words else text :: rest.words := by
  obtain ⟨character, rfl⟩ := isBlank_scalar isBlank
  have reads := Reads.encode character rest
  have read : glyphs (text ++ (Glyph.bytes (.scalar character) ++ rest)) =
      text.glyphs ++ .scalar character :: rest.glyphs := by
    rw [Glyph.bytes, glyphs_append _ reads.isBoundary, reads.glyphs_eq]
  have opened := openWords_append unbroken (.scalar character :: rest.glyphs)
  simp only [openWords, isBlank, if_true, List.append_nil] at opened
  rw [words, read, opened]
  simp only [closeWord, glyphs_isEmpty]
  split <;> simp [words, closeWord]

/-- An ASCII byte of a character is the whole character. -/
theorem toNat_of_mem_encode {character : Char} {byte : UInt8}
    (member : byte ∈ String.utf8EncodeChar character) (ascii : byte.toNat < 128) :
    character.toNat = byte.toNat := by
  rw [String.utf8EncodeChar, Char.toNat_val] at member
  split at member
  · rw [List.mem_singleton] at member
    rw [member, UInt8.toNat_ofNat']
    omega
  · exfalso
    split at member
    · simp only [List.mem_cons, List.not_mem_nil, or_false] at member
      rcases member with rfl | rfl <;> rw [UInt8.toNat_ofNat'] at ascii <;> omega
    · split at member
      · simp only [List.mem_cons, List.not_mem_nil, or_false] at member
        rcases member with rfl | rfl | rfl <;> rw [UInt8.toNat_ofNat'] at ascii <;> omega
      · simp only [List.mem_cons, List.not_mem_nil, or_false] at member
        rcases member with rfl | rfl | rfl | rfl <;> rw [UInt8.toNat_ofNat'] at ascii <;> omega

/-- An ASCII byte of a text is a character of the text. -/
theorem scalar_mem_glyphs {text : Text} {byte : UInt8} (member : byte ∈ text)
    (ascii : byte.toNat < 128) : .scalar (Char.ofNat byte.toNat) ∈ text.glyphs := by
  induction text using readInduction with
  | nil => contradiction
  | scalar text character rest reads inductionHypothesis =>
    rw [reads.glyphs_eq, List.mem_cons]
    rw [reads.bytes_eq, List.mem_append] at member
    rcases member with here | later
    · left
      rw [← toNat_of_mem_encode here ascii, Char.ofNat_toNat]
    · exact .inr (inductionHypothesis later)
  | stray first text unread inductionHypothesis =>
    rw [glyphs_stray unread]
    rcases List.mem_cons.mp member with rfl | later
    · exact absurd (.single (UInt8.lt_iff_toNat_lt.mpr ascii)) (unread _ text)
    · exact List.mem_cons_of_mem _ (inductionHypothesis later)

/-- A text without blanks has no byte that is a blank of its own. -/
theorem IsUnbroken.not_mem {text : Text} (unbroken : text.IsUnbroken) {byte : UInt8}
    (ascii : byte.toNat < 128) (blank : LineMachine.isBlank (Char.ofNat byte.toNat)) :
    byte ∉ text := by
  intro member
  have solid := unbroken _ (scalar_mem_glyphs member ascii)
  simp [Glyph.isBlank, blank] at solid

/-- The bytes of a blank character start no comment. -/
theorem blank_uncommented {blank : Glyph} (isBlank : blank.isBlank) : 35 ∉ blank.bytes := by
  obtain ⟨character, rfl⟩ := isBlank_scalar isBlank
  intro member
  have number := toNat_of_mem_encode member (by decide)
  simp [Glyph.isBlank, LineMachine.isBlank, number] at isBlank

namespace Layout

theorem unbroken_of_token {piece : Text} (token : piece ≠ [] → piece.IsToken) :
    piece.IsUnbroken := by
  cases piece with
  | nil => exact isUnbroken_nil
  | cons first rest => exact (token (by simp)).unbroken

/-- A laid out text has the words of its layout. -/
theorem words_text {layout : Layout} (valid : layout.Valid) : layout.text.words = layout.words := by
  induction layout with
  | last piece =>
    rw [text, words_unbroken (unbroken_of_token valid), words]
  | more piece blank rest inductionHypothesis =>
    obtain ⟨token, isBlank, validRest⟩ := valid
    rw [text, words_append_blank (unbroken_of_token token) isBlank, inductionHypothesis validRest,
      words]

/-- The words of a layout are tokens. -/
theorem isToken_of_mem_words {layout : Layout} (valid : layout.Valid) {word : Text}
    (member : word ∈ layout.words) : word.IsToken := by
  induction layout with
  | last piece =>
    rw [words] at member
    split at member
    · contradiction
    · rename_i nonempty
      obtain rfl := List.mem_singleton.mp member
      exact valid (by simpa using nonempty)
  | more piece blank rest inductionHypothesis =>
    obtain ⟨token, isBlank, validRest⟩ := valid
    rw [words] at member
    split at member
    · exact inductionHypothesis validRest member
    · rename_i nonempty
      rcases List.mem_cons.mp member with rfl | later
      · exact token (by simpa using nonempty)
      · exact inductionHypothesis validRest later

theorem uncommented_text {layout : Layout} (valid : layout.Valid) : 35 ∉ layout.text := by
  have uncommented {piece : Text} (token : piece ≠ [] → piece.IsToken) : 35 ∉ piece := by
    intro member
    exact (token (List.ne_nil_of_mem member)).uncommented member
  induction layout with
  | last piece => exact uncommented valid
  | more piece blank rest inductionHypothesis =>
    obtain ⟨token, isBlank, validRest⟩ := valid
    simp [text, uncommented token, blank_uncommented isBlank, inductionHypothesis validRest]

section change

variable {changes : List (Text → Text)}
  (kept : ∀ change ∈ changes, ∀ word, IsToken word → IsToken (change word))

include kept

/-- Changes that keep tokens keep a layout valid. -/
theorem valid_change {layout : Layout} (valid : layout.Valid) : (layout.change changes).Valid := by
  induction layout generalizing changes with
  | last piece =>
    cases changes with
    | nil => exact valid
    | cons first others =>
      rw [change]
      split
      · exact valid
      · rename_i nonempty
        exact fun _ => kept first (by simp) piece (valid (by simpa using nonempty))
  | more piece blank rest inductionHypothesis =>
    obtain ⟨token, isBlank, validRest⟩ := valid
    cases changes with
    | nil => exact ⟨token, isBlank, validRest⟩
    | cons first others =>
      rw [change]
      split
      · exact ⟨token, isBlank, inductionHypothesis kept validRest⟩
      · rename_i nonempty
        refine ⟨fun _ => kept first (by simp) piece (token (by simpa using nonempty)), isBlank, ?_⟩
        exact inductionHypothesis (fun change member => kept change (by simp [member])) validRest

/-- A layout with changed words has the changed words. -/
theorem words_change {layout : Layout} (valid : layout.Valid) :
    (layout.change changes).words = applyEach changes layout.words := by
  induction layout generalizing changes with
  | last piece =>
    cases changes with
    | nil => rfl
    | cons first others =>
      rw [change]
      cases piece with
      | nil => rfl
      | cons byte bytes =>
        have token := kept first (by simp) (byte :: bytes) (valid (by simp))
        simp [words, applyEach, token.nonempty]
  | more piece blank rest inductionHypothesis =>
    obtain ⟨token, isBlank, validRest⟩ := valid
    cases changes with
    | nil => rfl
    | cons first others =>
      cases piece with
      | nil => simpa [change, words] using inductionHypothesis kept validRest
      | cons byte bytes =>
        have changed := kept first (by simp) (byte :: bytes) (token (by simp))
        have keptLater : ∀ change ∈ others, ∀ word, IsToken word → IsToken (change word) :=
          fun change member => kept change (by simp [member])
        have later := inductionHypothesis keptLater validRest
        simp [change, words, applyEach, changed.nonempty, later]

end change

/-- The piece at the start. -/
def first : Layout → Text
  | .last piece => piece
  | .more piece _ _ => piece

theorem first_prefix (layout : Layout) : layout.first <+: layout.text := by
  cases layout with
  | last piece => exact List.prefix_refl _
  | more piece blank rest => exact List.prefix_append _ _

theorem text_prepend (glyph : Glyph) (layout : Layout) :
    (layout.prepend glyph).text = glyph.bytes ++ layout.text := by
  cases layout <;> simp [prepend, text]

/-- A glyph that is not blank makes the first word longer, if it is read there as it stands. -/
theorem valid_prepend {glyph : Glyph} {layout : Layout} (valid : layout.Valid)
    (solid : glyph.isBlank = false) (uncommented : 35 ∉ glyph.bytes) (nonempty : glyph.bytes ≠ [])
    (read : glyphs (glyph.bytes ++ layout.first) = glyph :: layout.first.glyphs) :
    (layout.prepend glyph).Valid := by
  have token {piece : Text} (token : piece ≠ [] → piece.IsToken)
      (read : glyphs (glyph.bytes ++ piece) = glyph :: piece.glyphs) :
      IsToken (glyph.bytes ++ piece) := by
    refine ⟨by simp [nonempty], ?_, ?_⟩
    · rw [IsUnbroken, read]
      intro other member
      rcases List.mem_cons.mp member with rfl | later
      · exact solid
      · exact unbroken_of_token token other later
    · rw [List.mem_append]
      rintro (member | member)
      · exact uncommented member
      · exact (token (List.ne_nil_of_mem member)).uncommented member
  cases layout with
  | last piece => exact fun _ => token valid read
  | more piece blank rest =>
    obtain ⟨pieceToken, isBlank, validRest⟩ := valid
    exact ⟨fun _ => token pieceToken read, isBlank, validRest⟩

end Layout

/-- The layout of a text has the bytes of the text. -/
theorem text_layout (text : Text) : text.layout.text = text := by
  have all (glyphs : List Glyph) : (Layout.ofGlyphs glyphs).text = Glyph.text glyphs := by
    induction glyphs with
    | nil => rfl
    | cons glyph rest inductionHypothesis =>
      rw [Layout.ofGlyphs, Glyph.text, List.flatMap_cons, ← Glyph.text, ← inductionHypothesis]
      split
      · rfl
      · exact Layout.text_prepend glyph _
  rw [layout, all, text_glyphs]

/-- The layout of a text without comments is valid. -/
theorem valid_layout {text : Text} (uncommented : 35 ∉ text) : text.layout.Valid := by
  induction text using readInduction with
  | nil => exact fun nonempty => absurd rfl nonempty
  | scalar text character rest reads inductionHypothesis =>
    rw [reads.bytes_eq, List.mem_append, not_or] at uncommented
    have validRest := inductionHypothesis uncommented.2
    rw [layout, reads.glyphs_eq, Layout.ofGlyphs, ← layout]
    cases blank : Glyph.isBlank (.scalar character) with
    | true => exact ⟨fun nonempty => absurd rfl nonempty, blank, validRest⟩
    | false =>
      have readFirst := Reads.encode character rest.layout.first
      refine Layout.valid_prepend validRest blank uncommented.1 ?_ readFirst.glyphs_eq
      intro none
      have shorter := readFirst.length_lt
      rw [show String.utf8EncodeChar character = [] from none] at shorter
      simp at shorter
  | stray byte text unread inductionHypothesis =>
    rw [List.mem_cons, not_or] at uncommented
    have validRest := inductionHypothesis uncommented.2
    -- The byte starts no character with the whole text after it, so none with the first piece.
    obtain ⟨tail, joined⟩ := text.layout.first_prefix
    rw [text_layout] at joined
    have unreadFirst : ∀ character rest, ¬ Reads (byte :: text.layout.first) character rest := by
      intro character rest reads
      have longer := reads.append tail
      rw [List.cons_append, joined] at longer
      exact unread character _ longer
    rw [layout, glyphs_stray unread, Layout.ofGlyphs, ← layout]
    refine Layout.valid_prepend validRest rfl ?_ (by simp [Glyph.bytes]) (glyphs_stray unreadFirst)
    simpa [Glyph.bytes] using uncommented.1

/-- A text without comments has tokens as its words. -/
theorem isToken_of_mem_words {text word : Text} (uncommented : 35 ∉ text)
    (member : word ∈ text.words) : word.IsToken := by
  have valid := valid_layout uncommented
  rw [← text_layout text, Layout.words_text valid] at member
  exact Layout.isToken_of_mem_words valid member

/-- A text without words has nothing but blanks. -/
theorem words_eq_nil_iff (text : Text) :
    text.words = [] ↔ ∀ glyph ∈ text.glyphs, glyph.isBlank := by
  have closed (glyphs : List Glyph) : closeWord (openWords glyphs).1 (openWords glyphs).2 = [] ↔
      ∀ glyph ∈ glyphs, glyph.isBlank := by
    induction glyphs with
    | nil => simp [openWords, closeWord]
    | cons glyph rest inductionHypothesis =>
      cases blank : glyph.isBlank with
      | true => simpa [openWords, blank, closeWord] using inductionHypothesis
      | false => simp [openWords, blank, closeWord]
  rw [← closed, words]
  exact List.map_eq_nil_iff

/-- A text stays a text in upper case. -/
theorem upper_eq_nil_iff (text : Text) : text.upper = [] ↔ text = [] := by
  have encoded (character : Char) : String.utf8EncodeChar character ≠ [] := by
    intro none
    have shorter := (Reads.encode character []).length_lt
    simp [none] at shorter
  rw [upper, mapCharacters, List.flatMap_eq_nil_iff]
  cases text with
  | nil => simp [glyphs]
  | cons first rest =>
    have some := glyphs_isEmpty (first :: rest)
    cases read : glyphs (first :: rest) with
    | nil => simp [read] at some
    | cons glyph others =>
      constructor
      · intro none
        exact absurd (none glyph List.mem_cons_self) (encoded _)
      · simp

end Text

namespace Line

theorem uncommented_code (text : Text) : 35 ∉ code text := by
  intro member
  simpa using List.all_eq_true.mp List.all_takeWhile 35 member

theorem parse_command (filename text : Text) (number : Int) :
    (parse filename text number).command = ((code text).words.head?.map Text.upper).getD [] := by
  rw [parse]
  cases (code text).words <;> rfl

theorem parse_arguments (filename text : Text) (number : Int) :
    (parse filename text number).arguments = (code text).words.tail := by
  rw [parse]
  cases (code text).words <;> rfl

/-- The arguments of a line are tokens. -/
theorem isToken_of_mem_arguments {filename text word : Text} {number : Int}
    (member : word ∈ (parse filename text number).arguments) : word.IsToken := by
  rw [parse_arguments] at member
  exact Text.isToken_of_mem_words (uncommented_code text) (List.mem_of_mem_tail member)

/-- A line is empty when it has nothing but blanks before its comment. -/
theorem parse_isEmpty_iff (filename text : Text) (number : Int) :
    (parse filename text number).isEmpty ↔ ∀ glyph ∈ (code text).glyphs, glyph.isBlank := by
  rw [← Text.words_eq_nil_iff, isEmpty, parse_command]
  cases words : (code text).words with
  | nil => simp
  | cons mnemonic arguments =>
    have token : mnemonic.IsToken :=
      Text.isToken_of_mem_words (uncommented_code text) (by simp [words])
    simp [Text.upper_eq_nil_iff, token.nonempty]

/-- The line with its words changed in place; blanks and comment stay. -/
def rewrite (changes : List (Text → Text)) (text : Text) : Text :=
  ((code text).layout.change changes).text ++ text.dropWhile (· != 35)

section

variable {changes : List (Text → Text)}
  (kept : ∀ change ∈ changes, ∀ word : Text, word.IsToken → Text.IsToken (change word))

include kept

/-- Changing the words of a line does not move its comment. -/
theorem code_rewrite (text : Text) :
    code (rewrite changes text) = ((code text).layout.change changes).text := by
  have valid := Text.Layout.valid_change kept (Text.valid_layout (uncommented_code text))
  have uncommented := Text.Layout.uncommented_text valid
  have comment (text : Text) : (text.dropWhile (· != 35)).takeWhile (· != 35) = [] := by
    induction text with
    | nil => rfl
    | cons byte rest inductionHypothesis =>
      by_cases sign : byte = 35
      · simp [sign]
      · simpa [sign] using inductionHypothesis
  rw [code, Text.before, rewrite, List.takeWhile_append_of_pos, comment, List.append_nil]
  intro byte member
  simpa using fun sign : byte = 35 => uncommented (sign ▸ member)

/-- A line with changed words has the changed words. -/
theorem words_rewrite (text : Text) :
    (code (rewrite changes text)).words = Text.applyEach changes (code text).words := by
  have valid := Text.valid_layout (uncommented_code text)
  rw [code_rewrite kept, Text.Layout.words_text (Text.Layout.valid_change kept valid),
    Text.Layout.words_change kept valid, ← Text.Layout.words_text valid, Text.text_layout]

end

end Line
end LineMachine
