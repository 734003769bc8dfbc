import LineMachine.Text.Glyph

/-! Blank characters are those with the Unicode property `White_Space`. -/

namespace LineMachine

/-- The characters with the property `White_Space`. -/
def isBlank (character : Char) : Bool :=
  let code := character.toNat
  (0x9 ≤ code && code ≤ 0xD) || code == 0x20 || code == 0x85 || code == 0xA0 || code == 0x1680 ||
    (0x2000 ≤ code && code ≤ 0x200A) || code == 0x2028 || code == 0x2029 || code == 0x202F ||
    code == 0x205F || code == 0x3000

/-- A stray byte is never blank. -/
def Glyph.isBlank : Glyph → Bool
  | .scalar character => LineMachine.isBlank character
  | .stray _ => false

namespace Text

/-- The glyphs without the blank ones at both ends. -/
def trimGlyphs (glyphs : List Glyph) : List Glyph :=
  ((glyphs.dropWhile Glyph.isBlank).reverse.dropWhile Glyph.isBlank).reverse

/-- The text without blank characters at both ends. -/
def trim (text : Text) : Text := Glyph.text (trimGlyphs text.glyphs)

/-- A word that has ended joins the words after it, unless it is empty. -/
def closeWord (word : List Glyph) (words : List (List Glyph)) : List (List Glyph) :=
  if word.isEmpty then words else word :: words

/-- The word at the very start, still open to the left, and the words after it. -/
def openWords : List Glyph → List Glyph × List (List Glyph)
  | [] => ([], [])
  | glyph :: rest =>
    let (word, words) := openWords rest
    if glyph.isBlank then ([], closeWord word words) else (glyph :: word, words)

/-- The maximal runs of glyphs that are not blank. -/
def words (text : Text) : List Text :=
  let (word, rest) := openWords text.glyphs
  (closeWord word rest).map Glyph.text

end Text
end LineMachine
