import LineMachine.Text.Basic

namespace LineMachine

/-- One character of a text, or one byte that belongs to no character. -/
inductive Glyph where
  | scalar (character : Char)
  | stray (byte : UInt8)
deriving DecidableEq, Repr

namespace Glyph

/-- A continuation byte carries six bits. -/
def isContinuation (byte : UInt8) : Bool := 0x80 ≤ byte && byte ≤ 0xBF

def payload (byte : UInt8) : Nat := byte.toNat % 0x40

/-- The character of a two-byte sequence. -/
def pair? (a b : UInt8) : Option Char :=
  if 0xC2 ≤ a && a ≤ 0xDF && isContinuation b then
    some (Char.ofNat ((a.toNat % 0x20) * 0x40 + payload b))
  else none

/-- The character of a three-byte sequence; surrogates and overlong forms have none. -/
def triple? (a b c : UInt8) : Option Char :=
  let low : UInt8 := if a = 0xE0 then 0xA0 else 0x80
  let high : UInt8 := if a = 0xED then 0x9F else 0xBF
  if 0xE0 ≤ a && a ≤ 0xEF && low ≤ b && b ≤ high && isContinuation c then
    some (Char.ofNat ((a.toNat % 0x10) * 0x1000 + payload b * 0x40 + payload c))
  else none

/-- The character of a four-byte sequence; nothing lies above the last code point. -/
def quadruple? (a b c d : UInt8) : Option Char :=
  let low : UInt8 := if a = 0xF0 then 0x90 else 0x80
  let high : UInt8 := if a = 0xF4 then 0x8F else 0xBF
  if 0xF0 ≤ a && a ≤ 0xF4 && low ≤ b && b ≤ high && isContinuation c && isContinuation d then
    some (Char.ofNat
      ((a.toNat % 0x08) * 0x40000 + payload b * 0x1000 + payload c * 0x40 + payload d))
  else none

/-- The bytes that a glyph stands for. -/
def bytes : Glyph → Text
  | .scalar character => String.utf8EncodeChar character
  | .stray byte => [byte]

/-- The bytes of a sequence of glyphs. -/
def text (glyphs : List Glyph) : Text := glyphs.flatMap bytes

/-- The character that stands in for a byte outside every character. -/
def replacement : Char := Char.ofNat 0xFFFD

/-- The character of a glyph, with a stand-in for a stray byte. -/
def character : Glyph → Char
  | .scalar character => character
  | .stray _ => replacement

end Glyph

/-- The glyphs of a text, the longest well-formed sequence first. -/
def Text.glyphs : Text → List Glyph
  | [] => []
  | a :: rest =>
    if a < 0x80 then .scalar (Char.ofNat a.toNat) :: glyphs rest
    else
      match rest with
      | [] => [.stray a]
      | b :: rest₂ =>
        match Glyph.pair? a b with
        | some character => .scalar character :: glyphs rest₂
        | none =>
          match rest₂ with
          | [] => .stray a :: glyphs [b]
          | c :: rest₃ =>
            match Glyph.triple? a b c with
            | some character => .scalar character :: glyphs rest₃
            | none =>
              match rest₃ with
              | [] => .stray a :: glyphs [b, c]
              | d :: rest₄ =>
                match Glyph.quadruple? a b c d with
                | some character => .scalar character :: glyphs rest₄
                | none => .stray a :: glyphs (b :: c :: d :: rest₄)

/-- A text is well formed when no byte is stray. -/
def Text.isUtf8 (text : Text) : Bool :=
  text.glyphs.all fun
    | .scalar _ => true
    | .stray _ => false

end LineMachine
