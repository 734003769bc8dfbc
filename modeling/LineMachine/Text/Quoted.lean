import LineMachine.Text.Glyph
import LineMachine.Text.Printable

namespace LineMachine.Text

/-- The lower-case hexadecimal digits of a number, with leading zeros up to a width. -/
def hexadecimal (width value : Nat) : Text :=
  let digits := (Nat.toDigits 16 value).map fun digit => UInt8.ofNat digit.toNat
  List.replicate (width - digits.length) 48 ++ digits

/-- The short escapes of control characters. -/
def shortEscape? (code : Nat) : Option Text :=
  match code with
  | 7 => some (utf8 "\\a")
  | 8 => some (utf8 "\\b")
  | 9 => some (utf8 "\\t")
  | 10 => some (utf8 "\\n")
  | 11 => some (utf8 "\\v")
  | 12 => some (utf8 "\\f")
  | 13 => some (utf8 "\\r")
  | _ => none

def escapeCharacter (character : Char) : Text :=
  let code := character.toNat
  if character == '"' || character == '\\' then 92 :: String.utf8EncodeChar character
  else if isPrintable character then String.utf8EncodeChar character
  else
    match shortEscape? code with
    | some escape => escape
    | none =>
      if code < 0x20 || code == 0x7F then utf8 "\\x" ++ hexadecimal 2 code
      else if code < 0x10000 then utf8 "\\u" ++ hexadecimal 4 code
      else utf8 "\\U" ++ hexadecimal 8 code

def escapeGlyph : Glyph → Text
  | .scalar character => escapeCharacter character
  | .stray byte => utf8 "\\x" ++ hexadecimal 2 byte.toNat

/-- The text between double quotes with escapes inside. -/
def quote (text : Text) : Text :=
  [34] ++ text.glyphs.flatMap escapeGlyph ++ [34]

end LineMachine.Text
