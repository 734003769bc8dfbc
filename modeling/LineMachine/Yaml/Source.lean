import LineMachine.Text.Glyph
import LineMachine.Yaml.Problem

/-! Bytes are decoded in windows as they are needed, so a bad byte is noticed when the first
character of its window is asked for. -/

namespace LineMachine.Yaml

/-- The decoded characters. Where decoding failed, the failure is met by whoever asks for more
characters than were decoded before its window. -/
structure Source where
  characters : Array Char
  failure : Option (Nat × Text) := none

namespace Source

/-- The bytes are decoded in windows of at most this size. -/
def windowSize : Nat := 512

/-- The characters that a document may hold. -/
def isAllowed (character : Char) : Bool :=
  let code := character.toNat
  code == 0x09 || code == 0x0A || code == 0x0D || (0x20 ≤ code && code ≤ 0x7E) || code == 0x85 ||
    (0xA0 ≤ code && code ≤ 0xD7FF) || (0xE000 ≤ code && code ≤ 0xFFFD) || 0x10000 ≤ code

/-- The number of bytes that a leading byte announces. -/
def announced (byte : UInt8) : Nat :=
  if byte < 0x80 then 1
  else if 0xC0 ≤ byte && byte < 0xE0 then 2
  else if 0xE0 ≤ byte && byte < 0xF0 then 3
  else if 0xF0 ≤ byte && byte < 0xF8 then 4
  else 0

/-- What became of the bytes at the front of a window. -/
inductive Decoded where
  | character (character : Char) (width : Nat)
  | incomplete
  | bad (message : Text)

/-- The value of a sequence, its leading byte first. -/
def sequenceValue (width : Nat) (bytes : Text) : Nat :=
  let mask := if width = 1 then 0x80 else if width = 2 then 0x20 else if width = 3 then 0x10 else 8
  bytes.tail.foldl (fun value byte => value * 64 + byte.toNat % 64) ((bytes.headD 0).toNat % mask)

def allowed (code width : Nat) : Decoded :=
  let character := Char.ofNat code
  if isAllowed character then .character character width
  else .bad (utf8 "control characters are not allowed")

/-- The first character of a window in UTF-8. -/
def decodeUtf8 (window : Text) : Decoded :=
  let width := announced (window.headD 0)
  if width = 0 then .bad (utf8 "invalid leading UTF-8 octet")
  else if window.length < width then .incomplete
  else
    let bytes := window.take width
    if !bytes.tail.all Glyph.isContinuation then .bad (utf8 "invalid trailing UTF-8 octet")
    else
      let value := sequenceValue width bytes
      let least := if width = 1 then 0 else if width = 2 then 0x80 else if width = 3 then 0x800
        else 0x10000
      if value < least then .bad (utf8 "invalid length of a UTF-8 sequence")
      else if (0xD800 ≤ value && value ≤ 0xDFFF) || 0x10FFFF < value then
        .bad (utf8 "invalid Unicode character")
      else allowed value width

/-- The first character of a window in UTF-16. -/
def decodeUtf16 (bigEndian : Bool) (window : Text) : Decoded :=
  let unit (first second : UInt8) : Nat :=
    if bigEndian then first.toNat * 256 + second.toNat else second.toNat * 256 + first.toNat
  match window with
  | a :: b :: rest =>
    let value := unit a b
    if value / 0x400 = 0x37 then .bad (utf8 "unexpected low surrogate area")
    else if value / 0x400 = 0x36 then
      match rest with
      | c :: d :: _ =>
        let low := unit c d
        if low / 0x400 = 0x37 then
          allowed (0x10000 + (value % 0x400) * 0x400 + low % 0x400) 4
        else .bad (utf8 "expected low surrogate area")
      | _ => .incomplete
    else allowed value 2
  | _ => .incomplete

inductive Encoding where
  | utf8
  | utf16 (bigEndian : Bool)

def Encoding.decode : Encoding → Text → Decoded
  | .utf8 => decodeUtf8
  | .utf16 bigEndian => decodeUtf16 bigEndian

/-- The failure of a document that ends inside a character. -/
def Encoding.cut : Encoding → Text → Text
  | .utf8, _ => LineMachine.utf8 "incomplete UTF-8 octet sequence"
  | .utf16 _, rest =>
    if rest.length < 2 then LineMachine.utf8 "incomplete UTF-16 character"
    else LineMachine.utf8 "incomplete UTF-16 surrogate pair"

/-- The encoding that a byte order mark tells, and the bytes after the mark. -/
def encodingOf : Text → Encoding × Text
  | 0xFF :: 0xFE :: rest => (.utf16 false, rest)
  | 0xFE :: 0xFF :: rest => (.utf16 true, rest)
  | 0xEF :: 0xBB :: 0xBF :: rest => (.utf8, rest)
  | bytes => (.utf8, bytes)

/-- Decodes the bytes of a window, as far as the characters in it are complete. -/
def decodeWindow (encoding : Encoding) :
    Nat → Array Char → Text → Except Text (Array Char × Text)
  | 0, characters, window => .ok (characters, window)
  | fuel + 1, characters, window =>
    if window.isEmpty then .ok (characters, [])
    else
      match encoding.decode window with
      | .character character width =>
        decodeWindow encoding fuel (characters.push character) (window.drop width)
      | .incomplete => .ok (characters, window)
      | .bad message => .error message

/-- Decodes one window after the other. What is left of a window starts the next. -/
def decodeWindows (encoding : Encoding) :
    Nat → Array Char → (left bytes : Text) → (room : Nat) → Source
  | 0, characters, _, _, _ => { characters }
  | fuel + 1, characters, left, bytes, room =>
    let size := room - left.length
    let window := left ++ bytes.take size
    if bytes.isEmpty then
      if left.isEmpty then { characters }
      else { characters, failure := some (characters.size, encoding.cut left) }
    else
      match decodeWindow encoding window.length characters window with
      | .error message => { characters, failure := some (characters.size, message) }
      | .ok (decoded, rest) =>
        decodeWindows encoding fuel decoded rest (bytes.drop size) windowSize

/-- The characters of a document. A byte order mark takes up room in the first window. -/
def ofBytes (bytes : Text) : Source :=
  let (encoding, rest) := encodingOf bytes
  decodeWindows encoding (bytes.length + 1) #[] [] rest (windowSize - (bytes.length - rest.length))

end Source
end LineMachine.Yaml
