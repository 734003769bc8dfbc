import LineMachine.Yaml.Source
import LineMachine.Yaml.Token

namespace LineMachine.Yaml

/-- A place where a key without an indicator may have begun. -/
structure PossibleKey where
  possible : Bool := false
  required : Bool := false
  /-- The number of the token that begins the key. -/
  number : Nat := 0
  /-- Whether the key holds back the token with that number. -/
  listed : Bool := false
  mark : Mark := {}
deriving DecidableEq, Repr

structure Cursor where
  source : Source
  mark : Mark := {}
  /-- The line breaks passed since the last character that is not blank. -/
  breaks : Nat := 0
  started : Bool := false
  /-- The tokens that were found and not yet taken. -/
  queue : Array Token := #[]
  /-- The number of tokens that were taken. -/
  taken : Nat := 0
  /-- Whether the first token of the queue is settled. -/
  settled : Bool := false
  indent : Int := -1
  indents : List Int := []
  flowLevel : Nat := 0
  keyAllowed : Bool := false
  /-- The possible key of every open nesting level, the innermost first. -/
  keys : List PossibleKey := [{}]

/-- Reading may fail with a problem. -/
abbrev Reading := StateT Cursor (Except Problem)

/-- The end of a document reads as the null character. -/
def finish : Char := '\x00'

def isBreak (character : Char) : Bool :=
  character == '\n' || character == '\r' || character == '\u0085' || character == '\u2028' ||
    character == '\u2029'

def isSpaceOrTab (character : Char) : Bool := character == ' ' || character == '\t'

def isBreakOrEnd (character : Char) : Bool := isBreak character || character == finish

def isGap (character : Char) : Bool := isSpaceOrTab character || isBreakOrEnd character

/-- The characters of anchors, handles and directive names. -/
def isWordCharacter (character : Char) : Bool :=
  ('0' ≤ character && character ≤ '9') || ('A' ≤ character && character ≤ 'Z') ||
    ('a' ≤ character && character ≤ 'z') || character == '_' || character == '-'

/-- The bytes of some characters. -/
def encode (characters : List Char) : Text := characters.flatMap String.utf8EncodeChar

namespace Cursor

/-- The character at a distance. -/
def look (cursor : Cursor) (distance : Nat) : Char :=
  cursor.source.characters.getD (cursor.mark.index + distance) finish

/-- A bound on how often the cursor can still move. -/
def room (cursor : Cursor) : Nat := cursor.source.characters.size - cursor.mark.index + 1

/-- The cursor past one character. -/
def skip (cursor : Cursor) : Cursor :=
  let mark := cursor.mark
  { cursor with
    breaks := if isSpaceOrTab (cursor.look 0) then cursor.breaks else 0
    mark := { mark with index := mark.index + 1, column := mark.column + 1 } }

/-- The cursor past a line break, which may have two characters. -/
def skipBreak (cursor : Cursor) : Cursor :=
  let mark := cursor.mark
  let past (width : Nat) : Cursor :=
    { cursor with
      breaks := cursor.breaks + 1
      mark := { index := mark.index + width, line := mark.line + 1, column := 0 } }
  if cursor.look 0 == '\r' && cursor.look 1 == '\n' then past 2
  else if isBreak (cursor.look 0) then past 1
  else cursor

end Cursor

namespace Reading

/-- Fails if a character within this distance could not be decoded. -/
def need (count : Nat) : Reading Unit := do
  let cursor ← get
  match cursor.source.failure with
  | some (limit, message) =>
    if limit < cursor.mark.index + count then throw (.input message)
  | none => pure ()

def look (distance : Nat) : Reading Char := return (← get).look distance

def mark : Reading Mark := return (← get).mark

def skip : Reading Unit := modify Cursor.skip

def skipBreak : Reading Unit := modify Cursor.skipBreak

/-- Takes one character. -/
def take : Reading Char := do
  let character ← look 0
  skip
  return character

/-- Takes a line break; the separators of lines and paragraphs are kept, all others are one. -/
def takeBreak : Reading Char := do
  let character ← look 0
  skipBreak
  return if character == '\u2028' || character == '\u2029' then character else '\n'

/-- A problem with a token that began at a mark. -/
def refuse {α : Type} (context : Mark) (message : String) : Reading α := do
  throw (.token context (← mark) (utf8 message))

def skipWhileWithin (condition : Char → Bool) : Nat → Reading Unit
  | 0 => pure ()
  | fuel + 1 => do
    need 1
    if condition (← look 0) then
      skip
      skipWhileWithin condition fuel

/-- Skips all characters with a property. -/
def skipWhile (condition : Char → Bool) : Reading Unit := do
  skipWhileWithin condition (← get).room

def takeWhileWithin (condition : Char → Bool) : Nat → List Char → Reading (List Char)
  | 0, taken => return taken.reverse
  | fuel + 1, taken => do
    need 1
    if condition (← look 0) then
      takeWhileWithin condition fuel ((← take) :: taken)
    else return taken.reverse

/-- Takes all characters with a property. -/
def takeWhile (condition : Char → Bool) : Reading (List Char) := do
  takeWhileWithin condition (← get).room []

/-- Whether a line starts here with the indicator of a document. -/
def atDocumentIndicator : Reading Bool := do
  let cursor ← get
  let indicator (c : Char) : Bool :=
    cursor.look 0 == c && cursor.look 1 == c && cursor.look 2 == c && isGap (cursor.look 3)
  return cursor.mark.column == 0 && (indicator '-' || indicator '.')

end Reading
end LineMachine.Yaml
