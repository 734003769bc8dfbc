import LineMachine.Yaml.Token.Cursor

namespace LineMachine.Yaml.Reading

/-- The gap between two pieces of a scalar: blanks on one line, or line breaks with the blanks
around them. -/
structure Gap where
  blanks : List Char := []
  first : Option Char := none
  more : List Char := []

namespace Gap

/-- A break has been passed. -/
def broken (gap : Gap) : Bool := gap.first.isSome

/-- A single line break becomes a space; of several, all but the first stay. -/
def folded (gap : Gap) : List Char :=
  match gap.first with
  | none => gap.blanks.reverse
  | some '\n' => if gap.more.isEmpty then [' '] else gap.more.reverse
  | some other => other :: gap.more.reverse

end Gap

/-- Takes the blanks and line breaks between two pieces of a scalar. Where a piece must be indented, a
tab in the indentation is refused. -/
def takeGap (start : Mark) (indent : Option Int) (escaped : Bool) :
    Nat → Gap → Reading Gap
  | 0, gap => return gap
  | fuel + 1, gap => do
    need 1
    let character ← look 0
    let leading := escaped || gap.broken
    if isSpaceOrTab character then
      if let some least := indent then
        if leading && ((← mark).column : Int) < least && character == '\t' then
          refuse start "found a tab character that violates indentation"
      skip
      takeGap start indent escaped fuel
        (if leading then gap else { gap with blanks := character :: gap.blanks })
    else if isBreak character then
      need 2
      let taken ← takeBreak
      takeGap start indent escaped fuel
        (if leading then { gap with more := taken :: gap.more }
         else { gap with blanks := [], first := some taken })
    else return gap

/-- Whether a plain scalar ends before the next character. -/
def endsPlain (cursor : Cursor) : Bool :=
  let character := cursor.look 0
  (character == ':' && isGap (cursor.look 1)) ||
    (cursor.flowLevel > 0 &&
      (character == ',' || character == '?' || character == '[' || character == ']' ||
        character == '{' || character == '}'))

/-- Takes the characters of a plain scalar up to a gap or its end. -/
def takePlainRun : Nat → List Char → Reading (List Char)
  | 0, taken => return taken
  | fuel + 1, taken => do
    let cursor ← get
    if isGap (cursor.look 0) || endsPlain cursor then return taken
    else
      let character ← take
      need 2
      takePlainRun fuel (character :: taken)

/-- Takes the pieces of a plain scalar; the result has the characters last first, the mark after
the last of them, and whether a line break was passed after it. -/
def takePlain (start : Mark) (indent : Int) :
    Nat → List Char → Gap → Mark → Reading (List Char × Mark × Bool)
  | 0, taken, gap, stop => return (taken, stop, gap.broken)
  | fuel + 1, taken, gap, stop => do
    need 4
    if (← atDocumentIndicator) || (← look 0) == '#' then return (taken, stop, gap.broken)
    let run ← takePlainRun (← get).room []
    let (taken, gap, stop) ←
      if run.isEmpty then pure (taken, gap, stop)
      else pure (run ++ gap.folded.reverse ++ taken, ({} : Gap), ← mark)
    let next ← look 0
    if !(isSpaceOrTab next || isBreak next) then return (taken, stop, gap.broken)
    let gap ← takeGap start (some indent) false (← get).room gap
    let cursor ← get
    if cursor.flowLevel == 0 && (cursor.mark.column : Int) < indent then
      return (taken, stop, gap.broken)
    takePlain start indent fuel taken gap stop

/-- A plain scalar. After a line break a new key may begin. -/
def plainScalar : Reading Token := do
  let start ← mark
  let cursor ← get
  let (taken, stop, broken) ← takePlain start (cursor.indent + 1) cursor.room [] {} start
  if broken then modify ({ · with keyAllowed := true })
  return { kind := .scalar (encode taken.reverse) .plain, start, stop }

def hexValue? (character : Char) : Option Nat :=
  if '0' ≤ character && character ≤ '9' then some (character.toNat - 48)
  else if 'a' ≤ character && character ≤ 'f' then some (character.toNat - 87)
  else if 'A' ≤ character && character ≤ 'F' then some (character.toNat - 55)
  else none

/-- The characters that a short escape stands for. -/
def shortEscape? : Char → Option Char
  | '0' => some '\x00'
  | 'a' => some '\x07'
  | 'b' => some '\x08'
  | 't' | '\t' => some '\t'
  | 'n' => some '\n'
  | 'v' => some '\x0b'
  | 'f' => some '\x0c'
  | 'r' => some '\r'
  | 'e' => some '\x1b'
  | ' ' => some ' '
  | '"' => some '"'
  | '\'' => some '\''
  | '\\' => some '\\'
  | 'N' => some '\u0085'
  | '_' => some '\u00a0'
  | 'L' => some '\u2028'
  | 'P' => some '\u2029'
  | _ => none

/-- The number of digits after a numeric escape. -/
def digitsAfter : Char → Nat
  | 'x' => 2
  | 'u' => 4
  | 'U' => 8
  | _ => 0

/-- The value of the next hexadecimal digits. -/
def takeHexadecimal (start : Mark) : Nat → Nat → Nat → Reading Nat
  | 0, _, value => return value
  | count + 1, distance, value => do
    match hexValue? (← look distance) with
    | some digit => takeHexadecimal start count (distance + 1) (value * 16 + digit)
    | none => refuse start "did not find expected hexdecimal number"

/-- Takes an escape in a double-quoted scalar. -/
def takeEscape (start : Mark) : Reading Char := do
  let letter ← look 1
  match shortEscape? letter with
  | some character =>
    skip
    skip
    return character
  | none =>
    let count := digitsAfter letter
    if count = 0 then refuse start "found unknown escape character"
    skip
    skip
    need count
    let value ← takeHexadecimal start count 0 0
    if (0xD800 ≤ value && value ≤ 0xDFFF) || 0x10FFFF < value then
      refuse start "found invalid Unicode character escape code"
    modify fun cursor => (List.range count).foldl (fun cursor _ => cursor.skip) cursor
    return Char.ofNat value

/-- Takes the characters of a quoted scalar up to a gap or its end, last first, and says whether
an escaped line break ended them. -/
def takeQuotedRun (single : Bool) (start : Mark) :
    Nat → List Char → Reading (List Char × Bool)
  | 0, taken => return (taken, false)
  | fuel + 1, taken => do
    let character ← look 0
    let next ← look 1
    if isGap character then return (taken, false)
    else if single && character == '\'' then
      if next == '\'' then
        skip
        skip
        need 2
        takeQuotedRun single start fuel ('\'' :: taken)
      else return (taken, false)
    else if !single && character == '"' then return (taken, false)
    else if !single && character == '\\' && isBreak next then
      need 3
      skip
      skipBreak
      return (taken, true)
    else if !single && character == '\\' then
      let escaped ← takeEscape start
      need 2
      takeQuotedRun single start fuel (escaped :: taken)
    else
      let plain ← take
      need 2
      takeQuotedRun single start fuel (plain :: taken)

/-- Takes a quoted scalar up to its closing quote, last character first. -/
def takeQuoted (single : Bool) (start : Mark) : Nat → List Char → Reading (List Char)
  | 0, taken => return taken
  | fuel + 1, taken => do
    need 4
    if ← atDocumentIndicator then refuse start "found unexpected document indicator"
    if (← look 0) == finish then refuse start "found unexpected end of stream"
    let (taken, escaped) ← takeQuotedRun single start (← get).room taken
    need 1
    if (← look 0) == (if single then '\'' else '"') then return taken
    let gap ← takeGap start none escaped (← get).room {}
    let between := if escaped then gap.more.reverse else gap.folded
    takeQuoted single start fuel (between.reverse ++ taken)

def quotedScalar (single : Bool) : Reading Token := do
  let start ← mark
  skip
  let taken ← takeQuoted single start (← get).room []
  skip
  let style := if single then ScalarStyle.singleQuoted else .doubleQuoted
  return { kind := .scalar (encode taken.reverse) style, start, stop := ← mark }

/-- What happens to the line breaks at the end of a block scalar. -/
inductive Chomping where
  | strip
  | clip
  | keep
deriving DecidableEq

def takeChomping : Reading (Option Chomping) := do
  match ← look 0 with
  | '+' => skip; return some .keep
  | '-' => skip; return some .strip
  | _ => return none

/-- The digit that fixes the indentation of a block scalar. -/
def takeIncrement (start : Mark) : Reading Nat := do
  let character ← look 0
  if character == '0' then refuse start "found an indentation indicator equal to 0"
  else if '1' ≤ character && character ≤ '9' then
    skip
    return character.toNat - 48
  else return 0

/-- The indicators of a block scalar, in either order. -/
def takeHeader (start : Mark) : Reading (Chomping × Nat) := do
  need 1
  match ← takeChomping with
  | some chomping =>
    need 1
    return (chomping, ← takeIncrement start)
  | none =>
    let increment ← takeIncrement start
    if increment = 0 then return (.clip, 0)
    need 1
    return ((← takeChomping).getD .clip, increment)

/-- Skips the spaces of an indentation; without a known one, all of them. -/
def skipIndent (indent : Nat) : Nat → Reading Unit
  | 0 => pure ()
  | fuel + 1 => do
    let cursor ← get
    if (indent = 0 || cursor.mark.column < indent) && cursor.look 0 == ' ' then
      skip
      need 1
      skipIndent indent fuel

/-- Takes empty lines and the indentation after them; the result has the breaks, last first, and
the deepest indentation seen. -/
def takeEmptyLines (start : Mark) (indent : Nat) :
    Nat → List Char → Nat → Reading (List Char × Nat)
  | 0, breaks, deepest => return (breaks, deepest)
  | fuel + 1, breaks, deepest => do
    need 1
    skipIndent indent (← get).room
    let cursor ← get
    let deepest := max deepest cursor.mark.column
    if (indent = 0 || cursor.mark.column < indent) && cursor.look 0 == '\t' then
      refuse start "found a tab character where an indentation space is expected"
    if !isBreak (cursor.look 0) then return (breaks, deepest)
    need 2
    takeEmptyLines start indent fuel ((← takeBreak) :: breaks) deepest

/-- Takes empty lines, and settles the indentation if it is not known. -/
def takeBlockBreaks (start : Mark) (indent : Nat) : Reading (List Char × Nat) := do
  let (breaks, deepest) ← takeEmptyLines start indent (← get).room [] 0
  if indent ≠ 0 then return (breaks, indent)
  let least := ((← get).indent + 1).toNat
  return (breaks, max (max deepest least) 1)

/-- The text between two lines of a block scalar, last character first. A folded scalar joins
lines that do not start with a blank. -/
def blockJoin (folds : Bool) (first : List Char) (breaks : List Char) : List Char :=
  if folds && first == ['\n'] then (if breaks.isEmpty then [' '] else breaks)
  else breaks ++ first

/-- Takes the lines of a block scalar; the result has the characters, the break after the last
line and the breaks after that, each last first. -/
def takeBlockLines (literal : Bool) (start : Mark) (indent : Nat) :
    Nat → List Char → List Char → List Char → Bool → Reading (List Char × List Char × List Char)
  | 0, taken, first, breaks, _ => return (taken, first, breaks)
  | fuel + 1, taken, first, breaks, afterBlank => do
    let cursor ← get
    if cursor.mark.column ≠ indent || cursor.look 0 == finish then
      return (taken, first, breaks)
    let blank := isSpaceOrTab (cursor.look 0)
    let joined := blockJoin (!literal && !afterBlank && !blank) first breaks
    let line ← takeWhile (!isBreakOrEnd ·)
    need 2
    let ended := isBreak (← look 0)
    let first ← if ended then pure [← takeBreak] else pure []
    let (breaks, _) ← takeBlockBreaks start indent
    takeBlockLines literal start indent fuel (line.reverse ++ joined ++ taken) first breaks blank

def blockScalar (literal : Bool) : Reading Token := do
  let start ← mark
  skip
  let (chomping, increment) ← takeHeader start
  skipWhile isSpaceOrTab
  if (← look 0) == '#' then skipWhile (!isBreakOrEnd ·)
  if !isBreakOrEnd (← look 0) then
    refuse start "did not find expected comment or line break"
  need 2
  skipBreak
  let base := (← get).indent
  let fixed := if increment = 0 then 0 else (max base 0).toNat + increment
  let (breaks, indent) ← takeBlockBreaks start fixed
  let (taken, first, breaks) ←
    takeBlockLines literal start indent (← get).room [] [] breaks false
  let content := match chomping with
    | .strip => taken
    | .clip => first ++ taken
    | .keep => breaks ++ first ++ taken
  let style := if literal then ScalarStyle.literal else .folded
  return { kind := .scalar (encode content.reverse) style, start, stop := ← mark }

end LineMachine.Yaml.Reading
