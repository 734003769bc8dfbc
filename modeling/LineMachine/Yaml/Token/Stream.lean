import LineMachine.Yaml.Token.Scalars

namespace LineMachine.Yaml.Reading

def push (kind : TokenKind) (start stop : Mark) : Reading Unit :=
  modify fun cursor => { cursor with queue := cursor.queue.push { kind, start, stop } }

/-- Puts a token in front of the one with a given number. -/
def insert (number : Nat) (kind : TokenKind) (at_ : Mark) : Reading Unit :=
  modify fun cursor =>
    let place := number - cursor.taken
    let token : Token := { kind, start := at_, stop := at_ }
    { cursor with
      queue := cursor.queue.extract 0 place ++ #[token] ++
        cursor.queue.extract place cursor.queue.size }

/-- The number of the next token. -/
def nextNumber : Reading Nat := do
  let cursor ← get
  return cursor.taken + cursor.queue.size

/-- A key lies on one line and within so many characters. -/
def keyReach : Nat := 1024

/-- Collections are nested at most so deep. -/
def depthLimit : Nat := 10000

/-- Whether a key may still be one. A required one that can no longer be is refused. -/
def isStillPossible (key : PossibleKey) : Reading Bool := do
  if !key.possible then return false
  let here ← mark
  if key.mark.line < here.line || key.mark.index + keyReach < here.index then
    if key.required then refuse key.mark "could not find expected ':'"
    return false
  return true

/-- The innermost possible key. -/
def currentKey : Reading PossibleKey := return (← get).keys.headD {}

def setCurrentKey (key : PossibleKey) : Reading Unit :=
  modify fun cursor => { cursor with keys := key :: cursor.keys.tail }

/-- No key holds back the token with this number any longer. -/
def unlist (number : Nat) : Reading Unit :=
  modify fun cursor =>
    { cursor with
      keys := cursor.keys.map fun key =>
        if key.number = number then { key with listed := false } else key }

/-- The innermost possible key is none after all. -/
def dropKey : Reading Unit := do
  let key ← currentKey
  if key.possible then
    if key.required then refuse key.mark "could not find expected ':'"
    setCurrentKey { key with possible := false }
    unlist key.number

/-- A key may begin here. -/
def saveKey : Reading Unit := do
  let cursor ← get
  if cursor.keyAllowed then
    let required := cursor.flowLevel == 0 && cursor.indent == cursor.mark.column
    let number ← nextNumber
    dropKey
    setCurrentKey { possible := true, required, number, listed := true, mark := cursor.mark }

def allowKey (allowed : Bool) : Reading Unit :=
  modify fun cursor => { cursor with keyAllowed := allowed }

def allowKeyInBlock : Reading Unit :=
  modify fun cursor => { cursor with keyAllowed := cursor.flowLevel == 0 }

def enterFlow : Reading Unit := do
  let number ← nextNumber
  let here ← mark
  modify fun cursor =>
    { cursor with
      keys := { number, mark := here } :: cursor.keys
      flowLevel := cursor.flowLevel + 1 }
  if depthLimit < (← get).flowLevel then refuse here "exceeded max depth of 10000"

def leaveFlow : Reading Unit := do
  let cursor ← get
  if cursor.flowLevel > 0 then
    unlist (← currentKey).number
    modify fun cursor =>
      { cursor with keys := cursor.keys.tail, flowLevel := cursor.flowLevel - 1 }

/-- A deeper column in a block opens a collection, before the token with a given number or at the
end of the queue. -/
def openBlock (column : Nat) (number : Option Nat) (kind : TokenKind) (at_ : Mark) :
    Reading Unit := do
  let cursor ← get
  if cursor.flowLevel == 0 && cursor.indent < column then
    set { cursor with indents := cursor.indent :: cursor.indents, indent := column }
    if depthLimit < cursor.indents.length + 1 then
      refuse (← currentKey).mark "exceeded max depth of 10000"
    match number with
    | some number => insert number kind at_
    | none => push kind at_ at_

def closeBlocksTo (column : Int) (at_ : Mark) : List Int → Reading Unit
  | [] => pure ()
  | outer :: rest => do
    let cursor ← get
    if column < cursor.indent then
      set { cursor with indent := outer, indents := rest }
      push .blockEnd at_ at_
      closeBlocksTo column at_ rest

/-- A column further left closes the collections of a block. -/
def closeBlocks (column : Int) (at_ : Mark) : Reading Unit := do
  let cursor ← get
  if cursor.flowLevel == 0 then closeBlocksTo column at_ cursor.indents

/-- The distance of the next comment, if there are only blanks before it, or only blanks and line
breaks. -/
def commentAhead (cursor : Cursor) (acrossLines : Bool) : Nat → Nat → Option Nat
  | 0, _ => none
  | fuel + 1, distance =>
    let character := cursor.look distance
    if character == '#' then some distance
    else if isSpaceOrTab character || (acrossLines && isBreak character) then
      commentAhead cursor acrossLines fuel (distance + 1)
    else none

/-- Moves over so many characters, which may hold line breaks. -/
def skipTo (index : Nat) : Nat → Reading Unit
  | 0 => pure ()
  | fuel + 1 => do
    let cursor ← get
    if cursor.mark.index < index then
      if isBreak (cursor.look 0) then skipBreak else skip
      skipTo index fuel

/-- A comment is looked for among so many characters. -/
def commentReach : Nat := 512

/-- Skips a comment, and those on the lines below it. -/
def skipComments : Nat → Reading Unit
  | 0 => pure ()
  | fuel + 1 => do
    skipWhile (!isBreakOrEnd ·)
    let cursor ← get
    match commentAhead cursor true (commentReach - 1) 1 with
    | some distance =>
      skipTo (cursor.mark.index + distance) cursor.room
      skipComments fuel
    | none => pure ()

/-- Skips a comment on the line of the last token. -/
def skipLineComment : Reading Unit := do
  let cursor ← get
  if cursor.breaks = 0 then
    match commentAhead cursor false commentReach 0 with
    | some distance =>
      skipTo (cursor.mark.index + distance) cursor.room
      skipWhile (!isBreakOrEnd ·)
    | none => pure ()

/-- Skips blanks, breaks and comments. Tabs do not indent. -/
def skipGap : Nat → Reading Unit
  | 0 => pure ()
  | fuel + 1 => do
    need 1
    if (← mark).column = 0 && (← look 0) == '\ufeff' then skip
    need 1
    let cursor ← get
    let tabs := cursor.flowLevel > 0 || !cursor.keyAllowed
    skipWhile fun character => character == ' ' || (tabs && character == '\t')
    if (← look 0) == '#' then skipComments (← get).room
    if isBreak (← look 0) then
      need 2
      skipBreak
      if (← get).flowLevel = 0 then allowKey true
      skipGap fuel

def directiveName (start : Mark) : Reading (List Char) := do
  let name ← takeWhile isWordCharacter
  if name.isEmpty then refuse start "could not find expected directive name"
  if !isGap (← look 0) then refuse start "found unexpected non-alphabetical character"
  return name

/-- A number of a version has at most so many digits. -/
def versionDigits : Nat := 2

def versionNumber (start : Mark) : Reading Nat := do
  let digits ← takeWhile fun character => '0' ≤ character && character ≤ '9'
  if digits.isEmpty then refuse start "did not find expected version number"
  if versionDigits < digits.length then refuse start "found extremely long version number"
  return digits.foldl (fun value digit => value * 10 + (digit.toNat - 48)) 0

def versionValue (start : Mark) : Reading TokenKind := do
  skipWhile isSpaceOrTab
  let major ← versionNumber start
  if (← look 0) != '.' then refuse start "did not find expected digit or '.' character"
  skip
  let minor ← versionNumber start
  return .versionDirective major minor

/-- The handle of a tag: an exclamation mark, or a word between two of them. -/
def tagHandle (directive : Bool) (start : Mark) : Reading (List Char) := do
  need 1
  if (← look 0) != '!' then refuse start "did not find expected '!'"
  skip
  let name ← takeWhile isWordCharacter
  if (← look 0) == '!' then
    skip
    return '!' :: name ++ ['!']
  if directive && !name.isEmpty then refuse start "did not find expected '!'"
  return '!' :: name

def isUriCharacter (character : Char) : Bool :=
  isWordCharacter character || ";/?:@&=+$,.!~*'()[]%".toList.contains character

/-- The byte that a percent escape stands for. -/
def uriEscape (start : Mark) : Reading UInt8 := do
  need 3
  match hexValue? (← look 1), hexValue? (← look 2) with
  | some high, some low =>
    if (← look 0) != '%' then refuse start "did not find URI escaped octet"
    skip
    skip
    skip
    return UInt8.ofNat (high * 16 + low)
  | _, _ => refuse start "did not find URI escaped octet"

def uriEscapes (start : Mark) : Nat → Text → Reading Text
  | 0, taken => return taken
  | count + 1, taken => do uriEscapes start count (taken ++ [← uriEscape start])

/-- The bytes of one escaped character. -/
def uriCharacter (start : Mark) : Reading Text := do
  let first ← uriEscape start
  let width := Source.announced first
  if width = 0 then refuse start "found an incorrect leading UTF-8 octet"
  let bytes ← uriEscapes start (width - 1) [first]
  if !bytes.tail.all Glyph.isContinuation then
    refuse start "found an incorrect trailing UTF-8 octet"
  return bytes

def uriRest (start : Mark) : Nat → Text → Reading Text
  | 0, taken => return taken
  | fuel + 1, taken => do
    need 1
    let character ← look 0
    if character == '%' then uriRest start fuel (taken ++ (← uriCharacter start))
    else if isUriCharacter character then
      skip
      uriRest start fuel (taken ++ encode [character])
    else return taken

/-- The rest of a tag after what was already read of it. -/
def tagUri (start : Mark) (head : List Char) : Reading Text := do
  let before := (← mark).index
  let uri ← uriRest start (← get).room (encode head.tail)
  if head.isEmpty && (← mark).index = before then refuse start "did not find expected tag URI"
  return uri

def tagDirectiveValue (start : Mark) : Reading TokenKind := do
  skipWhile isSpaceOrTab
  let handle ← tagHandle true start
  need 1
  if !isSpaceOrTab (← look 0) then refuse start "did not find expected whitespace"
  skipWhile isSpaceOrTab
  let expansion ← tagUri start []
  need 1
  if !isGap (← look 0) then refuse start "did not find expected whitespace or line break"
  return .tagDirective (encode handle) expansion

def directive : Reading Unit := do
  let start ← mark
  skip
  let name ← directiveName start
  let kind ←
    if name == "YAML".toList then versionValue start
    else if name == "TAG".toList then tagDirectiveValue start
    else refuse start "found unknown directive name"
  let stop ← mark
  skipWhile isSpaceOrTab
  if (← look 0) == '#' then skipWhile (!isBreakOrEnd ·)
  if !isBreakOrEnd (← look 0) then refuse start "did not find expected comment or line break"
  need 2
  skipBreak
  push kind start stop

def anchor (isAlias : Bool) : Reading Unit := do
  let start ← mark
  skip
  let name ← takeWhile isWordCharacter
  let next ← look 0
  if name.isEmpty || !(isGap next || "?:,]\x7d%@`".toList.contains next) then
    refuse start "did not find expected alphabetic or numeric character"
  push (if isAlias then .alias (encode name) else .anchor (encode name)) start (← mark)

def tag : Reading Unit := do
  let start ← mark
  need 2
  let (handle, suffix) ←
    if (← look 1) == '<' then do
      skip
      skip
      let suffix ← tagUri start []
      if (← look 0) != '>' then refuse start "did not find the expected '>'"
      skip
      pure ([], suffix)
    else do
      let handle ← tagHandle false start
      if handle.length > 1 && handle.getLast? == some '!' then
        pure (encode handle, ← tagUri start [])
      else
        let suffix ← tagUri start handle
        if suffix.isEmpty then pure ([], encode handle) else pure (encode ['!'], suffix)
  need 1
  if !isGap (← look 0) then refuse start "did not find expected whitespace or line break"
  push (.tag handle suffix) start (← mark)

/-- A token of a fixed number of characters. -/
def indicator (kind : TokenKind) (width : Nat) : Reading Unit := do
  let start ← mark
  modify fun cursor => (List.range width).foldl (fun cursor _ => cursor.skip) cursor
  push kind start (← mark)

def endStream : Reading Unit := do
  modify fun cursor =>
    if cursor.mark.column = 0 then cursor
    else
      { cursor with mark := { cursor.mark with column := 0, line := cursor.mark.line + 1 } }
  closeBlocks (-1) (← mark)
  dropKey
  allowKey false
  push .streamEnd (← mark) (← mark)

def documentIndicator (kind : TokenKind) : Reading Unit := do
  closeBlocks (-1) (← mark)
  dropKey
  allowKey false
  indicator kind 3

def openFlow (kind : TokenKind) : Reading Unit := do
  saveKey
  enterFlow
  allowKey true
  indicator kind 1

def closeFlow (kind : TokenKind) : Reading Unit := do
  dropKey
  leaveFlow
  allowKey false
  indicator kind 1

def flowEntry : Reading Unit := do
  dropKey
  allowKey true
  indicator .flowEntry 1

def blockEntry : Reading Unit := do
  let cursor ← get
  if cursor.flowLevel = 0 then
    if !cursor.keyAllowed then
      refuse cursor.mark "block sequence entries are not allowed in this context"
    openBlock cursor.mark.column none .blockSequenceStart cursor.mark
  dropKey
  allowKey true
  indicator .blockEntry 1

def keyIndicator : Reading Unit := do
  let cursor ← get
  if cursor.flowLevel = 0 then
    if !cursor.keyAllowed then
      refuse cursor.mark "mapping keys are not allowed in this context"
    openBlock cursor.mark.column none .blockMappingStart cursor.mark
  dropKey
  allowKeyInBlock
  indicator .key 1

def valueIndicator : Reading Unit := do
  let key ← currentKey
  if ← isStillPossible key then
    insert key.number .key key.mark
    openBlock key.mark.column (some key.number) .blockMappingStart key.mark
    setCurrentKey { key with possible := false }
    unlist key.number
    allowKey false
  else
    setCurrentKey { key with possible := false }
    let cursor ← get
    if cursor.flowLevel = 0 then
      if !cursor.keyAllowed then
        refuse cursor.mark "mapping values are not allowed in this context"
      openBlock cursor.mark.column none .blockMappingStart cursor.mark
    allowKeyInBlock
  indicator .value 1

/-- A token that may begin a key and allows none after it. -/
def keyMaterial (rest : Reading Unit) : Reading Unit := do
  saveKey
  allowKey false
  rest

def blockScalarToken (literal : Bool) : Reading Unit := do
  dropKey
  allowKey true
  let token ← blockScalar literal
  push token.kind token.start token.stop

/-- Whether a plain scalar can begin with the next character. -/
def beginsPlain (cursor : Cursor) : Bool :=
  let character := cursor.look 0
  let next := cursor.look 1
  !(isGap character || "-?:,[]\x7b\x7d#&*!|>'\"%@`".toList.contains character) ||
    (character == '-' && !isSpaceOrTab next) ||
    (cursor.flowLevel = 0 && (character == '?' || character == ':') && !isGap next)

/-- The token that begins with the next character. -/
def contentToken : Reading Unit := do
  let cursor ← get
  let character := cursor.look 0
  let gapNext := isGap (cursor.look 1)
  let inFlow := cursor.flowLevel > 0
  if character == '[' then openFlow .flowSequenceStart
  else if character == '\x7b' then openFlow .flowMappingStart
  else if character == ']' then closeFlow .flowSequenceEnd
  else if character == '\x7d' then closeFlow .flowMappingEnd
  else if character == ',' then flowEntry
  else if character == '-' && gapNext then blockEntry
  else if character == '?' && (inFlow || gapNext) then keyIndicator
  else if character == ':' && (inFlow || gapNext) then valueIndicator
  else if character == '*' then keyMaterial (anchor true)
  else if character == '&' then keyMaterial (anchor false)
  else if character == '!' then keyMaterial tag
  else if character == '|' && !inFlow then blockScalarToken true
  else if character == '>' && !inFlow then blockScalarToken false
  else if character == '\'' || character == '"' then
    keyMaterial do
      let token ← quotedScalar (character == '\'')
      push token.kind token.start token.stop
  else if beginsPlain cursor then
    keyMaterial do
      let token ← plainScalar
      push token.kind token.start token.stop
  else refuse cursor.mark "found character that cannot start any token"

/-- Finds the next token and puts it into the queue. -/
def findToken : Reading Unit := do
  need 1
  let before ← get
  if !before.started then
    set { before with started := true, keyAllowed := true }
    push .streamStart before.mark before.mark
  else
    skipGap before.room
    closeBlocks (← mark).column before.mark
    need 4
    let cursor ← get
    let atIndicator ← atDocumentIndicator
    if cursor.look 0 == finish then endStream
    else if cursor.mark.column = 0 && cursor.look 0 == '%' then
      closeBlocks (-1) cursor.mark
      dropKey
      allowKey false
      directive
    else if atIndicator then
      documentIndicator (if cursor.look 0 == '-' then .documentStart else .documentEnd)
    else
      contentToken
      let last := (← get).queue.back?
      if last.map Token.kind != some .blockEntry then skipLineComment

/-- Whether more tokens have to be found before the first one is settled. -/
def isUnsettled : Reading Bool := do
  let cursor ← get
  if cursor.queue.size ≤ 2 then return true
  match cursor.keys.find? fun key => key.listed && key.number == cursor.taken with
  | some key => isStillPossible key
  | none => return false

def settle : Nat → Reading Unit
  | 0 => pure ()
  | fuel + 1 => do
    if ← isUnsettled then
      findToken
      settle fuel

/-- The next token, which stays where it is. -/
def peek : Reading Token := do
  let cursor ← get
  if !cursor.settled then
    settle (cursor.room + 4)
    modify ({ · with settled := true })
  match (← get).queue[0]? with
  | some token => return token
  | none => throw (.meaning (utf8 "unknown problem parsing YAML content"))

/-- Takes the next token away. -/
def dropToken : Reading Unit :=
  modify fun cursor =>
    { cursor with
      queue := cursor.queue.extract 1 cursor.queue.size
      taken := cursor.taken + 1
      settled := false }

end LineMachine.Yaml.Reading
