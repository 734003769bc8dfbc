import LineMachine.Session

namespace LineMachine.Interactive

/-- The words that leave a session, in any case and with blanks around them. -/
def isExit (line : Text) : Bool :=
  let word := line.trim.lower
  word == utf8 "exit" || word == utf8 "quit"

/-- The prompt shows the number of the next line, in green if it is coloured. -/
def prompt (colored : Bool) (nextLine : Nat) : Text :=
  let number := Text.ofNat nextLine
  let shown := List.replicate (3 - number.length) 32 ++ number ++ utf8 ">"
  if colored then utf8 "\x1b[32m" ++ shown ++ utf8 "\x1b[0m " else shown ++ utf8 " "

/-- What a line editor delivers: a line, or the part of a line that was interrupted. -/
inductive Typed where
  | line (text : Text)
  | interrupt (pending : Text)
deriving DecidableEq, Repr

variable {ν : Type}

/-- Feeds what is typed. An interrupt on an empty line leaves. -/
def feedTyped (patience : Nat) (interpreter : Interpreter ν) (session : Session ν) :
    List Typed → Interpreter ν × Session ν
  | [] => (interpreter, session)
  | .interrupt pending :: rest =>
    if session.done || pending.isEmpty then (interpreter, session)
    else feedTyped patience interpreter session rest
  | .line line :: rest =>
    if session.done || isExit line then (interpreter, session)
    else
      let (interpreter, session, _) := interpreter.feed patience session line
      feedTyped patience interpreter session rest

/-- A piped line has fewer bytes than this before its line feed. -/
def lineLimit : Nat := 65536

/-- One piped line without its line feed and a carriage return before that. -/
def pipedLine (line : Text) : Text := Text.dropEnding [13] line

/-- The raw lines of piped input. A final line feed adds no line. -/
def rawLines (input : Text) : List Text :=
  if input.isEmpty then [] else (Text.dropEnding [Text.newline] input).pieces Text.newline

/-- Feeds piped lines and says whether a line was too long to be read. -/
def feedPiped (patience : Nat) (interpreter : Interpreter ν) (session : Session ν) :
    List Text → Interpreter ν × Session ν × Bool
  | [] => (interpreter, session, false)
  | raw :: rest =>
    if session.done then (interpreter, session, false)
    else if lineLimit ≤ raw.length then (interpreter, session, true)
    else if isExit (pipedLine raw) then (interpreter, session, false)
    else
      let (interpreter, session, _) := interpreter.feed patience session (pipedLine raw)
      feedPiped patience interpreter session rest

variable [Number ν]

/-- A whole session at a line editor. -/
def runTyped (patience : Nat) (interpreter : Interpreter ν) (input : List Typed) :
    Interpreter ν × Session ν :=
  let (interpreter, session) := feedTyped patience interpreter interpreter.openSession input
  interpreter.close session

/-- A whole session on piped input, and whether a line was too long to be read. -/
def runPiped (patience : Nat) (interpreter : Interpreter ν) (input : Text) :
    Interpreter ν × Session ν × Bool :=
  let (interpreter, session, tooLong) :=
    feedPiped patience interpreter interpreter.openSession (rawLines input)
  let (interpreter, session) := interpreter.close session
  (interpreter, session, tooLong)

end LineMachine.Interactive
