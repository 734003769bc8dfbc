import LineMachine.Position
import LineMachine.Text.Blank
import LineMachine.Text.Case

namespace LineMachine

/-- A parsed line and its raw text. The mnemonic is in upper case, and empty on a line without an
instruction. -/
structure Line where
  command : Text
  arguments : List Text
  position : Position
  raw : Text
deriving DecidableEq, Repr

namespace Line

def isEmpty (line : Line) : Bool := line.command.isEmpty

/-- The part of a line before its comment, which starts at the first number sign. -/
def code (text : Text) : Text := text.before 35

/-- The line with a given number. -/
def parse (filename text : Text) (number : Int) : Line :=
  let position : Position := { line := number, text := text.trim, filename }
  match (code text).words with
  | [] => { command := [], arguments := [], position, raw := text }
  | mnemonic :: arguments => { command := mnemonic.upper, arguments, position, raw := text }

/-- The lines of a program, numbered from one. -/
def parseAll (filename : Text) (lines : List Text) : List Line :=
  lines.mapIdx fun index text => parse filename text (index + 1)

end Line

namespace Text

/-- Every carriage return directly before a line feed is dropped. -/
def unifyNewlines : Text → Text
  | [] => []
  | [byte] => [byte]
  | byte :: next :: rest =>
    if byte = 13 ∧ next = newline then unifyNewlines (next :: rest)
    else byte :: unifyNewlines (next :: rest)

/-- The lines of a source. A final line feed ends the last line and adds none. -/
def programLines (source : Text) : List Text :=
  if source.isEmpty then [] else (dropEnding [newline] source.unifyNewlines).pieces newline

end Text
end LineMachine
