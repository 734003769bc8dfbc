import LineMachine.Interactive

/-! At the edge of the program: a line editor, which turns keys into what it delivers. -/

namespace LineMachine.Interactive

/-- The end of the input ends a line that has been begun. -/
def Typed.rest (pending : List Char) : List Typed :=
  if pending.isEmpty then [] else [.line (pending.reverse.flatMap String.utf8EncodeChar)]

/-- The keys typed so far make up a pending line, last key first. Return and line feed end it,
and the interrupt key drops it. There is nothing to complete, so a tab does nothing. -/
def Typed.ofKeys (pending : List Char) : List Char → List Typed
  | [] => rest pending
  | key :: keys =>
    let line := pending.reverse.flatMap String.utf8EncodeChar
    if key == '\n' || key == '\r' then .line line :: ofKeys [] keys
    else if key == '\x03' then .interrupt line :: ofKeys [] keys
    else if key == '\t' then ofKeys pending keys
    else ofKeys (key :: pending) keys

/-- The input of a line editor, read from bytes. -/
def Typed.ofInput (input : Text) : List Typed :=
  ofKeys [] (input.glyphs.map Glyph.character)

end LineMachine.Interactive
