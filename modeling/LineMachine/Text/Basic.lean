namespace LineMachine

abbrev Text := List UInt8

/-- The UTF-8 bytes of a literal. -/
def utf8 (literal : String) : Text := literal.toUTF8.data.toList

namespace Text

/-- The line feed byte. -/
def newline : UInt8 := 10

/-- A text followed by one line feed. -/
def line (text : Text) : Text := text ++ [newline]

/-- The pieces between the occurrences of one byte; there is always at least one piece. -/
def pieces (separator : UInt8) : Text → List Text
  | [] => [[]]
  | byte :: rest =>
    if byte = separator then [] :: pieces separator rest
    else
      match pieces separator rest with
      | [] => [[byte]]
      | piece :: others => (byte :: piece) :: others

/-- The bytes before the first occurrence of one byte, or all of them. -/
def before (separator : UInt8) (text : Text) : Text :=
  text.takeWhile (· != separator)

/-- The parts joined with a separator between neighbours. -/
def joinWith (separator : Text) (parts : List Text) : Text :=
  List.intercalate separator parts

/-- The text without one copy of an ending, if it has that ending. -/
def dropEnding (ending text : Text) : Text :=
  if ending.isSuffixOf text then text.take (text.length - ending.length) else text

end Text
end LineMachine
