import LineMachine.Text.Decimal

namespace LineMachine

structure Position where
  line : Int
  text : Text
  filename : Text
deriving DecidableEq, Repr

namespace Position

/-- The file and the line; a program without a file is called `<program>`. -/
def label (position : Position) : Text :=
  let filename := if position.filename.isEmpty then utf8 "<program>" else position.filename
  filename ++ 58 :: Text.ofInt position.line

/-- The label of a position that may be missing. -/
def labelOf : Option Position → Text
  | some position => position.label
  | none => utf8 "<unknown>"

end Position
end LineMachine
