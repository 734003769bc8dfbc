import LineMachine.Text.Decimal

namespace LineMachine.Yaml

/-- A place in a document; lines and columns count from zero. -/
structure Mark where
  index : Nat := 0
  line : Nat := 0
  column : Nat := 0
deriving DecidableEq, Repr, Inhabited

/-- A problem with a token counts lines from one, a problem with the structure from zero; the
first line is never told. The line of the context comes before that of the problem itself. -/
inductive Problem where
  | input (message : Text)
  | token (context problem : Mark) (message : Text)
  | structure (context problem : Mark) (message : Text)
  | meaning (message : Text)
  | mismatches (messages : List Text)
deriving DecidableEq, Repr

namespace Problem

/-- The line that a problem with two marks is told with; zero stands for none. -/
def lineOf (context problem : Mark) : Nat :=
  if context.line ≠ 0 then context.line else problem.line

def located (line : Nat) (message : Text) : Text :=
  if line = 0 then message else utf8 "line " ++ Text.ofNat line ++ utf8 ": " ++ message

def text : Problem → Text
  | .input message | .meaning message => utf8 "yaml: " ++ message
  | .token context problem message =>
    let line := lineOf context problem
    utf8 "yaml: " ++ located (if line = 0 then 0 else line + 1) message
  | .structure context problem message =>
    utf8 "yaml: " ++ located (lineOf context problem) message
  | .mismatches messages =>
    utf8 "yaml: unmarshal errors:" ++ messages.flatMap (utf8 "\n  " ++ ·)

end Problem
end LineMachine.Yaml
