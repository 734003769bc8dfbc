import LineMachine.Position

namespace LineMachine.Log

/-- The levels from the least to the most severe. -/
inductive Level where
  | trace
  | info
  | debug
  | notice
  | warn
  | error
  | fatal
deriving DecidableEq, Repr

/-- The levels are numbered from zero; no other number is a level. -/
def Level.ofCode? : Int → Option Level
  | 0 => some .trace
  | 1 => some .info
  | 2 => some .debug
  | 3 => some .notice
  | 4 => some .warn
  | 5 => some .error
  | 6 => some .fatal
  | _ => none

/-- Urgent levels are always written. -/
def Level.isUrgent : Level → Bool
  | .trace | .info | .debug => false
  | .notice | .warn | .error | .fatal => true

/-- A category is any text; the empty one stands for none. -/
abbrev Category := Text

namespace Category

def parse : Category := utf8 "parse"
def command : Category := utf8 "command"
def variableUse : Category := utf8 "variable"
def argument : Category := utf8 "argument"
def io : Category := utf8 "io"
def math : Category := utf8 "math"
def list : Category := utf8 "list"
def type : Category := utf8 "type"
def flow : Category := utf8 "flow"
def system : Category := utf8 "system"

/-- The named categories. -/
def all : List Category :=
  [parse, command, variableUse, argument, io, math, list, type, flow, system]

end Category

structure Record where
  level : Level
  category : Category
  message : Text
  position : Option Position := none
deriving DecidableEq, Repr

namespace Record

/-- The bracketed label of a record. -/
def label (record : Record) : Text :=
  let category := if record.category.isEmpty then [] else 58 :: record.category
  match record.level with
  | .trace => utf8 "[TRACE" ++ category ++ utf8 "]"
  | .info => utf8 "[INFO" ++ category ++ utf8 "]"
  | .debug => utf8 "[DEBUG" ++ category ++ utf8 "]"
  | .notice => utf8 "[PPL" ++ category ++ utf8 " NOTICE]"
  | .warn => utf8 "[PPL" ++ category ++ utf8 " WARN]"
  | .error | .fatal => utf8 "[PPL" ++ category ++ utf8 " ERROR]"

/-- The lines that say where a record belongs. -/
def place : Option Position → Text
  | none => []
  | some position =>
    utf8 "\n  at " ++ position.label ++
      (if position.text.isEmpty then [] else utf8 "\n  > " ++ position.text)

def text (record : Record) : Text :=
  record.label ++ 32 :: record.message ++ place record.position

end Record
end LineMachine.Log
