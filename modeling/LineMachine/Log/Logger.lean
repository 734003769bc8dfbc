import LineMachine.Log.Record

namespace LineMachine.Log

structure Logger where
  enabled : Bool
  categories : List Category := []
  colored : Bool := false
deriving DecidableEq, Repr

namespace Logger

def isEnabledFor (logger : Logger) (category : Category) : Bool :=
  logger.categories.contains category

def enable (logger : Logger) (category : Category) : Logger :=
  if logger.isEnabledFor category then logger
  else { logger with categories := logger.categories ++ [category] }

def disable (logger : Logger) (category : Category) : Logger :=
  { logger with categories := logger.categories.filter (· != category) }

def enableEach (logger : Logger) (categories : List Category) : Logger :=
  categories.foldl enable logger

/-- A logger shows urgent records, and the others when it is enabled for their category. -/
def shows (logger : Logger) (record : Record) : Bool :=
  record.level.isUrgent ||
    (logger.enabled && (record.category.isEmpty || logger.isEnabledFor record.category))

/-- Bright yellow. -/
def emphasis : Text := utf8 "\x1b[93m"

/-- The end of a coloured stretch. -/
def plain : Text := utf8 "\x1b[0m"

/-- What the logger writes of a record, if anything. Only urgent records are coloured. -/
def write (logger : Logger) (record : Record) : Option Text :=
  if !logger.shows record then none
  else if record.level.isUrgent && logger.colored then
    some (emphasis ++ record.text ++ plain).line
  else some record.text.line

/-- All that the logger writes of a sequence of records. -/
def writeAll (logger : Logger) (records : List Record) : List Text :=
  records.filterMap logger.write

end Logger

/-- A logger with one destination for plain records and one for urgent ones. -/
structure Router (σ : Type) where
  logger : Logger
  plain : σ
  urgent : σ

namespace Router

variable {σ : Type}

/-- New destinations; one that is missing stays. A new destination for urgent records settles
anew whether they are coloured. -/
def redirect (router : Router σ) (plain urgent : Option σ) (colored : Bool) : Router σ :=
  { logger :=
      if urgent.isSome then { router.logger with colored } else router.logger
    plain := plain.getD router.plain
    urgent := urgent.getD router.urgent }

/-- The destination of a record and what is written there. -/
def write (router : Router σ) (record : Record) : Option (σ × Text) :=
  (router.logger.write record).map fun text =>
    (if record.level.isUrgent then router.urgent else router.plain, text)

end Router
end LineMachine.Log
