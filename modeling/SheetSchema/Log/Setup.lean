import SheetSchema.Log.Level
import SheetSchema.Text.Split

/-!
# Log output

The loggers of the library share a root, `Log.root`. Configuring it sets its level and gives it an
output the first time; an unknown level changes nothing. A record is written if there is an output,
its logger stands below the root, and its level reaches that of the root. A root without a level
counts as one at the level of warnings, and a record without a level is never written.
-/

namespace SheetSchema

/-- The state of the log output. -/
structure Log where
  level : Level := .number 0
  outputs : Nat := 0
deriving DecidableEq, Repr, Inhabited

namespace Log

/-- The name of the root of all loggers. -/
def root : String := "sheetcraft"

/-- The level that is asked for: a name, a number, or that of warnings if none is given. -/
def levelOf : Option Json → Except Error Level
  | none => .ok Level.warning
  | some (.str name) => Level.ofName name
  | some given => Level.ofJson given

/-- Set the level, and make sure that there is an output. -/
def configure (log : Log) (level? : Option Json) : Except Error Log := do
  return { level := ← levelOf level?, outputs := max log.outputs 1 }

/-- The least importance that is written. -/
def threshold (log : Log) : Int :=
  if log.level.value = 0 then Level.warning.value else log.level.value

/-- The logger is the root or stands below it. -/
def covers (logger : String) : Bool :=
  logger == root || (Text.afterPrefix? (root ++ ".").toList logger.toList).isSome

/-- The record is written. -/
def writes (log : Log) (record : LogRecord) : Bool :=
  0 < log.outputs && covers record.logger && 0 < record.level.value &&
    log.threshold ≤ record.level.value

/-- The line of a record, without its time. -/
def line (record : LogRecord) : String :=
  s!"[{record.level.name}] {record.logger}: {record.message}\n"

/-- What is written for a record; `time` stands before it. -/
def written (log : Log) (time : String) (record : LogRecord) : String :=
  if log.writes record then time ++ line record else ""

end Log

end SheetSchema
