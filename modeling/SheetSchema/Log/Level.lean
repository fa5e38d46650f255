import SheetSchema.Error
import SheetSchema.Text.Case

/-!
# Log levels and records

The importance of a log record is a number. Some numbers have names; a few names mean the same
number, which prints under the first of them. A truth value may stand for one or zero, and prints as
what it is where its number has no name.
-/

namespace SheetSchema

/-- Importance: a number, or a truth value that counts as one or zero. -/
inductive Level where
  | number (n : Int)
  | flag (b : Bool)
deriving DecidableEq, Repr, Inhabited

namespace Level

/-- The importance as a number. -/
def value : Level → Int
  | number n => n
  | flag b => if b then 1 else 0

/-- The level as it was given. -/
def toJson : Level → Json
  | number n => .int n
  | flag b => .bool b

/-- Read a level that is not a name. -/
def ofJson : Json → Except Error Level
  | .int n => .ok (number n)
  | .bool b => .ok (flag b)
  | _ => .error .wrongKind

/-- The names of levels. Of two names of one number the first is printed. -/
def named : List (String × Int) :=
  [("CRITICAL", 50), ("FATAL", 50), ("ERROR", 40), ("WARNING", 30), ("WARN", 30), ("INFO", 20),
   ("DEBUG", 10), ("NOTSET", 0)]

/-- The level of a logger that was told none. -/
def warning : Level := number 30

/-- The level of progress reports. -/
def info : Level := number 20

/-- The printed name of a level. -/
def name (level : Level) : String :=
  match named.find? (·.2 == level.value) with
  | some (name, _) => name
  | none => s!"Level {level.toJson.text}"

/-- The level of this name, in capitals. -/
def ofName? (name : String) : Option Level := (Entries.get? named name).map number

/-- The level of this name, in letters of either case. -/
def ofName (name : String) : Except Error Level :=
  let upper := String.ofList (Text.upper name.toList)
  match ofName? upper with
  | some level => .ok level
  | none => .error (.unknownLevel upper)

@[simp] theorem ofJson_toJson (level : Level) : ofJson level.toJson = .ok level := by
  cases level <;> rfl

end Level

/-- A line of a log. -/
structure LogRecord where
  level : Level
  logger : String
  message : String
deriving DecidableEq, Repr

namespace LogRecord

/-- The name of the logger above all others, which has no name of its own. -/
def topLogger : String := "root"

/-- The logger of this name, which has to be a text if it counts as given. -/
def loggerOf : Json → Except Error String
  | .str "" => .ok topLogger
  | .str name => .ok name
  | given => if given.truthy then .error .wrongKind else .ok topLogger

/-- The record of these values; a message is any value, and stands for its text. -/
def ofValues (logger level message : Json) : Except Error LogRecord := do
  let logger ← loggerOf logger
  return ⟨← Level.ofJson level, logger, message.text⟩

end LogRecord

end SheetSchema
