/-!
# Log records

What a run reports about itself beside its results: records with a level, the name of the part that
wrote them, and a message.
-/

namespace Reckoner

/-- How grave a record is. -/
inductive LogLevel where
  /-- What each step does. -/
  | debug
  /-- What a user may want to know. -/
  | info
  /-- What may be wrong. -/
  | warning
  /-- What went wrong. -/
  | error
  /-- What ends the run. -/
  | critical
deriving DecidableEq, Repr

namespace LogLevel

/-- The levels, from the least grave. -/
def all : List LogLevel := [debug, info, warning, error, critical]

/-- The name of a level. -/
def name : LogLevel → String
  | debug => "DEBUG"
  | info => "INFO"
  | warning => "WARNING"
  | error => "ERROR"
  | critical => "CRITICAL"

/-- The level with a name, which is as `name` has it. -/
def ofName? (name : String) : Option LogLevel := all.find? (·.name == name)

/-- The rank of a level: records below the threshold of a log are dropped.  The ranks follow the
order of `all`. -/
def rank : LogLevel → Nat
  | debug => 10
  | info => 20
  | warning => 30
  | error => 40
  | critical => 50

end LogLevel

/-- A message in the log. -/
structure LogRecord where
  level : LogLevel
  /-- The name of the part that wrote it. -/
  logger : String
  message : String
deriving DecidableEq, Repr

/-- A record on one line: its level, its `logger` and the message. -/
def LogRecord.text (r : LogRecord) : String :=
  r.level.name ++ " " ++ r.logger ++ ": " ++ r.message

end Reckoner
