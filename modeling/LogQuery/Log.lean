/-
Log lines: what a run reports besides its result.
-/

namespace LogQuery

/-- How urgent a log line is. -/
inductive Log.Level where
  | debug
  | info
  | warning
deriving DecidableEq, Repr

/-- The name under which a level is printed. -/
def Log.Level.name : Log.Level → String
  | debug => "DEBUG"
  | info => "INFO"
  | warning => "WARNING"

/-- One line of the log: its level, the part of the program that wrote it,
and the message. -/
structure LogLine where
  level : Log.Level
  logger : String
  message : String
deriving DecidableEq, Repr

/-- The line as it is printed. -/
def LogLine.render (l : LogLine) : String :=
  l.level.name ++ " " ++ l.logger ++ ": " ++ l.message

end LogQuery
