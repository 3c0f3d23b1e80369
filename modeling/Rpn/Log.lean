/-!
# Logs

Messages have levels; a logger passes on those that reach its own level and the level of one of
its handlers. A logger starts with a handler that writes nothing, and the first configuration adds
one that writes to the console.
-/

namespace Rpn

/-- The weight of a message. -/
abbrev Level := Int

namespace Level

def debug : Level := 10
def info : Level := 20
def warning : Level := 30
def error : Level := 40
def critical : Level := 50

/-- The name of a level. -/
def name (level : Level) : String :=
  match [(debug, "DEBUG"), (info, "INFO"), (warning, "WARNING"), (error, "ERROR"),
      (critical, "CRITICAL")].lookup level with
  | some name => name
  | none => "Level " ++ toString level

/-- The level of a name; some levels have two names, and zero is the level that is not set. -/
def ofName? (text : String) : Option Level :=
  [("NOTSET", 0), ("DEBUG", debug), ("INFO", info), ("WARN", warning), ("WARNING", warning),
   ("ERROR", error), ("FATAL", critical), ("CRITICAL", critical)].lookup text

/-- The least level of messages that pass a logger with the given level of its own. Zero stands for
the level of the surroundings, which is that of warnings. -/
def threshold (level : Level) : Level :=
  if level = 0 then warning else level

end Level

/-- A message and its level. -/
structure LogRecord where
  level : Level
  message : String
  deriving DecidableEq, Repr

/-- The records that reach a level. -/
def LogRecord.reaching (threshold : Level) (records : List LogRecord) : List LogRecord :=
  records.filter fun record => threshold ≤ record.level

/-- A receiver of messages: one that writes to the console, or one that writes nothing. -/
structure Handler where
  level : Level
  console : Bool
  deriving DecidableEq, Repr

/-- A logger's own level, where zero is no level, and its handlers. -/
structure Logger where
  level : Level
  handlers : List Handler
  deriving DecidableEq, Repr

namespace Logger

/-- The name of the logger in its lines. -/
def name : String :=
  "shunting_yard"

/-- The logger before any configuration. -/
def initial : Logger :=
  ⟨0, [⟨0, false⟩]⟩

/-- The least level of the messages that are passed on. -/
def threshold (logger : Logger) : Level :=
  logger.level.threshold

/-- The logger with a level for itself and all its handlers, one of which writes to the console. -/
def configure (logger : Logger) (level : Level) : Logger :=
  let handlers :=
    if logger.handlers.any (·.console) then logger.handlers
    else logger.handlers ++ [⟨level, true⟩]
  ⟨level, handlers.map fun handler => { handler with level }⟩

/-- A line of the console. -/
def line (time : String) (record : LogRecord) : String :=
  time ++ " - " ++ name ++ " - " ++ record.level.name ++ " - " ++ record.message ++ "\n"

/-- What a message writes to the console. Messages of no positive level are never passed on. -/
def write (logger : Logger) (time : String) (record : LogRecord) : String :=
  if 0 < record.level ∧ logger.threshold ≤ record.level then
    String.join ((logger.handlers.filter fun handler =>
      handler.console && handler.level ≤ record.level).map fun _ => line time record)
  else ""

end Logger

end Rpn
