import ViewCompiler.Text.Blank
import ViewCompiler.Text.Upper

/-!
# Log records

Every part of the compiler reports what it does as records with a level.  A
record is shown if its level reaches the threshold in force.
-/

namespace ViewCompiler

inductive LogLevel where
  | debug
  | info
  | warning
  | error
deriving DecidableEq, Repr

namespace LogLevel

def name : LogLevel → String
  | debug => "DEBUG"
  | info => "INFO"
  | warning => "WARNING"
  | error => "ERROR"

def weight : LogLevel → Int
  | debug => 10
  | info => 20
  | warning => 30
  | error => 40

end LogLevel

/-- The part of the compiler that a record comes from. -/
inductive LogSource where
  | loader
  | usage
  | binding
  | registry
  | emission
  | compiler
  | hooks
  | files
  | commandLine
deriving DecidableEq, Repr

structure LogRecord where
  level : LogLevel
  source : LogSource
  message : String
deriving DecidableEq, Repr

/-- A list of log records, oldest first. -/
abbrev Log := List LogRecord

/-- The records that reach a threshold. -/
def Log.atLeast (log : Log) (threshold : Int) : Log :=
  log.filter fun record => threshold ≤ record.level.weight

namespace Log

def namedThresholds : List (String × Int) :=
  [("CRITICAL", 50), ("FATAL", 50), ("ERROR", 40), ("WARN", 30),
    ("WARNING", 30), ("INFO", 20), ("DEBUG", 10), ("NOTSET", 0)]

/-- The threshold of a name, in any case and with blanks around it. -/
def threshold? (name : String) : Option Int :=
  namedThresholds.lookup (Text.raise (Text.trim name))

/-- The threshold of a name; an unknown name has that of information. -/
def threshold (name : String) : Int :=
  (threshold? name).getD 20

end Log

end ViewCompiler
