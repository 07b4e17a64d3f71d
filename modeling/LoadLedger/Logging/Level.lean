/-!
# Log levels

How severe a log record is. Two levels have a second name.
-/

namespace LoadLedger

/-- A level with a name. -/
inductive Level
  | notSet
  | debug
  | info
  | warning
  | error
  | critical
  deriving DecidableEq

namespace Level

/-- All levels. -/
def all : List Level :=
  [.notSet, .debug, .info, .warning, .error, .critical]

/-- The number of a level; more severe levels have greater numbers. -/
def number : Level → Nat
  | .notSet => 0
  | .debug => 10
  | .info => 20
  | .warning => 30
  | .error => 40
  | .critical => 50

/-- The name of a level. -/
def name : Level → String
  | .notSet => "NOTSET"
  | .debug => "DEBUG"
  | .info => "INFO"
  | .warning => "WARNING"
  | .error => "ERROR"
  | .critical => "CRITICAL"

/-- The second name of a level. -/
def alias? : Level → Option String
  | .warning => some "WARN"
  | .critical => some "FATAL"
  | _ => none

/-- The level of a name. -/
def ofName? (name : String) : Option Level :=
  all.find? fun level => level.name == name || level.alias? == some name

end Level

/-- One record of a log. -/
structure LogRecord where
  level : Level
  text : String
  deriving DecidableEq

end LoadLedger
