import LoadLedger.Logging.Level
import LoadLedger.Text.UpperCase
import LoadLedger.Value

/-!
# Settings

What a run is configured with: the reporting interval, the size of the failure queue, the log level
and the folder of the log file. Settings come from two sections of an object; a section that is
missing or empty leaves everything at its default.

The settings are looked at in a fixed order, and the first one that cannot be used decides the
fault.
-/

namespace LoadLedger

/-- The settings of a run. -/
structure Settings where
  reportInterval : Float
  failureQueueSize : Int
  /-- The name of the log level as it is written, in upper case. -/
  levelName : String
  level : Level
  /-- Where the log file goes; nothing if there is none. -/
  logFolder : Value

namespace Settings

/-- The settings of a run that nothing is said about. -/
def default : Settings :=
  { reportInterval := 1.0
    failureQueueSize := 1000
    levelName := "INFO"
    level := .info
    logFolder := .null }

/-- The member of a section; only objects have members. -/
def member (v : Value) (key : String) : Except Fault (Option Value) :=
  match v.fields? with
  | some entries => .ok (Value.field? entries key)
  | none => .error (.noMembers v.typeName)

/-- A section of the settings. One that counts as not given is empty. -/
def sectionOf (data : Value) (name : String) : Except Fault Value := do
  let v := (← member data name).getD (.object [])
  return if v.isGiven then v else .object []

/-- A number of the wrong type or form is a bad setting. Other faults pass. -/
def asSetting (result : Except Fault α) : Except Fault α :=
  match result with
  | .ok a => .ok a
  | .error cause =>
    match cause.family with
    | .wrongType | .badValue => .error (.badSetting cause)
    | _ => .error cause

/-- The reporting interval of a section. -/
def readInterval (aggregator : Value) : Except Fault Float := do
  match ← member aggregator "report_interval_seconds" with
  | some v => asSetting v.toDecimal
  | none => return default.reportInterval

/-- The size of the failure queue of a section. -/
def readQueueSize (aggregator : Value) : Except Fault Int := do
  match ← member aggregator "failure_queue_size" with
  | some v => asSetting v.toInteger
  | none => return default.failureQueueSize

/-- Checks that an interval is not zero or less. NaN is not. -/
def checkInterval (interval : Float) : Except Fault Unit :=
  if interval ≤ 0.0 then .error (.intervalNotPositive (Number.floatText interval)) else .ok ()

/-- Checks that a size is not negative. -/
def checkQueueSize (size : Int) : Except Fault Unit :=
  if size < 0 then do throw (.queueSizeNegative (← Number.writeInteger size)) else .ok ()

/-- The name of a level in upper case. No level has a broken name. -/
def levelNameOf : AnyText → Except Fault String
  | .whole name => .ok (Text.upper name)
  | .broken t => .error (.unknownLevel (.ofPoints (Text.upperPoints t.points)))

/-- The name of the log level of a section, in upper case. -/
def readLevelName [Depths] (globalSettings : Value) : Except Fault String := do
  match ← member globalSettings "log_level" with
  | some v => levelNameOf (← v.shownAt .level)
  | none => return default.levelName

/-- The level of a name. -/
def levelOf (name : String) : Except Fault Level :=
  match Level.ofName? name with
  | some level => .ok level
  | none => .error (.unknownLevel name)

/-- Reads the settings. -/
def ofValue [Depths] (data : Value) : Except Fault Settings := do
  let globalSettings ← sectionOf data "global_settings"
  let aggregator ← sectionOf data "aggregator"
  let reportInterval ← readInterval aggregator
  let failureQueueSize ← readQueueSize aggregator
  checkInterval reportInterval
  checkQueueSize failureQueueSize
  let levelName ← readLevelName globalSettings
  let level ← levelOf levelName
  let logFolder := (← member globalSettings "log_dir").getD .null
  return { reportInterval, failureQueueSize, levelName, level, logFolder }

end Settings

end LoadLedger
