import LoadLedger.Arguments
import LoadLedger.Logging
import LoadLedger.Replay
import LoadLedger.Report
import LoadLedger.Settings.File

/-!
# The replay tool

Replays a file of outcomes and prints the table of results and the recent errors. Faults of the
settings, of the file and of its content are reported and give the code 1; all others pass.
-/

namespace LoadLedger

/-- How a run of the tool ends. -/
inductive ToolEnding
  | code (code : Nat)
  /-- The arguments do not lead to a run. -/
  | usage (stop : ArgumentStop)
  /-- A fault that the tool does not handle. -/
  | fault (cause : Fault)

/-- What a run of the tool comes to: its ending, what it prints and what it records. -/
structure ToolRun where
  ending : ToolEnding
  output : String
  log : List LogRecord

namespace Tool

/-- The name of the tool in messages. -/
def name : String := "load-test-results"

/-! ## Settings -/

/-- Replaces the reporting interval by the one of the command line, if there is one. -/
def overrideInterval (s : Settings) : Value → Except Fault Settings
  | .null => .ok s
  | v => do
    if ← v.isNotPositive then
      throw (.intervalOptionNotPositive (← v.numeral))
    return { s with reportInterval := ← v.toDecimal }

section Reading

variable [Depths]

/-- The settings at a path. The file need not exist if the path is the default one. -/
def settingsAt (tree : FileTree) : Value → Except Fault Settings
  | .text path =>
    if path == Settings.defaultPath && !tree.exists? (FileTree.Path.ofString path).toText then
      .ok Settings.default
    else Settings.load tree path
  | .brokenText t => .error (.unencodable t.refusal)
  | v => .error (.notPath v.typeName)

/-- The settings of a run. -/
def settingsOf (tree : FileTree) (a : Arguments) : Except Fault Settings := do
  overrideInterval (← settingsAt tree a.config) a.interval

end Reading

/-! ## Reports -/

section Running

variable [Depths] [Scheduler]

/-- The table of a ledger as it is printed. -/
def printedTable (l : Ledger) (now : Float) : Except Fault String := do
  let snapshot ← l.snapshot now
  let table ← snapshot.table
  return table ++ "\n"

/-- The recent errors of a ledger as they are printed. -/
def printedErrors (l : Ledger) : Except Fault String := do
  let report ← l.allRecentErrors.report
  return report ++ "\n"

/-- The job that prints live tables, if one is asked for. -/
def printerOf (printEvery : Value) : Except Fault Timetable :=
  if printEvery.isGiven then (Scheduler.every 0 printEvery).map ([·]) else .ok []

/-- The live tables that are printed while the clock moves on from `now`, each round by a number of
seconds. -/
def liveTables (table : String) (now : Int) (printer : Timetable) :
    List Value → Except Fault Unit × String
  | [] => (.ok (), "")
  | seconds :: rounds =>
    match (Micros.ofValue seconds).bind (Micros.after now) with
    | .error cause => (.error cause, "")
    | .ok now =>
      match Scheduler.runDue now (· ++ table) printer "" with
      | (.error cause, _, output) => (.error cause, output)
      | (.ok (), printer, output) =>
        let (result, more) := liveTables table now printer rounds
        (result, output ++ more)

/-! ## The replay -/

/-- What is asked of a replay. -/
structure Request where
  settings : Settings
  input : FileTree.Path
  printEvery : Value
  rate : Value
  /-- By how many seconds the clock moves in each round of waiting for the end. -/
  live : List Value
  startTime : Float
  endTime : Float

/-- A replay that has come to its end or to a fault, with what is printed and recorded on the way.
-/
structure Replayed where
  result : Except Fault Replay
  output : String
  log : List LogRecord

/-- Waits for the end of ingestion. A sampler whose period leads nowhere never gets past its start,
and neither does the thread that starts it. -/
def awaitEnd (settings : Settings) : Except Fault Unit :=
  match Scheduler.every 0 (.float settings.reportInterval) with
  | .error .noProgress => .error .noProgress
  | _ => .ok ()

/-- Carries out a replay. -/
def replay (tree : FileTree) (q : Request) : Replayed :=
  match Replay.ofFile tree q.settings q.input q.rate q.startTime, printerOf q.printEvery with
  | .error cause, _ => ⟨.error cause, "", []⟩
  | _, .error cause => ⟨.error cause, "", []⟩
  | .ok r, .ok printer =>
    match r.produced with
    | .error cause => ⟨.error cause, "", []⟩
    | .ok count =>
      let log := [⟨.info, queuedMessage count q.input⟩]
      match awaitEnd q.settings, printedTable r.ledger q.endTime with
      | .error cause, _ => ⟨.error cause, "", log⟩
      | .ok (), .error cause =>
        if q.live.isEmpty then ⟨.ok r, "", log⟩ else ⟨.error cause, "", log⟩
      | .ok (), .ok table =>
        let (result, output) := liveTables table 0 printer q.live
        ⟨result.map fun _ => r, output, log⟩

/-- Is the fault one of those that a replay reports? -/
def isReported (cause : Fault) : Bool :=
  cause.family == .outcome || cause.isFileFault

/-- What is printed at the end of a run: an empty line, the table and the recent errors, up to the
first of them that cannot be printed. -/
def finalReport (l : Ledger) (now : Float) : Except Fault Unit × String :=
  match printedTable l now, printedErrors l with
  | .error cause, _ => (.error cause, "\n")
  | .ok table, .error cause => (.error cause, "\n" ++ table)
  | .ok table, .ok errors => (.ok (), "\n" ++ table ++ errors)

/-- Runs the tool with settings that have been read and logging that has been set up. -/
def runReplay (tree : FileTree) (q : Request) : ToolRun :=
  let replayed := replay tree q
  match replayed.result with
  | .error cause =>
    if isReported cause then
      { ending := .code 1
        output := replayed.output
        log := replayed.log ++ [⟨.error, "Replay failed: " ++ cause.message⟩] }
    else ⟨.fault cause, replayed.output, replayed.log⟩
  | .ok r =>
    let (result, report) := finalReport r.ledger q.endTime
    { ending := match result with
        | .ok () => .code 0
        | .error cause => .fault cause
      output := replayed.output ++ report
      log := replayed.log }

/-- What surrounds a run of the tool. -/
structure Surroundings where
  tree : FileTree
  startTime : Float
  endTime : Float
  live : List Value

/-- Runs the tool on arguments that have been read. -/
def runWith [FileNames] (s : Surroundings) (a : Arguments) : ToolRun :=
  match settingsOf s.tree a with
  | .error cause =>
    if cause.family == .settings then
      ⟨.code 1, "", [⟨.error, "Configuration error: " ++ cause.message⟩]⟩
    else ⟨.fault cause, "", []⟩
  | .ok settings =>
    match Logging.setUp s.tree settings with
    | .error cause => ⟨.fault cause, "", []⟩
    | .ok (tree, _) =>
      runReplay tree {
        settings
        input := a.input
        printEvery := a.printEvery
        rate := a.rate
        live := s.live
        startTime := s.startTime
        endTime := s.endTime }

/-- Runs the tool. -/
def run [FileNames] (s : Surroundings) (arguments : List String) : ToolRun :=
  match Arguments.read Settings.defaultPath arguments with
  | .error stop => ⟨.usage stop, "", []⟩
  | .ok a => runWith s a

end Running

end Tool

end LoadLedger
