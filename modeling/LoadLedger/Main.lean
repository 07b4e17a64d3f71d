import LoadLedger.Tool

/-!
# The command line

Reads the two files that a run may need, runs the tool on them, and prints what comes of it: tables
on standard output, records on standard error and in the log file. All else is decided by
`Tool.run`.
-/

namespace LoadLedger.Main

/-- The usage of the tool. -/
def usage : String :=
  "usage: " ++ Tool.name ++ " [-h] [--config CONFIG] [--interval INTERVAL] " ++
    "[--print-every PRINT_EVERY] [--rate RATE] input"

/-- Adds a file or a folder to a tree, if the path leads to one. -/
def gather (tree : FileTree) (path : String) : IO FileTree := do
  try
    let octets ← IO.FS.readBinFile path
    return tree.add path (some octets.toList)
  catch
    | .noFileOrDirectory .. => return tree
    | .inappropriateType .. => return tree.add path none
    | e => throw e

/-- Waits as long as the producer would pause altogether. -/
def pace (tree : FileTree) (a : Arguments) : IO Unit := do
  match Production.pauseOf a.rate with
  | .error _ => return
  | .ok pause =>
    let p := Production.ofReading (OutcomeFile.read tree a.input) pause
    if p.result.toOption.isSome && 0.0 < pause then
      IO.sleep (pause * 1000.0 * p.outcomes.length.toFloat).toUInt32

/-- The lines of the records of a run. -/
def recordLines (run : ToolRun) : String :=
  String.join (run.log.map fun r => Tool.name ++ " - " ++ r.level.name ++ " - " ++ r.text ++ "\n")

/-- Adds the records of a run to the log file, if the settings name a folder for it. -/
def writeLogFile (tree : FileTree) (a : Arguments) (run : ToolRun) : IO Unit := do
  match Tool.settingsOf tree a with
  | .ok { logFolder := .text folder, .. } =>
    if folder != "" then
      IO.FS.createDirAll folder
      let path := ((FileTree.Path.ofString folder).child Logging.fileName).toText
      let file ← IO.FS.Handle.mk path .append
      file.putStr (recordLines run)
  | _ => return

/-- The time in seconds since some moment. -/
def seconds : IO Float := do
  return (← IO.monoMsNow).toFloat / 1000.0

/-- A run with arguments that have been read. -/
def runWith (a : Arguments) : IO UInt32 := do
  let startTime ← seconds
  let settings ← match a.config with
    | .text path => gather .empty path
    | _ => pure .empty
  let tree ← gather settings a.input.toText
  pace tree a
  let endTime ← seconds
  let run := Tool.runWith { tree, startTime, endTime, live := [] } a
  IO.print run.output
  IO.eprint (recordLines run)
  match run.ending with
  | .code code =>
    writeLogFile tree a run
    return code.toUInt32
  | .usage stop => return stop.code.toUInt32
  | .fault cause =>
    IO.eprintln cause.message
    return 1

end LoadLedger.Main

open LoadLedger in
/-- Runs the tool on the arguments of the command line. -/
def main (arguments : List String) : IO UInt32 := do
  match Arguments.read Settings.defaultPath arguments with
  | .error stop =>
    IO.println LoadLedger.Main.usage
    IO.eprint stop.complaint
    return stop.code.toUInt32
  | .ok a => LoadLedger.Main.runWith a
