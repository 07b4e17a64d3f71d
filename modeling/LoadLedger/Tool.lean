import LoadLedger.Machine
import LoadLedger.Tool.Run

/-!
# The tool on a machine

From here on a run finds the depths, the names of files and the scheduler of `Machine`. What does
not even lead to a run is answered on standard error.
-/

namespace LoadLedger

attribute [instance] Machine.depths Machine.fileNames Machine.scheduler

/-- What is written on standard error for arguments that do not lead to a run. -/
def ArgumentStop.complaint : ArgumentStop → String
  | .help => ""
  | .fault cause => Tool.name ++ ": error: " ++ cause.message

/-- The code of a run that arguments do not lead to. -/
def ArgumentStop.code : ArgumentStop → Nat
  | .help => 0
  | .fault _ => 2

end LoadLedger
