import LoadLedger.FileTree
import LoadLedger.Settings

/-!
# Logging

Records go to standard output and, if the settings name a folder, to a file in it. A record is
written if its level reaches that of the settings; records without a level are never written.
-/

namespace LoadLedger

/-- What the file system makes of a broken text that is to be the name of a file: a path, or a
fault. -/
class FileNames where
  path : BrokenText → Except Fault FileTree.Path

/-- Logging that is set up: the level, and the place of the log file if there is one. -/
structure Logging where
  level : Level
  file : Option FileTree.Path

namespace Logging

/-- The name of the log file. -/
def fileName : String := "load_test_results.log"

/-- The path of the folder that a value names. -/
def folderOf [FileNames] : Value → Except Fault FileTree.Path
  | .text folder => .ok (.ofString folder)
  | .brokenText t => FileNames.path t
  | v => .error (.notPath v.typeName)

/-- Sets up logging: makes the folder and opens the log file if a folder is given. -/
def setUp [FileNames] (tree : FileTree) (s : Settings) : Except Fault (FileTree × Logging) :=
  if s.logFolder.isGiven then do
    let path ← folderOf s.logFolder
    let tree ← tree.ensureFolders path
    let (tree, file) ← tree.openToAppend (path.child fileName)
    return (tree, ⟨s.level, some file⟩)
  else .ok (tree, ⟨s.level, none⟩)

/-- Is a record of a level written? -/
def isEnabled (l : Logging) (level : Level) : Bool :=
  level != .notSet && l.level.number ≤ level.number

/-- The line of a record of a logger, at the beginning of time. -/
def line (logger : String) (r : LogRecord) : String :=
  "1970-01-01 00:00:00,000 - " ++ logger ++ " - " ++ r.level.name ++ " - " ++ r.text ++ "\n"

/-- What is written for records, each with the name of its logger. -/
def write (l : Logging) (records : List (String × LogRecord)) : String :=
  String.join ((records.filter fun r => l.isEnabled r.2.level).map fun r => line r.1 r.2)

end Logging

end LoadLedger
