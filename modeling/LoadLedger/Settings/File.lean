import LoadLedger.FileTree
import LoadLedger.Json.Reader
import LoadLedger.Settings
import LoadLedger.Text.Lines

/-!
# Settings files

Settings are kept in a JSON file with an object at the root. A file that is missing or is no JSON
text is reported as such; other faults of reading pass as they are.
-/

namespace LoadLedger.Settings

/-- The path of the settings when no other is given. -/
def defaultPath : String := "./configurations/main.json"

/-- The text of a file with all line ends unified. -/
def readText (tree : FileTree) (path : String) : Except Fault (List Char) :=
  match tree.read path with
  | .error (.missingFile _) => .error (.settingsMissing path)
  | .error cause => .error cause
  | .ok octets =>
    match Text.Utf8.decode octets with
    | .error refusal => .error (.undecodable refusal)
    | .ok text => .ok (Text.unifyLineEnds text)

/-- The value of a settings text. -/
def parse [Depths] (text : List Char) : Except Fault Value :=
  match Json.read Json.Limits.ofFiles text with
  | .ok v => .ok v
  | .error cause =>
    match cause.family with
    | .json => .error (.settingsMalformed cause)
    | _ => .error cause

/-- The settings of a JSON value, which has to be an object. -/
def ofRoot [Depths] (root : Value) : Except Fault Settings :=
  if root.fields?.isSome then ofValue root else .error .settingsNotObject

/-- Loads the settings of a file. -/
def load [Depths] (tree : FileTree) (path : String) : Except Fault Settings := do
  let text ← readText tree path
  let v ← parse text
  ofRoot v

end LoadLedger.Settings
