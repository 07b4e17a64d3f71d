import LoadLedger.Ledger.Snapshot
import LoadLedger.Text.Blank

/-!
# Reports

The plain-text table of a snapshot and the list of recent errors. A count is written in full even if
it is wider than its column, and no line of the table ends in blanks.
-/

namespace LoadLedger

/-- A row of the table: what is counted, how much of it, and a remark. -/
structure Row where
  name : String
  value : Value
  note : String

namespace Report

/-- The names of the rows with their remarks, from top to bottom. -/
def labels : List (String × String) :=
  [ ("# Requests", ""),
    ("# Test Success", ""),
    ("# Test Failures", ""),
    ("# 5XX Errors", ""),
    ("# Throttled", ""),
    ("# Current THROTTLE/interval", ""),
    ("# Current GET/interval", ""),
    ("# Current PUT/interval", ""),
    ("# Current DELETE/interval", ""),
    ("# Current CONSISTENCY/interval", "(4 requests per check)"),
    ("Current req/interval", ""),
    ("Current Successful req/interval", ""),
    ("Average req/sec", ""),
    ("Average Successful req/sec", "") ]

/-- The rows that show values, one value for each row. -/
def rowsOf (values : List Value) : List Row :=
  List.zipWith (fun label value => ⟨label.1, value, label.2⟩) labels values

/-- The text, padded with spaces on the right to a width. -/
def padRight (width : Nat) (s : List Char) : List Char :=
  s ++ List.replicate (width - s.length) ' '

/-- The width of the counts. -/
def countWidth : Nat := 10

/-- The width of the names: two more than the longest. -/
def nameWidth (rows : List Row) : Nat :=
  (rows.map (·.name.toList.length)).foldl max 0 + 2

/-- The line above the rows. -/
def header (width : Nat) : List Char :=
  padRight width "Metric".toList ++ [' '] ++ padRight countWidth "Count".toList

/-- The rule between the header and the rows. -/
def rule (width : Nat) : List Char :=
  List.replicate (width + 1 + countWidth) '-'

/-- The line of a row whose value has the given text. -/
def rowLine (width : Nat) (row : Row) (value : String) : List Char :=
  Text.dropTrailing Text.isBlank
    (padRight width row.name.toList ++ [' '] ++ padRight countWidth value.toList ++ [' '] ++
      row.note.toList)

section Rows

variable [Depths]

/-- The lines of the rows. -/
def rowLines (width : Nat) : List Row → Except Fault (List (List Char))
  | [] => .ok []
  | row :: rows => do
    let value ← row.value.shown
    let lines ← rowLines width rows
    return rowLine width row value.displayed :: lines

/-- Lines as one text, with line feeds between them. -/
def joinLines (lines : List (List Char)) : String :=
  String.ofList (['\n'].intercalate lines)

/-- The lines of the table with the given rows. -/
def tableLines (rows : List Row) : Except Fault (List (List Char)) := do
  let width := nameWidth rows
  let lines ← rowLines width rows
  return header width :: rule width :: lines

/-- The table with the given rows. -/
def table (rows : List Row) : Except Fault String :=
  (tableLines rows).map joinLines

end Rows

end Report

/-- The values of a snapshot that the table shows, from top to bottom. -/
def Snapshot.shownValues (s : Snapshot) : List Value :=
  [ .int s.requests, .int s.successes, .int s.failures, .int s.serverErrors, .int s.throttled,
    .int s.current.throttled, .int s.current.gets, .int s.current.puts, .int s.current.deletes,
    .int s.current.consistency, .int s.current.requests, .int s.current.successes,
    .float s.averageRequests, .float s.averageSuccesses ]

/-- The rows of a snapshot. -/
def Snapshot.rows (s : Snapshot) : List Row :=
  Report.rowsOf s.shownValues

/-- The table of a snapshot. -/
def Snapshot.table [Depths] (s : Snapshot) : Except Fault String :=
  Report.table s.rows

namespace RecentErrors

/-- The lines of a list under its title. -/
def sectionLines (title : String) (messages : List Value) : List Value :=
  [.text "", .text title, .text (String.ofList (List.replicate 45 '-'))] ++ messages

/-- The texts of lines; a line that is no text is reported with its index. -/
def textsFrom : Nat → List Value → Except Fault (List AnyText)
  | _, [] => .ok []
  | index, .text s :: lines => do
    let texts ← textsFrom (index + 1) lines
    return .whole s :: texts
  | index, .brokenText t :: lines => do
    let texts ← textsFrom (index + 1) lines
    return .broken t :: texts
  | index, v :: _ => .error (.notText index v.typeName)

/-- The list of recent errors as a text, which is broken if one of them is. -/
def text (e : RecentErrors) : Except Fault AnyText :=
  (textsFrom 0 (sectionLines "HTTP Errors:" e.http ++ sectionLines "Other Errors:" e.other)).map
    fun lines => .ofPoints ([.char '\n'].intercalate (lines.map AnyText.points))

/-- The list of recent errors as it is written: all of it is encoded before any of it is written. -/
def report (e : RecentErrors) : Except Fault String := do
  (← e.text).encoded

end RecentErrors

end LoadLedger
