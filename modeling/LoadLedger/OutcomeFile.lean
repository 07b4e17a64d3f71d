import LoadLedger.FileTree
import LoadLedger.Json.Reader
import LoadLedger.Outcome.Record
import LoadLedger.Text.Lines

/-!
# Files of outcomes

One record in JSON on each line; blank lines are skipped but counted. Reading stops at the first
line that holds no outcome, and what was read before stands.

A file is decoded block by block. A block that does not decode makes the lines fail that are not
complete in the blocks before it.
-/

namespace LoadLedger

/-- What was read of a file: outcomes, and the fault that reading stopped at. -/
structure OutcomeReading where
  outcomes : List Outcome
  fault : Option Fault

namespace OutcomeFile

/-- The number of octets that are decoded at a time. -/
def blockSize : Nat := 8192

/-- A fault of the content of a line names the line. Other faults pass. -/
def atLine (path : String) (line : Nat) (cause : Fault) : Fault :=
  match cause.family with
  | .json | .outcome => .atLine path line cause
  | _ => cause

section Reading

variable [Depths]

/-- The outcome of a line that is not blank. -/
def readLine (line : List Char) : Except Fault Outcome := do
  let v ← Json.read Json.Limits.ofFiles line
  Outcome.ofRecord v

/-- Reads lines, the first of which has the given number. `atEnd` is the fault that awaits the
reader after the last of them. -/
def readLines (path : String) (atEnd : Option Fault) : Nat → List (List Char) → OutcomeReading
  | _, [] => ⟨[], atEnd⟩
  | number, line :: lines =>
    let content := Text.trimBlanks line
    if content.isEmpty then readLines path atEnd (number + 1) lines
    else match readLine content with
      | .error cause => ⟨[], some (atLine path number cause)⟩
      | .ok o =>
        let rest := readLines path atEnd (number + 1) lines
        { rest with outcomes := o :: rest.outcomes }

/-- Reads the octets of a file. -/
def readOctets (path : String) (octets : List UInt8) : OutcomeReading :=
  let reading := Text.Utf8.readBlocks blockSize octets
  match reading.refusal with
  | none => readLines path none 1 (Text.linesOf reading.text)
  | some refusal => readLines path (some (.undecodable refusal)) 1 (Text.completeLines reading.text)

/-- Reads a file. -/
def read (tree : FileTree) (path : FileTree.Path) : OutcomeReading :=
  match tree.read path.toText with
  | .error cause => ⟨[], some cause⟩
  | .ok octets => readOctets path.toText octets

end Reading

end OutcomeFile

end LoadLedger
