/-!
# Lines

A line ends at a line feed, a carriage return, or a carriage return and the line feed after it.
Other characters that some systems count as line ends are ordinary content.
-/

namespace LoadLedger.Text

/-- The text with every line end written as one line feed. -/
def unifyLineEnds : List Char → List Char
  | [] => []
  | '\r' :: '\n' :: rest => '\n' :: unifyLineEnds rest
  | c :: rest => (if c == '\r' then '\n' else c) :: unifyLineEnds rest

/-- The lines that a line feed ends, and what stands after the last of them. -/
def splitLines : List Char → List (List Char) × List Char
  | [] => ([], [])
  | c :: rest =>
    let (lines, last) := splitLines rest
    if c == '\n' then ([] :: lines, last)
    else match lines with
      | [] => ([], c :: last)
      | line :: lines => ((c :: line) :: lines, last)

/-- The lines of a complete text; a last line may lack its line end. -/
def linesOf (s : List Char) : List (List Char) :=
  let (lines, last) := splitLines (unifyLineEnds s)
  if last.isEmpty then lines else lines ++ [last]

/-- The lines that are known to be complete in a text that may go on. A carriage return at the very
end does not complete a line yet, since a line feed may follow it. -/
def completeLines (s : List Char) : List (List Char) :=
  let known := if s.getLast? == some '\r' then s.dropLast else s
  (splitLines (unifyLineEnds known)).1

example : linesOf ['a', '\r', '\n', 'b', '\r', 'c', '\n'] = [['a'], ['b'], ['c']] := by decide
example : linesOf ['a', '\n', '\n', 'b'] = [['a'], [], ['b']] := by decide
example : completeLines ['a', '\n', 'b', '\r'] = [['a']] := by decide

end LoadLedger.Text
