import LoadLedger.Counts
import LoadLedger.RingBuffer.Size

/-!
# Sliding windows

The recent history of one quantity: how much of it each of the last intervals brought. The current
rate is the mean of that history, cut to an integer.
-/

namespace LoadLedger

/-- The counts of the last intervals, the oldest one first. -/
abbrev SlidingWindow : Type := RingBuffer Nat

namespace SlidingWindow

/-- The number of intervals that rates are smoothed over. -/
def defaultSize : Nat := 5

/-- An empty window of the default size. -/
def fresh : SlidingWindow :=
  RingBuffer.empty Nat defaultSize (by decide)

/-- An empty window of a given size. -/
def ofSize (size : Value) : Except Fault SlidingWindow :=
  RingBuffer.ofSize Nat .badWindowSize size

/-- Adds the count of an interval. -/
def pushValue (w : SlidingWindow) (v : Value) : Except Fault SlidingWindow := do
  let n ← Counts.ofValue 0 v
  return w.push n

/-- The current rate. -/
def mean (w : SlidingWindow) : Nat :=
  Counts.mean w.items

/-- The printed form of a window. -/
def quoted (w : SlidingWindow) : Except Fault String := do
  let parts ← w.items.mapM fun (n : Nat) => Number.writeInteger n
  return "SlidingWindow(values=[" ++ ", ".intercalate parts ++ "], size=" ++
    toString w.capacity ++ ")"

end SlidingWindow

end LoadLedger
