import LoadLedger.RingBuffer.Size

/-!
# Recent logs

The messages that arrived last. What a message is does not matter to the log; it is read newest
first.
-/

namespace LoadLedger

/-- The most recent messages, the oldest one first. -/
abbrev RecentLog (α : Type) : Type := RingBuffer α

namespace RecentLog

/-- The number of messages that are kept, and that are shown unless another limit is asked for. -/
def defaultCapacity : Nat := 5

/-- An empty log of the default capacity. -/
def fresh (α : Type) : RecentLog α :=
  RingBuffer.empty α defaultCapacity (by decide)

/-- An empty log of a given capacity. -/
def ofCapacity (α : Type) (capacity : Value) : Except Fault (RecentLog α) :=
  RingBuffer.ofSize α .badCapacity capacity

end RecentLog

end LoadLedger
