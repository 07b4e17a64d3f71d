/-!
# The read-write lock

Many readers or one writer. Writers are preferred: a writer that waits keeps new readers out, so
that a stream of readers cannot starve it. The lock itself is three fields; each section of code
that looks at them or changes them is one step.

The lock does not check who gives it back. A release without a holder is carried out all the same,
and the count of readers may become negative.
-/

namespace LoadLedger

/-- The fields of a lock. -/
@[ext]
structure Lock where
  readers : Int
  writerActive : Bool
  writersWaiting : Nat
  deriving DecidableEq

namespace Lock

/-- A lock that nobody holds or waits for. -/
def free : Lock :=
  ⟨0, false, 0⟩

/-- May a reader enter now? -/
def admitsReader (l : Lock) : Bool :=
  !l.writerActive && l.writersWaiting == 0

/-- May a writer enter now? -/
def admitsWriter (l : Lock) : Bool :=
  !l.writerActive && l.readers == 0

/-- A reader enters. -/
def enterReader (l : Lock) : Lock :=
  { l with readers := l.readers + 1 }

/-- A reader leaves. -/
def leaveReader (l : Lock) : Lock :=
  { l with readers := l.readers - 1 }

/-- A writer announces itself, whether or not it has to wait. -/
def announceWriter (l : Lock) : Lock :=
  { l with writersWaiting := l.writersWaiting + 1 }

/-- A writer that announced itself gives up. -/
def withdrawWriter (l : Lock) : Lock :=
  { l with writersWaiting := l.writersWaiting - 1 }

/-- A writer that announced itself enters. -/
def enterWriter (l : Lock) : Lock :=
  { l.withdrawWriter with writerActive := true }

/-- A writer leaves. -/
def leaveWriter (l : Lock) : Lock :=
  { l with writerActive := false }

/-- The two ways to hold a lock. -/
inductive Mode
  | read
  | write
  deriving DecidableEq

end Lock

end LoadLedger
