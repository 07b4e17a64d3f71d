import LoadLedger.Lock

/-!
# Waiting for a lock

A lock together with the threads that wait for it. A waiter that finds itself kept out parks, and it
looks again only after a notification, which wakes everybody who is parked. Three events notify: a
reader leaves so that the count of readers becomes zero, a writer leaves, and a waiting writer gives
up. Between notifications nobody looks.

Threads are interchangeable, so that only their numbers matter.
-/

namespace LoadLedger

/-- A lock and the numbers of its waiters. -/
@[ext]
structure WaitedLock where
  lock : Lock
  parkedReaders : Nat
  parkedWriters : Nat
  /-- Readers that were notified and have not looked again yet. -/
  wokenReaders : Nat
  /-- Writers that were notified and have not looked again yet. -/
  wokenWriters : Nat
  deriving DecidableEq

namespace WaitedLock

/-- A free lock without waiters. -/
def free : WaitedLock :=
  ⟨.free, 0, 0, 0, 0⟩

/-- The number of readers that wait. -/
def waitingReaders (w : WaitedLock) : Nat :=
  w.parkedReaders + w.wokenReaders

/-- The number of writers that wait. -/
def waitingWriters (w : WaitedLock) : Nat :=
  w.parkedWriters + w.wokenWriters

/-- Wakes everybody. -/
def notifyAll (w : WaitedLock) : WaitedLock :=
  { w with
    parkedReaders := 0
    parkedWriters := 0
    wokenReaders := w.wokenReaders + w.parkedReaders
    wokenWriters := w.wokenWriters + w.parkedWriters }

/-- Nobody has been notified without having looked again. -/
def Settled (w : WaitedLock) : Prop :=
  w.wokenReaders = 0 ∧ w.wokenWriters = 0

instance (w : WaitedLock) : Decidable w.Settled :=
  inferInstanceAs (Decidable (_ ∧ _))

/-! ## Looking -/

/-- A reader looks at the lock and enters or parks. -/
def lookAsReader (w : WaitedLock) : WaitedLock :=
  if w.lock.admitsReader then { w with lock := w.lock.enterReader }
  else { w with parkedReaders := w.parkedReaders + 1 }

/-- A writer that has announced itself looks at the lock and enters or parks. -/
def lookAsWriter (w : WaitedLock) : WaitedLock :=
  if w.lock.admitsWriter then { w with lock := w.lock.enterWriter }
  else { w with parkedWriters := w.parkedWriters + 1 }

/-- A woken reader looks again. -/
def recheckReader (w : WaitedLock) : WaitedLock :=
  { w with wokenReaders := w.wokenReaders - 1 }.lookAsReader

/-- A woken writer looks again. -/
def recheckWriter (w : WaitedLock) : WaitedLock :=
  { w with wokenWriters := w.wokenWriters - 1 }.lookAsWriter

/-- All woken waiters look again, at most `fuel` of them. -/
def settleFor : Nat → WaitedLock → WaitedLock
  | 0, w => w
  | fuel + 1, w =>
    if 0 < w.wokenWriters then settleFor fuel w.recheckWriter
    else if 0 < w.wokenReaders then settleFor fuel w.recheckReader
    else w

/-- All woken waiters look again. Nobody is notified by that, so that each one looks once. -/
def settle (w : WaitedLock) : WaitedLock :=
  settleFor (w.wokenReaders + w.wokenWriters) w

/-! ## The operations -/

/-- A new reader arrives. -/
def addReader (w : WaitedLock) : WaitedLock :=
  w.lookAsReader

/-- A new writer arrives. -/
def addWriter (w : WaitedLock) : WaitedLock :=
  { w with lock := w.lock.announceWriter }.lookAsWriter

/-- A reader leaves. Only the last one notifies. -/
def removeReader (w : WaitedLock) : WaitedLock :=
  let after := { w with lock := w.lock.leaveReader }
  if after.lock.readers = 0 then after.notifyAll else after

/-- A writer leaves. -/
def removeWriter (w : WaitedLock) : WaitedLock :=
  { w with lock := w.lock.leaveWriter }.notifyAll

/-- A parked writer is interrupted and gives up. -/
def interruptWriter? (w : WaitedLock) : Option WaitedLock :=
  if 0 < w.parkedWriters then
    some { w with
      parkedWriters := w.parkedWriters - 1
      lock := w.lock.withdrawWriter }.notifyAll
  else none

/-- Takes the lock. -/
def acquire (w : WaitedLock) : Lock.Mode → WaitedLock
  | .read => w.addReader
  | .write => w.addWriter

/-- Gives the lock back. -/
def release (w : WaitedLock) : Lock.Mode → WaitedLock
  | .read => w.removeReader
  | .write => w.removeWriter

/-- Is the lock granted at once to one who arrives? A writer has announced itself when it looks, but
that keeps only readers out. -/
def admits (w : WaitedLock) : Lock.Mode → Bool
  | .read => w.lock.admitsReader
  | .write => w.lock.admitsWriter

/-- Holds the lock while something is done. Answers the lock as it is meanwhile, and how it is left,
whether what is done succeeds or fails; `none` if the lock is not granted at once. -/
def hold? (w : WaitedLock) (mode : Lock.Mode) : Option (Lock × WaitedLock) :=
  if w.admits mode then
    let held := w.acquire mode
    some (held.lock, (held.release mode).settle)
  else none

end WaitedLock

end LoadLedger
