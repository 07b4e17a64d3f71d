import LoadLedger.Logging.Level
import LoadLedger.Timetable

/-!
# The sampler

A thread of its own closes a reporting interval at regular moments. The sampler's part of the state
is its timetable, the request to stop, how far the thread has come, and the number of intervals that
it has closed.

The thread looks at the request to stop only between two waits: a wait that ends since an interval
is over leads to one more sample.
-/

namespace LoadLedger

/-- How far the thread of a sampler has come. -/
inductive SamplerThread
  | unstarted
  /-- The thread waits for the next run or for the request to stop. -/
  | waiting
  /-- The thread waits for the ledger, to close an interval. -/
  | sampling
  | ended
  deriving DecidableEq

/-- The state of a sampler. -/
structure Sampler where
  interval : Value
  jobs : Timetable
  stopRequested : Bool
  thread : SamplerThread
  /-- Has a wait for the end of the thread failed? The thread is taken for ended since then, though
  it goes on. -/
  givenUp : Bool
  ticks : Nat

namespace Sampler

/-- A sampler that is not started yet. -/
def make (interval : Value) : Except Fault Sampler := do
  if ← interval.isNotPositive then
    throw (.badInterval (← interval.numeral))
  return {
    interval
    jobs := []
    stopRequested := false
    thread := .unstarted
    givenUp := false
    ticks := 0 }

/-- Does the thread count as alive? -/
def running (s : Sampler) : Bool :=
  !s.givenUp && (s.thread == .waiting || s.thread == .sampling)

/-- Starts the thread at a moment. A sampler is started once, and the job is scheduled first: if
that fails nothing has happened. -/
def start [Scheduler] (s : Sampler) (now : Int) : Except Fault Sampler :=
  if s.thread = .unstarted then do
    let job ← Scheduler.every now s.interval
    return { s with jobs := s.jobs ++ [job], thread := .waiting }
  else .error .samplerStarted

/-- Asks the thread to stop. -/
def requestStop (s : Sampler) : Sampler :=
  { s with stopRequested := true }

/-- Nobody waits for the end of the thread any more. -/
def giveUp (s : Sampler) : Sampler :=
  { s with givenUp := true }

/-- The thread ends in order and leaves no job. -/
def finish (s : Sampler) : Sampler :=
  { s with jobs := [], thread := .ended }

/-- The thread dies and leaves its jobs. -/
def die (s : Sampler) : Sampler :=
  { s with thread := .ended }

/-- The longest wait of a thread, in microseconds. -/
def waitLimit : Int := 9223372036854775

/-- The record of a start. -/
def startRecord (s : Sampler) : Except Fault LogRecord := do
  let interval ← s.interval.numeral
  return ⟨.info, "Interval sampler started (interval=" ++ interval ++ "s)"⟩

/-- The record of a stop: a warning if the thread goes on. -/
def stopRecord (s : Sampler) : LogRecord :=
  if s.running then ⟨.warning, "Interval sampler did not stop within timeout"⟩
  else ⟨.info, "Interval sampler stopped after " ++ toString s.ticks ++ " ticks"⟩

end Sampler

end LoadLedger
