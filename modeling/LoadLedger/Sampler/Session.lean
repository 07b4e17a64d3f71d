import LoadLedger.Ledger
import LoadLedger.Sampler
import LoadLedger.Timeout

/-!
# A sampler at work

A sampler and the ledger that it samples, a clock, and whoever reads the ledger meanwhile. After
each operation the thread goes on as far as it can (`settle`): it waits for the clock, for a reader
to leave, or for nothing any more.

Sampling can be made to fail. A failure is recorded, and the thread goes on as if nothing had
happened; only the tick does not count.
-/

namespace LoadLedger

/-- A sampler and its surroundings. -/
structure SamplerSession where
  ledger : Ledger
  sampler : Sampler
  /-- The moment that the clock shows. -/
  now : Int
  /-- The number of readers of the ledger; a sample has to wait for them to leave. -/
  readers : Int
  /-- Why sampling fails, if it does. -/
  failure : Option AnyText
  log : List LogRecord

namespace SamplerSession

/-- A session that begins with an empty ledger. -/
def make (interval : Value) : Except Fault SamplerSession := do
  let sampler ← Sampler.make interval
  return { ledger := .start 0.0, sampler, now := 0, readers := 0, failure := none, log := [] }

/-- Adds a record to the log. -/
def record (s : SamplerSession) (r : LogRecord) : SamplerSession :=
  { s with log := s.log ++ [r] }

/-- Tries to close the open interval. -/
def sample (s : SamplerSession) : Except Fault Unit × SamplerSession :=
  match s.failure with
  | some message => (.error (.samplingFailed message), s)
  | none =>
    let (result, ledger) := s.ledger.sample
    (result.map fun _ => (), { s with ledger })

/-- Closes the open interval and counts it; a failure is recorded instead. -/
def tick (s : SamplerSession) : SamplerSession :=
  match s.sample with
  | (.ok (), s) => { s with sampler := { s.sampler with ticks := s.sampler.ticks + 1 } }
  | (.error cause, s) => s.record ⟨.error, "Error sampling interval: " ++ cause.message⟩

/-- The thread dies of a fault, or goes on with other jobs. -/
def continueWith (s : SamplerSession) (result : Except Fault Unit) (jobs : Timetable) :
    SamplerSession :=
  let sampler := { s.sampler with jobs }
  match result with
  | .ok () => { s with sampler := { sampler with thread := .waiting } }
  | .error _ => { s with sampler := sampler.die }

section Thread

variable [Scheduler]

/-- Runs the jobs that are due. -/
def runDue (s : SamplerSession) : SamplerSession :=
  let (result, jobs, s) := Scheduler.runDue s.now tick s.sampler.jobs s
  s.continueWith result jobs

/-- Is a job due? -/
def isDue (s : SamplerSession) : Bool :=
  s.sampler.jobs.any (Scheduler.isDue s.now)

/-- Is a sample possible without a wait? One that fails needs no access to the ledger. -/
def isFree (s : SamplerSession) : Bool :=
  s.failure.isSome || s.readers == 0

/-- What the waiting thread does next. -/
def leaveWait (s : SamplerSession) : SamplerSession :=
  if s.sampler.stopRequested then { s with sampler := s.sampler.finish }
  else match Scheduler.idle? s.now s.sampler.jobs with
    | none => { s with sampler := s.sampler.finish }
    | some idle =>
      if Sampler.waitLimit < idle then { s with sampler := s.sampler.die }
      else if !s.isDue then s
      else if s.isFree then s.runDue
      else { s with sampler := { s.sampler with thread := .sampling } }

/-- The sampling thread gets hold of the ledger, closes the interval and schedules the job again. -/
def leaveSampling (s : SamplerSession) : SamplerSession :=
  if s.readers = 0 then
    let s := { s with failure := none }.tick
    match s.sampler.jobs with
    | [] => s.continueWith (.ok ()) []
    | job :: jobs =>
      match Scheduler.rescheduled s.now job with
      | .ok next => s.continueWith (.ok ()) (next :: jobs)
      | .error cause => s.continueWith (.error cause) (job :: jobs)
  else s

/-- One move of the thread, if it can move. -/
def move (s : SamplerSession) : SamplerSession :=
  match s.sampler.thread with
  | .waiting => s.leaveWait
  | .sampling => { s.leaveSampling with failure := s.failure }
  | _ => s

/-- The thread goes on as far as it can: it completes a sample, waits, and sees that it has to
stop. -/
def settle (s : SamplerSession) : SamplerSession :=
  s.move.move.move

/-! ## The operations -/

/-- Starts the thread. -/
def start (s : SamplerSession) : Except Fault Unit × SamplerSession :=
  match s.sampler.start s.now with
  | .error cause => (.error cause, s)
  | .ok sampler =>
    match sampler.startRecord with
    | .error cause => (.error cause, { s with sampler }.settle)
    | .ok r => (.ok (), ({ s with sampler }.record r).settle)

/-- Asks the thread to stop. -/
def requestStop (s : SamplerSession) : SamplerSession :=
  { s with sampler := s.sampler.requestStop }

/-- Records how a stop has turned out. -/
def recordStop (s : SamplerSession) : SamplerSession :=
  s.record s.sampler.stopRecord

/-- Waits for the end of the thread, as long as the timeout says. A timeout that cannot be waited
for makes the wait fail, and the thread is given up. -/
def await (s : SamplerSession) (timeout : Timeout) : Except Fault Unit × SamplerSession :=
  if s.sampler.running then
    match timeout.takesTime with
    | .error cause => (.error cause, { s with sampler := s.sampler.giveUp }.settle)
    | .ok true => (.ok (), s.settle.recordStop)
    | .ok false => (.ok (), s.recordStop.settle)
  else (.ok (), s.settle.recordStop)

/-- Stops the thread and waits for its end. There is nothing to wait for if it was never started. -/
def stop (s : SamplerSession) (timeout : Value) : Except Fault Unit × SamplerSession :=
  if s.sampler.thread = .unstarted then (.ok (), s.requestStop)
  else match Timeout.ofValue timeout with
    | .error cause => (.error cause, s.requestStop.settle)
    | .ok timeout => s.requestStop.await timeout

/-- The moment to which the clock moves. -/
def momentAfter (s : SamplerSession) (seconds : Value) : Except Fault Int := do
  Micros.after s.now (← Micros.ofValue seconds)

/-- Moves the clock. -/
def advance (s : SamplerSession) (seconds : Value) : Except Fault Unit × SamplerSession :=
  match s.momentAfter seconds with
  | .error cause => (.error cause, s)
  | .ok now => (.ok (), { s with now }.settle)

/-- Merges records into the ledger. -/
def merge [Depths] (s : SamplerSession) (records : List Value) :
    Except Fault Unit × SamplerSession :=
  let (result, ledger) := s.ledger.mergeRecords records
  (result, { s with ledger })

/-- Makes sampling fail from now on. -/
def breakSampling (s : SamplerSession) (message : AnyText) : SamplerSession :=
  { s with failure := some message }.settle

/-- Lets sampling succeed again. -/
def fixSampling (s : SamplerSession) : SamplerSession :=
  { s with failure := none }.settle

/-- A reader takes hold of the ledger. -/
def hold (s : SamplerSession) : SamplerSession :=
  { s with readers := s.readers + 1 }

/-- A reader leaves the ledger. -/
def release (s : SamplerSession) : SamplerSession :=
  { s with readers := s.readers - 1 }.settle

end Thread

/-- The log since it was last taken. -/
def takeLog (s : SamplerSession) : List LogRecord × SamplerSession :=
  (s.log, { s with log := [] })

end SamplerSession

end LoadLedger
