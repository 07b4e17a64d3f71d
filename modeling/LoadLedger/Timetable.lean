import LoadLedger.Value

/-!
# Timetables

Jobs that recur with a period, and the scheduler that runs them. Moments and periods are counted in
microseconds. Moments are dates: the clock cannot be moved out of the calendar, and a job whose next
run would lie outside it is not scheduled.

The scheduler is somebody else's work, of which only `Scheduler` is known: a job that is due runs
once, however late it is, and runs again one period after the moment at which it ran. Schedulers
that enter jobs which would be due again at once are left out.
-/

namespace LoadLedger

namespace Micros

/-- The microseconds of a second. -/
def perSecond : Nat := 1000000

/-- The microseconds of a day. -/
def perDay : Nat := 86400 * perSecond

/-- The greatest number of days of a period. -/
def dayLimit : Nat := 999999999

/-- The time as seconds. -/
def toSeconds (t : Int) : Float :=
  Number.quotient t perSecond

/-- A period of a length that is representable. -/
def checked (t : Int) : Except Fault Int :=
  let days := t.fdiv perDay
  if 2147483648 ≤ days ∨ days < -2147483648 then .error .daysTooMany
  else if dayLimit < days ∨ days < -dayLimit then .error (.periodTooLong days)
  else .ok t

/-- The microseconds of the fraction of a second, rounded to the nearest even number of them at a
tie. The product with a million is that of floating-point numbers. -/
def ofFraction (negative : Bool) (fraction : Number.Ratio) : Int :=
  match Number.partsOf (Number.Ratio.toFloat negative fraction * 1000000.0) with
  | .finite negative mantissa exponent =>
    let magnitude : Int := (Number.Ratio.binary mantissa exponent).round
    if negative then -magnitude else magnitude
  | _ => 0

/-- The period of a number of seconds, the fraction rounded to microseconds. -/
def ofSeconds : Number.Amount → Except Fault Int
  | .int i => checked (i * perSecond)
  | .float x =>
    match Number.partsOf x with
    | .nan => .error .nanIsNoInteger
    | .infinite _ => .error .infinityIsNoInteger
    | .finite negative mantissa exponent =>
      let whole := Number.truncate negative mantissa exponent
      let r := Number.Ratio.binary mantissa exponent
      checked (whole * perSecond + ofFraction negative ⟨r.num % r.den, r.den⟩)

/-- The period of the number of seconds that a value stands for. -/
def ofValue (v : Value) : Except Fault Int :=
  match v.amount? with
  | some seconds => ofSeconds seconds
  | none => .error (.notSeconds v.typeName)

/-- The first moment of the calendar, on the first day of the year 1. The clock's zero is the
beginning of the year 2020. -/
def firstMoment : Int := -737424 * perDay

/-- The last moment of the calendar, at the end of the year 9999. -/
def lastMoment : Int := 2914635 * perDay - 1

/-- The moment that lies a period after another one. -/
def after (now period : Int) : Except Fault Int :=
  let next := now + period
  if next < firstMoment ∨ lastMoment < next then .error .dateOutOfRange else .ok next

end Micros

/-- A recurring job: its period and the moment of its next run. -/
structure Job where
  period : Int
  nextRun : Int
  deriving DecidableEq

/-- The jobs of a scheduler. -/
abbrev Timetable : Type := List Job

/-- The next run lies one period after a moment: ahead of it, and inside the calendar. -/
def Job.RunsAfter (now : Int) (job : Job) : Prop :=
  0 < job.period ∧ Micros.after now job.period = .ok job.nextRun

/-- A scheduler that runs jobs, and what is known of it. A job is entered only if its next run lies
ahead (`Job.RunsAfter`); nothing is known of how others are refused, nor of the order in which
several jobs that are due are run. -/
class Scheduler where
  /-- The job that recurs every so many seconds from now on. -/
  every : (now : Int) → (seconds : Value) → Except Fault Job
  /-- Is the job due? -/
  isDue : (now : Int) → Job → Bool
  /-- The job after a run. -/
  rescheduled : (now : Int) → Job → Except Fault Job
  /-- The time until the next run, `none` without jobs. It is negative if a job is overdue. -/
  idle? : (now : Int) → Timetable → Option Int
  /-- Runs the jobs that are due and schedules them again. -/
  runDue {σ : Type} :
    (now : Int) → (act : σ → σ) → Timetable → σ → Except Fault Unit × Timetable × σ
  /-- A new job waits for one period before its first run. -/
  every_eq_ok_iff (now : Int) (seconds : Value) (job : Job) :
    every now seconds = .ok job ↔ Micros.ofValue seconds = .ok job.period ∧ job.RunsAfter now
  /-- A job is due from the moment of its next run on. -/
  isDue_eq (now : Int) (job : Job) : isDue now job = decide (job.nextRun ≤ now)
  /-- A job that has run waits for one period again. -/
  rescheduled_eq_ok_iff (now : Int) (job next : Job) :
    rescheduled now job = .ok next ↔ next.period = job.period ∧ next.RunsAfter now
  /-- The next run is the earliest one of any job. -/
  idle?_eq (now : Int) (jobs : Timetable) :
    idle? now jobs = (jobs.map Job.nextRun).min?.map (· - now)
  runDue_nil {σ : Type} (now : Int) (act : σ → σ) (s : σ) : runDue now act [] s = (.ok (), [], s)
  /-- A job that is not due does not run. -/
  runDue_early {σ : Type} (now : Int) (act : σ → σ) (job : Job) (s : σ) :
    isDue now job = false → runDue now act [job] s = (.ok (), [job], s)
  /-- A job that is due runs once. If it cannot be scheduled again it keeps its moment. -/
  runDue_due {σ : Type} (now : Int) (act : σ → σ) (job : Job) (s : σ) :
    isDue now job = true → runDue now act [job] s =
      match rescheduled now job with
      | .ok next => (.ok (), [next], act s)
      | .error cause => (.error cause, [job], act s)

/-! ## Laws -/

/-- A job runs again exactly one period later, and that lies ahead. -/
theorem Job.RunsAfter.lt {now : Int} {job : Job} (h : job.RunsAfter now) :
    now < job.nextRun ∧ job.nextRun = now + job.period := by
  obtain ⟨hpos, hnext⟩ := h
  unfold Micros.after at hnext
  dsimp only at hnext
  split at hnext
  · cases hnext
  · injection hnext with hnext
    exact ⟨by omega, hnext.symm⟩

example : (Micros.ofSeconds (.float 0.25)).toOption = some 250000 := by decide +kernel
example : (Micros.ofSeconds (.int 1000000000000000)).toOption = none := by decide +kernel

end LoadLedger
