import LoadLedger.Logging
import LoadLedger.Timetable

/-!
# A machine

What a run finds outside: how deep values may nest, what broken names of files lead to, and a
scheduler. All results hold for any of them; here are those that the tool runs with.
-/

namespace LoadLedger.Machine

/-! ## Depths -/

/-- How many lists and objects may be nested in a text that is read. -/
def readingDepth : Nat := 990

scoped instance depths : Depths where
  reading := readingDepth
  room _ := readingDepth + 1
  reading_pos := by decide
  reading_lt_room _ := Nat.lt_succ_self readingDepth

/-! ## Names of files -/

/-- Names are encoded like other texts. -/
scoped instance fileNames : FileNames where
  path t := .error (.unencodable t.refusal)

/-! ## The scheduler -/

/-- The next run of a job with the given period. A period that leads nowhere never gets past the
present, and one that leads backwards leaves the calendar. -/
def nextRunAfter (now period : Int) : Except Fault Int :=
  if period = 0 then .error .noProgress
  else if period < 0 then .error .dateOutOfRange
  else Micros.after now period

theorem nextRunAfter_eq_ok_iff {now period next : Int} :
    nextRunAfter now period = .ok next ↔ 0 < period ∧ Micros.after now period = .ok next := by
  rw [nextRunAfter]
  split
  · exact iff_of_false (by rintro ⟨⟩) (by omega)
  · split
    · exact iff_of_false (by rintro ⟨⟩) (by omega)
    · exact ⟨fun h => ⟨by omega, h⟩, fun h => h.2⟩

/-- The job that recurs every so many seconds from now on. -/
def every (now : Int) (seconds : Value) : Except Fault Job := do
  let period ← Micros.ofValue seconds
  let nextRun ← nextRunAfter now period
  return { period, nextRun }

/-- Is the job due? -/
def isDue (now : Int) (job : Job) : Bool :=
  job.nextRun ≤ now

/-- The job after a run. -/
def rescheduled (now : Int) (job : Job) : Except Fault Job := do
  let nextRun ← nextRunAfter now job.period
  return { job with nextRun }

/-- Runs the jobs that are due, each once, and schedules them again. A job that cannot be scheduled
again stops the round and keeps its moment. -/
def runDue (now : Int) (act : σ → σ) : Timetable → σ → Except Fault Unit × Timetable × σ
  | [], s => (.ok (), [], s)
  | job :: jobs, s =>
    if isDue now job then
      match rescheduled now job with
      | .error cause => (.error cause, job :: jobs, act s)
      | .ok next =>
        let (result, jobs, s) := runDue now act jobs (act s)
        (result, next :: jobs, s)
    else
      let (result, jobs, s) := runDue now act jobs s
      (result, job :: jobs, s)

theorem every_eq_ok_iff (now : Int) (seconds : Value) (job : Job) :
    every now seconds = .ok job ↔ Micros.ofValue seconds = .ok job.period ∧ job.RunsAfter now := by
  rw [every, Job.RunsAfter, ← nextRunAfter_eq_ok_iff]
  cases Micros.ofValue seconds with
  | error cause => exact iff_of_false (by rintro ⟨⟩) (by rintro ⟨⟨⟩, -⟩)
  | ok period =>
    constructor
    · intro h
      cases hnext : nextRunAfter now period with
      | error cause => simp only [bind, Except.bind, hnext, reduceCtorEq] at h
      | ok next =>
        simp only [bind, Except.bind, hnext, pure, Except.pure] at h
        cases h
        exact ⟨rfl, hnext⟩
    · rintro ⟨hperiod, hnext⟩
      cases hperiod
      simp only [bind, Except.bind, hnext, pure, Except.pure]

theorem rescheduled_eq_ok_iff (now : Int) (job next : Job) :
    rescheduled now job = .ok next ↔ next.period = job.period ∧ next.RunsAfter now := by
  rw [rescheduled, Job.RunsAfter, ← nextRunAfter_eq_ok_iff]
  constructor
  · intro h
    cases hnext : nextRunAfter now job.period with
    | error cause =>
      rw [hnext] at h
      cases h
    | ok nextRun =>
      rw [hnext] at h
      cases h
      exact ⟨rfl, hnext⟩
  · rintro ⟨hperiod, hnext⟩
    rw [← hperiod, hnext]
    cases next
    cases hperiod
    rfl

scoped instance scheduler : Scheduler where
  every := every
  isDue := isDue
  rescheduled := rescheduled
  idle? now jobs := (jobs.map Job.nextRun).min?.map (· - now)
  runDue := runDue
  every_eq_ok_iff := every_eq_ok_iff
  isDue_eq _ _ := rfl
  rescheduled_eq_ok_iff := rescheduled_eq_ok_iff
  idle?_eq _ _ := rfl
  runDue_nil _ _ _ := rfl
  runDue_early now act job s h := by simp only [runDue, h, Bool.false_eq_true, if_false]
  runDue_due now act job s h := by
    simp only [runDue, h, if_true]
    cases rescheduled now job <;> rfl

end LoadLedger.Machine
