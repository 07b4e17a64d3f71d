import LoadLedger.Proofs.Sampler.Quiet
import LoadLedger.Proofs.Values

/-!
# A sampler in service

A sampler that nobody disturbs is started once, ticks whenever the clock gets past its next run, and
is stopped. What keeps it going from tick to tick is that its one job lies at most a period ahead
(`SamplerSession.Serving.move`).

A thread cannot wait longer than `Sampler.waitLimit`. With a period beyond that the sampler starts
all the same, but the thread dies of its first wait, and leaves the job
(`SamplerSession.Started`, `SamplerSession.Stopped`).

The laws of the class `Scheduler` are brought into the form in which they are used here: what a due
job does, and when it runs again (`Scheduler.runDue_of_runsAfter`).
-/

namespace LoadLedger

/-! ## Jobs -/

/-- A moment that is inside the calendar with one period more. -/
theorem Job.runsAfter_of_le {now period : Int} (hpos : 0 < period) (hclock : 0 ≤ now)
    (hcalendar : now + period ≤ Micros.lastMoment) : (mk period (now + period)).RunsAfter now := by
  have hfirst : Micros.firstMoment ≤ 0 := by decide
  exact ⟨hpos, if_neg (by dsimp only; omega)⟩

namespace Scheduler

variable [Scheduler] {now : Int}

theorem idle?_nil : idle? now [] = none := by
  rw [idle?_eq]
  rfl

/-- One job lies ahead by what is left until its next run. -/
theorem idle?_singleton (job : Job) : idle? now [job] = some (job.nextRun - now) := by
  rw [idle?_eq]
  rfl

theorem isDue_iff {job : Job} : isDue now job = true ↔ job.nextRun ≤ now := by
  rw [isDue_eq, decide_eq_true_iff]

theorem not_isDue_iff {job : Job} : isDue now job = false ↔ now < job.nextRun := by
  rw [isDue_eq, decide_eq_false_iff_not, Int.not_le]

/-- A job keeps its period. -/
theorem rescheduled_of_runsAfter {job : Job} {later : Int}
    (h : (Job.mk job.period later).RunsAfter now) :
    rescheduled now job = .ok ⟨job.period, later⟩ :=
  (rescheduled_eq_ok_iff now job ⟨job.period, later⟩).mpr ⟨rfl, h⟩

/-- **A due job runs once** and is put off by its period, if that does not lead out of the
calendar (`Job.RunsAfter`). -/
theorem runDue_of_runsAfter {σ : Type} (act : σ → σ) {job : Job} (s : σ)
    (hdue : isDue now job = true) {later : Int}
    (hlater : (Job.mk job.period later).RunsAfter now) :
    runDue now act [job] s = (.ok (), [⟨job.period, later⟩], act s) := by
  rw [runDue_due now act job s hdue, rescheduled_of_runsAfter hlater]

end Scheduler

/-- Periods have few digits. -/
theorem Micros.natAbs_lt_of_checked {t period : Int} (h : checked t = .ok period) :
    t.natAbs < Number.tenTo 20 := by
  rw [checked] at h
  split at h
  · cases h
  · split at h
    · cases h
    · rename_i hdays
      have hdivision := Int.fdiv_mul_add_fmod t perDay
      have hlow := Int.fmod_nonneg_of_pos t (b := perDay) (by decide)
      have hhigh := Int.fmod_lt_of_pos t (b := perDay) (by decide)
      have hday : (perDay : Int) = 86400000000 := rfl
      have hlimit : (dayLimit : Int) = 999999999 := rfl
      have hbound : Number.tenTo 20 = 100000000000000000000 := rfl
      rw [hday] at hdivision hlow hhigh hdays
      rw [hlimit] at hdays
      omega

/-- What is scheduled can be written: it is a number, and has few digits. -/
theorem Value.writableWithin_of_period {v : Value} {period : Int}
    (h : Micros.ofValue v = .ok period) : v.WritableWithin 1 := by
  cases v with
  | bool b => exact writableWithin_bool b
  | float x => exact writableWithin_float x
  | int i =>
    have hbound : (i * Micros.perSecond).natAbs < _ := Micros.natAbs_lt_of_checked h
    have hdigits : Number.tenTo 20 ≤ Number.tenTo Number.digitLimit :=
      Number.tenTo_le_tenTo (by decide)
    rw [Int.natAbs_mul] at hbound
    have hless : i.natAbs ≤ i.natAbs * (Micros.perSecond : Int).natAbs :=
      Nat.le_mul_of_pos_right _ (by decide)
    exact writableWithin_int.mpr (by omega)
  | _ => cases h

namespace SamplerSession

/-! ## What a sampler goes through -/

/-- Nobody keeps the thread from the ledger, makes it fail or has given it up. -/
structure Undisturbed (s : SamplerSession) : Prop where
  readers : s.readers = 0
  failure : s.failure = none
  givenUp : s.sampler.givenUp = false

/-- The sampler was neither started nor stopped. -/
structure Fresh (interval : Value) (s : SamplerSession) : Prop extends s.Undisturbed where
  interval : s.sampler.interval = interval
  thread : s.sampler.thread = .unstarted
  jobs : s.sampler.jobs = []
  stopRequested : s.sampler.stopRequested = false

/-- The thread waits for the next run of its job, which may be due. Nobody disturbs it
(`Undisturbed`), and nobody has asked it to stop. -/
structure Serving (period : Int) (s : SamplerSession) : Prop extends s.Undisturbed where
  thread : s.sampler.thread = .waiting
  /-- Its job is due now or within a period. -/
  jobs : ∃ next, s.sampler.jobs = [⟨period, next⟩] ∧ next ≤ s.now + period
  stopRequested : s.sampler.stopRequested = false

/-- The thread has ended, and so many jobs are left. -/
structure Over (jobs : Nat) (s : SamplerSession) : Prop where
  thread : s.sampler.thread = .ended
  jobs : s.sampler.jobs.length = jobs

/-- The sampler was started. -/
def Started (period : Int) (s : SamplerSession) : Prop :=
  if period ≤ Sampler.waitLimit then s.Serving period else s.Over 1

/-- The sampler was started and stopped. -/
def Stopped (period : Int) (s : SamplerSession) : Prop :=
  s.Over (if period ≤ Sampler.waitLimit then 0 else 1)

/-- The session when the clock shows another moment. -/
def withClock (s : SamplerSession) (moment : Int) : SamplerSession :=
  { s with now := moment }

/-! ## The end of the thread -/

theorem settle_of_ended [Scheduler] {s : SamplerSession} (h : s.sampler.thread = .ended) :
    s.settle = s := by
  have hmove : s.move = s := by
    rw [move, h]
  rw [settle, hmove, hmove, hmove]

theorem running_of_ended {s : SamplerSession} (h : s.sampler.thread = .ended) :
    s.sampler.running = false := by
  rw [Sampler.running, h, Bool.and_eq_false_iff]
  exact .inr rfl

/-- Stopping a sampler that was started means to wait for the end of the thread. -/
theorem stop_of_started [Scheduler] {s : SamplerSession} (h : s.sampler.thread ≠ .unstarted) :
    s.stop .null = s.requestStop.await .unlimited := by
  rw [stop, if_neg h]
  rfl

/-- A thread that has ended is past being stopped. -/
theorem Over.stop [Scheduler] {jobs : Nat} {s : SamplerSession} (h : s.Over jobs) :
    (s.stop .null).2.Over jobs := by
  have hasked : s.requestStop.sampler.thread = .ended := h.thread
  rw [stop_of_started (by rw [h.thread]; exact SamplerThread.noConfusion), await,
    running_of_ended hasked, if_neg Bool.false_ne_true, settle_of_ended hasked]
  exact ⟨h.thread, h.jobs⟩

theorem Over.pass [Scheduler] {jobs : Nat} {s : SamplerSession} (h : s.Over jobs) (moment : Int) :
    (s.withClock moment).settle.Over jobs := by
  rw [settle_of_ended (s := s.withClock moment) h.thread]
  exact ⟨h.thread, h.jobs⟩

/-! ## At work -/

/-- A tick changes the ledger, the log and the number of ticks. -/
theorem tick_frame (s : SamplerSession) :
    s.tick.now = s.now ∧ s.tick.readers = s.readers ∧ s.tick.failure = s.failure ∧
      ∃ ticks, s.tick.sampler = { s.sampler with ticks } := by
  obtain ⟨ledger, hsample⟩ : ∃ ledger, s.sample.2 = { s with ledger } := by
    rw [sample]
    split
    · exact ⟨s.ledger, rfl⟩
    · exact ⟨_, rfl⟩
  rw [tick]
  split
  · rename_i hresult
    obtain rfl := hsample.symm.trans (congrArg Prod.snd hresult)
    exact ⟨rfl, rfl, rfl, _, rfl⟩
  · rename_i hresult
    obtain rfl := hsample.symm.trans (congrArg Prod.snd hresult)
    exact ⟨rfl, rfl, rfl, _, rfl⟩

theorem Undisturbed.isFree {s : SamplerSession} (h : s.Undisturbed) : s.isFree = true := by
  rw [SamplerSession.isFree, h.readers, Bool.or_eq_true]
  exact .inr rfl

namespace Serving

variable [Scheduler] {period : Int} {s : SamplerSession}

omit [Scheduler] in
theorem running (h : s.Serving period) : s.sampler.running = true := by
  rw [Sampler.running, h.thread, h.givenUp]
  rfl

/-- A job that is due runs, and then lies a period ahead. -/
theorem runDue (h : s.Serving period) {next : Int} (hjobs : s.sampler.jobs = [⟨period, next⟩])
    (hdue : Scheduler.isDue s.now ⟨period, next⟩ = true) {later : Int}
    (hlater : (Job.mk period later).RunsAfter s.now) :
    s.runDue.Serving period ∧ s.runDue.now = s.now := by
  have hrun : Scheduler.runDue s.now tick s.sampler.jobs s =
      (.ok (), [⟨period, later⟩], s.tick) := by
    rw [hjobs]
    exact Scheduler.runDue_of_runsAfter tick s hdue hlater
  obtain ⟨hnow, hreaders, hfailure, ticks, hsampler⟩ := s.tick_frame
  rw [SamplerSession.runDue, hrun]
  dsimp only [continueWith]
  refine ⟨⟨⟨hreaders.trans h.readers, hfailure.trans h.failure, ?_⟩, rfl, ⟨later, rfl, ?_⟩, ?_⟩,
    hnow⟩
  · rw [hsampler]
    exact h.givenUp
  · rw [hnow]
    exact Int.le_of_eq hlater.lt.2
  · rw [hsampler]
    exact h.stopRequested

/-- A thread that can wait for its next run goes on waiting, or runs its job and waits again. -/
theorem move (h : s.Serving period) (hperiod : period ≤ Sampler.waitLimit) {later : Int}
    (hlater : (Job.mk period later).RunsAfter s.now) :
    s.move.Serving period ∧ s.move.now = s.now := by
  obtain ⟨next, hjobs, hnext⟩ := h.jobs
  have hidle : Scheduler.idle? s.now s.sampler.jobs = some (next - s.now) := by
    rw [hjobs, Scheduler.idle?_singleton]
  rw [SamplerSession.move, h.thread]
  dsimp only
  rw [leaveWait, h.stopRequested, if_neg Bool.false_ne_true, hidle]
  dsimp only
  rw [if_neg (by omega), isDue, hjobs, List.any_cons, List.any_nil, Bool.or_false, h.isFree]
  cases hdue : Scheduler.isDue s.now ⟨period, next⟩ with
  | false => exact ⟨h, rfl⟩
  | true => exact h.runDue hjobs hdue hlater

/-- A session settles in three moves, after each of which it serves. -/
theorem settle (h : s.Serving period) (hperiod : period ≤ Sampler.waitLimit) {later : Int}
    (hlater : (Job.mk period later).RunsAfter s.now) : s.settle.Serving period := by
  obtain ⟨hfirst, hnow⟩ := h.move hperiod hlater
  obtain ⟨hsecond, hnow'⟩ := hfirst.move hperiod (hnow.symm ▸ hlater)
  exact (hsecond.move hperiod ((hnow'.trans hnow).symm ▸ hlater)).1

/-- A thread that is asked to stop ends in order. -/
theorem stop (h : s.Serving period) : (s.stop .null).2.Over 0 := by
  have hwaiting : s.requestStop.sampler.thread = .waiting := h.thread
  have hrunning : s.requestStop.sampler.running = true := h.running
  have hsettle : s.requestStop.settle =
      { s.requestStop with sampler := s.requestStop.sampler.finish } := by
    rw [SamplerSession.settle, SamplerSession.move.eq_def s.requestStop, hwaiting]
    rfl
  rw [stop_of_started (by rw [h.thread]; exact SamplerThread.noConfusion), await, hrunning,
    if_pos rfl, hsettle]
  exact ⟨rfl, rfl⟩

/-- A thread that has to wait too long dies. -/
theorem die (h : s.Serving period) (hjobs : s.sampler.jobs = [⟨period, s.now + period⟩])
    (hperiod : ¬period ≤ Sampler.waitLimit) : s.settle.Over 1 := by
  have hidle : Scheduler.idle? s.now s.sampler.jobs = some period := by
    rw [hjobs, Scheduler.idle?_singleton]
    exact congrArg some (show s.now + period - s.now = period by omega)
  have hmove : s.move = { s with sampler := s.sampler.die } := by
    rw [SamplerSession.move, h.thread]
    dsimp only
    rw [leaveWait, h.stopRequested, if_neg Bool.false_ne_true, hidle]
    exact if_pos (by omega)
  have hsettle : s.settle = { s with sampler := s.sampler.die } := by
    rw [SamplerSession.settle, hmove]
    rfl
  rw [hsettle]
  exact ⟨rfl, congrArg List.length hjobs⟩

end Serving

/-! ## Started and stopped -/

section Started

variable [Scheduler] {interval : Value} {period : Int} {s : SamplerSession}

omit [Scheduler] in
theorem Started.thread (h : s.Started period) : s.sampler.thread ≠ .unstarted := by
  rw [Started] at h
  split at h
  · rw [h.thread]
    exact SamplerThread.noConfusion
  · rw [h.thread]
    exact SamplerThread.noConfusion

omit [Scheduler] in
/-- A started sampler runs unless its period is longer than a thread can wait. -/
theorem Started.running_iff (h : s.Started period) :
    s.sampler.running = true ↔ period ≤ Sampler.waitLimit := by
  rw [Started] at h
  split at h
  · rename_i hperiod
    exact iff_of_true h.running hperiod
  · rename_i hperiod
    rw [running_of_ended h.thread]
    exact iff_of_false Bool.false_ne_true hperiod

omit [Scheduler] in
/-- Others may write to the ledger meanwhile. -/
theorem Started.withLedger (h : s.Started period) (ledger : Ledger) :
    Started period { s with ledger } := by
  rw [Started] at h ⊢
  split at h
  · rename_i hperiod
    rw [if_pos hperiod]
    exact ⟨⟨h.readers, h.failure, h.givenUp⟩, h.thread, h.jobs, h.stopRequested⟩
  · rename_i hperiod
    rw [if_neg hperiod]
    exact ⟨h.thread, h.jobs⟩

/-- A stop without a timeout comes to the end of the thread, or finds that it has died. -/
theorem Started.stop (h : s.Started period) : (s.stop .null).2.Stopped period := by
  rw [Started] at h
  rw [Stopped]
  split at h
  · rename_i hperiod
    rw [if_pos hperiod]
    exact h.stop
  · rename_i hperiod
    rw [if_neg hperiod]
    exact h.stop

/-- The clock goes on. -/
theorem Started.pass (h : s.Started period) {moment : Int} (hmoment : s.now ≤ moment) {later : Int}
    (hlater : (Job.mk period later).RunsAfter moment) :
    (s.withClock moment).settle.Started period := by
  rw [Started] at h ⊢
  split at h
  · rename_i hperiod
    rw [if_pos hperiod]
    obtain ⟨next, hjobs, hnext⟩ := h.jobs
    have hlate : next ≤ moment + period := by omega
    have hmoved : (s.withClock moment).Serving period :=
      ⟨⟨h.readers, h.failure, h.givenUp⟩, h.thread, ⟨next, hjobs, hlate⟩, h.stopRequested⟩
    exact hmoved.settle hperiod hlater
  · rename_i hperiod
    rw [if_neg hperiod]
    exact h.pass moment

omit [Scheduler] in
theorem Fresh.withClock (h : s.Fresh interval) (moment : Int) :
    (s.withClock moment).Fresh interval :=
  ⟨⟨h.readers, h.failure, h.givenUp⟩, h.interval, h.thread, h.jobs, h.stopRequested⟩

/-- There is no thread yet that could go on when the session settles. -/
theorem Fresh.settle (h : s.Fresh interval) : s.settle = s := by
  have hmove : s.move = s := by
    rw [move, h.thread]
  rw [SamplerSession.settle, hmove, hmove, hmove]

omit [Scheduler] in
theorem Fresh.running (h : s.Fresh interval) : s.sampler.running = false := by
  rw [Sampler.running, h.thread, h.givenUp]
  rfl

/-- **The first start succeeds** if a job can be scheduled then. The sampler is `Started` then, with
the period of the job. -/
theorem Fresh.start (h : s.Fresh interval) {job : Job}
    (hjob : Scheduler.every s.now interval = .ok job) :
    s.start.1 = .ok () ∧ s.start.2.Started job.period := by
  obtain ⟨hperiod, hnext⟩ := (Scheduler.every_eq_ok_iff ..).mp hjob
  obtain ⟨text, htext⟩ :=
    (Value.exists_quotedWithin_iff 1 _).mpr (Value.writableWithin_of_period hperiod)
  let sampler : Sampler := { s.sampler with jobs := [job], thread := .waiting }
  have hsampler : s.sampler.start s.now = .ok sampler := by
    rw [← h.interval] at hjob
    rw [Sampler.start, if_pos h.thread, hjob, h.jobs]
    rfl
  -- the start is recorded, with the interval as a text
  have hrecord : sampler.startRecord =
      .ok ⟨.info, "Interval sampler started (interval=" ++ text ++ "s)"⟩ := by
    rw [Sampler.startRecord, show sampler.interval = interval from h.interval, Value.numeral, htext]
    rfl
  rw [SamplerSession.start, hsampler]
  dsimp only
  rw [hrecord]
  dsimp only
  refine ⟨rfl, ?_⟩
  have hrun : job.nextRun = s.now + job.period := hnext.lt.2
  have hjobs : sampler.jobs = [⟨job.period, s.now + job.period⟩] := by
    rw [← hrun]
  -- the job lies ahead by a period, and whether the thread can wait that long decides
  have hserving : (({ s with sampler } : SamplerSession).record
      ⟨.info, "Interval sampler started (interval=" ++ text ++ "s)"⟩).Serving job.period :=
    ⟨⟨h.readers, h.failure, h.givenUp⟩, rfl, ⟨_, hjobs, Int.le_refl _⟩, h.stopRequested⟩
  rw [Started]
  split
  · rename_i hshort
    exact hserving.settle hshort hnext
  · rename_i hlong
    exact hserving.die hjobs hlong

/-- **A sampler starts once**: later starts change nothing. -/
theorem start_of_started (h : s.sampler.thread ≠ .unstarted) :
    s.start = (.error .samplerStarted, s) := by
  rw [SamplerSession.start, Sampler.start, if_neg h]

end Started

end SamplerSession

end LoadLedger
