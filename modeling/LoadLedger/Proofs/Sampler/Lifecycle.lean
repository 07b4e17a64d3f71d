import LoadLedger.Machine
import LoadLedger.Proofs.Sampler.Passes
import LoadLedger.Proofs.Sampler.Steps

/-!
# The life of a sampler

A sampler is started once, has one job while its thread is alive, and closes at most one more
interval once it is asked to stop, whatever happens between the steps of the thread
(`SamplerRun.Sound`, `SamplerRun.Spends`). A thread that ends in order leaves no job. A thread may
also die: in a wait that is too long for it, or since its job cannot be scheduled again. Then the
job stays (`SamplerSession.Condition.died`).

What an event can do is said once (`SamplerRun.Effect`), and shown of all events in `Sound.effect`.
The invariants are derived from the effects alone: `Effect.sound` keeps the thread and its job in
step, `Effect.of_ended` says that a thread that has ended does nothing any more, and `Effect.spends`
counts the ticks that are left to a thread that is asked to stop (`SamplerRun.budget`).
-/

namespace LoadLedger

/-! ## What merges leave alone -/

/-- **All that a merge can do**: it leaves the footprint of an outcome, or nothing if there is none.
The footprint may be that of a merge that has failed half-way. -/
theorem Ledger.mergeAny_cases [Depths] (l : Ledger) (item : Outcome ⊕ Value) :
    (l.mergeAny item).2 = l ∨ ∃ f, (l.mergeAny item).2 = l.leave f := by
  cases item with
  | inl o =>
    rw [mergeAny, merge_eq_leave]
    exact .inr ⟨o.footprint, rfl⟩
  | inr v => exact .inl rfl

namespace SamplerSession

/-! ## Ticks -/

/-- What may come of a tick: an interval is closed and counted, or it is recorded that this has
failed. -/
structure Ticked (s t : SamplerSession) : Prop where
  now : t.now = s.now
  /-- A tick is counted, or not. -/
  sampler : ∃ ticks ≤ s.sampler.ticks + 1, t.sampler = { s.sampler with ticks }
  grown : t.ledger.Grown
  /-- An interval is closed, or not. -/
  intervals : t.ledger.intervals ≤ s.ledger.intervals + 1

/-- A tick is of this sort where no total has fallen. Without that condition a sample could fail. -/
theorem ticked_tick [Depths] {s : SamplerSession} (h : s.ledger.Grown) : s.Ticked s.tick := by
  obtain hfailure | ⟨message, hfailure⟩ := Option.eq_none_or_eq_some s.failure
  · have hsampled : s.ledger.after [.sample] = s.ledger.sampled :=
      congrArg Prod.snd (Ledger.sample_of_grown h)
    rw [tick_of_grown hfailure h, hsampled]
    exact ⟨rfl, ⟨_, Nat.le_refl _, rfl⟩, .sampled _, Nat.le_refl _⟩
  · obtain ⟨record, hrecord⟩ : ∃ record, s.tick = s.record record := by
      rw [tick, sample, hfailure]
      exact ⟨_, rfl⟩
    rw [hrecord]
    exact ⟨rfl, ⟨_, Nat.le_succ _, rfl⟩, h, Nat.le_succ _⟩

namespace Ticked

variable {s t : SamplerSession}

/-- A tick touches neither the interval nor the jobs, the thread or the request to stop. -/
theorem interval (h : s.Ticked t) : t.sampler.interval = s.sampler.interval := by
  obtain ⟨ticks, -, hsampler⟩ := h.sampler
  rw [hsampler]

theorem jobs (h : s.Ticked t) : t.sampler.jobs = s.sampler.jobs := by
  obtain ⟨ticks, -, hsampler⟩ := h.sampler
  rw [hsampler]

theorem thread (h : s.Ticked t) : t.sampler.thread = s.sampler.thread := by
  obtain ⟨ticks, -, hsampler⟩ := h.sampler
  rw [hsampler]

theorem stopRequested (h : s.Ticked t) : t.sampler.stopRequested = s.sampler.stopRequested := by
  obtain ⟨ticks, -, hsampler⟩ := h.sampler
  rw [hsampler]

/-- A tick is counted once at most. -/
theorem ticks_le (h : s.Ticked t) : t.sampler.ticks ≤ s.sampler.ticks + 1 := by
  obtain ⟨ticks, hticks, hsampler⟩ := h.sampler
  rw [hsampler]
  exact hticks

end Ticked

/-- What the thread does after a tick: it schedules its job again, or it dies. -/
def reschedule [Scheduler] (t : SamplerSession) (job : Job) : SamplerSession :=
  match Scheduler.rescheduled t.now job with
  | .ok next => t.continueWith (.ok ()) [next]
  | .error cause => t.continueWith (.error cause) [job]

theorem runDue_of_isDue [Scheduler] {s : SamplerSession} {job : Job}
    (hjobs : s.sampler.jobs = [job])
    (hdue : s.isDue = true) : s.runDue = s.tick.reschedule job := by
  rw [isDue, hjobs, List.any_cons, List.any_nil, Bool.or_false] at hdue
  rw [runDue, hjobs, Scheduler.runDue_due s.now tick job s hdue, reschedule, s.tick_frame.1]
  cases Scheduler.rescheduled s.now job <;> rfl

/-- A tick that has waited for the ledger takes place once no reader is left, and it does not fail
on purpose then. -/
theorem leaveSampling_of_readers [Scheduler] {s : SamplerSession} {job : Job}
    (hjobs : s.sampler.jobs = [job]) (hreaders : s.readers = 0) :
    s.leaveSampling = ({ s with failure := none } : SamplerSession).tick.reschedule job := by
  obtain ⟨-, -, -, ticks, hsampler⟩ := ({ s with failure := none } : SamplerSession).tick_frame
  have hafter : ({ s with failure := none } : SamplerSession).tick.sampler.jobs = [job] := by
    rw [hsampler]
    exact hjobs
  cases hnext : Scheduler.rescheduled ({ s with failure := none } : SamplerSession).tick.now job <;>
    simp only [leaveSampling, if_pos hreaders, hafter, reschedule, hnext]

/-! ## The condition of a sampler -/

/-- The job runs ahead of the clock by a period at most. -/
structure Fits (interval : Value) (now : Int) (job : Job) : Prop where
  /-- Its period is the interval, -/
  period : Micros.ofValue interval = .ok job.period
  /-- which is not nothing. -/
  positive : 0 < job.period
  /-- It does not run later than a period from now. -/
  near : job.nextRun ≤ now + job.period

/-- The job is one that a thread may die of: its period is too long for a wait, or so long that the
calendar ends before the next run. -/
structure Stranded (interval : Value) (now : Int) (job : Job) : Prop where
  period : Micros.ofValue interval = .ok job.period
  reason : Sampler.waitLimit < job.period ∨ Micros.lastMoment < now + job.period

/-- How a sampler stands. There are four cases, of which `died` is the one that nobody wishes
for. -/
inductive Condition (interval : Value) (s : SamplerSession) : Prop
  /-- Nobody has started it. -/
  | unstarted (hthread : s.sampler.thread = .unstarted) (hjobs : s.sampler.jobs = [])
  /-- Its thread is alive and has one job. -/
  | alive (hthread : s.sampler.thread = .waiting ∨ s.sampler.thread = .sampling) {job : Job}
    (hjobs : s.sampler.jobs = [job]) (hfits : Fits interval s.now job)
  /-- Its thread has ended in order, without a job. -/
  | finished (hthread : s.sampler.thread = .ended) (hjobs : s.sampler.jobs = [])
  /-- Its thread has died and left its job behind. -/
  | died (hthread : s.sampler.thread = .ended) {job : Job} (hjobs : s.sampler.jobs = [job])
    (hstranded : Stranded interval s.now job)

namespace Condition

variable {interval : Value} {s t : SamplerSession}

/-- A thread that is alive has a job. -/
theorem job_of_alive (h : Condition interval s)
    (hthread : s.sampler.thread = .waiting ∨ s.sampler.thread = .sampling) :
    ∃ job, s.sampler.jobs = [job] ∧ Fits interval s.now job := by
  cases h with
  | alive _ hjobs hfits => exact ⟨_, hjobs, hfits⟩
  | unstarted h | finished h | died h =>
    rw [h] at hthread
    obtain h | h := hthread <;> cases h

/-- While the thread lives its job fits in with the clock (`SamplerSession.Fits`). -/
theorem fits (h : Condition interval s)
    (hthread : s.sampler.thread = .waiting ∨ s.sampler.thread = .sampling) {job : Job}
    (hjobs : s.sampler.jobs = [job]) : Fits interval s.now job := by
  obtain ⟨job', hjobs', hfits⟩ := h.job_of_alive hthread
  obtain rfl := List.singleton_inj.mp (hjobs.symm.trans hjobs')
  exact hfits

/-- A sampler that was not started has none. -/
theorem jobs_of_unstarted (h : Condition interval s) (hthread : s.sampler.thread = .unstarted) :
    s.sampler.jobs = [] := by
  cases h with
  | unstarted _ hjobs => exact hjobs
  | alive h =>
    rw [hthread] at h
    obtain h | h := h <;> cases h
  | finished h | died h => cases hthread.symm.trans h

/-- What leaves the thread and its jobs alone and does not move the clock back. -/
theorem frame (h : Condition interval s) (hthread : t.sampler.thread = s.sampler.thread)
    (hjobs : t.sampler.jobs = s.sampler.jobs) (hnow : s.now ≤ t.now) : Condition interval t := by
  cases h with
  | unstarted h hnone => exact .unstarted (hthread.trans h) (hjobs.trans hnone)
  | alive h hjob hfits =>
    have hnear := hfits.near
    exact .alive (hthread ▸ h) (hjobs.trans hjob) ⟨hfits.period, hfits.positive, by omega⟩
  | finished h hnone => exact .finished (hthread.trans h) (hjobs.trans hnone)
  | died h hjob hstranded =>
    refine .died (hthread.trans h) (hjobs.trans hjob) ⟨hstranded.period, ?_⟩
    exact hstranded.reason.imp_right fun hlate => by omega

variable [Scheduler]

/-- A thread that has to wait too long dies of its job. -/
theorem die (h : Condition interval s) (hthread : s.sampler.thread = .waiting) {idle : Int}
    (hidle : Scheduler.idle? s.now s.sampler.jobs = some idle) (hlimit : Sampler.waitLimit < idle) :
    Condition interval s.die := by
  obtain ⟨job, hjobs, hfits⟩ := h.job_of_alive (.inl hthread)
  have hahead : some (job.nextRun - s.now) = some idle := by
    rw [← hidle, hjobs, Scheduler.idle?_singleton]
  have hgap := Option.some.inj hahead
  have hnear := hfits.near
  exact .died rfl hjobs ⟨hfits.period, .inl (by omega)⟩

/-- A job that cannot be scheduled again is one that the thread dies of. -/
theorem reschedule {job : Job} (hclock : 0 ≤ t.now) (hfits : Fits interval t.now job) :
    Condition interval (t.reschedule job) := by
  have hpositive := hfits.positive
  rw [SamplerSession.reschedule]
  cases hnext : Scheduler.rescheduled t.now job with
  | ok next =>
    obtain ⟨hperiod, hruns⟩ := (Scheduler.rescheduled_eq_ok_iff ..).mp hnext
    rw [← hperiod] at hpositive
    exact .alive (.inl rfl) rfl
      ⟨hperiod ▸ hfits.period, hpositive, Int.le_of_eq hruns.lt.2⟩
  | error cause =>
    have hlate : Micros.lastMoment < t.now + job.period := by
      by_contra hinside
      have hruns := Job.runsAfter_of_le hpositive hclock (Int.not_lt.mp hinside)
      cases hnext.symm.trans (Scheduler.rescheduled_of_runsAfter hruns)
    exact .died rfl rfl ⟨hfits.period, .inr hlate⟩

/-- A sampler that is started has its job. -/
theorem begin (h : Condition interval s) (hinterval : s.sampler.interval = interval) :
    Condition interval s.begin.2 := by
  rw [SamplerSession.begin]
  split
  · exact h
  · rename_i sampler hstart
    -- a sampler that was not started has no job, so that the new one is the only one
    have hcondition : Condition interval { s with sampler } := by
      rw [Sampler.start] at hstart
      split at hstart
      · rename_i hthread
        obtain ⟨job, hjob, hsampler⟩ := bind_eq_ok.mp hstart
        cases hsampler
        obtain ⟨hperiod, hnext⟩ := (Scheduler.every_eq_ok_iff ..).mp hjob
        obtain ⟨hahead, hlater⟩ := hnext.lt
        have hjobs : s.sampler.jobs ++ [job] = [job] := by
          rw [h.jobs_of_unstarted hthread]
          rfl
        exact .alive (.inl rfl) hjobs ⟨hinterval ▸ hperiod, by omega, Int.le_of_eq hlater⟩
      · cases hstart
    split
    · exact hcondition
    · exact hcondition.frame rfl rfl (Int.le_refl _)

end Condition

/-- What the thread does after a tick leaves the ledger and the clock alone. -/
theorem reschedule_cases [Scheduler] (t : SamplerSession) (job : Job) :
    ∃ jobs thread, (thread = .waiting ∨ thread = .ended) ∧
      t.reschedule job = { t with sampler := { t.sampler with jobs, thread } } := by
  rw [reschedule]
  cases Scheduler.rescheduled t.now job with
  | ok next => exact ⟨_, _, .inl rfl, rfl⟩
  | error cause => exact ⟨_, _, .inr rfl, rfl⟩

/-- A thread that has ticked goes on with its job, or it dies of it. -/
theorem Ticked.reschedule [Scheduler] {interval : Value} {s t : SamplerSession} {job : Job}
    (h : s.Ticked t) (hclock : 0 ≤ s.now) (hfits : Fits interval s.now job) :
    (t.reschedule job).sampler.interval = s.sampler.interval ∧
      (t.reschedule job).now = s.now ∧ (t.reschedule job).ledger.Grown ∧
      Condition interval (t.reschedule job) := by
  have hcondition : Condition interval (t.reschedule job) := by
    rw [← h.now] at hclock hfits
    exact .reschedule hclock hfits
  obtain ⟨jobs, thread, -, hafter⟩ := t.reschedule_cases job
  refine ⟨?_, ?_, ?_, hcondition⟩
  · rw [hafter]
    exact h.interval
  · rw [hafter]
    exact h.now
  · rw [hafter]
    exact h.grown

/-- A start does nothing, or it is the first one and there is a job and a thread. -/
theorem begin_cases [Scheduler] (s : SamplerSession) :
    s.begin.2 = s ∨ s.sampler.thread = .unstarted ∧
      ∃ jobs log, s.begin.2 =
        { s with sampler := { s.sampler with jobs, thread := .waiting }, log } := by
  rw [begin]
  split
  · exact .inl rfl
  · rename_i sampler hstart
    rw [Sampler.start] at hstart
    split at hstart
    · rename_i hthread
      obtain ⟨job, -, hsampler⟩ := bind_eq_ok.mp hstart
      cases hsampler
      refine .inr ⟨hthread, s.sampler.jobs ++ [job], ?_⟩
      split
      · exact ⟨s.log, rfl⟩
      · exact ⟨_, rfl⟩
    · cases hstart

/-- What others do to a session without closing an interval: the thread and its job are left alone,
the clock does not go back, and a request to stop stays. -/
structure SameThread (s t : SamplerSession) : Prop where
  now : s.now ≤ t.now
  interval : t.sampler.interval = s.sampler.interval
  jobs : t.sampler.jobs = s.sampler.jobs
  thread : t.sampler.thread = s.sampler.thread
  ticks : t.sampler.ticks = s.sampler.ticks
  stopRequested : s.sampler.stopRequested = true → t.sampler.stopRequested = true
  grown : s.ledger.Grown → t.ledger.Grown
  windows : t.ledger.windows = s.ledger.windows
  intervals : t.ledger.intervals = s.ledger.intervals

theorem SameThread.refl (s : SamplerSession) : s.SameThread s :=
  ⟨Int.le_refl _, rfl, rfl, rfl, rfl, id, id, rfl, rfl⟩

end SamplerSession

/-! ## What an event does -/

open SamplerSession

/-- All that an event can do. All later invariants go by these cases, and not by
`SamplerRun.perform`. -/
inductive SamplerRun.Effect [Scheduler] (r : SamplerRun) : Bool → SamplerRun → Prop
  /-- Others do something that does not concern the thread. -/
  | others {t : SamplerSession} (h : r.session.SameThread t) : Effect r false ⟨t, r.stage⟩
  /-- The first start that succeeds. -/
  | started (hthread : r.session.sampler.thread = .unstarted) {jobs : Timetable}
    {log : List LogRecord}
    (hbegin : r.session.begin.2 =
      { r.session with sampler := { r.session.sampler with jobs, thread := .waiting }, log }) :
    Effect r false ⟨r.session.begin.2, r.stage⟩
  /-- Others tick. -/
  | ticked {t : SamplerSession} (h : r.session.Ticked t) : Effect r true ⟨t, r.stage⟩
  /-- The thread ends in order. -/
  | finished (hthread : r.session.sampler.thread = .waiting) :
    Effect r false ⟨r.session.finish, r.stage⟩
  /-- The thread dies of a wait that is too long. -/
  | died (hthread : r.session.sampler.thread = .waiting) {idle : Int}
    (hidle : Scheduler.idle? r.session.now r.session.sampler.jobs = some idle)
    (hlimit : Sampler.waitLimit < idle) : Effect r false ⟨r.session.die, r.stage⟩
  /-- The thread goes on, but it does not leave the top of its loop if it is asked to stop. -/
  | turned (hthread : r.session.sampler.thread = .waiting) {stage : LoopStage}
    (hstage : r.session.sampler.stopRequested = true → r.stage = .top → stage = .top) :
    Effect r false ⟨r.session, stage⟩
  /-- The thread runs its job, and is at the top of its loop again. -/
  | ran (hthread : r.session.sampler.thread = .waiting) (hstage : r.stage = .woken)
    {t : SamplerSession} {job : Job} (hjobs : r.session.sampler.jobs = [job])
    (h : r.session.Ticked t) : Effect r false ⟨t.reschedule job, .top⟩
  /-- The thread has to wait for the ledger before it can tick. -/
  | queued (hthread : r.session.sampler.thread = .waiting) (hstage : r.stage = .woken) :
    Effect r false ⟨r.session.queue, .top⟩
  /-- The thread has got hold of the ledger and ticks. -/
  | sampled (hthread : r.session.sampler.thread = .sampling) {t : SamplerSession} {job : Job}
    (hjobs : r.session.sampler.jobs = [job]) (h : r.session.Ticked t) :
    Effect r false ⟨{ t.reschedule job with failure := r.session.failure }, r.stage⟩

namespace SamplerRun

/-- What holds of a sampler at any time. The thread and its job are as `SamplerSession.Condition`
says, and no total has fallen (`Ledger.Grown`). -/
structure Sound (interval : Value) (r : SamplerRun) : Prop where
  made : r.session.sampler.interval = interval
  /-- The clock has not gone back behind its start. -/
  clock : 0 ≤ r.session.now
  /-- So sampling never fails by itself. -/
  grown : r.session.ledger.Grown
  /-- The thread and its job go together. -/
  condition : r.session.Condition interval
  /-- A thread that does not wait is about to be at the top of its loop. -/
  stage : r.session.sampler.thread = .unstarted ∨ r.session.sampler.thread = .sampling →
    r.stage = .top

variable {interval : Value} {r : SamplerRun}

theorem Effect.refl [Scheduler] (r : SamplerRun) : r.Effect false r :=
  .others (.refl _)

/-- At the top of its loop the thread ends, waits or is past its wait, or the wait is too long and
it dies. -/
theorem effect_look [Scheduler] (hat : r.IsAt .top) : r.Effect false r.look := by
  have hthread := hat.1
  rw [look]
  split
  · exact .finished hthread
  · rename_i hgo
    -- a thread that is asked to stop does not get this far
    have hturn : ∀ stage, r.Effect false ⟨r.session, stage⟩ :=
      fun stage => .turned hthread fun hstop => absurd hstop hgo
    split
    · exact .finished hthread
    · rename_i idle hidle
      split
      · rename_i hlimit
        exact .died hthread hidle hlimit
      · split
        · exact hturn .woken
        · exact hturn .waiting

/-- At the end of its loop the thread ticks, waits for the ledger, or does nothing. -/
theorem Sound.effect_work [Depths] [Scheduler] (h : r.Sound interval) (hat : r.IsAt .woken) :
    r.Effect false r.work := by
  obtain ⟨hthread, hstage⟩ := hat
  rw [work]
  split
  · exact .turned hthread fun _ _ => rfl
  · rename_i hdue
    split
    · obtain ⟨job, hjobs, -⟩ := h.condition.job_of_alive (.inl hthread)
      rw [runDue_of_isDue hjobs (by simpa using hdue)]
      exact .ran hthread hstage hjobs (ticked_tick h.grown)
    · exact .queued hthread hstage

/-- A thread that has waited for the ledger ticks. -/
theorem Sound.effect_sample [Depths] [Scheduler] (h : r.Sound interval)
    (hthread : r.session.sampler.thread = .sampling) :
    r.Effect false { r with session := r.session.move } := by
  rw [move, hthread]
  by_cases hreaders : r.session.readers = 0
  · obtain ⟨job, hjobs, -⟩ := h.condition.job_of_alive (.inr hthread)
    dsimp only
    rw [leaveSampling_of_readers hjobs hreaders]
    obtain ⟨hnow, hsampler, hgrown, hintervals⟩ :=
      ticked_tick (s := { r.session with failure := none }) h.grown
    exact .sampled hthread hjobs ⟨hnow, hsampler, hgrown, hintervals⟩
  · rw [leaveSampling, if_neg hreaders]
    exact .refl r

/-- **What an event does.** -/
theorem Sound.effect [Depths] [Scheduler] (h : r.Sound interval) (e : SamplerEvent) :
    r.Effect e.isTick (r.perform e) := by
  cases e with
  | start =>
    obtain hsame | ⟨hthread, jobs, log, hbegin⟩ := r.session.begin_cases
    · rw [perform, hsame]
      exact .refl r
    · exact .started hthread hbegin
  | requestStop =>
    exact .others ⟨Int.le_refl _, rfl, rfl, rfl, rfl, fun _ => rfl, id, rfl, rfl⟩
  | tick => exact .ticked (ticked_tick h.grown)
  | advance elapsed =>
    rw [perform]
    split
    · exact .refl r
    · rename_i now hafter
      -- the clock is only moved forward
      have hlater : r.session.now ≤ now := by
        rw [Micros.after] at hafter
        split at hafter
        · cases hafter
        · cases hafter
          omega
      exact .others ⟨hlater, rfl, rfl, rfl, rfl, id, id, rfl, rfl⟩
  | merge item =>
    rw [perform]
    obtain hnothing | ⟨f, hleft⟩ := r.session.ledger.mergeAny_cases item
    · rw [hnothing]
      exact .refl r
    · rw [hleft]
      exact .others ⟨Int.le_refl _, rfl, rfl, rfl, rfl, id, fun hgrown => hgrown.leave f, rfl, rfl⟩
  | giveUp | recordStop | breakSampling | fixSampling | hold | release =>
    exact .others ⟨Int.le_refl _, rfl, rfl, rfl, rfl, id, id, rfl, rfl⟩
  | look =>
    rw [perform]
    split
    · rename_i hat
      exact effect_look hat
    · exact .refl r
  | wake =>
    rw [perform]
    split
    · rename_i hat
      exact .finished hat.1.1
    · exact .refl r
  | expire =>
    rw [perform]
    split
    · rename_i hat
      exact .turned hat.1 fun _ htop => absurd (htop.symm.trans hat.2) LoopStage.noConfusion
    · exact .refl r
  | work =>
    rw [perform]
    split
    · rename_i hat
      exact h.effect_work hat
    · exact .refl r
  | sample =>
    rw [perform]
    split
    · rename_i hthread
      exact h.effect_sample hthread
    · exact .refl r

/-! ## What every event keeps -/

/-- **Every event keeps what holds of a sampler at any time.** One case for each constructor of
`Effect`. -/
theorem Effect.sound [Scheduler] {r' : SamplerRun} {byOthers : Bool}
    (heffect : r.Effect byOthers r') (h : r.Sound interval) : r'.Sound interval := by
  have hclock := h.clock
  cases heffect with
  | others hsame =>
    refine ⟨hsame.interval.trans h.made, Int.le_trans hclock hsame.now, hsame.grown h.grown,
      h.condition.frame hsame.thread hsame.jobs hsame.now, ?_⟩
    rw [hsame.thread]
    exact h.stage
  | started hthread hbegin =>
    have hcondition := h.condition.begin h.made
    rw [hbegin] at hcondition ⊢
    exact ⟨h.made, hclock, h.grown, hcondition, fun _ => h.stage (.inl hthread)⟩
  | ticked hticked =>
    have hnow := hticked.now
    refine ⟨hticked.interval.trans h.made, hnow ▸ hclock, hticked.grown,
      h.condition.frame hticked.thread hticked.jobs (Int.le_of_eq hnow.symm), ?_⟩
    rw [hticked.thread]
    exact h.stage
  | finished =>
    exact ⟨h.made, hclock, h.grown, .finished rfl rfl, by rintro (h | h) <;> cases h⟩
  -- the job that the thread would have to wait for too long is left to it
  | died hthread hidle hlimit =>
    exact ⟨h.made, hclock, h.grown, h.condition.die hthread hidle hlimit,
      by rintro (h | h) <;> cases h⟩
  | turned hthread =>
    refine ⟨h.made, hclock, h.grown, h.condition, ?_⟩
    rw [hthread]
    rintro (h | h) <;> cases h
  | ran hthread hstage hjobs hticked =>
    obtain ⟨hmade, hnow, hgrown, hcondition⟩ :=
      hticked.reschedule hclock (h.condition.fits (.inl hthread) hjobs)
    exact ⟨hmade.trans h.made, hnow ▸ hclock, hgrown, hcondition, fun _ => rfl⟩
  | queued hthread =>
    obtain ⟨job, hjobs, hfits⟩ := h.condition.job_of_alive (.inl hthread)
    exact ⟨h.made, hclock, h.grown, .alive (.inr rfl) hjobs hfits, fun _ => rfl⟩
  | sampled hthread hjobs hticked =>
    obtain ⟨hmade, hnow, hgrown, hcondition⟩ :=
      hticked.reschedule hclock (h.condition.fits (.inr hthread) hjobs)
    exact ⟨hmade.trans h.made, hnow ▸ hclock, hgrown,
      hcondition.frame rfl rfl (Int.le_refl _), fun _ => h.stage (.inr hthread)⟩

/-- A sampler that was started stays so. -/
theorem Effect.thread_ne [Scheduler] {r' : SamplerRun} {byOthers : Bool}
    (heffect : r.Effect byOthers r')
    (h : r.session.sampler.thread ≠ .unstarted) : r'.session.sampler.thread ≠ .unstarted := by
  cases heffect with
  | others hsame =>
    rw [hsame.thread]
    exact h
  | started hthread => exact absurd hthread h
  | ticked hticked =>
    rw [hticked.thread]
    exact h
  | finished | died | queued => exact SamplerThread.noConfusion
  | turned => exact h
  | ran | sampled =>
    rename_i t job _ _
    obtain ⟨jobs, thread, hthread, hafter⟩ := t.reschedule_cases job
    rw [hafter]
    obtain rfl | rfl := hthread <;> exact SamplerThread.noConfusion

/-- **A thread that has ended does nothing any more**: only others may close an interval. -/
theorem Effect.of_ended [Scheduler] {r' : SamplerRun} {byOthers : Bool}
    (heffect : r.Effect byOthers r') (h : r.session.sampler.thread = .ended) :
    r'.session.sampler.thread = .ended ∧ (byOthers = false →
      r'.session.sampler.ticks = r.session.sampler.ticks ∧
        r'.session.ledger.windows = r.session.ledger.windows ∧
        r'.session.ledger.intervals = r.session.ledger.intervals) := by
  cases heffect with
  | others hsame =>
    exact ⟨hsame.thread.trans h, fun _ => ⟨hsame.ticks, hsame.windows, hsame.intervals⟩⟩
  | ticked hticked =>
    exact ⟨hticked.thread.trans h, fun hfalse => absurd hfalse Bool.noConfusion⟩
  | started hthread | finished hthread | died hthread | turned hthread | ran hthread
  | queued hthread | sampled hthread => cases hthread.symm.trans h

/-! ## After a request to stop -/

/-- The ticks that are left to a thread that is asked to stop: one if it is past the top of its
loop. -/
def budget (r : SamplerRun) : Nat :=
  match r.session.sampler.thread with
  | .unstarted | .ended => 0
  | .sampling => 1
  | .waiting => if r.stage = .top then 0 else 1

theorem budget_le_one (r : SamplerRun) : r.budget ≤ 1 := by
  rw [budget]
  split
  · exact Nat.zero_le _
  · exact Nat.zero_le _
  · exact Nat.le_refl _
  · split <;> decide

/-- A thread at the top of its loop has nothing left to it, and neither has one that has ended. -/
theorem budget_of_top {r : SamplerRun}
    (hthread : r.session.sampler.thread = .waiting ∨ r.session.sampler.thread = .ended)
    (hstage : r.stage = .top) : r.budget = 0 := by
  rw [budget]
  obtain h | h := hthread
  · rw [h]
    exact if_pos hstage
  · rw [h]

/-- One run is later than another one that is asked to stop: there are not more ticks and intervals
than were left to the thread, and those that others have brought. -/
structure Spends (r r' : SamplerRun) (byOthers : Nat) : Prop where
  /-- The request to stop stays. -/
  asked : r'.session.sampler.stopRequested = true
  /-- What the thread ticks it takes from its budget. -/
  ticks : r'.session.sampler.ticks + r'.budget ≤ r.session.sampler.ticks + r.budget + byOthers
  intervals : r'.session.ledger.intervals + r'.budget ≤
    r.session.ledger.intervals + r.budget + byOthers

/-- Nothing is counted, and the thread has not more left to it than before. -/
theorem Spends.of_budget_le {r' : SamplerRun}
    (hasked : r'.session.sampler.stopRequested = true)
    (hticks : r'.session.sampler.ticks = r.session.sampler.ticks)
    (hintervals : r'.session.ledger.intervals = r.session.ledger.intervals)
    (hbudget : r'.budget ≤ r.budget) : r.Spends r' 0 :=
  ⟨hasked, by omega, by omega⟩

/-- The thread ticks, and has nothing left to it. -/
theorem Spends.of_tick {r' : SamplerRun} {t : SamplerSession} (hticked : r.session.Ticked t)
    (hasked : r.session.sampler.stopRequested = true) {jobs : Timetable} {thread : SamplerThread}
    (hsampler : r'.session.sampler = { t.sampler with jobs, thread })
    (hledger : r'.session.ledger = t.ledger) (hbefore : r.budget = 1) (hafter : r'.budget = 0) :
    r.Spends r' 0 := by
  have hticks := hticked.ticks_le
  have hintervals := hticked.intervals
  refine ⟨?_, ?_, ?_⟩
  · rw [hsampler]
    exact hticked.stopRequested.trans hasked
  · rw [hsampler, hbefore, hafter]
    dsimp only
    omega
  · rw [hledger, hbefore, hafter]
    omega

/-- **A request to stop leaves one tick to the thread at most.** What is left to it is its `budget`,
which a tick of its own uses up. -/
theorem Effect.spends [Scheduler] {r' : SamplerRun} {byOthers : Bool}
    (heffect : r.Effect byOthers r')
    (h : r.Sound interval) (hasked : r.session.sampler.stopRequested = true) :
    r.Spends r' (if byOthers then 1 else 0) := by
  cases heffect with
  | others hsame =>
    refine .of_budget_le (hsame.stopRequested hasked) hsame.ticks hsame.intervals ?_
    rw [budget, budget, hsame.thread]
  | started hthread hbegin =>
    have htop := h.stage (.inl hthread)
    rw [hbegin]
    refine .of_budget_le hasked rfl rfl ?_
    rw [budget]
    dsimp only
    rw [if_pos htop]
    exact Nat.zero_le _
  | ticked hticked =>
    rename_i t
    have hticks := hticked.ticks_le
    have hintervals := hticked.intervals
    -- somebody else ticks, which costs the thread nothing
    have hbudget : budget ⟨t, r.stage⟩ = r.budget := by
      rw [budget, budget, hticked.thread]
    refine ⟨hticked.stopRequested.trans hasked, ?_, ?_⟩
    all_goals
      rw [hbudget, if_pos rfl]
      dsimp only
      omega
  | finished | died => exact .of_budget_le hasked rfl rfl (Nat.zero_le _)
  | turned hthread hstage =>
    refine .of_budget_le hasked rfl rfl ?_
    rw [budget, budget, hthread]
    dsimp only
    split
    · exact Nat.zero_le _
    · rename_i hnot
      rw [if_neg fun htop => hnot (hstage hasked htop)]
  | ran hthread hstage hjobs hticked =>
    rename_i t job
    obtain ⟨jobs, thread, hends, hafter⟩ := t.reschedule_cases job
    -- the thread ticks, and is at the top of its loop afterwards
    have hbefore : r.budget = 1 := by
      rw [budget, hthread, hstage]
      rfl
    rw [hafter]
    exact .of_tick hticked hasked rfl rfl hbefore (budget_of_top hends rfl)
  | queued hthread hstage =>
    refine .of_budget_le hasked rfl rfl ?_
    rw [budget, budget, hthread]
    dsimp only
    rw [hstage]
    exact Nat.le_refl 1
  | sampled hthread hjobs hticked =>
    rename_i t job
    obtain ⟨jobs, thread, hends, hafter⟩ := t.reschedule_cases job
    have hbefore : r.budget = 1 := by
      rw [budget, hthread]
    rw [hafter]
    exact .of_tick hticked hasked rfl rfl hbefore (budget_of_top hends (h.stage (.inr hthread)))

/-! ## Whole runs -/

theorem Sound.perform [Depths] [Scheduler] (h : r.Sound interval) (e : SamplerEvent) :
    (r.perform e).Sound interval :=
  (h.effect e).sound h

theorem Sound.performAll [Depths] [Scheduler] (h : r.Sound interval) (events : List SamplerEvent) :
    (r.performAll events).Sound interval := by
  induction events generalizing r with
  | nil => exact h
  | cons e events ih => exact ih (h.perform e)

theorem Sound.thread_ne_performAll [Depths] [Scheduler] (h : r.Sound interval)
    (hstarted : r.session.sampler.thread ≠ .unstarted) (events : List SamplerEvent) :
    (r.performAll events).session.sampler.thread ≠ .unstarted := by
  induction events generalizing r with
  | nil => exact hstarted
  | cons e events ih => exact ih (h.perform e) ((h.effect e).thread_ne hstarted)

theorem Sound.ended_performAll [Depths] [Scheduler] (h : r.Sound interval)
    (hended : r.session.sampler.thread = .ended) (events : List SamplerEvent) :
    (r.performAll events).session.sampler.thread = .ended := by
  induction events generalizing r with
  | nil => exact hended
  | cons e events ih => exact ih (h.perform e) ((h.effect e).of_ended hended).1

/-- **Once a sampler is asked to stop**, it closes at most one more interval by itself. -/
theorem Sound.spends_performAll [Depths] [Scheduler] (h : r.Sound interval)
    (hasked : r.session.sampler.stopRequested = true) (events : List SamplerEvent) :
    r.Spends (r.performAll events) (events.countP SamplerEvent.isTick) := by
  -- By induction on the events: what a thread has left to it only falls (`Effect.spends`).
  induction events generalizing r with
  | nil => exact .of_budget_le hasked rfl rfl (Nat.le_refl _)
  | cons e events ih =>
    have hfirst := (h.effect e).spends h hasked
    have hrest := ih (h.perform e) hfirst.asked
    have hticks := hfirst.ticks
    have hticks' := hrest.ticks
    have hintervals := hfirst.intervals
    have hintervals' := hrest.intervals
    rw [List.countP_cons]
    rw [performAll_cons]
    exact ⟨hrest.asked, by omega, by omega⟩

/-! ## Starting -/

/-- A start that fails changes nothing. -/
theorem start_eq_of_error [Scheduler] {s : SamplerSession} {cause : Fault}
    (herror : s.start.1 = .error cause) : s.start.2 = s := by
  rw [start] at herror ⊢
  split at herror
  · rfl
  · rename_i sampler hstart
    -- an interval that is scheduled can be written
    obtain ⟨text, htext⟩ : ∃ text, sampler.interval.numeral = .ok text := by
      rw [Sampler.start] at hstart
      split at hstart
      · obtain ⟨job, hjob, hsampler⟩ := bind_eq_ok.mp hstart
        cases hsampler
        obtain ⟨hperiod, -⟩ := (Scheduler.every_eq_ok_iff ..).mp hjob
        exact (Value.exists_quotedWithin_iff 1 _).mpr (Value.writableWithin_of_period hperiod)
      · cases hstart
    rw [Sampler.startRecord, htext] at herror
    cases herror

/-- A new run of a sampler. -/
def fresh (s : SamplerSession) : SamplerRun :=
  ⟨s, .top⟩

/-- A new sampler satisfies the invariant, and nobody has asked it to stop. -/
theorem sound_fresh {s : SamplerSession} (hmake : make interval = .ok s) :
    (fresh s).Sound interval ∧ (fresh s).session.sampler.stopRequested = false := by
  obtain ⟨sampler, hsampler, hs⟩ := bind_eq_ok.mp hmake
  cases hs
  obtain rfl := Sampler.eq_of_make hsampler
  exact ⟨⟨rfl, Int.le_refl _, fun _ => Nat.le_refl _, .unstarted rfl rfl, fun _ => rfl⟩, rfl⟩

/-- A thread starts at the first start that succeeds. -/
theorem thread_ne_of_begin [Depths] [Scheduler] (hok : r.session.begin.1 = .ok ()) :
    (r.perform .start).session.sampler.thread ≠ .unstarted := by
  change r.session.begin.2.sampler.thread ≠ _
  rw [begin] at hok ⊢
  split at hok
  · cases hok
  · rename_i sampler hstart
    -- a start that succeeds makes the thread
    have hthread : sampler.thread = .waiting := by
      rw [Sampler.start] at hstart
      split at hstart
      · obtain ⟨job, -, hsampler⟩ := bind_eq_ok.mp hstart
        cases hsampler
        rfl
      · cases hstart
    split at hok
    · cases hok
    · change sampler.thread ≠ _
      rw [hthread]
      exact SamplerThread.noConfusion

/-- **The life of a sampler**, in every order of the events and of the steps of the thread.

A start that fails changes nothing, and after one that succeeds all others fail. There is one job at
most. Once the sampler is asked to stop, its thread closes one more interval at most, and none if it
was not started yet. When the thread has ended the sampler does not run, nothing but a tick by
somebody else counts or closes an interval, and no job is left, unless the thread has died of a job
that is too far away for a wait or for the calendar. The operations of a session are special cases.
The invariants are `SamplerRun.Sound` and `SamplerRun.Spends`. -/
theorem lifecycle [Depths] [Scheduler] {s : SamplerSession} (hmake : make interval = .ok s)
    (events : List SamplerEvent) (hrun : (fresh s).performAll events = r) :
    (∀ cause, r.session.start.1 = .error cause → r.session.start.2 = r.session) ∧
    (r.session.start.1 = .ok () → ∀ more,
      ((r.perform .start).performAll more).session.start =
        (.error .samplerStarted, ((r.perform .start).performAll more).session)) ∧
    r.session.sampler.jobs.length ≤ 1 ∧
    (r.session.sampler.stopRequested = true → ∀ more,
      (r.performAll more).session.sampler.ticks ≤ r.session.sampler.ticks +
        more.countP SamplerEvent.isTick + (if r.session.sampler.thread = .unstarted then 0 else 1) ∧
      (r.performAll more).session.ledger.intervals ≤ r.session.ledger.intervals +
        more.countP SamplerEvent.isTick +
          (if r.session.sampler.thread = .unstarted then 0 else 1)) ∧
    (r.session.sampler.thread = .ended → r.session.sampler.running = false ∧
      (r.session.sampler.jobs = [] ∨
        ∃ job, r.session.sampler.jobs = [job] ∧ Stranded interval r.session.now job)) ∧
    (r.session.sampler.thread = .ended → ∀ more e, e.isTick = false →
      ((r.performAll more).perform e).session.sampler.ticks =
          (r.performAll more).session.sampler.ticks ∧
        ((r.performAll more).perform e).session.ledger.windows =
          (r.performAll more).session.ledger.windows ∧
        ((r.performAll more).perform e).session.ledger.intervals =
          (r.performAll more).session.ledger.intervals) ∧
    (r.stage ≠ .woken → ∀ operations : List SamplerOperation, (∀ op ∈ operations, op.Forward) →
      r.Leads (r.session.operateAll operations) (operations.countP SamplerOperation.isTick)) := by
  have hsound : r.Sound interval := by
    rw [← hrun]
    exact (sound_fresh hmake).1.performAll events
  refine ⟨fun _ => start_eq_of_error, ?_, ?_, ?_, ?_, ?_, fun h _ => leads_operateAll h⟩
  · intro hok more
    rw [r.session.start_of_begin.1] at hok
    exact start_of_started
      ((hsound.perform .start).thread_ne_performAll (thread_ne_of_begin hok) more)
  · cases hsound.condition with
    | unstarted _ hjobs | finished _ hjobs => rw [hjobs]; exact Nat.zero_le _
    | alive _ hjobs | died _ hjobs => rw [hjobs]; exact Nat.le_refl _
  · intro hasked more
    have hspends := hsound.spends_performAll hasked more
    have hticks := hspends.ticks
    have hintervals := hspends.intervals
    -- a sampler that was not started has nothing left to tick
    have hbudget : r.budget ≤ if r.session.sampler.thread = .unstarted then 0 else 1 := by
      split
      · rename_i hthread
        rw [budget, hthread]
      · exact r.budget_le_one
    exact ⟨by omega, by omega⟩
  · intro hended
    refine ⟨running_of_ended hended, ?_⟩
    cases hsound.condition with
    | unstarted hthread => cases hthread.symm.trans hended
    | alive hthread =>
      rw [hended] at hthread
      obtain h | h := hthread <;> cases h
    | finished _ hjobs => exact .inl hjobs
    | died _ hjobs hstranded => exact .inr ⟨_, hjobs, hstranded⟩
  · intro hended more e he
    have heffect := (hsound.performAll more).effect e
    exact (heffect.of_ended (hsound.ended_performAll hended more)).2 he

/-- A sampler that is stopped while its thread waits for the ledger. -/
def stoppedInTick : List SamplerEvent :=
  [.start, .look, .hold, .advance 1000000, .expire, .work, .requestStop]

open Machine

/-- The thread may still close the interval that it has begun to close, but no other one. -/
theorem lifecycle_stoppedInTick :
    ∃ s, make (.int 1) = .ok s ∧
      ((fresh s).performAll (stoppedInTick ++ [.release, .sample])).session.sampler.ticks = 1 ∧
      ∀ more, (((fresh s).performAll stoppedInTick).performAll more).session.sampler.ticks ≤
        more.countP SamplerEvent.isTick + 1 := by
  obtain ⟨s, hmake, hasked, hthread, hticks, hlast⟩ : ∃ s, make (.int 1) = .ok s ∧
      ((fresh s).performAll stoppedInTick).session.sampler.stopRequested = true ∧
      ((fresh s).performAll stoppedInTick).session.sampler.thread = .sampling ∧
      ((fresh s).performAll stoppedInTick).session.sampler.ticks = 0 ∧
      ((fresh s).performAll (stoppedInTick ++ [.release, .sample])).session.sampler.ticks = 1 :=
    ⟨_, rfl, by decide +kernel⟩
  refine ⟨s, hmake, hlast, fun more => ?_⟩
  obtain ⟨-, -, -, hstop, -⟩ := lifecycle hmake stoppedInTick rfl
  have hleft := (hstop hasked more).1
  rw [hticks, hthread] at hleft
  simpa using hleft

/-- An interval of some three centuries can be scheduled, and the sampler starts. But the thread
dies of its first wait, and the job stays, also when the sampler is stopped. -/
theorem job_left_longInterval :
    ∃ s, make (.int 10000000000) = .ok s ∧ s.start.1 = .ok () ∧
      s.start.2.sampler.thread = .ended ∧ s.start.2.settle = s.start.2 ∧
      s.start.2.sampler.running = false ∧ s.start.2.sampler.jobs.length = 1 ∧
      (s.start.2.stop .null).2.sampler.jobs.length = 1 := by
  obtain ⟨s, hmake, hok, hended, hjobs, hstopped⟩ : ∃ s, make (.int 10000000000) = .ok s ∧
      s.start.1 = .ok () ∧ s.start.2.sampler.thread = .ended ∧
      s.start.2.sampler.jobs.length = 1 ∧ (s.start.2.stop .null).2.sampler.jobs.length = 1 :=
    ⟨_, rfl, by decide +kernel⟩
  exact ⟨s, hmake, hok, hended, settle_of_ended hended, running_of_ended hended, hjobs, hstopped⟩

end SamplerRun

end LoadLedger
