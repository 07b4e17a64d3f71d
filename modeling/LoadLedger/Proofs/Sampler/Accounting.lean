import LoadLedger.Machine
import LoadLedger.Proofs.Sampler.Lifecycle

/-!
# Ticks that fail

Sampling may be made to fail and to succeed again at any time. A tick that fails is recorded in the
log and changes nothing else but what every tick changes: the job is scheduled again, and the thread
goes on (`SamplerRun.Sound.failed`). The interval stays open, and its traffic waits for the next
tick that succeeds. So the ticks are the intervals, and what the intervals brought is all that was
merged before the last of them (`SamplerRun.Accounted`).

The books are kept by one quantity: the part of a total that does not belong to the open interval
(`Ledger.booked`). Merging leaves it alone, even if it fails half-way, and a sample brings it up to
the total.

`SamplerRun.Books` tells what an event does to the books: it closes an interval and counts it, it
merges, or neither. Which of them it is can be said before the event (`SamplerRun.closesIn`). So the
deltas of a run are put together event by event (`SamplerRun.Accounted`), and a run whose tick has
failed differs from one in which it would have succeeded (`SamplerRun.mended`) in nothing but the
books and the log (`SamplerRun.Failed`).
-/

namespace LoadLedger

/-! ## What is booked -/

namespace Ledger

/-- What the closed intervals have brought: the total without the traffic of the open interval. -/
def booked (l : Ledger) (q : Quantity) : Int :=
  l.totals.total q - l.openTraffic.get q

/-- A merge adds to a total what it adds to the open interval. -/
theorem booked_leave (l : Ledger) (f : Footprint) (q : Quantity) :
    (l.leave f).booked q = l.booked q := by
  have htotal : (l.leave f).totals.total q = l.totals.total q + f.counts.total q :=
    Counters.total_add _ _ _
  cases q with
  | requests =>
    have hopen : (l.leave f).openTraffic.requests = l.openTraffic.requests + f.counts.requests :=
      Int.natCast_add _ _
    change ((l.leave f).totals.total .requests : Int) - (l.leave f).openTraffic.requests =
      l.totals.total .requests - l.openTraffic.requests
    rw [htotal, hopen, Int.natCast_add]
    exact Int.add_sub_add_right _ _ _
  | _ =>
    -- the other quantities have no counter for the open interval
    simp only [booked, openTraffic, PerQuantity.get_ofFn, htotal]
    exact (Int.sub_sub_self _ _).trans (Int.sub_sub_self _ _).symm

/-- A sample books everything. -/
theorem booked_sampled (l : Ledger) (q : Quantity) : l.sampled.booked q = l.totals.total q := by
  cases q with
  | requests => exact Int.sub_zero _
  | _ => exact Int.sub_sub_self _ _

/-- Without a loss a sample answers the traffic of the open interval. -/
theorem answer_of_grown {l : Ledger} (h : l.Grown) : l.sample.1 = .ok l.openTraffic := by
  rw [sample_of_grown h, openTraffic_of_grown h]

end Ledger

open SamplerSession

namespace SamplerRun

/-! ## Which events tick -/

section

variable [Depths] [Scheduler]

/-- Does an event come to a tick? Somebody else ticks at once. The thread does if a job is due and
it need not wait for the ledger, or when it gets hold of the ledger that it has waited for. -/
def ticksIn (r : SamplerRun) : SamplerEvent → Bool
  | .tick => true
  | .work => r.IsAt .woken && r.session.isDue && r.session.isFree
  | .sample => r.session.sampler.thread == .sampling && r.session.readers == 0
  | _ => false

/-- Why sampling fails in an event, if it does. A tick that had to wait for the ledger has begun to
sample before, and nothing makes it fail any more. -/
def failureIn (r : SamplerRun) : SamplerEvent → Option AnyText
  | .tick | .work => r.session.failure
  | _ => none

/-- Does an event come to a tick that succeeds? -/
def closesIn (r : SamplerRun) (e : SamplerEvent) : Bool :=
  r.ticksIn e && !(r.failureIn e).isSome

/-- What the ticks that succeed in some events are answered by the ledger. -/
def answers (r : SamplerRun) : List SamplerEvent → List (Except Fault (PerQuantity Int))
  | [] => []
  | e :: events =>
    (if r.closesIn e then [r.session.ledger.sample.1] else []) ++ (r.perform e).answers events

/-! ## What an event does to the books -/

/-- An interval is closed and counted, or something is merged, or neither. -/
inductive Books (r r' : SamplerRun) : Bool → Prop
  /-- A tick has succeeded. -/
  | closed (hledger : r'.session.ledger = r.session.ledger.sampled)
    (hticks : r'.session.sampler.ticks = r.session.sampler.ticks + 1) : Books r r' true
  /-- A merge may have failed half-way. -/
  | merged (f : Footprint) (hledger : r'.session.ledger = r.session.ledger.leave f)
    (hticks : r'.session.sampler.ticks = r.session.sampler.ticks) : Books r r' false
  /-- Most events have nothing to do with the ledger. -/
  | kept (hledger : r'.session.ledger = r.session.ledger)
    (hticks : r'.session.sampler.ticks = r.session.sampler.ticks) : Books r r' false

variable {interval : Value} {r : SamplerRun} {e : SamplerEvent}

/-- The record of a tick that has failed. -/
def failureRecord (message : AnyText) : LogRecord :=
  ⟨.error, "Error sampling interval: " ++ message.displayed⟩

omit [Depths] [Scheduler] in
/-- A tick that fails leaves a record, and nothing else. -/
theorem tick_of_failure {s : SamplerSession} {message : AnyText} (h : s.failure = some message) :
    s.tick = s.record (failureRecord message) := by
  rw [tick, sample, h]
  rfl

omit [Scheduler] in
/-- A tick is counted exactly if it closes an interval, and what the thread does after it changes
neither the ledger nor the count. -/
theorem books_tick {t : SamplerSession} (hgrown : t.ledger.Grown)
    (hledger : t.ledger = r.session.ledger)
    (hticks : t.sampler.ticks = r.session.sampler.ticks) {r' : SamplerRun}
    (hledger' : r'.session.ledger = t.tick.ledger)
    (hticks' : r'.session.sampler.ticks = t.tick.sampler.ticks) :
    r.Books r' !t.failure.isSome := by
  cases hfailure : t.failure with
  | none =>
    have hsampled : t.ledger.after [.sample] = t.ledger.sampled :=
      congrArg Prod.snd (Ledger.sample_of_grown hgrown)
    rw [tick_of_grown hfailure hgrown, hsampled] at hledger' hticks'
    exact .closed (hledger'.trans (congrArg Ledger.sampled hledger))
      (hticks'.trans (congrArg (· + 1) hticks))
  | some message =>
    rw [tick_of_failure hfailure] at hledger' hticks'
    exact .kept (hledger'.trans hledger) (hticks'.trans hticks)

omit [Depths] in
/-- The top of the loop closes no interval, so it keeps the books whatever it does with the job. -/
theorem books_look (r : SamplerRun) : r.Books r.look false := by
  rw [look]
  split
  · exact .kept rfl rfl
  split
  · exact .kept rfl rfl
  split
  · exact .kept rfl rfl
  split
  · exact .kept rfl rfl
  · exact .kept rfl rfl

/-- The end of the loop closes one if the thread gets hold of the ledger and the tick succeeds. -/
theorem Sound.books_work (h : r.Sound interval) (hat : r.IsAt .woken) :
    r.Books r.work (r.closesIn .work) := by
  rw [closesIn, ticksIn, failureIn, decide_eq_true hat, Bool.true_and, work]
  cases hdue : r.session.isDue with
  | false => exact .kept rfl rfl
  | true =>
    cases hfree : r.session.isFree with
    | false => exact .kept rfl rfl
    | true =>
      obtain ⟨job, hjobs, -⟩ := h.condition.job_of_alive (.inl hat.1)
      obtain ⟨jobs, thread, -, hafter⟩ := r.session.tick.reschedule_cases job
      rw [runDue_of_isDue hjobs hdue, hafter]
      exact books_tick h.grown rfl rfl rfl rfl

/-- So does a tick that had to wait for the ledger. -/
theorem Sound.books_sample (h : r.Sound interval)
    (hthread : r.session.sampler.thread = .sampling) :
    r.Books { r with session := r.session.move } (r.closesIn .sample) := by
  have hcloses : r.closesIn .sample = (r.session.readers == 0) := by
    rw [closesIn, ticksIn, hthread]
    exact Bool.and_true _
  rw [hcloses, move, hthread]
  by_cases hreaders : r.session.readers = 0
  · obtain ⟨job, hjobs, -⟩ := h.condition.job_of_alive (.inr hthread)
    obtain ⟨jobs, thread, -, hafter⟩ :=
      ({ r.session with failure := none } : SamplerSession).tick.reschedule_cases job
    dsimp only
    rw [leaveSampling_of_readers hjobs hreaders, hafter, hreaders]
    exact books_tick (t := { r.session with failure := none }) h.grown rfl rfl rfl rfl
  · rw [leaveSampling, if_neg hreaders, beq_false_of_ne hreaders]
    exact .kept rfl rfl

/-- **What an event does to the books.** Whether it closes an interval says `SamplerRun.closesIn`,
before the event. -/
theorem Sound.books (h : r.Sound interval) (e : SamplerEvent) :
    r.Books (r.perform e) (r.closesIn e) := by
  cases e with
  | start =>
    obtain hsame | ⟨-, jobs, log, hbegin⟩ := r.session.begin_cases
    · rw [SamplerRun.perform, hsame]
      exact .kept rfl rfl
    · rw [SamplerRun.perform, hbegin]
      exact .kept rfl rfl
  | merge item =>
    obtain hnothing | ⟨f, hleft⟩ := r.session.ledger.mergeAny_cases item
    · exact .kept hnothing rfl
    · exact .merged f hleft rfl
  | tick => exact books_tick h.grown rfl rfl rfl rfl
  | advance elapsed =>
    rw [SamplerRun.perform]
    split <;> exact .kept rfl rfl
  -- none of these has anything to do with the ledger
  | requestStop | giveUp | recordStop | breakSampling | fixSampling | hold | release =>
    exact .kept rfl rfl
  | look =>
    rw [SamplerRun.perform]
    split
    · exact r.books_look
    · exact .kept rfl rfl
  | wake | expire =>
    rw [SamplerRun.perform]
    split <;> exact .kept rfl rfl
  | work =>
    -- a step that the thread is not about to take does nothing, and closes nothing
    by_cases hat : r.IsAt .woken
    · rw [SamplerRun.perform, if_pos hat]
      exact h.books_work hat
    · rw [SamplerRun.perform, if_neg hat, closesIn, ticksIn, decide_eq_false hat]
      exact .kept rfl rfl
  | sample =>
    by_cases hthread : r.session.sampler.thread = .sampling
    · rw [SamplerRun.perform, if_pos hthread]
      exact h.books_sample hthread
    · rw [SamplerRun.perform, if_neg hthread, closesIn, ticksIn, beq_false_of_ne hthread]
      exact .kept rfl rfl

/-! ## Runs -/

/-- The ticks that succeeded have answered the given deltas: there are as many of them as intervals,
and they have brought all that is booked. What is booked is `Ledger.booked`, quantity by
quantity. -/
structure Accounted (r : SamplerRun) (deltas : List (PerQuantity Int)) : Prop where
  /-- Each tick that was counted has answered a delta, -/
  ticks : r.session.sampler.ticks = deltas.length
  /-- and has closed an interval. -/
  intervals : r.session.ledger.intervals = deltas.length
  /-- What the deltas say is all that the intervals have brought. -/
  booked : ∀ q, (deltas.map (·.get q)).sum = r.session.ledger.booked q

/-- What an event adds to the deltas: the traffic of the interval that it closes. -/
def deltasIn (r : SamplerRun) (e : SamplerEvent) : List (PerQuantity Int) :=
  if r.closesIn e then [r.session.ledger.openTraffic] else []

namespace Accounted

variable {deltas : List (PerQuantity Int)}

/-- **One event.** What it merges goes to the open interval, and what it closes goes to the deltas
(`SamplerRun.deltasIn`). -/
theorem perform (h : r.Accounted deltas) (hsound : r.Sound interval) (e : SamplerEvent) :
    (r.perform e).Accounted (deltas ++ r.deltasIn e) := by
  have hbooks := hsound.books e
  rw [deltasIn]
  -- one case for each way in which an event may concern the books
  generalize r.closesIn e = closes at hbooks ⊢
  cases hbooks with
  | closed hledger hticks =>
    rw [if_pos rfl]
    refine ⟨?_, ?_, fun q => ?_⟩
    · rw [hticks, h.ticks, List.length_append, List.length_singleton]
    · rw [hledger, Ledger.intervals_sampled, h.intervals, List.length_append, List.length_singleton]
    · rw [hledger, Ledger.booked_sampled, List.map_append, List.sum_append, h.booked,
        List.map_singleton, List.sum_singleton, Ledger.booked, Int.sub_add_cancel]
  | merged f hledger hticks =>
    rw [if_neg Bool.false_ne_true, List.append_nil]
    refine ⟨hticks.trans h.ticks, ?_, fun q => ?_⟩
    · rw [hledger]
      exact h.intervals
    · rw [hledger, Ledger.booked_leave, h.booked]
  | kept hledger hticks =>
    rw [if_neg Bool.false_ne_true, List.append_nil]
    exact ⟨hticks.trans h.ticks, hledger ▸ h.intervals, hledger ▸ h.booked⟩

/-- **Every run is accounted for**: its ticks that succeed answer deltas, and these are all that is
added to the books. -/
theorem performAll (h : r.Accounted deltas) (hsound : r.Sound interval)
    (events : List SamplerEvent) :
    ∃ more, r.answers events = more.map .ok ∧ (r.performAll events).Accounted (deltas ++ more) := by
  -- By induction on the events. Each of them is told apart by `Sound.books` only.
  induction events generalizing r deltas with
  | nil => exact ⟨[], rfl, by rwa [List.append_nil]⟩
  | cons e events ih =>
    obtain ⟨more, hanswers, hmore⟩ := ih (h.perform hsound e) (hsound.perform e)
    refine ⟨r.deltasIn e ++ more, ?_, by rwa [← List.append_assoc]⟩
    rw [answers, hanswers, List.map_append, Ledger.answer_of_grown hsound.grown, deltasIn]
    cases r.closesIn e <;> rfl

end Accounted

omit [Depths] [Scheduler] in
/-- A new sampler has not ticked yet, and nothing has been booked. -/
theorem accounted_fresh {s : SamplerSession} (hmake : make interval = .ok s) :
    (fresh s).Accounted [] := by
  obtain ⟨sampler, hsampler, hs⟩ := bind_eq_ok.mp hmake
  cases hs
  obtain rfl := Sampler.eq_of_make hsampler
  exact ⟨rfl, rfl, fun q => by cases q <;> rfl⟩

/-! ## Ticks that fail -/

/-- The same run, but sampling succeeds now, and without a wait for the ledger. -/
def mended (r : SamplerRun) : SamplerRun :=
  { r with session := { r.session with failure := none, readers := 0 } }

/-- What is left of an event whose tick has failed: nothing but a record in the log is new, and the
thread and its job are where they would be if the tick had succeeded. The other tick is that of
`SamplerRun.mended`. -/
structure Failed (r : SamplerRun) (e : SamplerEvent) (message : AnyText) : Prop where
  /-- The interval stays open. -/
  ledger : (r.perform e).session.ledger = r.session.ledger
  /-- The tick is not counted. -/
  ticks : (r.perform e).session.sampler.ticks = r.session.sampler.ticks
  /-- Why it has failed is recorded. -/
  log : (r.perform e).session.log = r.session.log ++ [failureRecord message]
  /-- No job is lost. -/
  jobs : (r.perform e).session.sampler.jobs.length = r.session.sampler.jobs.length
  /-- The thread is as far as if nothing had happened. -/
  goesOn : (r.perform e).stage = (r.mended.perform e).stage ∧
    ∃ ticks, (r.mended.perform e).session.sampler = { (r.perform e).session.sampler with ticks }
  /-- The thread does not end, unless the job cannot be scheduled again. -/
  alive :
    (∀ job ∈ r.session.sampler.jobs, ∃ next, Scheduler.rescheduled r.session.now job = .ok next) →
    (r.perform e).session.sampler.thread = r.session.sampler.thread

omit [Depths] in
/-- Where a job is scheduled again does not depend on what else a tick has done. -/
theorem sampler_reschedule {t t' : SamplerSession} (hnow : t'.now = t.now) {ticks : Nat}
    (hsampler : t'.sampler = { t.sampler with ticks }) (job : Job) :
    (t'.reschedule job).sampler = { (t.reschedule job).sampler with ticks } := by
  rw [reschedule, reschedule, hnow]
  cases Scheduler.rescheduled t.now job with
  | ok next =>
    dsimp only [continueWith]
    rw [hsampler]
  | error cause =>
    dsimp only [continueWith]
    rw [hsampler]
    rfl

/-- **A tick that fails** is recorded, and changes nothing that another tick would leave alone. -/
theorem Sound.failed (h : r.Sound interval) {message : AnyText} (hticks : r.ticksIn e = true)
    (hfailure : r.failureIn e = some message) : r.Failed e message := by
  obtain ⟨hnow, -, -, ticks, hmended⟩ := r.mended.session.tick_frame
  cases e with
  | tick =>
    have hevent : r.perform .tick = { r with session := r.session.record _ } :=
      congrArg (SamplerRun.mk · r.stage) (tick_of_failure hfailure)
    constructor <;> rw [hevent]
    case goesOn => exact ⟨rfl, ticks, hmended⟩
    case alive => exact fun _ => rfl
    all_goals rfl
  | work =>
    rw [ticksIn, Bool.and_eq_true, Bool.and_eq_true, decide_eq_true_iff] at hticks
    obtain ⟨⟨hat, hdue⟩, hfree⟩ := hticks
    obtain ⟨job, hjobs, -⟩ := h.condition.job_of_alive (.inl hat.1)
    have hevent : r.perform .work = ⟨(r.session.record (failureRecord message)).reschedule job,
        .top⟩ := by
      rw [SamplerRun.perform, if_pos hat, work_of_isDue hdue, if_pos hfree,
        runDue_of_isDue hjobs hdue, tick_of_failure hfailure]
    -- without the failure the same job would have run, and been scheduled again in the same way
    have hother : r.mended.perform .work = ⟨r.mended.session.tick.reschedule job, .top⟩ := by
      have hat' : r.mended.IsAt .woken := hat
      have hdue' : r.mended.session.isDue = true := hdue
      have hfree' : r.mended.session.isFree = true := rfl
      rw [SamplerRun.perform, if_pos hat', work_of_isDue hdue', if_pos hfree',
        runDue_of_isDue (s := r.mended.session) hjobs hdue']
    constructor <;> rw [hevent]
    case goesOn =>
      rw [hother]
      exact ⟨rfl, ticks, sampler_reschedule (t := r.session.record _) hnow hmended job⟩
    case alive =>
      intro hnext
      obtain ⟨next, hnext⟩ := hnext job (hjobs ▸ List.mem_singleton_self job)
      have hnext' :
          Scheduler.rescheduled (r.session.record (failureRecord message)).now job = .ok next :=
        hnext
      rw [reschedule, hnext', hat.1]
      rfl
    case jobs =>
      rw [reschedule, hjobs]
      split <;> rfl
    all_goals
      obtain ⟨jobs, thread, -, hafter⟩ :=
        (r.session.record (failureRecord message)).reschedule_cases job
      rw [hafter]
      rfl
  | _ => cases hfailure

/-! ## The account -/

omit [Depths] [Scheduler] in
/-- While no tick succeeds the open interval grows by what the totals grow by. -/
theorem Accounted.openTraffic_grows {deltas : List (PerQuantity Int)} {r' : SamplerRun}
    (h : r.Accounted deltas) (h' : r'.Accounted deltas) (q : Quantity) :
    r'.session.ledger.openTraffic.get q = r.session.ledger.openTraffic.get q +
      (r'.session.ledger.totals.total q - r.session.ledger.totals.total q) := by
  have hbooked : r'.session.ledger.booked q = r.session.ledger.booked q :=
    (h'.booked q).symm.trans (h.booked q)
  rw [Ledger.booked, Ledger.booked] at hbooked
  omega

/-- **Ticks are accounted for even if some of them fail**, in every order of the events and of the
steps of the thread.

The ticks are the intervals. A tick that fails changes neither the ledger nor the count, and the
thread and its job go on as if it had succeeded. The ticks that succeed answer deltas, which add up
to the totals with what the next one would answer; and as long as none succeeds, that grows by all
that is merged. The operations of a session are special cases. The invariant is
`SamplerRun.Accounted`, beside `SamplerRun.Sound`. -/
theorem ticks_accounted {s : SamplerSession} (hmake : make interval = .ok s)
    (events : List SamplerEvent) (hrun : (fresh s).performAll events = r) :
    r.session.sampler.ticks = r.session.ledger.intervals ∧
    (∀ now shown, r.session.ledger.snapshot now = .ok shown →
      shown.intervals = r.session.sampler.ticks) ∧
    (∀ e message, r.ticksIn e = true → r.failureIn e = some message → r.Failed e message) ∧
    (∃ (deltas : List (PerQuantity Int)) (next : PerQuantity Int),
      (fresh s).answers events = deltas.map .ok ∧ deltas.length = r.session.sampler.ticks ∧
      r.session.ledger.sample.1 = .ok next ∧
      (∀ q, (deltas.map (·.get q)).sum + next.get q = r.session.ledger.totals.total q) ∧
      ∀ more, r.answers more = [] → ∃ delta,
        (r.performAll more).session.ledger.sample.1 = .ok delta ∧
        ∀ q, delta.get q = next.get q +
          ((r.performAll more).session.ledger.totals.total q -
            r.session.ledger.totals.total q)) ∧
    (r.stage ≠ .woken → ∀ operations : List SamplerOperation, (∀ op ∈ operations, op.Forward) →
      r.Leads (r.session.operateAll operations) (operations.countP SamplerOperation.isTick)) := by
  obtain ⟨deltas, hanswers, haccounted⟩ :=
    (accounted_fresh hmake).performAll (sound_fresh hmake).1 events
  have hsound : r.Sound interval := hrun ▸ (sound_fresh hmake).1.performAll events
  rw [hrun, List.nil_append] at haccounted
  have hcounts := haccounted.ticks.trans haccounted.intervals.symm
  refine ⟨hcounts, ?_, fun e message => hsound.failed, ⟨deltas, r.session.ledger.openTraffic,
    hanswers, haccounted.ticks.symm, Ledger.answer_of_grown hsound.grown, fun q => ?_, ?_⟩,
    fun h _ => leads_operateAll h⟩
  · intro now shown hshown
    obtain ⟨requests, -, hshown⟩ := bind_eq_ok.mp hshown
    obtain ⟨successes, -, hshown⟩ := bind_eq_ok.mp hshown
    cases hshown
    exact congrArg _ hcounts.symm
  · rw [haccounted.booked, Ledger.booked, Int.sub_add_cancel]
  · intro more hmore
    -- the same sampler later, where no other tick has succeeded
    obtain ⟨others, hothers, haccounted'⟩ := haccounted.performAll hsound more
    rw [hmore] at hothers
    obtain rfl : others = [] := List.map_eq_nil_iff.mp hothers.symm
    rw [List.append_nil] at haccounted'
    exact ⟨_, Ledger.answer_of_grown (hsound.performAll more).grown,
      haccounted.openTraffic_grows haccounted'⟩

end

/-- A run in which a scheduled tick fails between two merges, the second of which fails half-way:
a text is no status code. -/
def failedTick : List SamplerEvent :=
  [.start, .look, .merge (.inl ⟨.get, .success⟩), .breakSampling "disk",
    .advance 1000000, .expire, .work, .fixSampling,
    .merge (.inl ⟨.put, .httpError (.text "503") (.text "down")⟩)]

open Machine

/-- The tick was not counted, and the next one answers the traffic of both merges. -/
theorem ticks_accounted_failedTick :
    ∃ s, make (.int 1) = .ok s ∧
      ((fresh s).performAll failedTick).session.ledger.intervals = 0 ∧
      ((fresh s).performAll (failedTick ++ [.tick])).session.ledger.intervals = 1 ∧
      ((fresh s).performAll (failedTick.take 6)).Failed .work "disk" ∧
      ∃ next, ((fresh s).performAll failedTick).session.ledger.sample.1 = .ok next ∧
        next.requests = 2 := by
  obtain ⟨s, hmake, hticks, hticks', hwork, hfailure, hanswers, htotal⟩ :
      ∃ s, make (.int 1) = .ok s ∧
        ((fresh s).performAll failedTick).session.sampler.ticks = 0 ∧
        ((fresh s).performAll (failedTick ++ [.tick])).session.sampler.ticks = 1 ∧
        ((fresh s).performAll (failedTick.take 6)).ticksIn .work = true ∧
        ((fresh s).performAll (failedTick.take 6)).failureIn .work = some "disk" ∧
        ((fresh s).answers failedTick).length = 0 ∧
        ((fresh s).performAll failedTick).session.ledger.totals.total .requests = 2 :=
    ⟨_, rfl, by decide +kernel⟩
  obtain ⟨hintervals, -, -, ⟨deltas, next, hdeltas, -, hnext, hsum, -⟩, -⟩ :=
    ticks_accounted hmake failedTick rfl
  obtain ⟨hintervals', -⟩ := ticks_accounted hmake (failedTick ++ [.tick]) rfl
  obtain ⟨-, -, hfailed, -⟩ := ticks_accounted hmake (failedTick.take 6) rfl
  refine ⟨s, hmake, hintervals.symm.trans hticks, hintervals'.symm.trans hticks',
    hfailed _ _ hwork hfailure, next, hnext, ?_⟩
  -- nothing was answered so far, so that all traffic is in the open interval
  have hnone : deltas = [] := by
    rw [hdeltas, List.length_map] at hanswers
    exact List.eq_nil_of_length_eq_zero hanswers
  have hrequests := hsum .requests
  rw [hnone, htotal] at hrequests
  exact (Int.zero_add _).symm.trans hrequests

end SamplerRun

end LoadLedger
