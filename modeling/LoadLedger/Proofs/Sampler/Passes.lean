import LoadLedger.Machine
import LoadLedger.Proofs.Ledger.Runs
import LoadLedger.Proofs.Ledger.Transactions
import LoadLedger.Proofs.Outcome.Records
import LoadLedger.Proofs.Sampler.Service
import LoadLedger.Sampler.Script
import Mathlib.Algebra.Order.BigOperators.Group.List
import Mathlib.Algebra.Order.Ring.Int

/-!
# Passes of the sampler's thread

The thread goes round a loop: it looks for a request to stop, waits for its job and runs it if it is
due. While it waits others go on: they merge outcomes, the clock moves, the jobs may be cleared and
a stop requested (`Interlude`). `SamplerSession.Loop` says what the thread makes of a list of such
interludes. What keeps it from running a job twice, or without a wait before it, is that at the top
of the loop its one job lies ahead, by a period at most (`SamplerSession.Prepared`), and a job that
has run lies ahead again (`SamplerSession.Prepared.resumes`).

**Interludes and scripts.** The loop itself is a function of anything that stands in for the waits
(`SamplerSession.follow`), and an interlude is one such thing, an entry of a script another one
(`ScriptedWait.ComesTo`). `SamplerSession.StandsFor` is what is asked of them, so that the loop need
be followed only once (`Prepared.exists_loop`).
-/

namespace LoadLedger

/-! ## Calls on a ledger -/

namespace Ledger

variable [Depths]

/-- The ledger after some calls. -/
def after (l : Ledger) (actions : List LedgerAction) : Ledger :=
  actions.foldl (fun l a => (l.perform a).2) l

theorem after_append (l : Ledger) (actions more : List LedgerAction) :
    l.after (actions ++ more) = (l.after actions).after more :=
  List.foldl_append

omit [Depths] in
/-- A merge adds to the totals and leaves the values at the last sample alone. -/
theorem Grown.leave {l : Ledger} (h : l.Grown) (f : Footprint) : (l.leave f).Grown := by
  intro q
  have hq := h q
  change l.lastTotals.total q ≤ (l.totals + f.counts).total q
  rw [Counters.total_add]
  omega

omit [Depths] in
theorem Grown.sampled (l : Ledger) : l.sampled.Grown :=
  fun q => Nat.le_refl (l.totals.total q)

/-- No call makes a total fall below its value at the last sample. -/
theorem Grown.perform {l : Ledger} (h : l.Grown) (a : LedgerAction) : (l.perform a).2.Grown := by
  cases a with
  | merge item =>
    cases item with
    | inl o =>
      rw [Ledger.perform, mergeAny, merge_eq_leave]
      exact h.leave _
    | inr v => exact h
  | sample =>
    rw [Ledger.perform, sample_of_grown h]
    exact .sampled l
  | snapshot | windowHistory | recentErrors => exact h

theorem Grown.after {l : Ledger} (h : l.Grown) (actions : List LedgerAction) :
    (l.after actions).Grown := by
  induction actions generalizing l with
  | nil => exact h
  | cons a actions ih => exact ih (h.perform a)

/-- Records of outcomes that can be merged are merged in turn. -/
theorem mergeRecords_of_mergeable {records : List Value} {outcomes : List Outcome}
    (hread : List.Forall₂ (fun v o => Outcome.ofRecord v = .ok o) records outcomes)
    (hmergeable : ∀ o ∈ outcomes, o.Mergeable) (l : Ledger) :
    l.mergeRecords records = (.ok (), l.after (outcomes.map fun o => .merge (.inl o))) := by
  induction hread generalizing l with
  | nil => rfl
  | @cons v o records outcomes hv _ ih =>
    obtain ⟨ho, hrest⟩ := List.forall_mem_cons.mp hmergeable
    obtain ⟨_, _, -, -, hfootprint⟩ := Outcome.footprint_of_mergeable ho
    have hmerge : l.merge o = (.ok (), (l.perform (.merge (.inl o))).2) := by
      rw [Ledger.perform, mergeAny, merge_eq_leave, hfootprint]
      rfl
    rw [mergeRecords, hv]
    dsimp only
    rw [hmerge]
    exact ih hrest _

end Ledger

/-! ## Interludes -/

/-- What happens to a sampler while its thread waits. -/
structure Interlude where
  /-- The outcomes that are merged; some of them may fail to. -/
  outcomes : List Outcome
  /-- By how much the clock moves; by the time asked for if nothing else is said. -/
  elapsed : Option Nat
  clear : Bool
  stop : Bool
  /-- Does the wait end since the thread is asked to stop? -/
  wake : Bool

namespace Interlude

/-- By how much the clock moves during a wait of a given length. -/
def timePassed (i : Interlude) (timeout : Int) : Int :=
  match i.elapsed with
  | some n => n
  | none => timeout

/-- The merges of an interlude. -/
def merges (i : Interlude) : List LedgerAction :=
  i.outcomes.map fun o => .merge (.inl o)

theorem timePassed_nonneg (i : Interlude) {timeout : Int} (h : 0 ≤ timeout) :
    0 ≤ i.timePassed timeout := by
  rw [timePassed]
  split <;> omega

theorem timePassed_mono (i : Interlude) {timeout longer : Int} (h : timeout ≤ longer) :
    i.timePassed timeout ≤ i.timePassed longer := by
  rw [timePassed, timePassed]
  split <;> omega

theorem sum_timePassed_nonneg (script : List Interlude) {timeout : Int} (h : 0 ≤ timeout) :
    0 ≤ (script.map (·.timePassed timeout)).sum := by
  refine List.sum_nonneg fun n hn => ?_
  obtain ⟨i, -, rfl⟩ := List.mem_map.mp hn
  exact i.timePassed_nonneg h

end Interlude

namespace SamplerSession

variable [Depths] [Scheduler]

/-- The session after an interlude. -/
def meanwhile (s : SamplerSession) (timeout : Int) (i : Interlude) : SamplerSession :=
  { s with
    ledger := s.ledger.after i.merges
    now := s.now + i.timePassed timeout
    sampler := { s.sampler with
      jobs := if i.clear then [] else s.sampler.jobs
      stopRequested := s.sampler.stopRequested || i.stop } }

/-- The loop of the thread, with interludes for its waits. -/
def followInterludes (script : List Interlude) (s : SamplerSession) :
    List WaitTrace × SamplerSession :=
  follow (fun s timeout i => (.ok (), s.meanwhile timeout i)) Interlude.wake script s

/-! ## The loop as it is meant to be -/

/-- The session after a tick: the interval is closed and counted, and the next run lies a period
after the present. -/
def ticked (s : SamplerSession) (period : Int) : SamplerSession :=
  { s with
    ledger := s.ledger.after [.sample]
    sampler := { s.sampler with
      jobs := [⟨period, s.now + period⟩]
      ticks := s.sampler.ticks + 1 } }

/-- What the thread does after a wait for the next run of its job, and the calls on the ledger that
come with it. There are three cases: the job was due, it was early, or it has been cleared. -/
inductive Resumes (period next : Int) (s : SamplerSession) :
    List LedgerAction → SamplerSession → Prop
  /-- The job is due, and it runs once, however late it is. -/
  | due (hjobs : s.sampler.jobs = [⟨period, next⟩]) (hdue : next ≤ s.now) :
    Resumes period next s [.sample] (s.ticked period)
  /-- The wait was too short. -/
  | early (hjobs : s.sampler.jobs = [⟨period, next⟩]) (hearly : s.now < next) :
    Resumes period next s [] s
  /-- The job is gone. -/
  | jobless (hjobs : s.sampler.jobs = []) : Resumes period next s [] s

/-- A wait of the thread: the session at its beginning, and how long it is meant to be. -/
structure Wait where
  /-- The session at the beginning of the wait. -/
  session : SamplerSession
  /-- How long the thread means to wait. -/
  timeout : Int

/-- The trace of a wait. -/
def Wait.trace (w : Wait) : WaitTrace :=
  w.session.traceOf w.timeout

/-- The thread waits until the next run of its one job. The wait is longer than nothing and not
longer than a period. -/
structure Awaits (period next : Int) (s : SamplerSession) : Prop where
  stopRequested : s.sampler.stopRequested = false
  /-- Its one job is the given one, -/
  jobs : s.sampler.jobs = [⟨period, next⟩]
  /-- which is not due yet -/
  ahead : s.now < next
  /-- and not further away than a period. -/
  near : next ≤ s.now + period

/-- The loop of the thread with a list of interludes for its waits: the waits, the calls on the
ledger, and the session at the end. It says what the loop does without saying how it is computed;
`exists_loop` says that it is computed so. -/
inductive Loop (period : Int) :
    SamplerSession → List Interlude → List Wait → List LedgerAction → SamplerSession → Prop
  /-- The thread is asked to stop. -/
  | asked {s : SamplerSession} {script : List Interlude}
    (hstop : s.sampler.stopRequested = true) : Loop period s script [] [] s.finish
  /-- There is no job left. -/
  | jobless {s : SamplerSession} {script : List Interlude}
    (hgo : s.sampler.stopRequested = false) (hjobs : s.sampler.jobs = []) :
    Loop period s script [] [] s.finish
  /-- The script is at its end, and so the wait ends the loop. -/
  | lastWait {s : SamplerSession} {next : Int} (hwait : s.Awaits period next) :
    Loop period s [] [⟨s, next - s.now⟩] [] s.finish
  /-- The wait ends since the thread is asked to stop. -/
  | woken {s : SamplerSession} {next : Int} {i : Interlude} {script : List Interlude}
    (hwait : s.Awaits period next) (hwake : i.wake = true) :
    Loop period s (i :: script) [⟨s, next - s.now⟩] i.merges (s.meanwhile (next - s.now) i).finish
  /-- The wait ends, the job runs if it is due, and the loop goes on. -/
  | pass {s s' final : SamplerSession} {next : Int} {i : Interlude} {script : List Interlude}
    {waits : List Wait} {run actions : List LedgerAction}
    (hwait : s.Awaits period next) (hwake : i.wake = false)
    (hresumes : (s.meanwhile (next - s.now) i).Resumes period next run s')
    (hrest : Loop period s' script waits actions final) :
    Loop period s (i :: script) (⟨s, next - s.now⟩ :: waits) (i.merges ++ run ++ actions) final

namespace Loop

variable {period : Int} {s final : SamplerSession} {script : List Interlude} {waits : List Wait}
  {actions : List LedgerAction}

omit [Scheduler] in
/-- The thread ends in order. -/
theorem finished (h : Loop period s script waits actions final) :
    final.sampler.thread = .ended ∧ final.sampler.jobs = [] := by
  induction h with
  | pass _ _ _ _ ih => exact ih
  | _ => exact ⟨rfl, rfl⟩

omit [Scheduler] in
/-- Every wait lasts until the next run of the job, which is a period away at most. -/
theorem awaits (h : Loop period s script waits actions final) :
    ∀ w ∈ waits, ∃ next, w.session.Awaits period next ∧ w.timeout = next - w.session.now := by
  induction h with
  | asked | jobless => exact List.forall_mem_nil _
  | lastWait hwait | woken hwait _ => exact List.forall_mem_singleton.mpr ⟨_, hwait, rfl⟩
  | pass hwait _ _ _ ih => exact List.forall_mem_cons.mpr ⟨⟨_, hwait, rfl⟩, ih⟩

omit [Scheduler] in
/-- The ledger at the end is that of the calls. -/
theorem ledger (h : Loop period s script waits actions final) :
    final.ledger = s.ledger.after actions := by
  induction h with
  | pass _ _ hresumes _ ih =>
    rw [Ledger.after_append, Ledger.after_append, ih]
    cases hresumes <;> rfl
  | _ => rfl

omit [Scheduler] in
/-- Each tick is a sample, and there are no others. -/
theorem ticks (h : Loop period s script waits actions final) :
    final.sampler.ticks = s.sampler.ticks + actions.countP LedgerAction.isSample := by
  have hmerges : ∀ i : Interlude, i.merges.countP LedgerAction.isSample = 0 := by
    intro i
    rw [Interlude.merges, List.countP_map, List.countP_eq_zero]
    exact fun _ _ => Bool.false_ne_true
  induction h with
  | asked | jobless | lastWait => rfl
  | woken => rw [hmerges]; rfl
  | pass _ _ hresumes _ ih =>
    rw [List.countP_append, List.countP_append, hmerges, ih]
    cases hresumes with
    | due => exact Nat.add_assoc ..
    | early | jobless => exact congrArg _ (Nat.zero_add _).symm

omit [Scheduler] in
/-- The outcomes of all interludes that have come are merged, in order. -/
theorem outcomes (h : Loop period s script waits actions final) :
    actions.filterMap LedgerAction.outcome? =
      (script.take waits.length).flatMap Interlude.outcomes := by
  have hmerges : ∀ i : Interlude, i.merges.filterMap LedgerAction.outcome? = i.outcomes := by
    intro i
    rw [Interlude.merges, List.filterMap_map]
    exact List.filterMap_some
  induction h with
  | asked | jobless | lastWait => rfl
  | woken => exact (hmerges _).trans (List.append_nil _).symm
  | pass _ _ hresumes _ ih =>
    rw [List.filterMap_append, List.filterMap_append, hmerges, ih]
    cases hresumes <;> exact congrArg (· ++ _) (List.append_nil _)

end Loop

/-! ## What keeps the loop going -/

/-- The thread is at the top of the loop: it has one job, which lies ahead by a period at most, or
none any more. -/
structure Prepared (period : Int) (s : SamplerSession) : Prop where
  thread : s.sampler.thread = .waiting
  /-- Nobody makes sampling fail, -/
  failure : s.failure = none
  /-- and it does not fail by itself. -/
  grown : s.ledger.Grown
  clock : 0 ≤ s.now
  /-- The job lies ahead, unless somebody has cleared it. -/
  jobs : s.sampler.jobs = [] ∨
    ∃ next, s.sampler.jobs = [⟨period, next⟩] ∧ s.now < next ∧ next ≤ s.now + period

omit [Scheduler] in
/-- A tick counts if sampling has not been made to fail and no total has fallen. -/
theorem tick_of_grown {s : SamplerSession} (hfailure : s.failure = none) (hgrown : s.ledger.Grown) :
    s.tick =
      { s with
        ledger := s.ledger.after [.sample]
        sampler := { s.sampler with ticks := s.sampler.ticks + 1 } } := by
  have hsampled : s.ledger.after [.sample] = s.ledger.sampled :=
    congrArg Prod.snd (Ledger.sample_of_grown hgrown)
  have hsample : s.sample = (.ok (), { s with ledger := s.ledger.sampled }) := by
    rw [sample, hfailure]
    dsimp only
    rw [Ledger.sample_of_grown hgrown]
    rfl
  rw [tick, hsample, hsampled]

/-- **A job is never run twice, and runs again a period later.** -/
theorem resumes_runDue {s : SamplerSession} {period next : Int}
    (hthread : s.sampler.thread = .waiting) (hfailure : s.failure = none)
    (hgrown : s.ledger.Grown) (hpos : 0 < period) (hclock : 0 ≤ s.now)
    (hcalendar : s.now + period ≤ Micros.lastMoment)
    (hjobs : s.sampler.jobs = [] ∨ s.sampler.jobs = [⟨period, next⟩]) :
    ∃ run, s.Resumes period next run s.runDue := by
  -- where no job runs the session is the same
  have hsame : ∀ jobs, s.sampler.jobs = jobs → s.continueWith (.ok ()) jobs = s := by
    rintro jobs rfl
    rw [continueWith, ← hthread]
  obtain hjobs | hjobs := hjobs
  · have hrun : s.runDue = s := by
      rw [runDue, hjobs, Scheduler.runDue_nil]
      exact hsame [] hjobs
    rw [hrun]
    exact ⟨[], .jobless hjobs⟩
  cases hdue : Scheduler.isDue s.now ⟨period, next⟩ with
  | false =>
    have hrun : s.runDue = s := by
      rw [runDue, hjobs, Scheduler.runDue_early s.now tick _ s hdue]
      exact hsame _ hjobs
    rw [hrun]
    exact ⟨[], .early hjobs (Scheduler.not_isDue_iff.mp hdue)⟩
  | true =>
    have hnext : (Job.mk period (s.now + period)).RunsAfter s.now :=
      Job.runsAfter_of_le hpos hclock hcalendar
    have hrun : s.runDue = s.ticked period := by
      have hwaiting : s.ticked period =
          { s.ticked period with sampler :=
            { (s.ticked period).sampler with thread := .waiting } } := by
        rw [← hthread]
        rfl
      rw [hwaiting, runDue, hjobs, Scheduler.runDue_of_runsAfter tick s hdue hnext,
        tick_of_grown hfailure hgrown]
      rfl
    rw [hrun]
    exact ⟨[.sample], .due hjobs (Scheduler.isDue_iff.mp hdue)⟩

namespace Prepared

variable {period : Int} {s : SamplerSession}

/-- **After a wait the thread is at the top of the loop again**, whatever has happened meanwhile. So
the pass has kept `Prepared`, whatever it was. -/
theorem resumes (h : s.Prepared period) (hpos : 0 < period) {next : Int}
    (hwait : s.Awaits period next) {i : Interlude}
    (hcalendar : s.now + i.timePassed period + period ≤ Micros.lastMoment) :
    ∃ run, (s.meanwhile (next - s.now) i).Resumes period next run
        (s.meanwhile (next - s.now) i).runDue ∧
      (s.meanwhile (next - s.now) i).runDue.Prepared period ∧
      (s.meanwhile (next - s.now) i).runDue.now ≤ s.now + i.timePassed period := by
  have hahead := hwait.ahead
  have hnear := hwait.near
  have hclock := h.clock
  have hpassed := i.timePassed_nonneg (show 0 ≤ next - s.now by omega)
  have hmono := i.timePassed_mono (show next - s.now ≤ period by omega)
  generalize hs' : s.meanwhile (next - s.now) i = s'
  have hnow : s'.now = s.now + i.timePassed (next - s.now) := by rw [← hs']; rfl
  have hthread : s'.sampler.thread = .waiting := by rw [← hs']; exact h.thread
  have hfailure : s'.failure = none := by rw [← hs']; exact h.failure
  have hgrown : s'.ledger.Grown := by rw [← hs']; exact h.grown.after _
  -- somebody may have cleared the jobs meanwhile
  have hjobs : s'.sampler.jobs = [] ∨ s'.sampler.jobs = [⟨period, next⟩] := by
    rw [← hs', ← hwait.jobs]
    change (if i.clear = true then [] else _) = [] ∨ (if i.clear = true then [] else _) = _
    cases i.clear
    · exact .inr rfl
    · exact .inl rfl
  obtain ⟨run, hresumes⟩ := resumes_runDue hthread hfailure hgrown hpos (by omega) (by omega) hjobs
  refine ⟨run, hresumes, ?_, ?_⟩
  · generalize s'.runDue = s'' at hresumes ⊢
    cases hresumes with
    | due =>
      refine ⟨hthread, hfailure, hgrown.after _, ?_, .inr ⟨_, rfl, ?_, ?_⟩⟩
      -- the job has run, and is scheduled a period after the clock
      · change 0 ≤ s'.now
        omega
      · change s'.now < s'.now + period
        omega
      · exact Int.le_refl _
    | early hjobs hearly =>
      exact ⟨hthread, hfailure, hgrown, by omega, .inr ⟨next, hjobs, hearly, by omega⟩⟩
    | jobless hjobs => exact ⟨hthread, hfailure, hgrown, by omega, .inl hjobs⟩
  · generalize s'.runDue = s'' at hresumes ⊢
    cases hresumes with
    | due =>
      change s'.now ≤ _
      omega
    | early | jobless => omega

end Prepared

/-! ## What the loop does -/

/-- Does something that stands in for the waits of the thread come to an interlude, if the wait is
not longer than a period and stays inside the calendar? -/
structure StandsFor {ω : Type}
    (during : SamplerSession → Int → ω → Except Fault Unit × SamplerSession) (wakes : ω → Bool)
    (period : Int) (w : ω) (i : Interlude) : Prop where
  /-- It wakes the thread if the interlude does, -/
  wakes : wakes w = i.wake
  /-- and leaves the session that the interlude leaves. -/
  during : ∀ s timeout, 0 < timeout → timeout ≤ period → 0 ≤ s.now →
    s.now + i.timePassed period + period ≤ Micros.lastMoment →
    during s timeout w = (.ok (), s.meanwhile timeout i)

/-- Does the loop come to an answer, whatever stands in for its waits? -/
def Follows (period : Int) (s : SamplerSession) (script : List Interlude)
    (answer : List WaitTrace × SamplerSession) : Prop :=
  ∀ {ω : Type} {during : SamplerSession → Int → ω → Except Fault Unit × SamplerSession}
    {wakes : ω → Bool} {ws : List ω} {fuel : Nat},
    List.Forall₂ (StandsFor during wakes period) ws script → script.length < fuel →
    followFor during wakes fuel ws s = answer

section Pass

variable {ω : Type} {during : SamplerSession → Int → ω → Except Fault Unit × SamplerSession}
  {wakes : ω → Bool} {ws : List ω} {fuel : Nat} {s : SamplerSession}

omit [Depths] in
/-- The thread ends at the top of the loop if it is asked to stop. -/
theorem followFor_of_asked (hthread : s.sampler.thread = .waiting)
    (hstop : s.sampler.stopRequested = true) :
    followFor during wakes (fuel + 1) ws s = ([], s.finish) := by
  rw [followFor, hthread, if_neg SamplerThread.noConfusion, if_pos hstop]

omit [Depths] in
/-- It ends there as well if there is no job. -/
theorem followFor_of_jobless (hthread : s.sampler.thread = .waiting)
    (hgo : s.sampler.stopRequested = false) (hjobs : s.sampler.jobs = []) :
    followFor during wakes (fuel + 1) ws s = ([], s.finish) := by
  rw [followFor, hthread, if_neg SamplerThread.noConfusion, hgo, if_neg Bool.false_ne_true, hjobs,
    Scheduler.idle?_nil]

omit [Depths] in
/-- Otherwise it waits until the next run of its job, and the end of the wait decides. -/
theorem followFor_of_awaits {period next : Int} (hthread : s.sampler.thread = .waiting)
    (hwait : s.Awaits period next) :
    followFor during wakes (fuel + 1) ws s =
      match ws with
      | [] => ([s.traceOf (next - s.now)], s.finish)
      | w :: ws =>
        match during s (next - s.now) w with
        | (.error _, s') => ([s.traceOf (next - s.now)], { s' with sampler := s'.sampler.die })
        | (.ok (), s') =>
          if wakes w then ([s.traceOf (next - s.now)], s'.finish)
          else (s.traceOf (next - s.now) :: (followFor during wakes fuel ws s'.runDue).1,
            (followFor during wakes fuel ws s'.runDue).2) := by
  have hahead := hwait.ahead
  have hidle : Scheduler.idle? s.now s.sampler.jobs = some (next - s.now) := by
    rw [hwait.jobs, Scheduler.idle?_singleton]
  rw [followFor, hthread, if_neg SamplerThread.noConfusion, hwait.stopRequested,
    if_neg Bool.false_ne_true, hidle]
  refine (if_neg (by omega)).trans ?_
  cases ws <;> rfl

end Pass

/-- An interlude is followed by a run of the job and by the rest of the loop. -/
theorem Awaits.follows_cons {period next : Int} {s : SamplerSession} {i : Interlude}
    {script : List Interlude} {trace : List WaitTrace} {final : SamplerSession}
    (hwait : s.Awaits period next) (hthread : s.sampler.thread = .waiting) (hclock : 0 ≤ s.now)
    (hcalendar : s.now + i.timePassed period + period ≤ Micros.lastMoment)
    (hanswer : if i.wake then (trace, final) = ([], (s.meanwhile (next - s.now) i).finish)
      else Follows period (s.meanwhile (next - s.now) i).runDue script (trace, final)) :
    Follows period s (i :: script) (s.traceOf (next - s.now) :: trace, final) := by
  have hahead := hwait.ahead
  have hnear := hwait.near
  intro ω during wakes ws fuel hws hfuel
  cases hws with
  | @cons w _ ws _ hw hws =>
    obtain ⟨fuel, rfl⟩ : ∃ n, fuel = n + 1 := ⟨fuel - 1, by omega⟩
    rw [followFor_of_awaits hthread hwait]
    dsimp only
    -- what stands in for the wait does what the interlude says
    rw [hw.during s _ (by omega) (by omega) hclock hcalendar]
    dsimp only
    rw [hw.wakes]
    cases hwake : i.wake with
    | true =>
      rw [hwake, if_pos rfl] at hanswer
      cases hanswer
      rfl
    | false =>
      rw [hwake, if_neg Bool.false_ne_true] at hanswer
      rw [if_neg Bool.false_ne_true, hanswer hws (Nat.lt_of_succ_lt_succ hfuel)]

/-- At the top of the loop the thread ends, or it waits. -/
theorem Prepared.ends_or_awaits {period : Int} {s : SamplerSession} (h : s.Prepared period) :
    (∀ script, Loop period s script [] [] s.finish ∧ Follows period s script ([], s.finish)) ∨
      ∃ next, s.Awaits period next := by
  cases hstop : s.sampler.stopRequested with
  | true =>
    refine .inl fun script => ⟨.asked hstop, ?_⟩
    intro ω during wakes ws fuel _ hfuel
    obtain ⟨fuel, rfl⟩ : ∃ n, fuel = n + 1 := ⟨fuel - 1, by omega⟩
    exact followFor_of_asked h.thread hstop
  | false =>
    obtain hjobs | ⟨next, hjobs, hahead, hnear⟩ := h.jobs
    · refine .inl fun script => ⟨.jobless hstop hjobs, ?_⟩
      intro ω during wakes ws fuel _ hfuel
      obtain ⟨fuel, rfl⟩ : ∃ n, fuel = n + 1 := ⟨fuel - 1, by omega⟩
      exact followFor_of_jobless h.thread hstop hjobs
    · exact .inr ⟨next, hstop, hjobs, hahead, hnear⟩

/-- **The thread does what it is meant to do**, whatever stands in for its waits. The induction is
on the script; the thread is at the top of the loop again after each interlude, and its clock is not
further than the interludes so far have moved it. -/
theorem Prepared.exists_loop {period : Int} (hpos : 0 < period) {script : List Interlude}
    {s : SamplerSession} (h : s.Prepared period)
    (hcalendar : s.now + (script.map (·.timePassed period)).sum + period ≤ Micros.lastMoment) :
    ∃ waits actions final, Loop period s script waits actions final ∧
      Follows period s script (waits.map Wait.trace, final) := by
  induction script generalizing s with
  | nil =>
    -- nothing is left of the script, so that the wait comes to no end but the last one
    obtain hends | ⟨next, hwait⟩ := h.ends_or_awaits
    · exact ⟨[], [], s.finish, hends []⟩
    · refine ⟨[⟨s, next - s.now⟩], [], s.finish, .lastWait hwait, ?_⟩
      intro ω during wakes ws fuel hws hfuel
      obtain ⟨fuel, rfl⟩ : ∃ n, fuel = n + 1 := ⟨fuel - 1, by omega⟩
      cases hws
      exact followFor_of_awaits h.thread hwait
  | cons i script ih =>
    obtain hends | ⟨next, hwait⟩ := h.ends_or_awaits
    · exact ⟨[], [], s.finish, hends _⟩
    have hrest := Interlude.sum_timePassed_nonneg script (show 0 ≤ period by omega)
    rw [List.map_cons, List.sum_cons] at hcalendar
    have hinside : s.now + i.timePassed period + period ≤ Micros.lastMoment := by omega
    cases hwake : i.wake with
    | true =>
      refine ⟨_, _, _, .woken hwait hwake, ?_⟩
      refine hwait.follows_cons h.thread h.clock hinside ?_
      rw [hwake, if_pos rfl]
      rfl
    | false =>
      -- the rest of the script begins at the top of the loop again
      obtain ⟨run, hresumes, hprepared, hnow⟩ := h.resumes hpos hwait hinside
      obtain ⟨waits, actions, final, hloop, hfollows⟩ := ih hprepared (by omega)
      refine ⟨_, _, final, .pass hwait hwake hresumes hloop, ?_⟩
      refine hwait.follows_cons h.thread h.clock hinside ?_
      rw [hwake, if_neg Bool.false_ne_true]
      exact hfollows

theorem follows_interludes {period : Int} {s : SamplerSession} {script : List Interlude}
    {answer : List WaitTrace × SamplerSession} (h : Follows period s script answer) :
    followInterludes script s = answer := by
  refine h (List.forall₂_same.mpr fun i _ => ⟨rfl, fun _ _ _ _ _ _ => rfl⟩) ?_
  omega

end SamplerSession

/-! ## Whole runs -/

/-- Does an entry of a script come to an interlude? Its records are those of outcomes that can be
merged, and its clock moves forward. -/
structure ScriptedWait.ComesTo [Depths] (period : Int) (w : ScriptedWait) (i : Interlude) :
    Prop where
  records : List.Forall₂ (fun v o => Outcome.ofRecord v = .ok o) w.records i.outcomes
  mergeable : ∀ o ∈ i.outcomes, o.Mergeable
  advance : ∀ timeout, 0 < timeout → timeout ≤ period →
    Micros.ofValue (w.advance.getD (.float (Micros.toSeconds timeout))) =
      .ok (i.timePassed timeout)
  clear : w.clear = i.clear
  stop : w.stop = i.stop
  wake : w.wake = i.wake

/-- What a script makes of a wait is what its interlude makes of it. -/
theorem ScriptedWait.ComesTo.standsFor [Depths] {period : Int} {w : ScriptedWait} {i : Interlude}
    (h : w.ComesTo period i) :
    SamplerSession.StandsFor SamplerSession.during ScriptedWait.wake period w i := by
  refine ⟨h.wake, fun s timeout hpos hlong hclock hcalendar => ?_⟩
  have hpassed := i.timePassed_nonneg (show 0 ≤ timeout by omega)
  have hmono := i.timePassed_mono hlong
  have hfirst : Micros.firstMoment ≤ 0 := by decide
  have hmoment : Micros.after s.now (i.timePassed timeout) = .ok (s.now + i.timePassed timeout) :=
    if_neg (by omega)
  rw [SamplerSession.during, SamplerSession.merge,
    Ledger.mergeRecords_of_mergeable h.records h.mergeable]
  dsimp only
  rw [SamplerSession.momentAfter, h.advance timeout hpos hlong, h.clear, h.stop]
  have hbind : (Except.ok (i.timePassed timeout) >>= Micros.after s.now) =
      .ok (s.now + i.timePassed timeout) := hmoment
  rw [hbind]
  rfl

namespace SamplerSession

/-- A sampler that is started when the clock is at zero is prepared. -/
theorem exists_start_of_make [Scheduler] {interval : Value} {s : SamplerSession} {period : Int}
    (hmake : make interval = .ok s) (hperiod : Micros.ofValue interval = .ok period)
    (hpos : 0 < period) (hcalendar : period ≤ Micros.lastMoment) :
    ∃ sampler, s.sampler.start s.now = .ok sampler ∧
      Prepared period { s with sampler } ∧
      s.now = 0 ∧ s.ledger = .start 0.0 ∧ sampler.ticks = 0 := by
  obtain ⟨sampler, hsampler, hs⟩ := bind_eq_ok.mp hmake
  cases hs
  obtain rfl := Sampler.eq_of_make hsampler
  have hnext := Job.runsAfter_of_le hpos (Int.le_refl 0) (by omega)
  rw [Int.zero_add] at hnext
  have hjob : Scheduler.every 0 interval = .ok ⟨period, period⟩ :=
    (Scheduler.every_eq_ok_iff ..).mpr ⟨hperiod, hnext⟩
  refine ⟨_, bind_eq_ok.mpr ⟨_, hjob, rfl⟩, ⟨rfl, rfl, ?_, Int.le_refl 0, ?_⟩, rfl, rfl, rfl⟩
  · exact fun q => Nat.le_refl _
  · exact .inr ⟨period, rfl, hpos, by rw [Int.zero_add]⟩

/-- **The timing of the loop.** A sampler with a period of a microsecond or more starts, and its
thread goes through any script of interludes that leaves room for one more period in the calendar
as `Loop` says. Each wait lasts until the next run of its one job, a period away at most; the thread
ends and leaves no job; it has merged the outcomes of all interludes that came, and has closed an
interval at each tick and nowhere else. The loop with a script that comes to the same does the
same. -/
theorem loop_timing [Depths] [Scheduler] {interval : Value} {s : SamplerSession} {period : Int}
    (hmake : make interval = .ok s) (hperiod : Micros.ofValue interval = .ok period)
    (hpos : 1 ≤ period) (script : List Interlude)
    (hcalendar : (script.map (·.timePassed period)).sum + period ≤ Micros.lastMoment) :
    ∃ sampler waits actions final, s.sampler.start s.now = .ok sampler ∧
      Loop period { s with sampler } script waits actions final ∧
      followInterludes script { s with sampler } = (waits.map Wait.trace, final) ∧
      (∀ ws, List.Forall₂ (ScriptedWait.ComesTo period) ws script →
        runScript interval ws = .ok (waits.map Wait.trace, final)) ∧
      (∀ w ∈ waits, ∃ next, w.session.Awaits period next ∧ w.timeout = next - w.session.now ∧
        0 < w.timeout ∧ w.timeout ≤ period) ∧
      final.sampler.thread = .ended ∧ final.sampler.jobs = [] ∧
      actions.filterMap LedgerAction.outcome? =
        (script.take waits.length).flatMap Interlude.outcomes ∧
      final.sampler.ticks = actions.countP LedgerAction.isSample ∧
      final.ledger = (Ledger.start 0.0).after actions := by
  have hrest := Interlude.sum_timePassed_nonneg script (show 0 ≤ period by omega)
  obtain ⟨sampler, hstart, hprepared, hnow, hledger, hticks⟩ :=
    exists_start_of_make hmake hperiod (by omega) (by omega)
  have hinside : s.now + (script.map (·.timePassed period)).sum + period ≤ Micros.lastMoment := by
    omega
  obtain ⟨waits, actions, final, hloop, hfollows⟩ := hprepared.exists_loop (by omega) hinside
  obtain ⟨hthread, hjobs⟩ := hloop.finished
  refine ⟨sampler, waits, actions, final, hstart, hloop, follows_interludes hfollows, ?_, ?_,
    hthread, hjobs, hloop.outcomes, ?_, ?_⟩
  · intro ws hws
    -- a script is followed like the interludes that it comes to
    have hrun : follow during ScriptedWait.wake ws { s with sampler } =
        (waits.map Wait.trace, final) := by
      refine hfollows (hws.imp fun _ _ h => h.standsFor) ?_
      rw [hws.length_eq]
      omega
    exact bind_eq_ok.mpr ⟨s, hmake, bind_eq_ok.mpr ⟨sampler, hstart, congrArg _ hrun⟩⟩
  · intro w hw
    obtain ⟨next, hawaits, htimeout⟩ := hloop.awaits w hw
    have hahead := hawaits.ahead
    have hnear := hawaits.near
    exact ⟨next, hawaits, htimeout, by omega, by omega⟩
  · rw [hloop.ticks]
    change sampler.ticks + _ = _
    rw [hticks, Nat.zero_add]
  · rw [hloop.ledger]
    exact congrArg (Ledger.after · actions) hledger

/-- A wait that is more than a period too long and brings a success, one that is too short, and one
that gets past the next run and brings a request to stop. -/
def threeInterludes : List Interlude :=
  [⟨[⟨.get, .success⟩], some 2500000, false, false, false⟩,
    ⟨[], some 400000, false, false, false⟩, ⟨[], some 700000, false, true, false⟩]

/-- The same as a script. -/
def threeWaits : List ScriptedWait :=
  [⟨[Outcome.toValue ⟨.get, .success⟩], some (.float 2.5), false, false, false⟩,
    ⟨[], some (.float 0.4), false, false, false⟩, ⟨[], some (.float 0.7), false, true, false⟩]

open Machine

/-- With a period of a second the first and the third wait lead to a tick, and then the thread
ends. -/
theorem loop_timing_threeWaits :
    ∃ s waits actions final, Loop 1000000 s threeInterludes waits actions final ∧
      runScript (.int 1) threeWaits = .ok (waits.map Wait.trace, final) ∧
      final.sampler.jobs = [] ∧ final.sampler.ticks = 2 := by
  obtain ⟨s, hmake⟩ : ∃ s, make (.int 1) = .ok s := ⟨_, rfl⟩
  obtain ⟨sampler, waits, actions, final, -, hloop, -, hscript, -, -, hjobs, -⟩ :=
    loop_timing hmake (show Micros.ofValue (.int 1) = .ok 1000000 by decide +kernel) (by decide)
      threeInterludes (by decide +kernel)
  have hread : Outcome.ofRecord (Outcome.toValue ⟨.get, .success⟩) = .ok ⟨.get, .success⟩ :=
    Outcome.ofRecord_toValue ⟨by rintro _ ⟨⟩, by rintro _ ⟨⟩⟩
  have hlate : Micros.ofValue (.float 2.5) = .ok 2500000 := by decide +kernel
  have hshort : Micros.ofValue (.float 0.4) = .ok 400000 := by decide +kernel
  have hlast : Micros.ofValue (.float 0.7) = .ok 700000 := by decide +kernel
  have hcome : List.Forall₂ (ScriptedWait.ComesTo 1000000) threeWaits threeInterludes :=
    .cons
      ⟨.cons hread .nil, List.forall_mem_singleton.mpr trivial, fun _ _ _ => hlate, rfl, rfl, rfl⟩
      (.cons ⟨.nil, List.forall_mem_nil _, fun _ _ _ => hshort, rfl, rfl, rfl⟩
        (.cons ⟨.nil, List.forall_mem_nil _, fun _ _ _ => hlast, rfl, rfl, rfl⟩ .nil))
  have hticks : (runScript (.int 1) threeWaits).map (fun r => r.2.sampler.ticks) = .ok 2 := by
    decide +kernel
  rw [hscript threeWaits hcome] at hticks
  exact ⟨_, waits, actions, final, hloop, hscript threeWaits hcome, hjobs, Except.ok.inj hticks⟩

end SamplerSession

end LoadLedger
