import LoadLedger.Proofs.Sampler.Service
import LoadLedger.Sampler.Script
import Mathlib.Data.List.Basic

/-!
# The steps of a sampler's thread

A session lets the thread go on as far as it can after each operation. Here the thread goes on by
itself, one step of its loop at a time, and anything may happen between two steps
(`SamplerRun.perform`). So a stop may come when a wait is over already but the job has not run yet.

The operations of a session are special cases: each of them is an event and some steps of the thread
after it (`SamplerRun.leads_operateAll`).

`SamplerRun.Leads` says that a run comes to a session by some events, however it has begun. It
composes (`Leads.trans`), so that an operation can be taken apart into the request, the steps of the
thread and the wait.
-/

namespace LoadLedger

/-! ## Steps and events -/

/-- How far a thread has come that is neither sampling nor at its end. -/
inductive LoopStage
  /-- It looks next for a request to stop and for its next run. -/
  | top
  | waiting
  /-- The wait is over, and the jobs that are due are run next. -/
  | woken
  deriving DecidableEq

/-- A session, and how far its thread has come in its loop. A session by itself has its thread wait
for something, or none; a run may stop in between. -/
structure SamplerRun where
  session : SamplerSession
  stage : LoopStage

/-- What may happen next. Each step of the thread is an event, and so is whatever others do to the
session. -/
inductive SamplerEvent
  | start
  | requestStop
  /-- The wait for the end of the thread fails. -/
  | giveUp
  /-- It is recorded how a stop has turned out. -/
  | recordStop
  /-- Somebody else than the thread closes an interval. -/
  | tick
  | advance (elapsed : Nat)
  /-- Something is to be merged, which may be no outcome, or one whose merge fails half-way. -/
  | merge (item : Outcome ⊕ Value)
  | breakSampling (message : AnyText)
  | fixSampling
  | hold
  | release
  /-- The thread is at the top of its loop. -/
  | look
  /-- The wait of the thread ends since it is asked to stop. -/
  | wake
  /-- The wait of the thread ends without a request to stop. -/
  | expire
  /-- The thread runs the jobs that are due. -/
  | work
  /-- The thread gets hold of the ledger if it can. -/
  | sample

/-- Does somebody else than the thread close an interval? -/
def SamplerEvent.isTick : SamplerEvent → Bool
  | .tick => true
  | _ => false

variable [Depths] [Scheduler]

namespace SamplerSession

/-- A start after which the thread has not gone on yet. -/
def begin (s : SamplerSession) : Except Fault Unit × SamplerSession :=
  match s.sampler.start s.now with
  | .error cause => (.error cause, s)
  | .ok sampler =>
    match sampler.startRecord with
    | .error cause => (.error cause, { s with sampler })
    | .ok r => (.ok (), { s with sampler }.record r)

/-- The thread dies. -/
def die (s : SamplerSession) : SamplerSession :=
  { s with sampler := s.sampler.die }

/-- The thread waits for the ledger. -/
def queue (s : SamplerSession) : SamplerSession :=
  { s with sampler := { s.sampler with thread := .sampling } }

end SamplerSession

namespace SamplerRun

/-- The top of the loop. -/
def look (r : SamplerRun) : SamplerRun :=
  if r.session.sampler.stopRequested then { r with session := r.session.finish }
  else match Scheduler.idle? r.session.now r.session.sampler.jobs with
    | none => { r with session := r.session.finish }
    | some idle =>
      if Sampler.waitLimit < idle then { r with session := r.session.die }
      else if idle ≤ 0 then { r with stage := .woken }
      else { r with stage := .waiting }

/-- The end of the loop: the jobs that are due are run. -/
def work (r : SamplerRun) : SamplerRun :=
  if !r.session.isDue then { r with stage := .top }
  else if r.session.isFree then ⟨r.session.runDue, .top⟩
  else ⟨r.session.queue, .top⟩

/-- Is the thread at a stage of its loop? -/
def IsAt (r : SamplerRun) (stage : LoopStage) : Prop :=
  r.session.sampler.thread = .waiting ∧ r.stage = stage

instance (r : SamplerRun) (stage : LoopStage) : Decidable (r.IsAt stage) :=
  inferInstanceAs (Decidable (_ ∧ _))

/-- What an event does. A step that the thread is not about to take does nothing. -/
def perform (r : SamplerRun) : SamplerEvent → SamplerRun
  | .start => { r with session := r.session.begin.2 }
  | .requestStop => { r with session := r.session.requestStop }
  | .giveUp => { r with session := { r.session with sampler := r.session.sampler.giveUp } }
  | .recordStop => { r with session := r.session.recordStop }
  | .tick => { r with session := r.session.tick }
  | .advance elapsed =>
    match Micros.after r.session.now elapsed with
    | .error _ => r
    | .ok now => { r with session := { r.session with now } }
  | .merge item =>
    { r with session := { r.session with ledger := (r.session.ledger.mergeAny item).2 } }
  | .breakSampling message => { r with session := { r.session with failure := some message } }
  | .fixSampling => { r with session := { r.session with failure := none } }
  | .hold => { r with session := r.session.hold }
  | .release => { r with session := { r.session with readers := r.session.readers - 1 } }
  | .look => if r.IsAt .top then r.look else r
  | .wake =>
    if r.IsAt .waiting ∧ r.session.sampler.stopRequested = true then
      { r with session := r.session.finish }
    else r
  | .expire => if r.IsAt .waiting then { r with stage := .woken } else r
  | .work => if r.IsAt .woken then r.work else r
  | .sample =>
    if r.session.sampler.thread = .sampling then { r with session := r.session.move } else r

/-- Events in turn. -/
def performAll (r : SamplerRun) (events : List SamplerEvent) : SamplerRun :=
  events.foldl perform r

theorem performAll_cons (r : SamplerRun) (e : SamplerEvent) (events : List SamplerEvent) :
    r.performAll (e :: events) = (r.perform e).performAll events := rfl

theorem performAll_append (r : SamplerRun) (events more : List SamplerEvent) :
    r.performAll (events ++ more) = (r.performAll events).performAll more :=
  List.foldl_append

/-! ## The moves of a session -/

/-- A run comes to a session, with so many intervals closed by others than the thread. The wait of
the thread is not over. -/
def Leads (r : SamplerRun) (s : SamplerSession) (ticks : Nat) : Prop :=
  ∃ events, (r.performAll events).session = s ∧ (r.performAll events).stage ≠ .woken ∧
    events.countP SamplerEvent.isTick = ticks

/-- A run has come to where it is, unless its thread is still about to work. -/
theorem Leads.refl {r : SamplerRun} (h : r.stage ≠ .woken) : r.Leads r.session 0 :=
  ⟨[], rfl, h, rfl⟩

/-- One run after the other. -/
theorem Leads.trans {r : SamplerRun} {s s' : SamplerSession} {m n : Nat}
    (h : r.Leads s m)
    (h' : ∀ r' : SamplerRun, r'.session = s → r'.stage ≠ .woken → r'.Leads s' n) :
    r.Leads s' (m + n) := by
  obtain ⟨events, hsession, hstage, hticks⟩ := h
  obtain ⟨events', hsession', hstage', hticks'⟩ := h' _ hsession hstage
  refine ⟨events ++ events', ?_, ?_, ?_⟩
  · rw [performAll_append, hsession']
  · rw [performAll_append]
    exact hstage'
  · rw [List.countP_append, hticks, hticks']

/-- Steps of the thread may come first. -/
theorem Leads.after {r : SamplerRun} (events : List SamplerEvent)
    (hevents : events.countP SamplerEvent.isTick = 0) {s : SamplerSession} {ticks : Nat}
    (h : (r.performAll events).Leads s ticks) : r.Leads s ticks := by
  obtain ⟨more, hsession, hstage, hticks⟩ := h
  refine ⟨events ++ more, ?_, ?_, ?_⟩
  · rw [performAll_append, hsession]
  · rw [performAll_append]
    exact hstage
  · rw [List.countP_append, hevents, hticks, Nat.zero_add]

/-- An event that leaves the stage of the thread alone. -/
theorem leads_perform {r : SamplerRun} (h : r.stage ≠ .woken) (e : SamplerEvent)
    (hstage : (r.perform e).stage = r.stage) :
    r.Leads (r.perform e).session (if e.isTick then 1 else 0) := by
  refine ⟨[e], rfl, ?_, ?_⟩
  · rw [performAll_cons]
    exact hstage ▸ h
  · rw [List.countP_cons, List.countP_nil, Nat.zero_add]

omit [Depths] in
/-- A job is due exactly if the next run of any job is not ahead. -/
theorem isDue_iff (s : SamplerSession) :
    s.isDue = true ↔ ∃ idle, Scheduler.idle? s.now s.sampler.jobs = some idle ∧ idle ≤ 0 := by
  rw [SamplerSession.isDue, Scheduler.idle?_eq, List.any_eq_true]
  cases hnext : (s.sampler.jobs.map Job.nextRun).min? with
  | none =>
    have hjobs : s.sampler.jobs = [] := List.map_eq_nil_iff.mp (List.min?_eq_none_iff.mp hnext)
    rw [hjobs]
    exact iff_of_false (by rintro ⟨_, ⟨⟩, -⟩) (by rintro ⟨_, ⟨⟩, -⟩)
  | some next =>
    obtain ⟨hmem, hleast⟩ := List.min?_eq_some_iff.mp hnext
    refine ⟨?_, ?_⟩
    · rintro ⟨job, hjob, hdue⟩
      -- the earliest of the next runs decides
      have hearlier := hleast job.nextRun (List.mem_map_of_mem hjob)
      have hpast : job.nextRun ≤ s.now := Scheduler.isDue_iff.mp hdue
      exact ⟨next - s.now, rfl, by omega⟩
    · rintro ⟨_, ⟨⟩, hidle⟩
      obtain ⟨job, hjob, rfl⟩ := List.mem_map.mp hmem
      have hpast : job.nextRun - s.now ≤ 0 := hidle
      exact ⟨job, hjob, Scheduler.isDue_iff.mpr (by omega)⟩

omit [Depths] in
/-- What the thread does about a job that is due. -/
theorem leaveWait_of_isDue {s : SamplerSession} (hgo : s.sampler.stopRequested = false)
    (hdue : s.isDue = true) : s.leaveWait = if s.isFree then s.runDue else s.queue := by
  obtain ⟨idle, hidle, hpast⟩ := (isDue_iff s).mp hdue
  have hlimit : ¬ Sampler.waitLimit < idle := by
    rw [Sampler.waitLimit]
    omega
  rw [SamplerSession.leaveWait, hgo, if_neg Bool.false_ne_true, hidle]
  dsimp only
  rw [if_neg hlimit, hdue]
  rfl

omit [Depths] in
/-- What the end of the loop does if a job is due: the thread runs it, or waits for the ledger
first. -/
theorem work_of_isDue {r : SamplerRun} (hdue : r.session.isDue = true) :
    r.work = ⟨if r.session.isFree then r.session.runDue else r.session.queue, .top⟩ := by
  rw [work, hdue]
  cases r.session.isFree <;> rfl

/-- Steps that end with the work on a job that is due are a move of the thread. -/
theorem leads_leaveWait_of_work {r : SamplerRun} {events : List SamplerEvent}
    (hwork : r.performAll events = work { r with stage := .woken })
    (hgo : r.session.sampler.stopRequested = false) (hdue : r.session.isDue = true)
    (hticks : events.countP SamplerEvent.isTick = 0) : r.Leads r.session.leaveWait 0 := by
  have hafter := work_of_isDue (r := { r with stage := .woken }) hdue
  refine ⟨events, ?_, ?_, hticks⟩
  · rw [hwork, hafter, leaveWait_of_isDue hgo hdue]
  · rw [hwork, hafter]
    exact LoopStage.noConfusion

section Waiting

variable {r : SamplerRun} (hthread : r.session.sampler.thread = .waiting)
include hthread

/-- At the top of its loop the thread ends, waits, or runs its jobs. -/
theorem leads_leaveWait_of_top (hstage : r.stage = .top) : r.Leads r.session.leaveWait 0 := by
  have hlook : r.perform .look = r.look := if_pos ⟨hthread, hstage⟩
  -- wherever the look decides what the thread does, it is the one step to be taken
  have hstays : r.look.session = r.session.leaveWait → r.look.stage = .top →
      r.Leads r.session.leaveWait 0 := by
    intro hsession htop
    rw [← hsession, ← hlook]
    refine leads_perform (by rw [hstage]; decide) .look ?_
    rw [hlook, htop, hstage]
  cases hstop : r.session.sampler.stopRequested with
  | true =>
    have hends : r.look = { r with session := r.session.finish } := by
      rw [look, hstop, if_pos rfl]
    refine hstays ?_ (by rw [hends]; exact hstage)
    rw [hends, SamplerSession.leaveWait, hstop, if_pos rfl]
    rfl
  | false =>
    cases hidle : Scheduler.idle? r.session.now r.session.sampler.jobs with
    | none =>
      have hends : r.look = { r with session := r.session.finish } := by
        rw [look, hstop, if_neg Bool.false_ne_true, hidle]
      refine hstays ?_ (by rw [hends]; exact hstage)
      rw [hends, SamplerSession.leaveWait, hstop, if_neg Bool.false_ne_true, hidle]
      rfl
    | some idle =>
      by_cases hlimit : Sampler.waitLimit < idle
      · have hdies : r.look = { r with session := r.session.die } := by
          rw [look, hstop, if_neg Bool.false_ne_true, hidle]
          exact if_pos hlimit
        refine hstays ?_ (by rw [hdies]; exact hstage)
        rw [hdies, SamplerSession.leaveWait, hstop, if_neg Bool.false_ne_true, hidle]
        exact (if_pos hlimit).symm
      cases hdue : r.session.isDue with
      | false =>
        have hwaits : r.session.leaveWait = r.session := by
          rw [SamplerSession.leaveWait, hstop, if_neg Bool.false_ne_true, hidle]
          dsimp only
          rw [if_neg hlimit, hdue]
          rfl
        rw [hwaits]
        exact .refl (by rw [hstage]; decide)
      | true =>
        obtain ⟨_, hidle', hpast⟩ := (isDue_iff r.session).mp hdue
        obtain rfl := Option.some.inj (hidle.symm.trans hidle')
        have hwoken : r.look = { r with stage := .woken } := by
          rw [look, hstop, if_neg Bool.false_ne_true, hidle]
          dsimp only
          rw [if_neg hlimit, if_pos hpast]
        -- a job that is due takes two steps, the look and the work
        have hwork : r.performAll [.look, .work] = work { r with stage := .woken } := by
          rw [performAll_cons, hlook, hwoken]
          exact if_pos ⟨hthread, rfl⟩
        exact leads_leaveWait_of_work hwork hstop hdue rfl

/-- A thread that waits is woken, or the wait ends and the thread runs its jobs. -/
theorem leads_leaveWait_of_waiting (hstage : r.stage = .waiting) :
    r.Leads r.session.leaveWait 0 := by
  cases hstop : r.session.sampler.stopRequested with
  | true =>
    have hwake : r.perform .wake = { r with session := r.session.finish } :=
      if_pos ⟨⟨hthread, hstage⟩, hstop⟩
    have hends : r.session.leaveWait = (r.perform .wake).session := by
      rw [hwake, SamplerSession.leaveWait, hstop, if_pos rfl]
      rfl
    rw [hends]
    exact leads_perform (by rw [hstage]; decide) .wake (by rw [hwake])
  | false =>
    have hwork : r.performAll [.expire, .work] = work { r with stage := .woken } := by
      have hexpire : r.perform .expire = { r with stage := .woken } := if_pos ⟨hthread, hstage⟩
      rw [performAll_cons, hexpire]
      exact if_pos ⟨hthread, rfl⟩
    cases hdue : r.session.isDue with
    | true => exact leads_leaveWait_of_work hwork hstop hdue rfl
    | false =>
      -- without a job to run the thread is at the top of its loop again
      have htop : work { r with stage := .woken } = { r with stage := .top } := by
        rw [work, hdue]
        rfl
      have hback : r.performAll [.expire, .work] = { r with stage := .top } := hwork.trans htop
      exact Leads.after [.expire, .work] rfl
        (hback ▸ leads_leaveWait_of_top (r := { r with stage := .top }) hthread rfl)

end Waiting

/-- **A move of the thread is some of its steps.** A move is `SamplerSession.leaveWait`, or a tick
that had to wait for the ledger. -/
theorem leads_move {r : SamplerRun} (h : r.stage ≠ .woken) : r.Leads r.session.move 0 := by
  cases hthread : r.session.sampler.thread with
  | unstarted | ended =>
    rw [SamplerSession.move, hthread]
    exact .refl h
  | sampling =>
    have hsample : r.perform .sample = { r with session := r.session.move } := if_pos hthread
    have hlead := leads_perform h .sample (by rw [hsample])
    rw [hsample] at hlead
    exact hlead
  | waiting =>
    rw [SamplerSession.move, hthread]
    cases hstage : r.stage with
    | top => exact leads_leaveWait_of_top hthread hstage
    | waiting => exact leads_leaveWait_of_waiting hthread hstage
    | woken => exact absurd hstage h

/-- A session settles in three moves (`SamplerSession.settle`), and each of them is some steps. -/
theorem leads_settle {r : SamplerRun} (h : r.stage ≠ .woken) : r.Leads r.session.settle 0 := by
  have hmove : ∀ (s : SamplerSession) (r' : SamplerRun), r'.session = s → r'.stage ≠ .woken →
      r'.Leads s.move 0 := by
    rintro _ r' rfl h'
    exact leads_move h'
  exact ((leads_move h).trans (hmove _)).trans (hmove _)

/-- An event after which the thread goes on as far as it can. -/
theorem leads_perform_settle {r : SamplerRun} (h : r.stage ≠ .woken) {e : SamplerEvent}
    (hevent : e.isTick = false) (hstage : (r.perform e).stage = r.stage) :
    r.Leads (r.perform e).session.settle 0 := by
  have hfirst := leads_perform h e hstage
  rw [hevent, if_neg Bool.false_ne_true] at hfirst
  refine hfirst.trans (n := 0) ?_
  rintro r' hr' h'
  rw [← hr']
  exact leads_settle h'

end SamplerRun

/-! ## The operations of a session -/

/-- An operation on a session. -/
inductive SamplerOperation
  | start
  | stop (timeout : Value)
  | tick
  | advance (seconds : Value)
  | merge (records : List Value)
  | breakSampling (message : AnyText)
  | fixSampling
  | hold
  | release

namespace SamplerOperation

/-- Does the operation close an interval by itself? -/
def isTick : SamplerOperation → Bool
  | .tick => true
  | _ => false

/-- Does the operation not move the clock back? -/
def Forward : SamplerOperation → Prop
  | .advance seconds => ∀ elapsed, Micros.ofValue seconds = .ok elapsed → 0 ≤ elapsed
  | _ => True

end SamplerOperation

namespace SamplerSession

/-- Carries out an operation, after which the thread goes on as far as it can. -/
def operate (s : SamplerSession) : SamplerOperation → SamplerSession
  | .start => s.start.2
  | .stop timeout => (s.stop timeout).2
  | .tick => s.tick
  | .advance seconds => (s.advance seconds).2
  | .merge records => (s.merge records).2
  | .breakSampling message => s.breakSampling message
  | .fixSampling => s.fixSampling
  | .hold => s.hold
  | .release => s.release

/-- Operations in turn. -/
def operateAll (s : SamplerSession) (operations : List SamplerOperation) : SamplerSession :=
  operations.foldl operate s

omit [Depths] in
/-- A start is a beginning after which the thread goes on, unless it is refused. -/
theorem start_of_begin (s : SamplerSession) :
    s.start.1 = s.begin.1 ∧ (s.start.2 = s.begin.2.settle ∨ s.start.2 = s ∧ s.begin.2 = s) := by
  rw [start, begin]
  cases s.sampler.start s.now with
  | error cause => exact ⟨rfl, .inr ⟨rfl, rfl⟩⟩
  | ok sampler =>
    dsimp only
    cases sampler.startRecord <;> exact ⟨rfl, .inl rfl⟩

end SamplerSession

namespace SamplerRun

variable {r : SamplerRun} (h : r.stage ≠ .woken)
include h

/-- Somebody waits for the thread: the clock moves, and the thread goes on meanwhile. -/
theorem leads_await (timeout : Timeout) : r.Leads (r.session.await timeout).2 0 := by
  have hrecord : ∀ (s : SamplerSession) (r' : SamplerRun), r'.session = s → r'.stage ≠ .woken →
      r'.Leads s.recordStop 0 := by
    rintro _ r' rfl h'
    exact leads_perform h' .recordStop rfl
  rw [SamplerSession.await]
  split
  · split
    · exact leads_perform_settle h (e := .giveUp) rfl rfl
    · exact (leads_settle h).trans (hrecord _)
    · exact leads_perform_settle h (e := .recordStop) rfl rfl
  · exact (leads_settle h).trans (hrecord _)

/-- A stop is a request, and a wait for the end. -/
theorem leads_stop (timeout : Value) : r.Leads (r.session.stop timeout).2 0 := by
  rw [SamplerSession.stop]
  split
  · exact leads_perform h .requestStop rfl
  · split
    · exact leads_perform_settle h (e := .requestStop) rfl rfl
    · refine (leads_perform h .requestStop rfl).trans (n := 0) ?_
      rintro r' hr' h'
      rw [← show r'.session = r.session.requestStop from hr']
      exact leads_await h' _

/-- The clock is moved, which is an event if it does not go back. -/
theorem leads_advance {seconds : Value} (hforward : (SamplerOperation.advance seconds).Forward) :
    r.Leads (r.session.advance seconds).2 0 := by
  rw [SamplerSession.advance]
  cases hmoment : r.session.momentAfter seconds with
  | error cause => exact .refl h
  | ok now =>
    obtain ⟨elapsed, helapsed, hafter⟩ := bind_eq_ok.mp hmoment
    obtain ⟨n, rfl⟩ := Int.eq_ofNat_of_zero_le (hforward elapsed helapsed)
    have hadvance : r.perform (.advance n) = { r with session := { r.session with now } } := by
      rw [perform, hafter]
    have hlead := leads_perform_settle h (e := .advance n) rfl (by rw [hadvance])
    rw [hadvance] at hlead
    exact hlead

/-- Records are merged one after the other, up to the first one that is refused or fails. -/
theorem leads_merge (records : List Value) : r.Leads (r.session.merge records).2 0 := by
  induction records generalizing r with
  | nil => exact .refl h
  | cons v records ih =>
    rw [SamplerSession.merge, Ledger.mergeRecords]
    cases Outcome.ofRecord v with
    | error cause => exact .refl h
    | ok o =>
      -- each record is an event of its own
      have hfirst := leads_perform h (.merge (.inl o)) rfl
      cases hmerge : r.session.ledger.merge o with
      | mk result next =>
        have hsession : (r.perform (.merge (.inl o))).session = { r.session with ledger := next } :=
          congrArg (fun l => { r.session with ledger := l }) (congrArg Prod.snd hmerge)
        rw [hsession] at hfirst
        dsimp only
        rw [hmerge]
        cases result with
        | error cause => exact hfirst
        | ok u =>
          refine hfirst.trans (n := 0) ?_
          rintro r' hr' h'
          have hrest := ih h'
          rw [hr'] at hrest
          exact hrest

/-- **An operation of a session is some events**, one of which closes an interval for it if that is
what the operation does. -/
theorem leads_operate {op : SamplerOperation} (hforward : op.Forward) :
    r.Leads (r.session.operate op) (if op.isTick then 1 else 0) := by
  cases op with
  | start =>
    obtain ⟨-, hstart | ⟨hstart, -⟩⟩ := r.session.start_of_begin
    · rw [SamplerSession.operate, hstart]
      exact leads_perform_settle h (e := .start) rfl rfl
    · rw [SamplerSession.operate, hstart]
      exact .refl h
  | stop timeout => exact leads_stop h timeout
  | tick => exact leads_perform h .tick rfl
  | advance seconds => exact leads_advance h hforward
  | merge records => exact leads_merge h records
  | breakSampling message => exact leads_perform_settle h (e := .breakSampling message) rfl rfl
  | fixSampling => exact leads_perform_settle h (e := .fixSampling) rfl rfl
  | hold => exact leads_perform h .hold rfl
  | release => exact leads_perform_settle h (e := .release) rfl rfl

/-- **Operations in turn are some events**, as long as the clock is not moved back. So what holds of
all runs holds of the sessions of the program (`SamplerSession.operateAll`). -/
theorem leads_operateAll {operations : List SamplerOperation}
    (hforward : ∀ op ∈ operations, op.Forward) :
    r.Leads (r.session.operateAll operations) (operations.countP SamplerOperation.isTick) := by
  induction operations generalizing r with
  | nil => exact .refl h
  | cons op operations ih =>
    obtain ⟨hfirst, hrest⟩ := List.forall_mem_cons.mp hforward
    rw [List.countP_cons, Nat.add_comm]
    refine (leads_operate h hfirst).trans ?_
    rintro r' hr' h'
    have hlead := ih h' hrest
    rw [hr'] at hlead
    exact hlead

end SamplerRun

end LoadLedger
