import LoadLedger.Proofs.Lock.Exclusion

/-!
# Nobody is forgotten

Waiters look again only after a notification, and only three events notify: the count of readers
becomes zero, a writer leaves, a waiting writer gives up. All other changes of the lock happen while
the parked threads sleep on. They may do so, since whoever is parked would still be kept out if he
looked now (`WaitedLock.Justified`): a change that does not notify lets in nobody who was kept out.

This does not depend on who gives the lock back. A release without a holder is carried out all the
same, so that a writer may be kept out by a negative count of readers. The numbers of those who
*hold* the lock mean nothing then, but those of the threads that *wait* remain right, and nothing
else is asked for (`LockThreads.Attended`).

`WaitedLock.Justified` is kept by every elementary update, and `LockThreads.Attended` by every call
(`Attended.call`). The result is `LockThreads.waits_only_if_keptOut`.
-/

namespace LoadLedger

/-! ## Calls -/

/-- A call at a lock: a thread takes an action, or somebody gives the lock back who need not hold
it. -/
inductive LockCall
  | action (a : LockAction)
  | release (mode : Lock.Mode)

namespace LockCall

/-- Is the call a release by somebody who need not hold the lock? -/
def isStray : LockCall → Bool
  | .action _ => false
  | .release _ => true

end LockCall

/-- Does a thread wait at the stage, be it parked or woken? -/
def LockStage.Waits : LockStage → Prop
  | .parked _ | .woken _ => True
  | .outside | .holding _ => False

theorem LockStage.Waits.ne_outside {stage : LockStage} (h : stage.Waits) : stage ≠ .outside := by
  rintro rfl
  cases h

namespace LockThreads

/-- The state after a call. A stray release leaves every thread where it is, but for those whom it
wakes. -/
def call (s : LockThreads) : LockCall → LockThreads
  | .action a => s.perform a
  | .release mode =>
    ⟨s.waited.release mode,
      if mode = .read ∧ s.waited.lock.leaveReader.readers ≠ 0 then s.stages
      else s.stages.map LockStage.wake⟩

/-- The state after calls, beginning with a free lock. -/
def ofCalls (threads : Nat) (calls : List LockCall) : LockThreads :=
  calls.foldl call (.free threads)

/-- No thread was notified without having looked again. -/
def Settled (s : LockThreads) : Prop :=
  .woken .read ∉ s.stages ∧ .woken .write ∉ s.stages

instance (s : LockThreads) : Decidable s.Settled :=
  inferInstanceAs (Decidable (_ ∧ _))

end LockThreads

/-! ## Parked for a reason -/

namespace WaitedLock

/-- Whoever is parked would be kept out if he looked now, and the writers that have announced
themselves are those that wait. -/
structure Justified (w : WaitedLock) : Prop where
  /-- Every writer that waits is announced. -/
  announced : w.lock.writersWaiting = w.waitingWriters
  /-- Whoever sleeps on would not be let in. -/
  keptOut : ∀ mode, 0 < w.number (.parked mode) → w.admits mode = false

theorem justified_free : free.Justified := by
  refine ⟨rfl, ?_⟩
  intro mode hparked
  cases mode <;> cases hparked

/-- A writer that holds the lock keeps everybody out. -/
theorem admits_of_writerActive {w : WaitedLock} (h : w.lock.writerActive = true)
    (mode : Lock.Mode) : w.admits mode = false := by
  cases mode with
  | read => rw [admits, Lock.admitsReader, h, Bool.not_true, Bool.false_and]
  | write => rw [admits, Lock.admitsWriter, h, Bool.not_true, Bool.false_and]

/-- Those who wait are not counted by the fields of the lock. -/
theorem number_withLock (w : WaitedLock) (lock : Lock) {stage : LockStage} (h : stage.Waits) :
    { w with lock }.number stage = w.number stage := by
  cases stage with
  | parked mode | woken mode => cases mode <;> rfl
  | outside | holding => cases h

namespace Justified

variable {w : WaitedLock}

/-- A notification leaves nobody parked. -/
theorem notifyAll (h : w.lock.writersWaiting = w.waitingWriters) : w.notifyAll.Justified := by
  refine ⟨?_, ?_⟩
  · simp only [WaitedLock.notifyAll, waitingWriters] at h ⊢
    omega
  · intro mode hparked
    cases mode <;> cases hparked

/-- A reader that enters finds nobody parked, since what lets him in would let in every reader, and
no writer waits. -/
theorem lookAsReader (h : w.Justified) : w.lookAsReader.Justified := by
  have hannounced := h.announced
  rw [WaitedLock.lookAsReader]
  by_cases hadmits : w.lock.admitsReader = true
  · rw [if_pos hadmits]
    refine ⟨hannounced, ?_⟩
    intro mode hparked
    cases mode with
    | read =>
      -- a parked reader would have been kept out by what lets this one in
      have hkept : w.lock.admitsReader = false := h.keptOut .read hparked
      rw [hadmits] at hkept
      cases hkept
    | write =>
      -- a parked writer is announced, and then no reader is admitted
      obtain ⟨-, hnone⟩ := Bool.and_eq_true_iff.mp hadmits
      have hparked : 0 < w.parkedWriters := Int.natCast_pos.mp hparked
      rw [beq_iff_eq] at hnone
      rw [waitingWriters] at hannounced
      omega
  · rw [if_neg hadmits]
    refine ⟨hannounced, ?_⟩
    intro mode hparked
    cases mode with
    | read => exact Bool.eq_false_iff.mpr hadmits
    | write => exact h.keptOut .write hparked

/-- A writer that has announced himself keeps out readers, whether he enters or parks. -/
theorem lookAsWriter (h : w.lock.writersWaiting = w.waitingWriters + 1) :
    w.lookAsWriter.Justified := by
  rw [waitingWriters] at h
  rw [WaitedLock.lookAsWriter]
  by_cases hadmits : w.lock.admitsWriter = true
  · rw [if_pos hadmits]
    refine ⟨?_, ?_⟩
    · simp only [Lock.enterWriter, Lock.withdrawWriter, waitingWriters]
      omega
    · intro mode _
      exact admits_of_writerActive rfl mode
  · rw [if_neg hadmits]
    refine ⟨?_, ?_⟩
    · simp only [waitingWriters]
      omega
    · intro mode _
      cases mode with
      | read =>
        -- it is announced and parked, and so keeps out readers
        have hsome : (w.lock.writersWaiting == 0) = false := by
          rw [beq_eq_false_iff_ne]
          omega
        rw [admits, Lock.admitsReader, hsome, Bool.and_false]
      | write => exact Bool.eq_false_iff.mpr hadmits

theorem acquire (h : w.Justified) (mode : Lock.Mode) : (w.acquire mode).Justified := by
  cases mode with
  | read => exact h.lookAsReader
  | write => exact lookAsWriter (congrArg (· + 1) h.announced)

/-- Whoever looks again parks only if he is kept out (`WaitedLock.recheck`). -/
theorem recheck (h : w.Justified) {mode : Lock.Mode} (hwoken : 0 < w.number (.woken mode)) :
    (w.recheck mode).Justified := by
  have hannounced := h.announced
  cases mode with
  | read =>
    refine lookAsReader ⟨hannounced, ?_⟩
    intro other hparked
    cases other with
    | read => exact h.keptOut .read hparked
    | write => exact h.keptOut .write hparked
  | write =>
    exact lookAsWriter (announced_look hannounced (Int.natCast_pos.mp hwoken))

/-- A reader that leaves without a notification leaves a count behind that keeps out writers. For
readers nothing has changed. -/
theorem release (h : w.Justified) (mode : Lock.Mode) : (w.release mode).Justified := by
  cases mode with
  | read =>
    rw [WaitedLock.release, removeReader]
    dsimp only
    by_cases hlast : w.lock.leaveReader.readers = 0
    · rw [if_pos hlast]
      exact notifyAll h.announced
    · rw [if_neg hlast]
      refine ⟨h.announced, ?_⟩
      intro mode hparked
      cases mode with
      | read => exact h.keptOut .read hparked
      | write =>
        have hsome : (w.lock.leaveReader.readers == 0) = false := by
          rw [beq_eq_false_iff_ne]
          exact hlast
        rw [admits, Lock.admitsWriter, hsome, Bool.and_false]
  | write => exact notifyAll h.announced

/-- A parked writer gives up, and everybody is woken. -/
theorem withdrawParked (h : w.Justified) (hparked : 0 < w.parkedWriters) :
    Justified (WaitedLock.notifyAll
      { w with parkedWriters := w.parkedWriters - 1, lock := w.lock.withdrawWriter }) := by
  exact notifyAll (announced_withdrawParked h.announced hparked)

theorem withdrawWoken (h : w.Justified) (hwoken : 0 < w.wokenWriters) :
    w.interruptWoken.Justified := by
  exact notifyAll (announced_withdrawWoken h.announced hwoken)

end Justified

end WaitedLock

/-! ## Every call -/

namespace LockThreads

/-- Whoever is parked is parked for a reason, and the lock knows how many threads wait. What it
takes for its holders is left open. -/
structure Attended (s : LockThreads) : Prop where
  /-- Whoever is parked is parked for a reason. -/
  justified : s.waited.Justified
  /-- The numbers of those who wait are right, whatever those of the holders are. -/
  numbers : ∀ stage, stage.Waits → s.waited.number stage = s.stages.count stage

theorem attended_free (threads : Nat) : (free threads).Attended := by
  refine ⟨WaitedLock.justified_free, ?_⟩
  intro stage hwaits
  exact (sound_free threads).numbers stage hwaits.ne_outside

namespace Attended

variable {s : LockThreads} {waited : WaitedLock} {stages : List LockStage} {thread : Nat}

/-- A thread passes to another stage, and the lock takes notice as far as that concerns those who
wait. -/
theorem pass (h : s.Attended) {old new : LockStage} (hthread : s.stages[thread]? = some old)
    (hjustified : waited.Justified)
    (hshift : ∀ stage, stage.Waits →
      waited.number stage + (if old = stage then 1 else 0) =
        s.waited.number stage + if new = stage then 1 else 0) :
    Attended ⟨waited, s.stages.set thread new⟩ := by
  refine ⟨hjustified, ?_⟩
  intro stage hwaits
  exact number_eq_count_set hthread (h.numbers stage hwaits) (hshift stage hwaits)

/-- The threads that wait are woken. -/
theorem notifyAll (hnumbers : ∀ stage, stage.Waits → waited.number stage = stages.count stage)
    (hjustified : waited.notifyAll.Justified) :
    Attended ⟨waited.notifyAll, stages.map LockStage.wake⟩ := by
  refine ⟨hjustified, ?_⟩
  intro stage hwaits
  cases stage with
  | parked mode => exact number_parked_notifyAll waited stages mode
  | woken mode =>
    exact number_woken_notifyAll (hnumbers (.parked mode) trivial) (hnumbers _ hwaits)
  | outside | holding => cases hwaits

/-- Somebody gives the lock back, and the threads stay at stages that hold as many who wait. -/
theorem release (h : s.Attended) (mode : Lock.Mode)
    (hcount : ∀ stage, stage.Waits → stages.count stage = s.stages.count stage) :
    Attended ⟨s.waited.release mode,
      if mode = .read ∧ s.waited.lock.leaveReader.readers ≠ 0 then stages
      else stages.map LockStage.wake⟩ := by
  have hjustified := h.justified.release mode
  have hnumbers : ∀ stage, stage.Waits → s.waited.number stage = stages.count stage := by
    intro stage hwaits
    rw [h.numbers stage hwaits, hcount stage hwaits]
  cases mode with
  | read =>
    rw [WaitedLock.release, WaitedLock.removeReader] at hjustified ⊢
    dsimp only at hjustified ⊢
    -- readers who stay behind leave the parked threads asleep
    by_cases hlast : s.waited.lock.leaveReader.readers = 0
    · rw [if_pos hlast] at hjustified
      rw [if_pos hlast, if_neg fun hmore => hmore.2 hlast]
      refine notifyAll ?_ hjustified
      intro stage hwaits
      rw [← hnumbers stage hwaits, WaitedLock.number_withLock _ _ hwaits]
    · rw [if_neg hlast] at hjustified
      rw [if_neg hlast, if_pos ⟨rfl, hlast⟩]
      refine ⟨hjustified, ?_⟩
      intro stage hwaits
      rw [← hnumbers stage hwaits, WaitedLock.number_withLock _ _ hwaits]
  | write =>
    refine notifyAll ?_ hjustified
    intro stage hwaits
    rw [← hnumbers stage hwaits, WaitedLock.number_withLock _ _ hwaits]

/-! ### The actions of threads -/

theorem arrive (h : s.Attended) (mode : Lock.Mode) (hthread : s.stages[thread]? = some .outside) :
    Attended ⟨s.waited.acquire mode, s.stages.set thread (s.waited.stageFor mode)⟩ := by
  refine h.pass hthread (h.justified.acquire mode) ?_
  intro stage hwaits
  exact s.waited.shifts_acquire mode stage hwaits.ne_outside

theorem recheck (h : s.Attended) {mode : Lock.Mode}
    (hthread : s.stages[thread]? = some (.woken mode)) :
    Attended ⟨s.waited.recheck mode, s.stages.set thread (s.waited.stageFor mode)⟩ := by
  have hwoken : 0 < s.waited.number (.woken mode) :=
    number_pos_of_thread hthread (h.numbers _ trivial)
  refine h.pass hthread (h.justified.recheck hwoken) ?_
  intro stage hwaits
  exact WaitedLock.shifts_recheck hwoken stage hwaits.ne_outside

/-- A thread that leaves was not waiting. -/
theorem leave (h : s.Attended) {mode : Lock.Mode}
    (hthread : s.stages[thread]? = some (.holding mode)) :
    Attended ⟨s.waited.release mode,
      if mode = .read ∧ s.waited.lock.leaveReader.readers ≠ 0 then s.stages.set thread .outside
      else (s.stages.set thread .outside).map LockStage.wake⟩ := by
  refine h.release mode ?_
  intro stage hwaits
  have hcount := count_set hthread .outside stage
  have hold : LockStage.holding mode ≠ stage := by
    rintro rfl
    cases hwaits
  rw [if_neg hold, if_neg hwaits.ne_outside.symm] at hcount
  exact hcount

theorem interruptParked (h : s.Attended) (hthread : s.stages[thread]? = some (.parked .write)) :
    ∃ waited, s.waited.interruptWriter? = some waited ∧
      Attended ⟨waited, (s.stages.set thread .outside).map LockStage.wake⟩ := by
  have hparked : 0 < s.waited.parkedWriters :=
    Int.natCast_pos.mp (number_pos_of_thread hthread (h.numbers _ trivial))
  refine ⟨_, if_pos hparked, notifyAll ?_ (h.justified.withdrawParked hparked)⟩
  intro stage hwaits
  exact number_eq_count_set hthread (h.numbers stage hwaits)
    (WaitedLock.shifts_withdrawParked hparked stage hwaits.ne_outside)

theorem interruptWoken (h : s.Attended) (hthread : s.stages[thread]? = some (.woken .write)) :
    Attended ⟨s.waited.interruptWoken, (s.stages.set thread .outside).map LockStage.wake⟩ := by
  have hwoken : 0 < s.waited.wokenWriters :=
    Int.natCast_pos.mp (number_pos_of_thread hthread (h.numbers _ trivial))
  refine notifyAll ?_ (h.justified.withdrawWoken hwoken)
  intro stage hwaits
  exact number_eq_count_set hthread (h.numbers stage hwaits)
    (WaitedLock.shifts_withdrawWoken hwoken stage hwaits.ne_outside)

/-- All that an action can do keeps this up: one case for each of `LockThreads.Step`. Those who
leave are covered by `release`. -/
theorem step (h : s.Attended) {a : LockAction} {t : LockThreads} (hstep : s.Step a t) :
    t.Attended := by
  cases hstep with
  | idle => exact h
  | arrive mode hthread => exact h.arrive mode hthread
  | leave mode hthread => exact h.leave hthread
  | recheck mode hthread => exact h.recheck hthread
  | interruptParked hthread hinterrupt =>
    obtain ⟨waited, hknown, hattended⟩ := h.interruptParked hthread
    cases hinterrupt.symm.trans hknown
    exact hattended
  | interruptWoken hthread => exact h.interruptWoken hthread

theorem perform (h : s.Attended) (a : LockAction) : (s.perform a).Attended :=
  h.step (s.step_perform a)

/-- **Every call keeps the invariant**, whoever makes it. -/
theorem call (h : s.Attended) (c : LockCall) : (s.call c).Attended := by
  cases c with
  | action a => exact h.perform a
  | release mode => exact h.release mode fun _ _ => rfl

theorem callAll (h : s.Attended) (calls : List LockCall) :
    (calls.foldl LockThreads.call s).Attended := by
  induction calls generalizing s with
  | nil => exact h
  | cons c calls ih => exact ih (h.call c)

/-- A reader that is not woken is kept out by a writer. -/
theorem reader_keptOut (h : s.Attended) (hmem : .parked .read ∈ s.stages) :
    s.waited.lock.writerActive = true ∨ 0 < s.waited.lock.writersWaiting := by
  have hpos : 0 < s.stages.count (.parked .read) := List.count_pos_iff.mpr hmem
  have hkept : s.waited.lock.admitsReader = false := by
    refine h.justified.keptOut .read ?_
    rw [h.numbers (.parked .read) trivial]
    omega
  rw [Lock.admitsReader, Bool.and_eq_false_iff, Bool.not_eq_false', beq_eq_false_iff_ne] at hkept
  exact hkept.imp_right Nat.pos_of_ne_zero

/-- A writer that is not woken is kept out by a writer that holds the lock or by the count. -/
theorem writer_keptOut (h : s.Attended) (hmem : .parked .write ∈ s.stages) :
    s.waited.lock.writerActive = true ∨ s.waited.lock.readers ≠ 0 := by
  have hpos : 0 < s.stages.count (.parked .write) := List.count_pos_iff.mpr hmem
  have hkept : s.waited.lock.admitsWriter = false := by
    refine h.justified.keptOut .write ?_
    rw [h.numbers (.parked .write) trivial]
    omega
  rw [Lock.admitsWriter, Bool.and_eq_false_iff, Bool.not_eq_false', beq_eq_false_iff_ne] at hkept
  exact hkept

/-- Once no writer is woken, those that are announced are those that wait. -/
theorem writersWaiting_eq_count (h : s.Attended) (hnone : .woken .write ∉ s.stages) :
    s.waited.lock.writersWaiting = s.stages.count (.parked .write) := by
  have hwaiting := h.justified.announced
  have hparked : (s.waited.parkedWriters : Int) = s.stages.count (.parked .write) :=
    h.numbers (.parked .write) trivial
  have hwoken : (s.waited.wokenWriters : Int) = s.stages.count (.woken .write) :=
    h.numbers (.woken .write) trivial
  rw [List.count_eq_zero_of_not_mem hnone] at hwoken
  rw [WaitedLock.waitingWriters] at hwaiting
  omega

/-- Where no writer holds the lock and the count is zero, everybody who waits is woken: no writer is
kept out, so that none stays, and then no reader is kept out either. -/
theorem not_parked_of_free (h : s.Attended) (hnone : .woken .write ∉ s.stages)
    (hinactive : s.waited.lock.writerActive = false) (hreaders : s.waited.lock.readers = 0)
    (mode : Lock.Mode) : .parked mode ∉ s.stages := by
  -- a writer would be kept out by nothing
  have hnoWriter : .parked .write ∉ s.stages := by
    intro hparked
    rcases h.writer_keptOut hparked with hactive | hsome
    · rw [hinactive] at hactive
      cases hactive
    · exact hsome hreaders
  cases mode with
  | write => exact hnoWriter
  | read =>
    intro hparked
    -- and without a writer that waits neither would a reader
    have hwaiting := h.writersWaiting_eq_count hnone
    rw [List.count_eq_zero_of_not_mem hnoWriter] at hwaiting
    rcases h.reader_keptOut hparked with hactive | hsome
    · rw [hinactive] at hactive
      cases hactive
    · rw [hwaiting] at hsome
      cases hsome

end Attended

/-! ## The result -/

/-- Without stray releases a run of calls is one of actions. -/
theorem Sound.callAll {s : LockThreads} (h : s.Sound) {calls : List LockCall}
    (hown : ∀ c ∈ calls, c.isStray = false) : (calls.foldl LockThreads.call s).Sound := by
  induction calls generalizing s with
  | nil => exact h
  | cons c calls ih =>
    cases c with
    | action a =>
      refine ih (h.perform a) ?_
      intro c hc
      exact hown c (List.mem_cons_of_mem _ hc)
    | release mode => cases hown (.release mode) List.mem_cons_self

/-- A lock that nobody holds keeps nobody out but by writers that wait. -/
theorem Sound.free_of_not_holding {s : LockThreads} (h : s.Sound)
    (hnobody : ∀ mode, .holding mode ∉ s.stages) :
    s.waited.lock.writerActive = false ∧ s.waited.lock.readers = 0 := by
  have hwriter : (s.waited.lock.writerActive.toNat : Int) = s.stages.count (.holding .write) :=
    h.numbers (.holding .write) LockStage.noConfusion
  have hreaders : s.waited.lock.readers = s.stages.count (.holding .read) :=
    h.numbers (.holding .read) LockStage.noConfusion
  rw [List.count_eq_zero_of_not_mem (hnobody .read)] at hreaders
  rw [List.count_eq_zero_of_not_mem (hnobody .write)] at hwriter
  refine ⟨?_, hreaders⟩
  cases hactive : s.waited.lock.writerActive with
  | false => rfl
  | true =>
    rw [hactive] at hwriter
    cases hwriter

/-- **No wake-up is lost.** After any calls of any number of threads, in any order, balanced or not,
once nobody is woken who has not looked again:

* a reader that waits is kept out by a writer that holds the lock or waits for it;
* a writer that waits is kept out by a writer that holds the lock or by the count of readers;
* the count of waiting writers is the number of writers that wait;
* if every release was by a holder and nobody holds the lock, nobody waits for it. -/
theorem waits_only_if_keptOut (threads : Nat) (calls : List LockCall) :
    let s := ofCalls threads calls
    s.Settled →
      (.parked .read ∈ s.stages →
        s.waited.lock.writerActive = true ∨ 0 < s.waited.lock.writersWaiting) ∧
      (.parked .write ∈ s.stages →
        s.waited.lock.writerActive = true ∨ s.waited.lock.readers ≠ 0) ∧
      s.waited.lock.writersWaiting = s.stages.count (.parked .write) ∧
      ((∀ c ∈ calls, c.isStray = false) → (∀ mode, .holding mode ∉ s.stages) →
        ∀ stage ∈ s.stages, stage = .outside) := by
  intro s hsettled
  have hattended : s.Attended := (attended_free threads).callAll calls
  refine ⟨hattended.reader_keptOut, hattended.writer_keptOut,
    hattended.writersWaiting_eq_count hsettled.2, ?_⟩
  intro hown hnobody stage hmem
  have hsound : s.Sound := (sound_free threads).callAll hown
  obtain ⟨hinactive, hreaders⟩ := hsound.free_of_not_holding hnobody
  -- a stage other than being outside is ruled out, one sort after the other
  rcases stage with _ | mode | mode | mode
  · rfl
  · exact absurd hmem (hattended.not_parked_of_free hsettled.2 hinactive hreaders mode)
  · cases mode with
    | read => exact absurd hmem hsettled.1
    | write => exact absurd hmem hsettled.2
  · exact absurd hmem (hnobody mode)

/-- A stray release makes the count of readers negative, so that two writers and a reader have to
wait. One of the writers gives up, the other two look again, and nothing has changed for them. -/
def strayRelease : List LockCall :=
  [.release .read, .action (.arrive 0 .write), .action (.arrive 1 .read),
    .action (.arrive 2 .write), .action (.interrupt 0), .action (.recheck 2),
    .action (.recheck 1)]

/-- Whoever waits is kept out: the reader by the writer, and the writer by the count. -/
theorem keptOut_strayRelease :
    let s := ofCalls 3 strayRelease
    s.Settled ∧ s.stages = [.outside, .parked .read, .parked .write] ∧
      (s.waited.lock.writerActive = true ∨ 0 < s.waited.lock.writersWaiting) ∧
      (s.waited.lock.writerActive = true ∨ s.waited.lock.readers ≠ 0) := by
  have hsettled : (ofCalls 3 strayRelease).Settled := by decide
  have hstages : (ofCalls 3 strayRelease).stages =
      [.outside, .parked .read, .parked .write] := by decide
  obtain ⟨hreader, hwriter, -, -⟩ := waits_only_if_keptOut 3 strayRelease hsettled
  refine ⟨hsettled, hstages, hreader ?_, hwriter ?_⟩
  · rw [hstages]
    decide
  · rw [hstages]
    decide

end LockThreads

end LoadLedger
