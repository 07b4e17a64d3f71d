import LoadLedger.Lock.Waiters

/-!
# Threads at a lock

A lock with waiters knows its threads by their numbers only. Here each thread has a stage of its
own, and an action is one section of code that a thread passes through: it arrives, leaves, looks
again after it was woken, or gives up because it was interrupted. Whoever arrives between a
notification and the second look of those it has woken is served first.

What an action can do is said once (`LockThreads.Step`), and all that holds of every action is read
off from it. `WaitedLock.Guarded` says that readers and writers keep out of each other's way, and
`WaitedLock.Shifts` that a thread passes from one stage to another as far as the numbers of the lock
are concerned. Both are settled here for each of the elementary updates that the sections of code
are made of.
-/

namespace LoadLedger

/-! ## Stages and actions -/

/-- Where a thread is. -/
inductive LockStage
  | outside
  /-- The thread waits for a notification. -/
  | parked (mode : Lock.Mode)
  /-- The thread was notified and has not looked again yet. -/
  | woken (mode : Lock.Mode)
  | holding (mode : Lock.Mode)
  deriving DecidableEq

/-- The stage after a notification. It concerns those who are parked, and nobody else. -/
def LockStage.wake : LockStage → LockStage
  | .parked mode => .woken mode
  | stage => stage

/-- What a thread does at a lock. -/
inductive LockAction
  | arrive (thread : Nat) (mode : Lock.Mode)
  | leave (thread : Nat)
  | recheck (thread : Nat)
  /-- The thread waits as a writer, and its wait fails. -/
  | interrupt (thread : Nat)

namespace WaitedLock

/-- A woken waiter looks again. -/
def recheck (w : WaitedLock) : Lock.Mode → WaitedLock
  | .read => w.recheckReader
  | .write => w.recheckWriter

/-- A woken writer is interrupted before it looks again, and gives up like a parked one. -/
def interruptWoken (w : WaitedLock) : WaitedLock :=
  { w with wokenWriters := w.wokenWriters - 1, lock := w.lock.withdrawWriter }.notifyAll

/-- The stage of a thread that looks at the lock. -/
def stageFor (w : WaitedLock) (mode : Lock.Mode) : LockStage :=
  if w.admits mode then .holding mode else .parked mode

end WaitedLock

/-- A lock and its threads. -/
structure LockThreads where
  /-- What the program keeps: the lock's fields and the numbers of those who wait. -/
  waited : WaitedLock
  /-- Where each of the threads is. -/
  stages : List LockStage
  deriving DecidableEq

namespace LockThreads

/-- A free lock and threads that have nothing to do with it yet. -/
def free (threads : Nat) : LockThreads :=
  ⟨.free, List.replicate threads .outside⟩

/-- The state after an action. An action that does not suit the stage of the thread is none. -/
def perform (s : LockThreads) : LockAction → LockThreads
  | .arrive thread mode =>
    match s.stages[thread]? with
    | some .outside =>
      ⟨s.waited.acquire mode, s.stages.set thread (s.waited.stageFor mode)⟩
    | _ => s
  | .leave thread =>
    match s.stages[thread]? with
    | some (.holding mode) =>
      let left := s.stages.set thread .outside
      ⟨s.waited.release mode,
        if mode = .read ∧ s.waited.lock.leaveReader.readers ≠ 0 then left
        else left.map LockStage.wake⟩
    | _ => s
  | .recheck thread =>
    match s.stages[thread]? with
    | some (.woken mode) =>
      ⟨s.waited.recheck mode, s.stages.set thread (s.waited.stageFor mode)⟩
    | _ => s
  | .interrupt thread =>
    let left := s.stages.set thread .outside
    match s.stages[thread]? with
    | some (.parked .write) =>
      match s.waited.interruptWriter? with
      | some waited => ⟨waited, left.map LockStage.wake⟩
      | none => s
    | some (.woken .write) => ⟨s.waited.interruptWoken, left.map LockStage.wake⟩
    | _ => s

/-- The state after actions of some threads, beginning with a free lock. -/
def ofActions (threads : Nat) (actions : List LockAction) : LockThreads :=
  actions.foldl perform (.free threads)

/-- All that an action can do. It does nothing if it does not suit the stage of its thread. -/
inductive Step (s : LockThreads) : LockAction → LockThreads → Prop
  /-- The action does not suit the stage of its thread. -/
  | idle (a : LockAction) : Step s a s
  /-- A thread comes from outside and looks. -/
  | arrive {thread : Nat} (mode : Lock.Mode) (hthread : s.stages[thread]? = some .outside) :
    Step s (.arrive thread mode)
      ⟨s.waited.acquire mode, s.stages.set thread (s.waited.stageFor mode)⟩
  /-- A holder leaves. A reader that leaves others behind wakes nobody. -/
  | leave {thread : Nat} (mode : Lock.Mode) (hthread : s.stages[thread]? = some (.holding mode)) :
    Step s (.leave thread)
      ⟨s.waited.release mode,
        if mode = .read ∧ s.waited.lock.leaveReader.readers ≠ 0 then s.stages.set thread .outside
        else (s.stages.set thread .outside).map LockStage.wake⟩
  /-- A thread that was woken looks again. -/
  | recheck {thread : Nat} (mode : Lock.Mode) (hthread : s.stages[thread]? = some (.woken mode)) :
    Step s (.recheck thread)
      ⟨s.waited.recheck mode, s.stages.set thread (s.waited.stageFor mode)⟩
  /-- A parked writer gives up, and wakes everybody. -/
  | interruptParked {thread : Nat} (hthread : s.stages[thread]? = some (.parked .write))
    {waited : WaitedLock} (hinterrupt : s.waited.interruptWriter? = some waited) :
    Step s (.interrupt thread) ⟨waited, (s.stages.set thread .outside).map LockStage.wake⟩
  /-- So does a writer that was woken already. -/
  | interruptWoken {thread : Nat} (hthread : s.stages[thread]? = some (.woken .write)) :
    Step s (.interrupt thread)
      ⟨s.waited.interruptWoken, (s.stages.set thread .outside).map LockStage.wake⟩

/-- **What an action does.** -/
theorem step_perform (s : LockThreads) (a : LockAction) : s.Step a (s.perform a) := by
  cases a with
  | arrive thread mode =>
    rw [perform]
    split
    · rename_i hthread
      exact .arrive mode hthread
    · exact .idle _
  | leave thread =>
    rw [perform]
    split
    · rename_i mode hthread
      exact .leave mode hthread
    · exact .idle _
  | recheck thread =>
    rw [perform]
    split
    · rename_i mode hthread
      exact .recheck mode hthread
    · exact .idle _
  -- a writer gives up while it is parked, if the lock knows of it, or after it was woken
  | interrupt thread =>
    rw [perform]
    split
    · rename_i hthread
      split
      · rename_i waited hinterrupt
        exact .interruptParked hthread hinterrupt
      · exact .idle _
    · rename_i hthread
      exact .interruptWoken hthread
    · exact .idle _

end LockThreads

/-! ## Numbers -/

namespace WaitedLock

/-- How many threads are at a stage, as far as the lock knows. It knows nothing of those outside. -/
def number (w : WaitedLock) : LockStage → Int
  | .outside => 0
  | .parked .read => w.parkedReaders
  | .parked .write => w.parkedWriters
  | .woken .read => w.wokenReaders
  | .woken .write => w.wokenWriters
  | .holding .read => w.lock.readers
  | .holding .write => w.lock.writerActive.toNat

/-- From one state to the other, one thread passes from a stage to a stage. -/
def Shifts (w after : WaitedLock) (old new : LockStage) : Prop :=
  ∀ stage, stage ≠ .outside →
    after.number stage + (if old = stage then 1 else 0) =
      w.number stage + if new = stage then 1 else 0

/-- A thread that looks as a reader enters or parks, and the stage where it comes to is that of
`stageFor`. -/
theorem shifts_lookAsReader (w : WaitedLock) :
    w.Shifts w.lookAsReader .outside (w.stageFor .read) := by
  rw [stageFor, admits, lookAsReader]
  by_cases h : w.lock.admitsReader = true
  · rw [if_pos h, if_pos h]
    rintro (_ | ⟨_ | _⟩ | ⟨_ | _⟩ | ⟨_ | _⟩) hstage <;> simp [number, Lock.enterReader] at hstage ⊢
  · rw [if_neg h, if_neg h]
    rintro (_ | ⟨_ | _⟩ | ⟨_ | _⟩ | ⟨_ | _⟩) hstage <;> simp [number] at hstage ⊢

/-- A writer enters only where no other writer is active, so that one writer more is *the*
writer. -/
theorem shifts_lookAsWriter (w : WaitedLock) :
    w.Shifts w.lookAsWriter .outside (w.stageFor .write) := by
  rw [stageFor, admits, lookAsWriter]
  by_cases h : w.lock.admitsWriter = true
  · have hfree : w.lock.writerActive = false := by
      rw [Lock.admitsWriter, Bool.and_eq_true, Bool.not_eq_true'] at h
      exact h.1
    rw [if_pos h, if_pos h]
    rintro (_ | ⟨_ | _⟩ | ⟨_ | _⟩ | ⟨_ | _⟩) hstage <;>
      simp [number, Lock.enterWriter, Lock.withdrawWriter, hfree] at hstage ⊢
  · rw [if_neg h, if_neg h]
    rintro (_ | ⟨_ | _⟩ | ⟨_ | _⟩ | ⟨_ | _⟩) hstage <;> simp [number] at hstage ⊢

/-- A state that counts the same is a state in which nobody has moved. -/
theorem shifts_of_number_eq {w after : WaitedLock} {stage : LockStage}
    (h : ∀ other, after.number other = w.number other) : w.Shifts after stage stage := by
  intro other _
  rw [h]

/-- A thread that passes through a stage in between has passed from the first one to the last. -/
theorem Shifts.trans {w between after : WaitedLock} {old middle new : LockStage}
    (h₁ : w.Shifts between old middle) (h₂ : between.Shifts after middle new) :
    w.Shifts after old new := by
  intro stage hstage
  have hbefore := h₁ stage hstage
  have hafter := h₂ stage hstage
  omega

/-! ### Arriving and looking again -/

/-- Whoever arrives comes from outside and is then at the stage that `stageFor` gives him. -/
theorem shifts_acquire (w : WaitedLock) (mode : Lock.Mode) :
    w.Shifts (w.acquire mode) .outside (w.stageFor mode) := by
  cases mode with
  | read => exact w.shifts_lookAsReader
  | write =>
    -- the announcement is not counted at any stage
    have hannounce : w.Shifts { w with lock := w.lock.announceWriter } .outside .outside := by
      apply shifts_of_number_eq
      rintro (_ | ⟨_ | _⟩ | ⟨_ | _⟩ | ⟨_ | _⟩) <;> rfl
    exact hannounce.trans (shifts_lookAsWriter _)

/-- Whoever looks again leaves those who are woken, of whom there was one at least. Then he looks
like anybody else. -/
theorem shifts_recheck {w : WaitedLock} {mode : Lock.Mode} (h : 0 < w.number (.woken mode)) :
    w.Shifts (w.recheck mode) (.woken mode) (w.stageFor mode) := by
  cases mode with
  | read =>
    have hstirred : w.Shifts { w with wokenReaders := w.wokenReaders - 1 } (.woken .read)
        .outside := by
      rw [number] at h
      rintro (_ | ⟨_ | _⟩ | ⟨_ | _⟩ | ⟨_ | _⟩) hstage <;> simp [number] at hstage ⊢
      omega
    exact hstirred.trans (shifts_lookAsReader _)
  | write =>
    have hstirred : w.Shifts { w with wokenWriters := w.wokenWriters - 1 } (.woken .write)
        .outside := by
      rw [number] at h
      rintro (_ | ⟨_ | _⟩ | ⟨_ | _⟩ | ⟨_ | _⟩) hstage <;> simp [number] at hstage ⊢
      omega
    exact hstirred.trans (shifts_lookAsWriter _)

/-! ### Leaving and giving up -/

theorem shifts_leaveReader (w : WaitedLock) :
    w.Shifts { w with lock := w.lock.leaveReader } (.holding .read) .outside := by
  rintro (_ | ⟨_ | _⟩ | ⟨_ | _⟩ | ⟨_ | _⟩) hstage <;> simp [number, Lock.leaveReader] at hstage ⊢

/-- The writer goes outside. There has to be one, since the lock only says *whether* one is
active. -/
theorem shifts_leaveWriter {w : WaitedLock} (h : 0 < w.number (.holding .write)) :
    w.Shifts { w with lock := w.lock.leaveWriter } (.holding .write) .outside := by
  have hactive : w.lock.writerActive = true := by
    rw [number] at h
    cases hfree : w.lock.writerActive with
    | true => rfl
    | false => rw [hfree] at h; cases h
  rintro (_ | ⟨_ | _⟩ | ⟨_ | _⟩ | ⟨_ | _⟩) hstage <;>
    simp [number, Lock.leaveWriter, hactive] at hstage ⊢

/-- A parked writer gives up. The announcement that it takes back is not counted by any stage. -/
theorem shifts_withdrawParked {w : WaitedLock} (h : 0 < w.parkedWriters) :
    w.Shifts { w with parkedWriters := w.parkedWriters - 1, lock := w.lock.withdrawWriter }
      (.parked .write) .outside := by
  rintro (_ | ⟨_ | _⟩ | ⟨_ | _⟩ | ⟨_ | _⟩) hstage <;>
    simp [number, Lock.withdrawWriter] at hstage ⊢
  omega

theorem shifts_withdrawWoken {w : WaitedLock} (h : 0 < w.wokenWriters) :
    w.Shifts { w with wokenWriters := w.wokenWriters - 1, lock := w.lock.withdrawWriter }
      (.woken .write) .outside := by
  rintro (_ | ⟨_ | _⟩ | ⟨_ | _⟩ | ⟨_ | _⟩) hstage <;>
    simp [number, Lock.withdrawWriter] at hstage ⊢
  omega

/-! ## Announcements -/

section Announcements

variable {w : WaitedLock} (h : w.lock.writersWaiting = w.waitingWriters)
include h

/-- A writer that is about to look again has announced itself and does not wait. -/
theorem announced_look (hwoken : 0 < w.wokenWriters) :
    w.lock.writersWaiting =
      waitingWriters { w with wokenWriters := w.wokenWriters - 1 } + 1 := by
  simp only [waitingWriters] at h ⊢
  omega

/-- A parked writer that gives up takes its announcement back. -/
theorem announced_withdrawParked (hparked : 0 < w.parkedWriters) :
    w.lock.withdrawWriter.writersWaiting =
      waitingWriters { w with parkedWriters := w.parkedWriters - 1 } := by
  simp only [Lock.withdrawWriter, waitingWriters] at h ⊢
  omega

theorem announced_withdrawWoken (hwoken : 0 < w.wokenWriters) :
    w.lock.withdrawWriter.writersWaiting =
      waitingWriters { w with wokenWriters := w.wokenWriters - 1 } := by
  simp only [Lock.withdrawWriter, waitingWriters] at h ⊢
  omega

end Announcements

/-! ## Readers and writers apart -/

/-- A writer that holds the lock keeps readers out, and the writers that have announced themselves
are those that wait. This is what an admission goes by, and every section of code keeps it up. -/
structure Guarded (w : WaitedLock) : Prop where
  /-- No reader is inside together with a writer. -/
  apart : w.lock.writerActive = true → w.lock.readers = 0
  /-- Every writer that waits is announced, and no other one. -/
  announced : w.lock.writersWaiting = w.waitingWriters

theorem guarded_free : free.Guarded :=
  ⟨fun _ => rfl, rfl⟩

namespace Guarded

variable {w : WaitedLock}

/-- A notification changes where the writers wait, and not how many they are. -/
theorem notifyAll (h : w.Guarded) : w.notifyAll.Guarded := by
  refine ⟨h.apart, ?_⟩
  have hannounced := h.announced
  simp only [WaitedLock.notifyAll, waitingWriters] at hannounced ⊢
  omega

/-- A reader enters only where no writer is active. -/
theorem lookAsReader (h : w.Guarded) : w.lookAsReader.Guarded := by
  rw [WaitedLock.lookAsReader]
  split
  · rename_i hadmits
    rw [Lock.admitsReader, Bool.and_eq_true, Bool.not_eq_true'] at hadmits
    refine ⟨fun hactive => ?_, h.announced⟩
    rw [Lock.enterReader] at hactive
    rw [hadmits.1] at hactive
    cases hactive
  · exact ⟨h.apart, h.announced⟩

/-- A writer that has announced itself looks. -/
theorem lookAsWriter (happart : w.lock.writerActive = true → w.lock.readers = 0)
    (hannounced : w.lock.writersWaiting = w.waitingWriters + 1) : w.lookAsWriter.Guarded := by
  rw [waitingWriters] at hannounced
  rw [WaitedLock.lookAsWriter]
  split
  · rename_i hadmits
    rw [Lock.admitsWriter, Bool.and_eq_true, beq_iff_eq] at hadmits
    refine ⟨fun _ => hadmits.2, ?_⟩
    simp only [Lock.enterWriter, Lock.withdrawWriter, waitingWriters]
    omega
  · refine ⟨happart, ?_⟩
    simp only [waitingWriters]
    omega

theorem acquire (h : w.Guarded) (mode : Lock.Mode) : (w.acquire mode).Guarded := by
  cases mode with
  | read => exact h.lookAsReader
  | write => exact lookAsWriter h.apart (congrArg (· + 1) h.announced)

theorem recheck (h : w.Guarded) {mode : Lock.Mode} (hwoken : 0 < w.number (.woken mode)) :
    (w.recheck mode).Guarded := by
  cases mode with
  | read =>
    exact lookAsReader ⟨h.apart, h.announced⟩
  | write =>
    exact lookAsWriter h.apart (announced_look h.announced (Int.natCast_pos.mp hwoken))

/-- A reader that leaves was one, so that no writer is active. -/
theorem leaveReader (h : w.Guarded) (hholding : 0 < w.number (.holding .read)) :
    Guarded { w with lock := w.lock.leaveReader } := by
  refine ⟨fun hactive => ?_, h.announced⟩
  rw [number, h.apart hactive] at hholding
  cases hholding

theorem leaveWriter (h : w.Guarded) : Guarded { w with lock := w.lock.leaveWriter } :=
  ⟨fun hactive => Bool.noConfusion hactive, h.announced⟩

/-- A writer that gives up takes its announcement with it, be it parked -/
theorem withdrawParked (h : w.Guarded) (hparked : 0 < w.parkedWriters) :
    Guarded { w with parkedWriters := w.parkedWriters - 1, lock := w.lock.withdrawWriter } := by
  exact ⟨h.apart, announced_withdrawParked h.announced hparked⟩

theorem withdrawWoken (h : w.Guarded) (hwoken : 0 < w.wokenWriters) :
    Guarded { w with wokenWriters := w.wokenWriters - 1, lock := w.lock.withdrawWriter } := by
  exact ⟨h.apart, announced_withdrawWoken h.announced hwoken⟩

end Guarded

end WaitedLock

end LoadLedger
