import LoadLedger.Proofs.Lock.Preference
import Mathlib.Logic.Function.Iterate

/-!
# A writer that gives up

A writer that has to wait keeps out the readers that come after it, and when it is interrupted it
takes back its announcement and wakes everybody. What is left then is the lock as it was, with the
new readers among those who look again (`WaitedLock.interruptWriter?_of_keptOut`). Those who were
parked before park again, since nothing has changed for them, and the new readers find what they
would have found without the writer. So the writer leaves no trace, neither in the numbers that the
program keeps nor in any order of the looks
(`LockThreads.interrupted_writer_leaves_no_trace`).

It does not matter who holds the lock, whether other writers wait, or whether the count of readers
is negative: the argument only needs that whoever is parked is parked for a reason.

The two sides are compared by `WaitedLock.resolved`: what comes of the wake-up
(`WaitedLock.wakeWith`) is the lock to which the readers have come one after the other
(`WaitedLock.addReader`).
-/

namespace LoadLedger

/-! ## Readers that arrive -/

namespace WaitedLock

variable {w : WaitedLock}

/-- Readers that are admitted enter one after the other: none of them keeps out the next one. -/
theorem iterate_addReader_of_admits (h : w.lock.admitsReader = true) (k : Nat) :
    addReader^[k] w = { w with lock := { w.lock with readers := w.lock.readers + k } } := by
  induction k with
  | zero => rw [Function.iterate_zero_apply, Int.natCast_zero, Int.add_zero]
  | succ k ih =>
    have hstill : Lock.admitsReader { w.lock with readers := w.lock.readers + k } = true := h
    rw [Function.iterate_succ_apply', ih, addReader, lookAsReader, if_pos hstill]
    simp only [Lock.enterReader, Int.natCast_add, Int.natCast_one, Int.add_assoc]

/-- Readers that are kept out park one after the other. -/
theorem iterate_addReader_of_keptOut (h : w.lock.admitsReader = false) (k : Nat) :
    addReader^[k] w = { w with parkedReaders := w.parkedReaders + k } := by
  induction k with
  | zero => rfl
  | succ k ih =>
    rw [Function.iterate_succ_apply', ih, addReader, lookAsReader,
      if_neg (Bool.eq_false_iff.mp h)]
    rfl

/-- Nobody is woken by readers that arrive. -/
theorem settled_iterate_addReader (h : w.Settled) (k : Nat) : (addReader^[k] w).Settled := by
  cases hadmits : w.lock.admitsReader with
  | true =>
    rw [iterate_addReader_of_admits hadmits]
    exact h
  | false =>
    rw [iterate_addReader_of_keptOut hadmits]
    exact h

/-! ## A writer that comes and goes -/

/-- A writer that is kept out announces itself and parks. -/
theorem addWriter_of_keptOut (h : w.admits .write = false) :
    w.addWriter =
      { w with lock := w.lock.announceWriter, parkedWriters := w.parkedWriters + 1 } := by
  have hkept : w.lock.announceWriter.admitsWriter = false := h
  rw [addWriter, lookAsWriter, if_neg (Bool.eq_false_iff.mp hkept)]

/-- A writer that has announced itself keeps out all readers. -/
theorem admitsReader_announceWriter (l : Lock) : l.announceWriter.admitsReader = false := by
  rw [Lock.admitsReader, Bool.and_eq_false_iff]
  exact .inr rfl

/-- Behind a writer that waits all readers park. -/
theorem iterate_addReader_addWriter (h : w.admits .write = false) (k : Nat) :
    addReader^[k] w.addWriter =
      { w with
        lock := w.lock.announceWriter
        parkedReaders := w.parkedReaders + k
        parkedWriters := w.parkedWriters + 1 } := by
  rw [addWriter_of_keptOut h]
  exact iterate_addReader_of_keptOut (admitsReader_announceWriter w.lock) k

/-- Everybody is woken, and so many readers more. -/
def wakeWith (w : WaitedLock) (k : Nat) : WaitedLock :=
  { w with parkedReaders := w.parkedReaders + k }.notifyAll

/-- **Giving up undoes the announcement.** Only the new readers are more than there were, and
everybody is woken. -/
theorem interruptWriter?_of_keptOut (h : w.admits .write = false) (k : Nat) :
    (addReader^[k] w.addWriter).interruptWriter? = some (w.wakeWith k) := by
  rw [iterate_addReader_addWriter h, interruptWriter?, if_pos (Nat.succ_pos _)]
  rfl

/-- **What comes of the wake-up is what the readers would have come to** without the writer. -/
theorem Justified.resolved_wakeWith (h : w.Justified) (hsettled : w.Settled)
    (hblocked : w.admits .write = false) (k : Nat) :
    (w.wakeWith k).resolved = addReader^[k] w := by
  obtain ⟨hreaders, hwriters⟩ := hsettled
  cases hadmits : w.lock.admitsReader with
  | true =>
    -- where readers are admitted none was parked, or he would have been kept out
    have hnone : w.parkedReaders = 0 := by
      refine Nat.eq_zero_of_not_pos fun hparked => ?_
      have hkept : w.lock.admitsReader = false := h.keptOut .read (Int.natCast_pos.mpr hparked)
      rw [hadmits] at hkept
      cases hkept
    rw [resolved_of_admitsReader (w := w.wakeWith k) (fun _ => hblocked) hadmits,
      iterate_addReader_of_admits hadmits]
    ext <;> simp [wakeWith, WaitedLock.notifyAll, waitingWriters, hreaders, hwriters, hnone]
  | false =>
    rw [resolved_of_admitsNobody (w := w.wakeWith k) (fun _ => hblocked) hadmits,
      iterate_addReader_of_keptOut hadmits]
    ext <;> simp [wakeWith, WaitedLock.notifyAll, waitingReaders, waitingWriters, hreaders,
      hwriters]

/-- **By the numbers the writer leaves no trace**: the lock settles as with the readers alone. -/
theorem Justified.settle_interrupted (h : w.Justified) (hsettled : w.Settled)
    (hblocked : w.admits .write = false) (k : Nat) :
    ∃ left, (addReader^[k] w.addWriter).interruptWriter? = some left ∧
      left.settle = addReader^[k] w := by
  refine ⟨_, interruptWriter?_of_keptOut hblocked k, ?_⟩
  have hleft : (w.wakeWith k).Justified := .notifyAll h.announced
  rw [hleft.settle_eq_resolved, h.resolved_wakeWith hsettled hblocked]

end WaitedLock

/-! ## Threads -/

namespace LockThreads

variable {s : LockThreads}

/-- Threads arrive as readers, one after the other. -/
def arriveAll (s : LockThreads) (readers : List Nat) : LockThreads :=
  s.performAll (readers.map fun reader => .arrive reader .read)

/-- An arrival is no business of the other threads. -/
theorem stage_arrive {thread other : Nat} (mode : Lock.Mode) (hne : thread ≠ other) :
    (s.perform (.arrive thread mode)).stages[other]? = s.stages[other]? := by
  rw [perform]
  split
  · exact List.getElem?_set_ne hne
  · rfl

/-- What `perform` does for a thread that comes from outside. -/
theorem perform_arrive {thread : Nat} (mode : Lock.Mode)
    (h : s.stages[thread]? = some .outside) :
    s.perform (.arrive thread mode) =
      ⟨s.waited.acquire mode, s.stages.set thread (s.waited.stageFor mode)⟩ := by
  rw [perform, h]

theorem stage_arriveAll {readers : List Nat} {thread : Nat} (h : thread ∉ readers) :
    (s.arriveAll readers).stages[thread]? = s.stages[thread]? := by
  induction readers generalizing s with
  | nil => rfl
  | cons reader readers ih =>
    obtain ⟨hne, hrest⟩ := List.ne_and_not_mem_of_not_mem_cons h
    exact (ih hrest).trans (stage_arrive .read (Ne.symm hne))

/-- Threads that come from outside are so many readers more. -/
theorem waited_arriveAll {readers : List Nat} (hdistinct : readers.Nodup)
    (houtside : ∀ reader ∈ readers, s.stages[reader]? = some .outside) :
    (s.arriveAll readers).waited = WaitedLock.addReader^[readers.length] s.waited := by
  induction readers generalizing s with
  | nil => rfl
  | cons reader readers ih =>
    obtain ⟨hfirst, hrest⟩ := List.nodup_cons.mp hdistinct
    obtain ⟨hreader, hothers⟩ := List.forall_mem_cons.mp houtside
    have harrived : (s.perform (.arrive reader .read)).waited = s.waited.addReader := by
      rw [perform_arrive .read hreader]
      rfl
    have hstill : ∀ other ∈ readers,
        (s.perform (.arrive reader .read)).stages[other]? = some .outside := by
      intro other hother
      rw [stage_arrive .read (ne_of_mem_of_not_mem hother hfirst).symm]
      exact hothers other hother
    rw [List.length_cons, Function.iterate_succ_apply, ← harrived]
    exact ih hrest hstill

/-- The same behind a writer that has come before. -/
theorem waited_arriveAll_arrive {writer : Nat} {readers : List Nat}
    (hdistinct : (writer :: readers).Nodup)
    (houtside : ∀ thread ∈ writer :: readers, s.stages[thread]? = some .outside) :
    ((s.perform (.arrive writer .write)).arriveAll readers).waited =
      WaitedLock.addReader^[readers.length] s.waited.addWriter := by
  obtain ⟨hnew, hdistinct⟩ := List.nodup_cons.mp hdistinct
  obtain ⟨hwriter, houtside⟩ := List.forall_mem_cons.mp houtside
  have harrived : (s.perform (.arrive writer .write)).waited = s.waited.addWriter := by
    rw [perform_arrive .write hwriter]
    rfl
  rw [← harrived]
  refine waited_arriveAll hdistinct fun reader hreader => ?_
  rw [stage_arrive .write (ne_of_mem_of_not_mem hreader hnew).symm]
  exact houtside reader hreader

/-- A writer that is kept out parks, and it is parked still when readers have come. -/
theorem stage_writer_of_keptOut {writer : Nat} {readers : List Nat}
    (hblocked : s.waited.admits .write = false) (hnew : writer ∉ readers)
    (hwriter : s.stages[writer]? = some .outside) :
    ((s.perform (.arrive writer .write)).arriveAll readers).stages[writer]? =
      some (.parked .write) := by
  obtain ⟨hlt, -⟩ := List.getElem?_eq_some_iff.mp hwriter
  have hstage : s.waited.stageFor .write = .parked .write := by
    rw [WaitedLock.stageFor, hblocked]
    rfl
  refine (stage_arriveAll hnew).trans ?_
  rw [perform_arrive .write hwriter, hstage]
  exact List.getElem?_set_self hlt

theorem Attended.arriveAll (h : s.Attended) (readers : List Nat) :
    (s.arriveAll readers).Attended :=
  h.performAll _

/-- The lock tells how many threads are parked. -/
theorem Attended.count_parked (h : s.Attended) {t : LockThreads} (h' : t.Attended)
    (hwaited : s.waited = t.waited) (mode : Lock.Mode) :
    s.stages.count (.parked mode) = t.stages.count (.parked mode) := by
  have hnumber := h.numbers (.parked mode) trivial
  have hnumber' := h'.numbers (.parked mode) trivial
  rw [hwaited] at hnumber
  omega

/-- A writer that is interrupted while it is parked. -/
theorem waited_interrupt {thread : Nat} {waited : WaitedLock}
    (hparked : s.stages[thread]? = some (.parked .write))
    (hinterrupt : s.waited.interruptWriter? = some waited) :
    (s.perform (.interrupt thread)).waited = waited := by
  rw [perform, hparked]
  dsimp only
  rw [hinterrupt]

/-! ## The result -/

/-- **A writer that is interrupted leaves no trace.** After any calls of any number of threads,
balanced or not, once nobody is woken who has not looked again, and where a writer would have to
wait: let a writer arrive, then any number of readers, and then interrupt a writer.

* By the numbers that the program keeps, the lock settles as it would have with the readers alone.
* Thread by thread, the writer that arrives parks, and everything is settled with it as it is
  without it. Whichever of the writers is interrupted, those who are woken come to an end of their
  looks, and in whatever order they look, the lock is then the one that the readers alone would have
  left, with as many readers and as many writers that wait. -/
theorem interrupted_writer_leaves_no_trace (threads : Nat) (calls : List LockCall) :
    let s := ofCalls threads calls
    s.Settled → s.waited.admits .write = false →
    (∀ k, ∃ left, (WaitedLock.addReader^[k] s.waited.addWriter).interruptWriter? = some left ∧
      left.settle = WaitedLock.addReader^[k] s.waited) ∧
    ∀ (writer : Nat) (readers : List Nat), (writer :: readers).Nodup →
      (∀ thread ∈ writer :: readers, s.stages[thread]? = some .outside) →
      let plain := s.arriveAll readers
      let crowded := (s.perform (.arrive writer .write)).arriveAll readers
      plain.Settled ∧ crowded.Settled ∧
        crowded.stages[writer]? = some (.parked .write) ∧
        ∀ other, crowded.stages[other]? = some (.parked .write) →
          let left := crowded.perform (.interrupt other)
          (∃ order, left.InTurn order ∧ (left.lookAll order).Settled) ∧
          ∀ order, left.InTurn order → (left.lookAll order).Settled →
            (left.lookAll order).waited = plain.waited ∧
            ∀ mode, (left.lookAll order).stages.count (.parked mode) =
              plain.stages.count (.parked mode) := by
  intro s hsettled hblocked
  have hattended : s.Attended := (attended_free threads).callAll calls
  have hquiet : s.waited.Settled := hattended.settled_iff.mp hsettled
  refine ⟨hattended.justified.settle_interrupted hquiet hblocked, ?_⟩
  intro writer readers hdistinct houtside plain crowded
  -- with the writer in front, all readers park behind it
  have hcrowded : crowded.waited =
      WaitedLock.addReader^[readers.length] s.waited.addWriter :=
    waited_arriveAll_arrive hdistinct houtside
  obtain ⟨hnew, hdistinct⟩ := List.nodup_cons.mp hdistinct
  obtain ⟨hwriter, houtside⟩ := List.forall_mem_cons.mp houtside
  have hplain : plain.waited = WaitedLock.addReader^[readers.length] s.waited :=
    waited_arriveAll hdistinct houtside
  have hattendedPlain : plain.Attended := hattended.arriveAll readers
  have hattendedCrowded : crowded.Attended := (hattended.perform _).arriveAll readers
  refine ⟨?_, ?_, stage_writer_of_keptOut hblocked hnew hwriter, ?_⟩
  · rw [hattendedPlain.settled_iff, hplain]
    exact WaitedLock.settled_iterate_addReader hquiet _
  · rw [hattendedCrowded.settled_iff, hcrowded, WaitedLock.iterate_addReader_addWriter hblocked]
    exact hquiet
  · intro other hother left
    have hattendedLeft : left.Attended := hattendedCrowded.perform _
    -- whichever writer gives up, the lock is left as if no writer had come, with everybody woken
    have hleft : left.waited.resolved = plain.waited := by
      have hinterrupt := WaitedLock.interruptWriter?_of_keptOut hblocked readers.length
      rw [← hcrowded] at hinterrupt
      rw [waited_interrupt hother hinterrupt, hplain]
      exact hattended.justified.resolved_wakeWith hquiet hblocked _
    refine ⟨hattendedLeft.exists_order, ?_⟩
    intro order hturn hover
    have hwaited : (left.lookAll order).waited = plain.waited :=
      (hattendedLeft.waited_of_settled_lookAll hturn hover).trans hleft
    exact ⟨hwaited, (hattendedLeft.lookAll hturn).1.count_parked hattendedPlain hwaited⟩

/-- A stray release has made the count of readers negative, so that a writer has to wait though
nobody holds the lock. -/
def negativeCount : List LockCall :=
  [.release .read]

/-- The reader that came after the writer enters once the writer is interrupted, which brings the
count back to zero, as it would have at once without the writer. With a writer that waits already
the reader goes on waiting, whichever of the two writers is interrupted. -/
theorem no_trace_negativeCount :
    let s := ofCalls 3 negativeCount
    let queued := ofCalls 3 (negativeCount ++ [.action (.arrive 0 .write)])
    let left := ((s.perform (.arrive 1 .write)).arriveAll [2]).perform (.interrupt 1)
    (left.lookAll [2]).waited = (s.arriveAll [2]).waited ∧
      (left.lookAll [2]).waited.lock = ⟨0, false, 0⟩ ∧
      ∀ other ∈ [0, 1], ∃ order,
        let left := ((queued.perform (.arrive 1 .write)).arriveAll [2]).perform (.interrupt other)
        (left.lookAll order).waited = ⟨⟨-1, false, 1⟩, 1, 1, 0, 0⟩ := by
  intro s queued left
  obtain ⟨-, hthreads⟩ :=
    interrupted_writer_leaves_no_trace 3 negativeCount (by decide) (by decide)
  obtain ⟨-, -, hparked, hleft⟩ := hthreads 1 [2] (by decide) (by decide)
  obtain ⟨-, hsame⟩ := hleft 1 hparked
  obtain ⟨hwaited, -⟩ := hsame [2] ⟨⟨.read, by decide⟩, trivial⟩ (by decide)
  refine ⟨hwaited, by rw [hwaited]; decide, ?_⟩
  -- with a writer that waits already, either of the two may be the one that gives up
  intro other hother
  obtain ⟨-, hthreads⟩ := interrupted_writer_leaves_no_trace 3
    (negativeCount ++ [.action (.arrive 0 .write)]) (by decide) (by decide)
  obtain ⟨-, -, -, hleft⟩ := hthreads 1 [2] (by decide) (by decide)
  have hparked : ((queued.perform (.arrive 1 .write)).arriveAll [2]).stages[other]? =
      some (.parked .write) := by
    revert other
    decide
  obtain ⟨⟨order, hturn, hover⟩, hsame⟩ := hleft other hparked
  exact ⟨order, (hsame order hturn hover).1.trans (by decide)⟩

end LockThreads

end LoadLedger
