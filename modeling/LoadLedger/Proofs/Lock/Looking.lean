import LoadLedger.Proofs.Lock.Wakeup

/-!
# The order of looking

A notification wakes everybody who is parked, and nobody can foretell in which order the woken
threads look again. The order does not show. What comes of it in the end is known from the
beginning (`WaitedLock.resolved`): one writer enters if writers may, or else all readers do if
readers may, or else everybody parks again. No look changes it (`WaitedLock.resolved_recheck`),
since readers and writers are never both admitted while a writer waits: a reader that looks first is
kept out by the writers that are announced, and one that looks last by the writer that has entered.

A look wakes nobody. So there are as many looks as there are woken threads, and whoever counts them
knows when the lock has settled (`LockThreads.looks_in_any_order`).

An order of looks is a list of threads, each of which is woken when it is his turn
(`LockThreads.InTurn`). `Attended.lookAll` follows such an order to its end.
-/

namespace LoadLedger

namespace WaitedLock

/-- The number of threads that were notified and have not looked again. -/
def woken (w : WaitedLock) : Nat :=
  w.wokenReaders + w.wokenWriters

/-- What comes of it once everybody who is woken has looked. -/
def resolved (w : WaitedLock) : WaitedLock :=
  if 0 < w.wokenWriters ∧ w.lock.admitsWriter = true then
    ⟨w.lock.enterWriter, w.waitingReaders, w.waitingWriters - 1, 0, 0⟩
  else if w.lock.admitsReader = true then
    ⟨{ w.lock with readers := w.lock.readers + w.wokenReaders }, w.parkedReaders, w.waitingWriters,
      0, 0⟩
  else ⟨w.lock, w.waitingReaders, w.waitingWriters, 0, 0⟩

section

variable {w : WaitedLock}

/-- A woken writer enters if writers may. -/
theorem resolved_of_admitsWriter (hwoken : 0 < w.wokenWriters)
    (hadmits : w.lock.admitsWriter = true) :
    w.resolved = ⟨w.lock.enterWriter, w.waitingReaders, w.waitingWriters - 1, 0, 0⟩ :=
  if_pos ⟨hwoken, hadmits⟩

/-- Otherwise all woken readers enter if readers may. -/
theorem resolved_of_admitsReader (hwriter : 0 < w.wokenWriters → w.lock.admitsWriter = false)
    (hadmits : w.lock.admitsReader = true) :
    w.resolved = ⟨{ w.lock with readers := w.lock.readers + w.wokenReaders }, w.parkedReaders,
      w.waitingWriters, 0, 0⟩ := by
  rw [resolved, if_neg fun hboth => Bool.eq_false_iff.mp (hwriter hboth.1) hboth.2, if_pos hadmits]

/-- Otherwise everybody parks. -/
theorem resolved_of_admitsNobody (hwriter : 0 < w.wokenWriters → w.lock.admitsWriter = false)
    (hreader : w.lock.admitsReader = false) :
    w.resolved = ⟨w.lock, w.waitingReaders, w.waitingWriters, 0, 0⟩ := by
  rw [resolved, if_neg fun hboth => Bool.eq_false_iff.mp (hwriter hboth.1) hboth.2,
    if_neg (Bool.eq_false_iff.mp hreader)]

/-- While a writer is woken no reader is admitted. -/
theorem admitsReader_of_wokenWriters (h : w.lock.writersWaiting = w.waitingWriters)
    (hwoken : 0 < w.wokenWriters) : w.lock.admitsReader = false := by
  have hsome : (w.lock.writersWaiting == 0) = false := by
    rw [beq_eq_false_iff_ne, h, waitingWriters]
    omega
  rw [Lock.admitsReader, hsome, Bool.and_false]

/-! ## One look -/

/-- A writer that looks enters, and then it is the one that `resolved` speaks of, or else it parks
as it would have done in the end. -/
theorem resolved_recheckWriter (h : w.lock.writersWaiting = w.waitingWriters)
    (hwoken : 0 < w.wokenWriters) : w.recheckWriter.resolved = w.resolved := by
  have hreader := admitsReader_of_wokenWriters h hwoken
  rw [recheckWriter, lookAsWriter]
  dsimp only
  cases hadmits : w.lock.admitsWriter with
  | true =>
    -- the writer that enters keeps out all those who look after it
    rw [if_pos rfl, resolved_of_admitsWriter hwoken hadmits,
      resolved_of_admitsNobody (fun _ => rfl) rfl]
    simp only [waitingReaders, waitingWriters, WaitedLock.mk.injEq, true_and, and_true]
    omega
  | false =>
    rw [if_neg Bool.false_ne_true]
    refine Eq.trans (resolved_of_admitsNobody (fun _ => hadmits) hreader) ?_
    rw [resolved_of_admitsNobody (fun _ => hadmits) hreader]
    simp only [waitingReaders, waitingWriters, WaitedLock.mk.injEq, true_and, and_true]
    omega

/-- A reader that looks enters only where all woken readers do, and parks only where they all
park. -/
theorem resolved_recheckReader (h : w.lock.writersWaiting = w.waitingWriters)
    (hwoken : 0 < w.wokenReaders) : w.recheckReader.resolved = w.resolved := by
  rw [recheckReader, lookAsReader]
  dsimp only
  cases hadmits : w.lock.admitsReader with
  | true =>
    -- a reader is admitted only where no writer is left to look
    have hnone : ¬0 < w.wokenWriters := by
      intro hwriter
      rw [admitsReader_of_wokenWriters h hwriter] at hadmits
      cases hadmits
    rw [if_pos rfl]
    refine Eq.trans (resolved_of_admitsReader (fun hwriter => absurd hwriter hnone) hadmits) ?_
    rw [resolved_of_admitsReader (fun hwriter => absurd hwriter hnone) hadmits]
    simp only [waitingWriters, Lock.enterReader, WaitedLock.mk.injEq, Lock.mk.injEq, and_true]
    omega
  | false =>
    rw [if_neg Bool.false_ne_true]
    -- a reader that parks leaves the lock to the writers as it was
    by_cases hwriter : 0 < w.wokenWriters ∧ w.lock.admitsWriter = true
    · refine Eq.trans (resolved_of_admitsWriter hwriter.1 hwriter.2) ?_
      rw [resolved_of_admitsWriter hwriter.1 hwriter.2]
      simp only [waitingReaders, waitingWriters, WaitedLock.mk.injEq, true_and, and_true]
      omega
    · have hkept : 0 < w.wokenWriters → w.lock.admitsWriter = false := by
        intro hwoken
        exact Bool.eq_false_iff.mpr fun hadmitted => hwriter ⟨hwoken, hadmitted⟩
      refine Eq.trans (resolved_of_admitsNobody hkept hadmits) ?_
      rw [resolved_of_admitsNobody hkept hadmits]
      simp only [waitingReaders, waitingWriters, WaitedLock.mk.injEq, true_and, and_true]
      omega

/-- **No look changes what comes of it.** -/
theorem resolved_recheck (h : w.lock.writersWaiting = w.waitingWriters) {mode : Lock.Mode}
    (hwoken : 0 < w.number (.woken mode)) : (w.recheck mode).resolved = w.resolved := by
  cases mode with
  | read => exact resolved_recheckReader h (Int.natCast_pos.mp hwoken)
  | write => exact resolved_recheckWriter h (Int.natCast_pos.mp hwoken)

/-- Where nobody is woken nothing is left to come. -/
theorem resolved_of_settled (h : w.Settled) : w.resolved = w := by
  obtain ⟨hreaders, hwriters⟩ := h
  have hnone : 0 < w.wokenWriters → w.lock.admitsWriter = false := by
    intro hwoken
    rw [hwriters] at hwoken
    cases hwoken
  cases hadmits : w.lock.admitsReader with
  | true =>
    rw [resolved_of_admitsReader hnone hadmits]
    ext <;> simp [waitingWriters, hreaders, hwriters]
  | false =>
    rw [resolved_of_admitsNobody hnone hadmits]
    ext <;> simp [waitingReaders, waitingWriters, hreaders, hwriters]

/-- `WaitedLock.woken` counts what `WaitedLock.Settled` excludes. -/
theorem woken_eq_zero_iff : w.woken = 0 ↔ w.Settled :=
  Nat.add_eq_zero_iff

/-- Whoever looks is woken no longer, and wakes nobody. -/
theorem woken_recheck {mode : Lock.Mode} (hwoken : 0 < w.number (.woken mode)) :
    (w.recheck mode).woken + 1 = w.woken := by
  have hshift := shifts_recheck hwoken
  have hreaders := hshift (.woken .read) LockStage.noConfusion
  have hwriters := hshift (.woken .write) LockStage.noConfusion
  -- nobody is woken by a look: he enters or parks
  have hnew : ∀ other, w.stageFor mode ≠ .woken other := by
    intro other
    rw [stageFor]
    split <;> exact LockStage.noConfusion
  rw [if_neg (hnew _)] at hreaders hwriters
  simp only [number] at hreaders hwriters
  rw [woken, woken]
  cases mode with
  | read =>
    simp only [if_true, reduceCtorEq, LockStage.woken.injEq, if_false] at hreaders hwriters
    omega
  | write =>
    simp only [if_true, reduceCtorEq, LockStage.woken.injEq, if_false] at hreaders hwriters
    omega

/-! ## The order of the program -/

/-- Those who look with the writers first come to what comes of it in any order. -/
theorem settleFor_eq_resolved (hjustified : w.Justified) {fuel : Nat} (hfuel : w.woken ≤ fuel) :
    settleFor fuel w = w.resolved := by
  -- By induction on the number of looks that are left. Each look takes one of the woken threads.
  induction fuel generalizing w with
  | zero => exact (resolved_of_settled (woken_eq_zero_iff.mp (Nat.le_zero.mp hfuel))).symm
  | succ fuel ih =>
    have hstep : ∀ mode, 0 < w.number (.woken mode) →
        settleFor fuel (w.recheck mode) = w.resolved := by
      intro mode hwoken
      have hless := woken_recheck hwoken
      rw [ih (hjustified.recheck hwoken) (by omega), resolved_recheck hjustified.announced hwoken]
    rw [settleFor]
    split
    · rename_i hwriters
      exact hstep .write (Int.natCast_pos.mpr hwriters)
    · split
      · rename_i hreaders
        exact hstep .read (Int.natCast_pos.mpr hreaders)
      · rename_i hwriters hreaders
        exact (resolved_of_settled ⟨Nat.eq_zero_of_not_pos hreaders,
          Nat.eq_zero_of_not_pos hwriters⟩).symm

/-- So what the program settles in is what is known from the beginning. -/
theorem Justified.settle_eq_resolved (h : w.Justified) : w.settle = w.resolved :=
  settleFor_eq_resolved h (Nat.le_refl _)

end

end WaitedLock

/-! ## Threads in turn -/

namespace LockThreads

/-- The number of threads that were notified and have not looked again. -/
def woken (s : LockThreads) : Nat :=
  s.stages.count (.woken .read) + s.stages.count (.woken .write)

/-- Threads look again, one after the other. -/
def lookAll (s : LockThreads) (order : List Nat) : LockThreads :=
  order.foldl (fun s thread => s.perform (.recheck thread)) s

/-- Is a thread woken? -/
def IsWoken (s : LockThreads) (thread : Nat) : Prop :=
  ∃ mode, s.stages[thread]? = some (.woken mode)

/-- Whoever looks is woken when it is his turn. -/
def InTurn (s : LockThreads) : List Nat → Prop
  | [] => True
  | thread :: order => s.IsWoken thread ∧ (s.perform (.recheck thread)).InTurn order

section

variable {s : LockThreads} {thread : Nat}

/-- What `perform` does for a thread that is woken. -/
theorem perform_recheck {mode : Lock.Mode} (h : s.stages[thread]? = some (.woken mode)) :
    s.perform (.recheck thread) =
      ⟨s.waited.recheck mode, s.stages.set thread (s.waited.stageFor mode)⟩ := by
  rw [perform, h]

/-- One order after another is in turn if each of them is, the second one after the first. -/
theorem inTurn_append {order more : List Nat} :
    s.InTurn (order ++ more) ↔ s.InTurn order ∧ (s.lookAll order).InTurn more := by
  induction order generalizing s with
  | nil => exact (and_iff_right trivial).symm
  | cons thread order ih => rw [List.cons_append, InTurn, InTurn, ih, and_assoc]; rfl

namespace Attended

/-- The lock knows how many threads are woken. -/
theorem woken_eq (h : s.Attended) : s.waited.woken = s.woken := by
  have hreaders : (s.waited.wokenReaders : Int) = s.stages.count (.woken .read) :=
    h.numbers (.woken .read) trivial
  have hwriters : (s.waited.wokenWriters : Int) = s.stages.count (.woken .write) :=
    h.numbers (.woken .write) trivial
  rw [WaitedLock.woken, LockThreads.woken]
  omega

/-- A state is settled when nobody is woken. -/
theorem settled_iff (h : s.Attended) : s.Settled ↔ s.waited.Settled := by
  rw [← WaitedLock.woken_eq_zero_iff, h.woken_eq, LockThreads.woken, Nat.add_eq_zero_iff,
    List.count_eq_zero, List.count_eq_zero]
  rfl

/-- In a state that is not settled somebody can look. -/
theorem exists_isWoken (h : ¬s.Settled) : ∃ thread, s.IsWoken thread := by
  have hmem : ∃ mode, .woken mode ∈ s.stages := by
    refine Classical.byContradiction fun hnone => ?_
    exact h ⟨fun hreader => hnone ⟨_, hreader⟩, fun hwriter => hnone ⟨_, hwriter⟩⟩
  obtain ⟨mode, hmode⟩ := hmem
  obtain ⟨thread, hthread⟩ := List.getElem?_of_mem hmode
  exact ⟨thread, mode, hthread⟩

/-- A thread that looks in its turn is woken no longer, and changes nothing of what comes of it. -/
theorem look (h : s.Attended) (hwoken : s.IsWoken thread) :
    (s.perform (.recheck thread)).Attended ∧
      (s.perform (.recheck thread)).waited.woken + 1 = s.waited.woken ∧
      (s.perform (.recheck thread)).waited.resolved = s.waited.resolved := by
  obtain ⟨mode, hthread⟩ := hwoken
  have hpos : 0 < s.waited.number (.woken mode) :=
    number_pos_of_thread hthread (h.numbers _ trivial)
  refine ⟨h.perform _, ?_⟩
  rw [perform_recheck hthread]
  exact ⟨WaitedLock.woken_recheck hpos,
    WaitedLock.resolved_recheck h.justified.announced hpos⟩

/-- **What comes of a notification is kept by every look**, and there is one woken thread less after
each. -/
theorem lookAll (h : s.Attended) {order : List Nat} (hturn : s.InTurn order) :
    (s.lookAll order).Attended ∧
      (s.lookAll order).waited.woken + order.length = s.waited.woken ∧
      (s.lookAll order).waited.resolved = s.waited.resolved := by
  induction order generalizing s with
  | nil => exact ⟨h, rfl, rfl⟩
  | cons thread order ih =>
    obtain ⟨hwoken, hrest⟩ := hturn
    obtain ⟨hattended, hless, hsame⟩ := h.look hwoken
    obtain ⟨hend, hcount, hresolved⟩ := ih hattended hrest
    refine ⟨hend, ?_, hresolved.trans hsame⟩
    rw [← hless, ← hcount, List.length_cons, ← Nat.add_assoc]
    rfl

/-- An order is over exactly when everybody has had his turn. -/
theorem settled_lookAll_iff (h : s.Attended) {order : List Nat} (hturn : s.InTurn order) :
    (s.lookAll order).Settled ↔ order.length = s.woken := by
  obtain ⟨hend, hcount, -⟩ := h.lookAll hturn
  rw [hend.settled_iff, ← WaitedLock.woken_eq_zero_iff, ← h.woken_eq]
  omega

/-- Where an order is over, the lock is as it is resolved. -/
theorem waited_of_settled_lookAll (h : s.Attended) {order : List Nat} (hturn : s.InTurn order)
    (hsettled : (s.lookAll order).Settled) : (s.lookAll order).waited = s.waited.resolved := by
  obtain ⟨hend, -, hresolved⟩ := h.lookAll hturn
  rw [← hresolved]
  exact (WaitedLock.resolved_of_settled (hend.settled_iff.mp hsettled)).symm

/-- Everybody can have his turn. -/
theorem exists_order (h : s.Attended) :
    ∃ order, s.InTurn order ∧ (s.lookAll order).Settled := by
  -- By induction on the number of woken threads: whichever is found looks first.
  induction hwoken : s.waited.woken generalizing s with
  | zero => exact ⟨[], trivial, h.settled_iff.mpr (WaitedLock.woken_eq_zero_iff.mp hwoken)⟩
  | succ woken ih =>
    have hunsettled : ¬s.Settled := by
      rw [h.settled_iff, ← WaitedLock.woken_eq_zero_iff]
      omega
    obtain ⟨thread, hthread⟩ := exists_isWoken hunsettled
    obtain ⟨hattended, hless, -⟩ := h.look hthread
    obtain ⟨order, hturn, hsettled⟩ := ih hattended (by omega)
    exact ⟨thread :: order, ⟨hthread, hturn⟩, hsettled⟩

end Attended

end

/-! ## The result -/

/-- **The order of looking does not show.** After any calls of any number of threads, balanced or
not, and so after any call in a settled state, let the woken threads look again in any order:

* the order is over after as many looks as threads were woken, and not before: the lock has settled
  exactly then, and until then somebody is left who can look;
* where it is over, the lock's fields and the numbers of the readers and of the writers that wait
  are those that the program comes to, whichever order it was. -/
theorem looks_in_any_order (threads : Nat) (calls : List LockCall) :
    let s := ofCalls threads calls
    let final := s.waited.settle
    ∀ order, s.InTurn order →
      order.length ≤ s.woken ∧
      ((s.lookAll order).Settled ↔ order.length = s.woken) ∧
      (order.length < s.woken → ∃ thread, s.InTurn (order ++ [thread])) ∧
      ((s.lookAll order).Settled →
        (s.lookAll order).waited.lock = final.lock ∧
          (s.lookAll order).stages.count (.parked .read) = final.parkedReaders ∧
          (s.lookAll order).stages.count (.parked .write) = final.parkedWriters) := by
  intro s final order hturn
  have hattended : s.Attended := (attended_free threads).callAll calls
  obtain ⟨hend, hcount, -⟩ := hattended.lookAll hturn
  have hsettled := hattended.settled_lookAll_iff hturn
  have hwoken := hattended.woken_eq
  refine ⟨by omega, hsettled, fun hless => ?_, fun hover => ?_⟩
  · have hunsettled : ¬(s.lookAll order).Settled := by
      rw [hsettled]
      omega
    obtain ⟨thread, hthread⟩ := Attended.exists_isWoken hunsettled
    exact ⟨thread, inTurn_append.mpr ⟨hturn, hthread, trivial⟩⟩
  -- the numbers of the lock are known, and the stages follow them
  · have hfinal : (s.lookAll order).waited = final :=
      (hattended.waited_of_settled_lookAll hturn hover).trans
        hattended.justified.settle_eq_resolved.symm
    have hreaders : ((s.lookAll order).waited.parkedReaders : Int) =
        (s.lookAll order).stages.count (.parked .read) := hend.numbers (.parked .read) trivial
    have hwriters : ((s.lookAll order).waited.parkedWriters : Int) =
        (s.lookAll order).stages.count (.parked .write) := hend.numbers (.parked .write) trivial
    rw [hfinal] at hreaders hwriters
    exact ⟨congrArg WaitedLock.lock hfinal, (Int.ofNat_inj.mp hreaders).symm,
      (Int.ofNat_inj.mp hwriters).symm⟩

/-- A writer leaves while a reader and two writers wait for it. -/
def crowdedExit : List LockCall :=
  [.action (.arrive 0 .write), .action (.arrive 1 .read), .action (.arrive 2 .write),
    .action (.arrive 3 .write), .action (.leave 0)]

/-- Either of the two writers may be the one that enters, and the reader may look before or after
it. What can be seen of the lock is the same. -/
theorem looks_crowdedExit :
    let s := ofCalls 4 crowdedExit
    (s.lookAll [1, 2, 3]).stages ≠ (s.lookAll [3, 1, 2]).stages ∧
      ∀ order ∈ [[1, 2, 3], [3, 1, 2]],
        (s.lookAll order).Settled ∧ (s.lookAll order).waited.lock = s.waited.settle.lock ∧
          (s.lookAll order).stages.count (.parked .write) = s.waited.settle.parkedWriters := by
  refine ⟨by decide, ?_⟩
  intro order horder
  have hcases : order = [1, 2, 3] ∨ order = [3, 1, 2] := by simpa using horder
  have hturn : (ofCalls 4 crowdedExit).InTurn order := by
    rcases hcases with rfl | rfl
    · exact ⟨⟨.read, by decide⟩, ⟨.write, by decide⟩, ⟨.write, by decide⟩, trivial⟩
    · exact ⟨⟨.write, by decide⟩, ⟨.read, by decide⟩, ⟨.write, by decide⟩, trivial⟩
  have hlength : order.length = (ofCalls 4 crowdedExit).woken := by
    rcases hcases with rfl | rfl <;> decide
  obtain ⟨-, hsettled, -, hsame⟩ := looks_in_any_order 4 crowdedExit order hturn
  obtain ⟨hlock, -, hwriters⟩ := hsame (hsettled.mpr hlength)
  exact ⟨hsettled.mpr hlength, hlock, hwriters⟩

end LockThreads

end LoadLedger
