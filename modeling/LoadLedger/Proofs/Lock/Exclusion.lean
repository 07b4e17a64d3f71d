import LoadLedger.Proofs.Lock.Threads

/-!
# Exclusion

Whatever the threads do, and in whatever order, the lock's fields are the numbers of threads that
hold the lock or wait for it, a writer holds it alone, and readers share it with nobody but readers
(`LockThreads.mutual_exclusion`). The invariant is `LockThreads.Sound`: the lock counts its threads,
and it is guarded. Both survive a new arrival between a notification and the second look of those
who were woken, since whoever looks goes by the fields alone.

`LockThreads.Sound` is shown section by section (`Sound.arrive`, `Sound.recheck`,
`Sound.leaveReader`, `Sound.leaveWriter`, `Sound.interruptParked`, `Sound.interruptWoken`), and put
together along `LockThreads.Step`.
-/

namespace LoadLedger.LockThreads

/-! ## Counting stages -/

section Counting

variable {stages : List LockStage} {thread : Nat} {old : LockStage}

/-- When a thread passes from one stage to another, one number falls and one rises. -/
theorem count_set (h : stages[thread]? = some old) (new stage : LockStage) :
    (stages.set thread new).count stage + (if old = stage then 1 else 0) =
      stages.count stage + if new = stage then 1 else 0 := by
  obtain ⟨hlt, hget⟩ := List.getElem?_eq_some_iff.mp h
  have hset := List.count_set (a := new) (b := stage) hlt
  rw [hget] at hset
  by_cases hold : old = stage
  · have hpos : 0 < stages.count stage :=
      List.count_pos_iff.mpr (hold ▸ List.mem_of_getElem? h)
    simp only [hold, beq_self_eq_true, if_true, beq_iff_eq] at hset ⊢
    omega
  · simp only [hold, if_false, beq_iff_eq] at hset ⊢
    omega

/-! A notification moves those who are parked, and nobody else. -/

theorem count_holding_map_wake (stages : List LockStage) (mode : Lock.Mode) :
    (stages.map LockStage.wake).count (.holding mode) = stages.count (.holding mode) := by
  rw [List.count, List.countP_map]
  refine List.countP_congr fun stage _ => ?_
  cases stage <;> simp [LockStage.wake]

theorem count_parked_map_wake (stages : List LockStage) (mode : Lock.Mode) :
    (stages.map LockStage.wake).count (.parked mode) = 0 := by
  rw [List.count_eq_zero, List.mem_map]
  rintro ⟨stage, -, hstage⟩
  cases stage <;> cases hstage

theorem count_woken_map_wake (stages : List LockStage) (mode : Lock.Mode) :
    (stages.map LockStage.wake).count (.woken mode) =
      stages.count (.woken mode) + stages.count (.parked mode) := by
  induction stages with
  | nil => rfl
  | cons stage stages ih =>
    rw [List.map_cons, List.count_cons, List.count_cons, List.count_cons, ih]
    cases stage with
    | parked other =>
      simp only [LockStage.wake, beq_iff_eq, LockStage.woken.injEq, LockStage.parked.injEq,
        reduceCtorEq, if_false]
      omega
    | outside | woken | holding =>
      simp only [LockStage.wake, beq_iff_eq, LockStage.woken.injEq, reduceCtorEq, if_false]
      omega

/-! What the lock knows of a stage follows the threads. -/

variable {w after : WaitedLock} {stage : LockStage} {mode : Lock.Mode}

/-- At a stage where a thread is, a lock that knows the stage counts somebody. -/
theorem number_pos_of_thread (hthread : stages[thread]? = some stage)
    (hnumber : w.number stage = stages.count stage) : 0 < w.number stage := by
  have hcount : 0 < stages.count stage := List.count_pos_iff.mpr (List.mem_of_getElem? hthread)
  rw [hnumber]
  omega

/-- A thread passes from one stage to another, and the lock takes notice. -/
theorem number_eq_count_set {new : LockStage} (hthread : stages[thread]? = some old)
    (hnumber : w.number stage = stages.count stage)
    (hmoved : after.number stage + (if old = stage then 1 else 0) =
      w.number stage + if new = stage then 1 else 0) :
    after.number stage = (stages.set thread new).count stage := by
  have hcount := count_set hthread new stage
  -- what the count has become is an unknown from here on
  generalize (stages.set thread new).count stage = count at hcount ⊢
  by_cases hold : old = stage <;> by_cases hnew : new = stage <;>
    simp only [hold, hnew, if_true, if_false] at hmoved hcount <;> omega

/-- `notifyAll` leaves nobody parked, by the numbers of the lock as well as by the stages. -/
theorem number_parked_notifyAll (w : WaitedLock) (stages : List LockStage) (mode : Lock.Mode) :
    w.notifyAll.number (.parked mode) = (stages.map LockStage.wake).count (.parked mode) := by
  rw [count_parked_map_wake]
  cases mode <;> rfl

theorem number_woken_notifyAll
    (hparked : w.number (.parked mode) = stages.count (.parked mode))
    (hwoken : w.number (.woken mode) = stages.count (.woken mode)) :
    w.notifyAll.number (.woken mode) = (stages.map LockStage.wake).count (.woken mode) := by
  rw [count_woken_map_wake, Int.natCast_add, ← hwoken, ← hparked]
  cases mode <;> rfl

end Counting

/-! ## The invariant -/

/-- **The invariant.** The lock knows how many threads are at each stage, and it is guarded
(`WaitedLock.Guarded`). -/
structure Sound (s : LockThreads) : Prop where
  /-- Readers and writers keep out of each other's way. -/
  guarded : s.waited.Guarded
  /-- Whoever is inside is counted where he is. -/
  numbers : ∀ stage, stage ≠ .outside → s.waited.number stage = s.stages.count stage

theorem sound_free (threads : Nat) : (free threads).Sound := by
  refine ⟨WaitedLock.guarded_free, fun stage hstage => ?_⟩
  rw [free, List.count_replicate, if_neg (by simpa using Ne.symm hstage)]
  rcases stage with _ | ⟨_ | _⟩ | ⟨_ | _⟩ | ⟨_ | _⟩ <;> rfl

namespace Sound

variable {s : LockThreads} {a : LockAction} {waited : WaitedLock} {stages : List LockStage}
  {thread : Nat}

/-- At a stage where a thread is, the lock counts somebody. -/
theorem number_pos (h : s.Sound) {stage : LockStage} (hthread : s.stages[thread]? = some stage)
    (hstage : stage ≠ .outside) : 0 < s.waited.number stage :=
  number_pos_of_thread hthread (h.numbers stage hstage)

/-- A thread passes to another stage, and the lock takes notice. -/
theorem pass (h : s.Sound) {old new : LockStage} (hthread : s.stages[thread]? = some old)
    (hguarded : waited.Guarded) (hshift : s.waited.Shifts waited old new) :
    Sound ⟨waited, s.stages.set thread new⟩ := by
  refine ⟨hguarded, ?_⟩
  intro stage hstage
  exact number_eq_count_set hthread (h.numbers stage hstage) (hshift stage hstage)

/-- Everybody who is parked is woken. -/
theorem notifyAll (h : Sound ⟨waited, stages⟩) :
    Sound ⟨waited.notifyAll, stages.map LockStage.wake⟩ := by
  refine ⟨h.guarded.notifyAll, fun stage hstage => ?_⟩
  have hnumbers := h.numbers
  dsimp only at hnumbers ⊢
  cases stage with
  | outside => exact absurd rfl hstage
  | holding mode =>
    rw [count_holding_map_wake, ← hnumbers _ hstage]
    cases mode <;> rfl
  | parked mode => exact number_parked_notifyAll waited stages mode
  | woken mode =>
    exact number_woken_notifyAll (hnumbers (.parked mode) LockStage.noConfusion)
      (hnumbers _ hstage)

/-! ## One action -/

/-- A thread arrives. It passes from outside to where it finds its place. -/
theorem arrive (h : s.Sound) (mode : Lock.Mode) (hthread : s.stages[thread]? = some .outside) :
    Sound ⟨s.waited.acquire mode, s.stages.set thread (s.waited.stageFor mode)⟩ :=
  h.pass hthread (h.guarded.acquire mode) (s.waited.shifts_acquire mode)

theorem recheck (h : s.Sound) {mode : Lock.Mode}
    (hthread : s.stages[thread]? = some (.woken mode)) :
    Sound ⟨s.waited.recheck mode, s.stages.set thread (s.waited.stageFor mode)⟩ := by
  have hwoken := h.number_pos hthread LockStage.noConfusion
  exact h.pass hthread (h.guarded.recheck hwoken) (WaitedLock.shifts_recheck hwoken)

/-- A reader leaves. Only the last one notifies. -/
theorem leaveReader (h : s.Sound) (hthread : s.stages[thread]? = some (.holding .read)) :
    Sound ⟨s.waited.release .read,
      if Lock.Mode.read = .read ∧ s.waited.lock.leaveReader.readers ≠ 0
      then s.stages.set thread .outside
      else (s.stages.set thread .outside).map LockStage.wake⟩ := by
  have hholding := h.number_pos hthread LockStage.noConfusion
  have hleft := h.pass hthread (h.guarded.leaveReader hholding) s.waited.shifts_leaveReader
  rw [WaitedLock.release, WaitedLock.removeReader]
  -- readers who stay behind leave the parked threads asleep
  by_cases hlast : s.waited.lock.leaveReader.readers = 0
  · rw [if_pos hlast, if_neg fun hmore => hmore.2 hlast]
    exact hleft.notifyAll
  · rw [if_neg hlast, if_pos ⟨rfl, hlast⟩]
    exact hleft

theorem leaveWriter (h : s.Sound) (hthread : s.stages[thread]? = some (.holding .write)) :
    Sound ⟨s.waited.release .write, (s.stages.set thread .outside).map LockStage.wake⟩ := by
  have hholding := h.number_pos hthread LockStage.noConfusion
  have hleft := h.pass hthread h.guarded.leaveWriter (WaitedLock.shifts_leaveWriter hholding)
  exact hleft.notifyAll

/-- A parked writer gives up. The lock knows that there is one. -/
theorem interruptParked (h : s.Sound) (hthread : s.stages[thread]? = some (.parked .write)) :
    ∃ waited, s.waited.interruptWriter? = some waited ∧
      Sound ⟨waited, (s.stages.set thread .outside).map LockStage.wake⟩ := by
  have hparked : 0 < s.waited.parkedWriters :=
    Int.natCast_pos.mp (h.number_pos hthread LockStage.noConfusion)
  have hleft := h.pass hthread (h.guarded.withdrawParked hparked)
    (WaitedLock.shifts_withdrawParked hparked)
  exact ⟨_, if_pos hparked, hleft.notifyAll⟩

theorem interruptWoken (h : s.Sound) (hthread : s.stages[thread]? = some (.woken .write)) :
    Sound ⟨s.waited.interruptWoken, (s.stages.set thread .outside).map LockStage.wake⟩ := by
  have hwoken : 0 < s.waited.wokenWriters :=
    Int.natCast_pos.mp (h.number_pos hthread LockStage.noConfusion)
  have hleft := h.pass hthread (h.guarded.withdrawWoken hwoken)
    (WaitedLock.shifts_withdrawWoken hwoken)
  exact hleft.notifyAll

/-- All that an action can do keeps the invariant: one case for each of `LockThreads.Step`. -/
theorem step (h : s.Sound) {t : LockThreads} (hstep : s.Step a t) : t.Sound := by
  cases hstep with
  | idle => exact h
  | arrive mode hthread => exact h.arrive mode hthread
  | leave mode hthread =>
    cases mode with
    | read => exact h.leaveReader hthread
    | write => exact h.leaveWriter hthread
  | recheck mode hthread => exact h.recheck hthread
  | interruptParked hthread hinterrupt =>
    obtain ⟨waited, hknown, hsound⟩ := h.interruptParked hthread
    cases hinterrupt.symm.trans hknown
    exact hsound
  | interruptWoken hthread => exact h.interruptWoken hthread

/-- **Every action keeps the invariant**, whichever thread comes next. What it can be is
`LockThreads.Step`, and `step` goes through the cases. -/
theorem perform (h : s.Sound) (a : LockAction) : (s.perform a).Sound :=
  h.step (s.step_perform a)

theorem performAll (h : s.Sound) (actions : List LockAction) :
    (actions.foldl LockThreads.perform s).Sound := by
  induction actions generalizing s with
  | nil => exact h
  | cons a actions ih => exact ih (h.perform a)

/-- At most one thread holds the lock as a writer. -/
theorem count_write_le (h : s.Sound) : s.stages.count (.holding .write) ≤ 1 := by
  have hnumber : (s.waited.lock.writerActive.toNat : Int) = s.stages.count (.holding .write) :=
    h.numbers (.holding .write) LockStage.noConfusion
  have hle : s.waited.lock.writerActive.toNat ≤ 1 := Bool.toNat_le _
  omega

/-- A writer that holds the lock is the only one who does. -/
theorem holder_eq (h : s.Sound) {i j : Nat} {mode : Lock.Mode}
    (hi : s.stages[i]? = some (.holding .write)) (hj : s.stages[j]? = some (.holding mode)) :
    i = j := by
  cases mode with
  | read =>
    exfalso
    have hwriter : 0 < (s.waited.lock.writerActive.toNat : Int) :=
      h.number_pos hi LockStage.noConfusion
    have hreader : 0 < s.waited.lock.readers := h.number_pos hj LockStage.noConfusion
    cases hactive : s.waited.lock.writerActive with
    | true =>
      rw [h.guarded.apart hactive] at hreader
      cases hreader
    | false =>
      rw [hactive] at hwriter
      cases hwriter
  | write =>
    refine Decidable.byContradiction fun hne => ?_
    -- without the one writer, the other one is still there
    have hother : (s.stages.set i .outside)[j]? = some (.holding .write) := by
      rw [List.getElem?_set_ne hne]
      exact hj
    have hpos : 0 < (s.stages.set i .outside).count (.holding .write) :=
      List.count_pos_iff.mpr (List.mem_of_getElem? hother)
    have hcount := count_set hi .outside (.holding .write)
    have hle := h.count_write_le
    simp only [if_true, reduceCtorEq, if_false] at hcount
    omega

end Sound

/-! ## The result -/

/-- An action brings no thread into being and loses none. -/
theorem Step.length_stages {s t : LockThreads} {a : LockAction} (hstep : s.Step a t) :
    t.stages.length = s.stages.length := by
  cases hstep with
  | idle => rfl
  | arrive | recheck => exact List.length_set
  | leave =>
    dsimp only
    split
    · exact List.length_set
    · rw [List.length_map, List.length_set]
  | interruptParked | interruptWoken => rw [List.length_map, List.length_set]

/-- Neither `perform` nor a run of it changes how many threads there are. -/
theorem length_perform (s : LockThreads) (a : LockAction) :
    (s.perform a).stages.length = s.stages.length :=
  (s.step_perform a).length_stages

theorem length_performAll (s : LockThreads) (actions : List LockAction) :
    (actions.foldl perform s).stages.length = s.stages.length := by
  induction actions generalizing s with
  | nil => rfl
  | cons a actions ih => exact (ih (s.perform a)).trans (length_perform s a)

/-- **Mutual exclusion.** After any actions of any number of threads, in any order:

* the count of readers is the number of threads that hold the lock as readers, and never negative;
* the lock says that a writer is active exactly if one thread holds it as a writer;
* a thread that holds the lock as a writer shares it with no other thread;
* the count of waiting writers is the number of threads that wait as writers, woken or not. -/
theorem mutual_exclusion (threads : Nat) (actions : List LockAction) :
    let s := ofActions threads actions
    s.stages.length = threads ∧
      (s.waited.lock.readers = s.stages.count (.holding .read) ∧ 0 ≤ s.waited.lock.readers) ∧
      (s.waited.lock.writerActive = true ↔ s.stages.count (.holding .write) = 1) ∧
      (∀ (i j : Nat) (mode : Lock.Mode), s.stages[i]? = some (.holding .write) →
        s.stages[j]? = some (.holding mode) → i = j) ∧
      s.waited.lock.writersWaiting =
        s.stages.count (.parked .write) + s.stages.count (.woken .write) := by
  intro s
  have hsound : s.Sound := (sound_free threads).performAll actions
  -- Each field of the lock is the number of threads at a stage, and what is left is arithmetic.
  have hreaders : s.waited.lock.readers = s.stages.count (.holding .read) :=
    hsound.numbers (.holding .read) LockStage.noConfusion
  have hwriter : (s.waited.lock.writerActive.toNat : Int) = s.stages.count (.holding .write) :=
    hsound.numbers (.holding .write) LockStage.noConfusion
  have hparked : (s.waited.parkedWriters : Int) = s.stages.count (.parked .write) :=
    hsound.numbers (.parked .write) LockStage.noConfusion
  have hwoken : (s.waited.wokenWriters : Int) = s.stages.count (.woken .write) :=
    hsound.numbers (.woken .write) LockStage.noConfusion
  have hannounced : s.waited.lock.writersWaiting =
      s.waited.parkedWriters + s.waited.wokenWriters := hsound.guarded.announced
  refine ⟨?_, ⟨hreaders, ?_⟩, ?_, fun i j mode => hsound.holder_eq, ?_⟩
  · exact (length_performAll _ actions).trans List.length_replicate
  · rw [hreaders]
    exact Int.natCast_nonneg _
  · rw [← Int.ofNat_inj.mp hwriter]
    cases s.waited.lock.writerActive <;> decide
  · omega

-- The writer that arrives last is served before the one that was woken, which has to park again.
example : (ofActions 3 [.arrive 0 .write, .arrive 1 .write, .leave 0, .arrive 2 .write,
    .recheck 1]).stages = [.outside, .parked .write, .holding .write] := by decide

end LoadLedger.LockThreads
