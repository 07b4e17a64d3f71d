import LoadLedger.Proofs.Lock.Looking
import Mathlib.Data.List.Induction

/-!
# Writers first

A writer that waits keeps readers out, whether it is parked or woken. So a reader that finds writers
waiting parks, and every time it looks again one of them still waits or holds the lock, until each
of them has made way: it was interrupted, or it has had the lock and given it back
(`LockThreads.MadeWay`). New writers may come in between and make the reader wait longer, but nobody
is let past.

The argument follows one reader and one writer through the actions of all threads. What a single
action does to the stage of a thread is said once (`LockThreads.StageMove`); all that happens to the
reader and to the writer is read off from it.

`LockThreads.Stands` is the invariant for the writer, and `LockThreads.MadeWay` what it ends in
(`Stands.concat`). While the writer stands, the reader waits (`Sound.waits_of_writer`). That a lock
which is left free goes to a writer is another matter: there the order of the looks is up to the
threads (`Sound.writer_next`).
-/

namespace LoadLedger.LockThreads

variable {s : LockThreads} {a : LockAction} {thread : Nat} {old new : LockStage}

/-! ## One action and one thread -/

/-- What an action may do to the stage of a thread: another thread leaves it alone or wakes it, and
everything else is up to the thread itself. -/
inductive StageMove (s : LockThreads) (a : LockAction) (thread : Nat) : LockStage → LockStage → Prop
  /-- Another thread acts, or the action does nothing. -/
  | stay (stage : LockStage) : StageMove s a thread stage stage
  /-- Another thread notifies all that are parked. -/
  | wake (mode : Lock.Mode) : StageMove s a thread (.parked mode) (.woken mode)
  /-- The thread looks for the first time, -/
  | arrive (mode : Lock.Mode) (h : a = .arrive thread mode) :
      StageMove s a thread .outside (s.waited.stageFor mode)
  /-- or again. -/
  | recheck (mode : Lock.Mode) (h : a = .recheck thread) :
      StageMove s a thread (.woken mode) (s.waited.stageFor mode)
  /-- It gives the lock back. -/
  | leave (mode : Lock.Mode) (h : a = .leave thread) :
      StageMove s a thread (.holding mode) .outside
  /-- It is interrupted while it waits as a writer. -/
  | giveUp (stage : LockStage) (h : a = .interrupt thread)
      (hwaits : stage = .parked .write ∨ stage = .woken .write) :
      StageMove s a thread stage .outside

/-- A thread that sleeps through a notification is left alone, and the others are woken. -/
theorem stageMove_wake (stage : LockStage) : s.StageMove a thread stage stage.wake := by
  cases stage with
  | parked mode => exact .wake mode
  | outside | woken | holding => exact .stay _

/-- A thread has the stage that is set for it, or the one that it had. -/
theorem stage_of_set {stages : List LockStage} {other : Nat} {stage : LockStage}
    (hold : stages[thread]? = some old) (hnew : (stages.set other stage)[thread]? = some new) :
    other = thread ∧ new = stage ∨ other ≠ thread ∧ new = old := by
  by_cases hsame : other = thread
  · subst hsame
    obtain ⟨hlt, -⟩ := List.getElem?_eq_some_iff.mp hold
    rw [List.getElem?_set_self hlt] at hnew
    exact .inl ⟨rfl, (Option.some.inj hnew).symm⟩
  · rw [List.getElem?_set_ne hsame, hold] at hnew
    exact .inr ⟨hsame, (Option.some.inj hnew).symm⟩

/-- Some thread goes to a stage, and the others stay where they are. -/
theorem stageMove_set {stages : List LockStage} {other : Nat} {stage : LockStage}
    (hmove : other = thread → s.StageMove a thread old stage)
    (hold : stages[thread]? = some old) (hnew : (stages.set other stage)[thread]? = some new) :
    s.StageMove a thread old new := by
  rcases stage_of_set hold hnew with ⟨hself, rfl⟩ | ⟨-, rfl⟩
  · exact hmove hself
  · exact .stay _

/-- Some thread leaves the lock, or its queue, and then everybody is woken. -/
theorem stageMove_leaveAndWake {stages : List LockStage} {other : Nat}
    (hmove : other = thread → s.StageMove a thread old .outside)
    (hold : stages[thread]? = some old)
    (hnew : ((stages.set other .outside).map LockStage.wake)[thread]? = some new) :
    s.StageMove a thread old new := by
  rw [List.getElem?_map] at hnew
  obtain ⟨between, hbetween, rfl⟩ := Option.map_eq_some_iff.mp hnew
  rcases stage_of_set hold hbetween with ⟨hself, rfl⟩ | ⟨-, rfl⟩
  · exact hmove hself
  · exact stageMove_wake _

/-- Whatever an action can do (`LockThreads.Step`), it moves each thread in one of these ways. -/
theorem stageMove_step {t : LockThreads} (hstep : s.Step a t) (hold : s.stages[thread]? = some old)
    (hnew : t.stages[thread]? = some new) : s.StageMove a thread old new := by
  cases hstep with
  | idle =>
    cases hold.symm.trans hnew
    exact .stay old
  -- a thread that acts moves by itself; for all others the stage is the old one, or it is woken
  | arrive mode hother =>
    refine stageMove_set ?_ hold hnew
    rintro rfl
    cases hother.symm.trans hold
    exact .arrive mode rfl
  | recheck mode hother =>
    refine stageMove_set ?_ hold hnew
    rintro rfl
    cases hother.symm.trans hold
    exact .recheck mode rfl
  | leave mode hother =>
    rename_i other
    have hleaves : other = thread → s.StageMove (.leave other) thread old .outside := by
      rintro rfl
      cases hother.symm.trans hold
      exact .leave mode rfl
    dsimp only at hnew
    split at hnew
    · exact stageMove_set hleaves hold hnew
    · exact stageMove_leaveAndWake hleaves hold hnew
  | interruptParked hother =>
    refine stageMove_leaveAndWake ?_ hold hnew
    rintro rfl
    cases hother.symm.trans hold
    exact .giveUp _ rfl (.inl rfl)
  | interruptWoken hother =>
    refine stageMove_leaveAndWake ?_ hold hnew
    rintro rfl
    cases hother.symm.trans hold
    exact .giveUp _ rfl (.inr rfl)

/-- **An action does to the stage of a thread what it may do.** -/
theorem stageMove_perform (hold : s.stages[thread]? = some old)
    (hnew : (s.perform a).stages[thread]? = some new) : s.StageMove a thread old new :=
  stageMove_step (s.step_perform a) hold hnew

/-- A thread that has a stage after an action had one before. -/
theorem exists_stage_of_perform (hnew : (s.perform a).stages[thread]? = some new) :
    ∃ old, s.stages[thread]? = some old ∧ s.StageMove a thread old new := by
  obtain ⟨hlt, -⟩ := List.getElem?_eq_some_iff.mp hnew
  rw [length_perform] at hlt
  exact ⟨_, List.getElem?_eq_getElem hlt, stageMove_perform (List.getElem?_eq_getElem hlt) hnew⟩

/-- A thread that has a stage before an action has one afterwards. -/
theorem exists_stage_perform (hold : s.stages[thread]? = some old) (a : LockAction) :
    ∃ new, (s.perform a).stages[thread]? = some new ∧ s.StageMove a thread old new := by
  obtain ⟨hlt, -⟩ := List.getElem?_eq_some_iff.mp hold
  rw [← length_perform s a] at hlt
  exact ⟨_, List.getElem?_eq_getElem hlt, stageMove_perform hold (List.getElem?_eq_getElem hlt)⟩

/-! ## Waiting and holding -/

/-- Does a thread wait for the lock, be it parked or woken? -/
def Waits (s : LockThreads) (thread : Nat) (mode : Lock.Mode) : Prop :=
  s.stages[thread]? = some (.parked mode) ∨ s.stages[thread]? = some (.woken mode)

/-- Does a thread hold the lock? -/
def Holds (s : LockThreads) (thread : Nat) (mode : Lock.Mode) : Prop :=
  s.stages[thread]? = some (.holding mode)

/-- The number of threads that wait for the lock. -/
def waiting (s : LockThreads) (mode : Lock.Mode) : Nat :=
  s.stages.count (.parked mode) + s.stages.count (.woken mode)

/-- A thread that waits is not one that holds the lock. -/
theorem Waits.not_holds {mode other : Lock.Mode} (h : s.Waits thread mode) :
    ¬s.Holds thread other := by
  intro hholds
  rw [Holds] at hholds
  rcases h with h | h
  all_goals
    rw [h] at hholds
    cases hholds

/-- A thread that waits is one of those that wait. -/
theorem Waits.waiting_pos {mode : Lock.Mode} (h : s.Waits thread mode) : 0 < s.waiting mode := by
  rw [waiting]
  rcases h with hparked | hwoken
  · have hpos := List.count_pos_iff.mpr (List.mem_of_getElem? hparked)
    omega
  · have hpos := List.count_pos_iff.mpr (List.mem_of_getElem? hwoken)
    omega

/-- Whoever is granted the lock by an action was admitted. -/
theorem admits_of_granted {mode : Lock.Mode} (hbefore : ¬s.Holds thread mode)
    (hgranted : (s.perform a).Holds thread mode) : s.waited.admits mode = true := by
  obtain ⟨old, hold, hmove⟩ := exists_stage_of_perform hgranted
  -- only a look brings a thread to hold the lock, and it looks after the lock admits it
  have hlooked : ∀ other, s.waited.stageFor other = .holding mode →
      s.waited.admits mode = true := by
    intro other hstage
    rw [WaitedLock.stageFor] at hstage
    split at hstage
    · rename_i hadmits
      cases hstage
      exact hadmits
    · cases hstage
  generalize hlast : LockStage.holding mode = last at hmove
  cases hmove with
  | stay => exact absurd (hold.trans (congrArg some hlast.symm)) hbefore
  | wake => cases hlast
  | arrive other h => exact hlooked other hlast.symm
  | recheck other h => exact hlooked other hlast.symm
  | leave => cases hlast
  | giveUp => cases hlast

/-- The lock knows how many writers wait. -/
theorem Sound.writersWaiting_eq (h : s.Sound) :
    s.waited.lock.writersWaiting = s.waiting .write := by
  have hparked : (s.waited.parkedWriters : Int) = s.stages.count (.parked .write) :=
    h.numbers (.parked .write) LockStage.noConfusion
  have hwoken : (s.waited.wokenWriters : Int) = s.stages.count (.woken .write) :=
    h.numbers (.woken .write) LockStage.noConfusion
  have hannounced := h.guarded.announced
  rw [WaitedLock.waitingWriters] at hannounced
  rw [waiting]
  omega

/-- A writer that waits or holds the lock keeps readers out. -/
theorem Sound.admitsReader_eq_false (h : s.Sound)
    (hwriter : s.Waits thread .write ∨ s.Holds thread .write) :
    s.waited.lock.admitsReader = false := by
  rw [Lock.admitsReader, Bool.and_eq_false_iff, Bool.not_eq_false', beq_eq_false_iff_ne]
  rcases hwriter with hwaits | hholds
  · right
    have hpos := hwaits.waiting_pos
    rw [h.writersWaiting_eq]
    omega
  · left
    have hpos : 0 < (s.waited.lock.writerActive.toNat : Int) :=
      h.number_pos hholds LockStage.noConfusion
    cases hactive : s.waited.lock.writerActive with
    | true => rfl
    | false =>
      rw [hactive] at hpos
      cases hpos

/-- **A reader is granted the lock only where no writer holds it or waits for it.** -/
theorem Sound.no_writer_of_granted (h : s.Sound) (hbefore : ¬s.Holds thread .read)
    (hgranted : (s.perform a).Holds thread .read) :
    s.waited.lock.writerActive = false ∧ s.waited.lock.writersWaiting = 0 ∧
      ∀ writer, ¬s.Waits writer .write ∧ ¬s.Holds writer .write := by
  have hadmits : s.waited.lock.admitsReader = true := admits_of_granted hbefore hgranted
  have hnone : ∀ writer, ¬(s.Waits writer .write ∨ s.Holds writer .write) := by
    intro writer hwriter
    rw [h.admitsReader_eq_false hwriter] at hadmits
    cases hadmits
  have hfree := hadmits
  rw [Lock.admitsReader, Bool.and_eq_true, Bool.not_eq_true', beq_iff_eq] at hfree
  exact ⟨hfree.1, hfree.2, fun writer => not_or.mp (hnone writer)⟩

/-! ## Making way -/

/-- Actions in turn. -/
def performAll (s : LockThreads) (actions : List LockAction) : LockThreads :=
  actions.foldl perform s

theorem performAll_concat (s : LockThreads) (actions : List LockAction) (a : LockAction) :
    s.performAll (actions ++ [a]) = (s.performAll actions).perform a :=
  List.foldl_append

/-- From the beginning of some actions to their end. -/
def Throughout (s : LockThreads) (actions : List LockAction) (P : LockThreads → Prop) : Prop :=
  ∀ front, front <+: actions → P (s.performAll front)

theorem throughout_nil {P : LockThreads → Prop} : s.Throughout [] P ↔ P s := by
  refine ⟨fun h => h [] List.prefix_rfl, ?_⟩
  intro h front hfront
  obtain rfl := List.prefix_nil.mp hfront
  exact h

/-- With one action more, there is one state more to ask about. -/
theorem throughout_concat {actions : List LockAction} {P : LockThreads → Prop} :
    s.Throughout (actions ++ [a]) P ↔
      s.Throughout actions P ∧ P ((s.performAll actions).perform a) := by
  rw [← performAll_concat]
  refine ⟨fun h => ⟨fun front hfront => h front (hfront.trans (List.prefix_append _ _)),
    h _ List.prefix_rfl⟩, ?_⟩
  rintro ⟨hbefore, hlast⟩ front hfront
  rcases List.prefix_concat_iff.mp hfront with rfl | hshorter
  · exact hlast
  · exact hbefore front hshorter

/-- In the course of actions a writer that waited was interrupted, or it was granted the lock and
then gave it back. -/
inductive MadeWay (s : LockThreads) (writer : Nat) (actions : List LockAction) : Prop
  /-- It waited until it was interrupted. -/
  | interrupted (front rest : List LockAction) (h : actions = front ++ .interrupt writer :: rest)
      (hwaits : s.Throughout front fun t => t.Waits writer .write)
  /-- It waited until its look let it in, and held the lock until it left. -/
  | served (front middle rest : List LockAction)
      (h : actions = front ++ .recheck writer :: (middle ++ .leave writer :: rest))
      (hwaits : s.Throughout front fun t => t.Waits writer .write)
      (hholds : (s.performAll (front ++ [.recheck writer])).Throughout middle
        fun t => t.Holds writer .write)

/-- A writer that has made way has made way, whatever happens afterwards. -/
theorem MadeWay.concat {writer : Nat} {actions : List LockAction} (h : s.MadeWay writer actions)
    (a : LockAction) : s.MadeWay writer (actions ++ [a]) := by
  cases h with
  | interrupted front rest h hwaits =>
    refine .interrupted front (rest ++ [a]) ?_ hwaits
    rw [h, List.append_assoc, List.cons_append]
  | served front middle rest h hwaits hholds =>
    refine .served front middle (rest ++ [a]) ?_ hwaits hholds
    rw [h, List.append_assoc, List.cons_append, List.append_assoc, List.cons_append]

/-- A writer that has not made way yet waits all the time, or it holds the lock since it waited. -/
inductive Stands (s : LockThreads) (writer : Nat) (actions : List LockAction) : Prop
  /-- It has not got the lock yet. -/
  | waits (hwaits : s.Throughout actions fun t => t.Waits writer .write)
  /-- It has got the lock and has not given it back. -/
  | holds (front middle : List LockAction) (h : actions = front ++ .recheck writer :: middle)
      (hwaits : s.Throughout front fun t => t.Waits writer .write)
      (hholds : (s.performAll (front ++ [.recheck writer])).Throughout middle
        fun t => t.Holds writer .write)

namespace Stands

variable {writer : Nat} {actions : List LockAction}

/-- A writer that has not made way is there. -/
theorem present (h : s.Stands writer actions) :
    (s.performAll actions).Waits writer .write ∨ (s.performAll actions).Holds writer .write := by
  cases h with
  | waits hwaits => exact .inl (hwaits _ List.prefix_rfl)
  | holds front middle h hwaits hholds =>
    subst h
    have hlast := hholds _ List.prefix_rfl
    rw [performAll, performAll, ← List.foldl_append, List.append_assoc] at hlast
    exact .inr hlast

/-- What becomes of a writer that waits. -/
theorem concat_of_waits (hwaits : s.Throughout actions fun t => t.Waits writer .write)
    (a : LockAction) :
    s.MadeWay writer (actions ++ [a]) ∨ s.Stands writer (actions ++ [a]) := by
  have hlast : (s.performAll actions).Waits writer .write := hwaits _ List.prefix_rfl
  -- while it waits, nothing has changed
  have hstill : ((s.performAll actions).perform a).Waits writer .write →
      s.Stands writer (actions ++ [a]) :=
    fun hgoes => .waits (throughout_concat.mpr ⟨hwaits, hgoes⟩)
  -- it enters by its own look only
  have hlooked : ∀ new, ((s.performAll actions).perform a).stages[writer]? = some new →
      new = (s.performAll actions).waited.stageFor .write → a = .recheck writer →
      s.Stands writer (actions ++ [a]) := by
    intro new hnew hstage hself
    rw [WaitedLock.stageFor] at hstage
    split at hstage
    · subst hself hstage
      refine .holds actions [] rfl hwaits (throughout_nil.mpr ?_)
      rw [performAll_concat]
      exact hnew
    · subst hstage
      exact hstill (.inl hnew)
  rcases hlast with hparked | hwoken
  · obtain ⟨new, hnew, hmove⟩ := exists_stage_perform hparked a
    cases hmove with
    | stay => exact .inr (hstill (.inl hnew))
    | wake => exact .inr (hstill (.inr hnew))
    | giveUp _ h => exact .inl (.interrupted actions [] (by rw [h]) hwaits)
  · obtain ⟨new, hnew, hmove⟩ := exists_stage_perform hwoken a
    cases hmove with
    | stay => exact .inr (hstill (.inr hnew))
    | recheck _ h => exact .inr (hlooked _ hnew rfl h)
    | giveUp _ h => exact .inl (.interrupted actions [] (by rw [h]) hwaits)

/-- What becomes of a writer that has not made way yet. -/
theorem concat (h : s.Stands writer actions) (a : LockAction) :
    s.MadeWay writer (actions ++ [a]) ∨ s.Stands writer (actions ++ [a]) := by
  cases h with
  | waits hwaits => exact concat_of_waits hwaits a
  | holds front middle h hwaits hholds =>
    -- since its look the writer has held the lock, so that an action leaves it there or is its
    -- leaving
    have hreached : (s.performAll (front ++ [.recheck writer])).performAll middle =
        s.performAll actions := by
      rw [h, performAll, performAll, performAll, ← List.foldl_append, List.append_assoc]
      rfl
    have hlast := hholds _ List.prefix_rfl
    rw [hreached] at hlast
    obtain ⟨new, hnew, hmove⟩ := exists_stage_perform hlast a
    cases hmove with
    | stay =>
      refine .inr (.holds front (middle ++ [a]) ?_ hwaits (throughout_concat.mpr ⟨hholds, ?_⟩))
      · rw [h, List.append_assoc, List.cons_append]
      · rw [hreached]
        exact hnew
    | leave _ h' =>
      refine .inl (.served front middle [] ?_ hwaits hholds)
      rw [h, h', List.append_assoc, List.cons_append]
    | giveUp _ _ hwaits => rcases hwaits with hparked | hwoken <;> contradiction

end Stands

/-- A reader that waits goes on waiting while a writer is there. -/
theorem Sound.waits_of_writer (h : s.Sound) {reader writer : Nat} (hreader : s.Waits reader .read)
    (hwriter : s.Waits writer .write ∨ s.Holds writer .write) (a : LockAction) :
    (s.perform a).Waits reader .read := by
  have hlooked : s.waited.stageFor .read = .parked .read := by
    rw [WaitedLock.stageFor, WaitedLock.admits, h.admitsReader_eq_false hwriter]
    rfl
  rcases hreader with hparked | hwoken
  · obtain ⟨new, hnew, hmove⟩ := exists_stage_perform hparked a
    cases hmove with
    | stay => exact .inl hnew
    | wake => exact .inr hnew
    | giveUp _ _ hwaits => rcases hwaits with hwrites | hwrites <;> cases hwrites
  · obtain ⟨new, hnew, hmove⟩ := exists_stage_perform hwoken a
    cases hmove with
    | stay => exact .inr hnew
    | recheck => exact .inl (by rw [hnew, hlooked])
    | giveUp _ _ hwaits => rcases hwaits with hwrites | hwrites <;> cases hwrites

/-- **Until a writer has made way, the reader waits.** -/
theorem Sound.madeWay_or_waits (h : s.Sound) {reader writer : Nat}
    (hreader : s.Waits reader .read) (hwriter : s.Waits writer .write)
    (actions : List LockAction) :
    s.MadeWay writer actions ∨
      s.Stands writer actions ∧ (s.performAll actions).Waits reader .read := by
  -- By induction from the right, so that each action is the latest one.
  induction actions using List.reverseRecOn with
  | nil => exact .inr ⟨.waits (throughout_nil.mpr hwriter), hreader⟩
  | append_singleton actions a ih =>
    rcases ih with hmade | ⟨hstands, hwaits⟩
    · exact .inl (hmade.concat a)
    · have hsound : (s.performAll actions).Sound := h.performAll actions
      refine (hstands.concat a).imp_right fun hstill => ⟨hstill, ?_⟩
      rw [performAll_concat]
      exact hsound.waits_of_writer hwaits hstands.present a

/-- A reader that arrives while a writer waits has to wait. So does the writer. -/
theorem Sound.waits_of_arrive (h : s.Sound) {reader writer : Nat}
    (hreader : s.stages[reader]? = some .outside) (hwriter : s.Waits writer .write) :
    (s.perform (.arrive reader .read)).Waits reader .read ∧
      (s.perform (.arrive reader .read)).Waits writer .write := by
  have hparks : s.waited.stageFor .read = .parked .read := by
    rw [WaitedLock.stageFor, WaitedLock.admits, h.admitsReader_eq_false (.inl hwriter)]
    rfl
  have hne : reader ≠ writer := by
    rintro rfl
    rcases hwriter with hwaits | hwaits <;> cases hreader.symm.trans hwaits
  obtain ⟨hlt, -⟩ := List.getElem?_eq_some_iff.mp hreader
  rw [LockThreads.perform, hreader]
  dsimp only
  refine ⟨.inl ?_, ?_⟩
  · rw [hparks]
    exact List.getElem?_set_self hlt
  · rw [Waits, List.getElem?_set_ne hne]
    exact hwriter

/-! ## Passing the lock on -/

/-- A thread that leaves the lock free has woken everybody. -/
theorem parkedWriters_of_leave {mode : Lock.Mode} (hholds : s.Holds thread mode)
    (hfree : (s.perform (.leave thread)).waited.lock.readers = 0) :
    (s.perform (.leave thread)).waited.parkedWriters = 0 := by
  have hleft : (s.perform (.leave thread)).waited = s.waited.release mode := by
    rw [LockThreads.perform, hholds]
  rw [hleft] at hfree ⊢
  cases mode with
  | write => rfl
  | read =>
    rw [WaitedLock.release, WaitedLock.removeReader] at hfree ⊢
    dsimp only at hfree ⊢
    split
    · rfl
    · rename_i hmore
      rw [if_neg hmore] at hfree
      exact absurd hfree hmore

/-- **A lock that is left free goes to one of the writers that wait.** -/
theorem Sound.writer_next (h : s.Sound) (hparked : s.waited.parkedWriters = 0)
    (hinactive : s.waited.lock.writerActive = false) (hreaders : s.waited.lock.readers = 0)
    {writer : Nat} (hwriter : s.Waits writer .write) {order : List Nat}
    (hturn : s.InTurn order) (hsettled : (s.lookAll order).Settled)
    (hattended : s.Attended) (hafter : (s.lookAll order).Sound) :
    (s.lookAll order).stages.count (.holding .write) = s.stages.count (.holding .write) + 1 ∧
      (s.lookAll order).waiting .write + 1 = s.waiting .write ∧
      .holding .read ∉ (s.lookAll order).stages := by
  have hwaiting := h.writersWaiting_eq
  have hannounced : s.waited.lock.writersWaiting =
      s.waited.parkedWriters + s.waited.wokenWriters := h.guarded.announced
  have hsome := hwriter.waiting_pos
  have hadmits : s.waited.lock.admitsWriter = true := by
    rw [Lock.admitsWriter, hinactive, hreaders]
    rfl
  have hwoken : 0 < s.waited.wokenWriters := by omega
  have hwaited := hattended.waited_of_settled_lookAll hturn hsettled
  rw [WaitedLock.resolved_of_admitsWriter hwoken hadmits] at hwaited
  -- what the threads do afterwards is what the lock says of them
  have hbefore : (s.waited.lock.writerActive.toNat : Int) = s.stages.count (.holding .write) :=
    h.numbers (.holding .write) LockStage.noConfusion
  have hholding : ((s.lookAll order).waited.lock.writerActive.toNat : Int) =
      (s.lookAll order).stages.count (.holding .write) :=
    hafter.numbers (.holding .write) LockStage.noConfusion
  have hreading : (s.lookAll order).waited.lock.readers =
      (s.lookAll order).stages.count (.holding .read) :=
    hafter.numbers (.holding .read) LockStage.noConfusion
  have hleft := hafter.writersWaiting_eq
  rw [hwaited] at hholding hreading hleft
  rw [hinactive] at hbefore
  refine ⟨?_, ?_, ?_⟩
  · simp only [Lock.enterWriter, Bool.toNat_true, Bool.toNat_false] at hholding hbefore
    omega
  · simp only [Lock.enterWriter, Lock.withdrawWriter] at hleft
    omega
  · rw [← List.count_eq_zero]
    simp only [Lock.enterWriter, Lock.withdrawWriter, hreaders] at hreading
    omega

/-! ## The result -/

/-- Actions in turn keep those who wait attended to (`LockThreads.Attended`). -/
theorem Attended.performAll (h : s.Attended) (actions : List LockAction) :
    (s.performAll actions).Attended := by
  induction actions generalizing s with
  | nil => exact h
  | cons a actions ih => exact ih (h.perform a)

theorem Sound.lookAll (h : s.Sound) (order : List Nat) : (s.lookAll order).Sound := by
  induction order generalizing s with
  | nil => exact h
  | cons thread order ih => exact ih (h.perform (.recheck thread))

/-- **No reader overtakes a writer that waits.** After any actions of any number of threads, in any
order:

* a reader is granted the lock only where no writer holds it or waits for it;
* so a reader that arrives while a writer waits does not get the lock, whatever happens then, before
  this writer has been interrupted or has had the lock and given it back;
* when somebody leaves the lock free while writers wait, and nobody does anything but look again,
  the looks come to an end, and in whatever order they come, one more writer has the lock then, one
  writer less waits, and no reader has entered. -/
theorem readers_never_overtake (threads : Nat) (actions : List LockAction) :
    let s := ofActions threads actions
    (∀ a reader, ¬s.Holds reader .read → (s.perform a).Holds reader .read →
      s.waited.lock.writerActive = false ∧ s.waited.lock.writersWaiting = 0 ∧
        ∀ writer, ¬s.Waits writer .write ∧ ¬s.Holds writer .write) ∧
    (∀ reader writer, s.stages[reader]? = some .outside → s.Waits writer .write →
      let arrived := s.perform (.arrive reader .read)
      ∀ more, (arrived.performAll more).Holds reader .read → arrived.MadeWay writer more) ∧
    ∀ holder mode, s.Holds holder mode →
      let left := s.perform (.leave holder)
      left.waited.lock.writerActive = false → left.waited.lock.readers = 0 →
      (∃ writer, left.Waits writer .write) →
      (∃ order, left.InTurn order ∧ (left.lookAll order).Settled) ∧
        ∀ order, left.InTurn order → (left.lookAll order).Settled →
          let settled := left.lookAll order
          settled.stages.count (.holding .write) = left.stages.count (.holding .write) + 1 ∧
            settled.waiting .write + 1 = left.waiting .write ∧
            ∀ reader, settled.Holds reader .read → left.Holds reader .read := by
  intro s
  have hsound : s.Sound := (sound_free threads).performAll actions
  refine ⟨fun a reader hbefore hgranted => hsound.no_writer_of_granted hbefore hgranted, ?_, ?_⟩
  · intro reader writer hreader hwriter arrived more hholds
    -- the reader parks, and waits until the writer has made way
    obtain ⟨hwaits, hstill⟩ := hsound.waits_of_arrive hreader hwriter
    have harrived : arrived.Sound := hsound.perform _
    rcases harrived.madeWay_or_waits hwaits hstill more with hmade | ⟨-, hlate⟩
    · exact hmade
    · exact absurd hholds hlate.not_holds
  · rintro holder mode hholds left hinactive hreaders ⟨writer, hwriter⟩
    have hleft : left.Sound := hsound.perform _
    have hattended : left.Attended := ((attended_free threads).performAll actions).perform _
    refine ⟨hattended.exists_order, ?_⟩
    intro order hturn hsettled settled
    -- everybody was woken, and one of the writers is the first to be admitted
    obtain ⟨hgranted, hwaiting, hnone⟩ := hleft.writer_next (parkedWriters_of_leave hholds hreaders)
      hinactive hreaders hwriter hturn hsettled hattended (hleft.lookAll order)
    refine ⟨hgranted, hwaiting, ?_⟩
    intro reader hreader
    exact absurd (List.mem_of_getElem? hreader) hnone

/-- A reader has the lock, and a writer waits for it. -/
def writerBehindReader : List LockAction :=
  [.arrive 0 .read, .arrive 1 .write]

/-- A second reader that comes now looks in vain until the writer has had its turn. Without it the
lock goes to the writer as soon as the first reader leaves. -/
theorem madeWay_secondReader :
    let s := ofActions 3 writerBehindReader
    (s.perform (.arrive 2 .read)).MadeWay 1
        [.leave 0, .recheck 2, .recheck 1, .leave 1, .recheck 2] ∧
      ((s.perform (.leave 0)).lookAll [1]).waiting .write + 1 = 1 ∧
      (ofActions 3 []).waited.lock.writersWaiting = 0 := by
  intro s
  obtain ⟨-, hway, hnext⟩ := readers_never_overtake 3 writerBehindReader
  obtain ⟨hgrant, -, -⟩ := readers_never_overtake 3 []
  refine ⟨hway 2 1 (by decide) (.inl (by decide)) _ ?_, ?_, ?_⟩
  · rw [Holds]
    decide
  · obtain ⟨-, hpassed⟩ := hnext 0 .read (by rw [Holds]; decide) (by decide) (by decide)
      ⟨1, .inr (by decide)⟩
    exact (hpassed [1] ⟨⟨.write, by decide⟩, trivial⟩ (by decide)).2.1
  · exact (hgrant (.arrive 0 .read) 0 (by rw [Holds]; decide) (by rw [Holds]; decide)).2.1

end LoadLedger.LockThreads
