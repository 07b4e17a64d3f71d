import LoadLedger.Proofs.Ingestion.Histories
import LoadLedger.Proofs.Sampler.Service

/-!
# Crews

Any thread may be told to run the loop: that of a caller, or a background thread, which is made
once. The first thing each of them does is to start the sampler, which is taken for one step.

The state of ingestion has room for one loop only. Here each thread has a loop of its own
(`LoopRunner`), so that nothing but the sampler keeps a second one from the queue. All else is
shared (`IngestionCrew`). Whoever takes an item, it is the oldest one, and no item is lost
(`IngestionCrew.items_perform`). Of all that may be called, only the steps of the threads and the
time get on with the work (`IngestionCrew.sameWork_perform`).

A thread that was told to loop is a `LoopRunner`, and is called, looping or refused.
`IngestionCrew.perform` carries out what may be called, and `IngestionCrew.step` what a thread does
next.
-/

namespace LoadLedger

/-- How far a thread has come that was told to run the loop. Only one that is `looping` has a loop
(`LoopRunner.loop?`). -/
inductive LoopRunner
  /-- It is about to start the sampler. -/
  | called
  /-- It has started the sampler. -/
  | looping (loop : IngestionLoop)
  /-- It could not start the sampler. -/
  | refused (cause : Fault)

/-- Is the thread alive? -/
def LoopRunner.isAlive : LoopRunner → Bool
  | .called => true
  | .looping loop => loop.isAlive
  | .refused _ => false

/-- The loop of a thread that has one. -/
def LoopRunner.loop? : LoopRunner → Option IngestionLoop
  | .looping loop => some loop
  | _ => none

/-- What may be done with ingestion, and what its threads do. -/
inductive CrewCall
  /-- A producer puts an item. -/
  | put (item : InboundItem)
  | close
  /-- A background thread is made to run the loop, unless there was one before. -/
  | start
  /-- A caller is going to run the loop. -/
  | run
  /-- The thread with the given number takes a step, if it can. -/
  | step (k : Nat)
  /-- The consumer takes a failure, if there is one. -/
  | take
  | join (timeout : Value)
  | shutDown (timeout : Value)
  /-- The clock goes on to a moment. -/
  | pass (moment : Int)

/-- The item that a call puts onto the inbound queue. -/
def CrewCall.enqueued? : CrewCall → Option InboundItem
  | .put item => some item
  | .close | .shutDown _ => some .finish
  | .start | .run | .step _ | .take | .join _ | .pass _ => none

/-- Ingestion with all threads that were told to run the loop. The state of `Ingestion` is shared,
but for the loop, which each of them has for itself. -/
structure IngestionCrew where
  /-- What the threads share. Its loop is that of the thread that was the last one to take a step in
  one. -/
  shared : Ingestion
  /-- The threads, in the order in which they were told. -/
  runners : List LoopRunner
  /-- The number of the background thread. -/
  background : Option Nat
  /-- The items that were taken, in order, with the number of the thread that took them. -/
  taken : List (Nat × InboundItem)

namespace IngestionCrew

/-- Nobody was told to run the loop. -/
def ofIngestion (i : Ingestion) : IngestionCrew :=
  ⟨i, [], none, []⟩

/-- The loop of the thread with the given number, if it has one. -/
def loopOf (c : IngestionCrew) (k : Nat) : Option IngestionLoop :=
  c.runners[k]?.bind LoopRunner.loop?

/-- The thread with the given number takes a step, if it can. -/
def step [Depths] [Scheduler] (c : IngestionCrew) (k : Nat) : IngestionCrew :=
  match c.runners[k]? with
  | some .called =>
    match c.shared.enter with
    | (.ok (), next) => { c with shared := next, runners := c.runners.set k (.looping next.loop) }
    | (.error cause, next) => { c with shared := next, runners := c.runners.set k (.refused cause) }
  | some (.looping loop) =>
    let seen : Ingestion := { c.shared with loop }
    match seen.step? with
    | some next =>
      { c with
        shared := next
        runners := c.runners.set k (.looping next.loop)
        taken := c.taken ++ seen.nextItem?.toList.map (k, ·) }
    | none => c
  | _ => c

/-- Is the background thread alive? -/
def backgroundAlive (c : IngestionCrew) : Bool :=
  c.background.any fun k => c.runners[k]?.any LoopRunner.isAlive

/-- Somebody waits for the end of the background thread. He gives it up if he cannot wait as long as
the timeout says. -/
def await (c : IngestionCrew) (timeout : Value) : IngestionCrew :=
  match Timeout.ofValue timeout with
  | .error _ => c
  | .ok timeout =>
    match timeout.takesTime with
    | .ok _ => c
    | .error _ =>
      if c.backgroundAlive then { c with shared := { c.shared with givenUp := true } } else c

/-- Carries out a call. -/
def perform [Depths] [Scheduler] (c : IngestionCrew) : CrewCall → IngestionCrew
  | .put item => { c with shared := c.shared.put item }
  | .close => { c with shared := c.shared.close }
  | .start =>
    if c.shared.threadMade then c
    else
      { c with
        shared := { c.shared with threadMade := true }
        runners := c.runners ++ [.called]
        background := some c.runners.length }
  | .run => { c with runners := c.runners ++ [.called] }
  | .step k => c.step k
  | .take =>
    match c.shared.take? with
    | some (_, next) => { c with shared := next }
    | none => c
  | .join timeout => c.await timeout
  | .shutDown timeout => await { c with shared := c.shared.close } timeout
  | .pass moment =>
    if c.shared.sampling.now ≤ moment then
      let sampling := (c.shared.sampling.withClock moment).settle
      { c with shared := { c.shared with sampling } }
    else c

/-- Carries out calls in turn. -/
def performAll [Depths] [Scheduler] (c : IngestionCrew) (calls : List CrewCall) : IngestionCrew :=
  calls.foldl perform c

/-! ## The queue -/

/-- The items that were put: those that were taken, and those in the queue. -/
def items (c : IngestionCrew) : List InboundItem :=
  c.taken.map Prod.snd ++ c.shared.inbound

/-- An item that a thread takes goes from the queue to those that were taken. -/
theorem items_step [Depths] [Scheduler] (c : IngestionCrew) (k : Nat) :
    (c.step k).items = c.items := by
  rw [step]
  split
  -- a thread that begins to loop takes nothing yet
  · have hinbound : c.shared.enter.2.inbound = c.shared.inbound := by
      rw [Ingestion.enter]
      split <;> rfl
    split
    · rename_i henter
      rw [henter] at hinbound
      exact congrArg (c.taken.map Prod.snd ++ ·) hinbound
    · rename_i henter
      rw [henter] at hinbound
      exact congrArg (c.taken.map Prod.snd ++ ·) hinbound
  · rename_i loop _
    dsimp only
    split
    · rename_i hstep
      have hinbound := Ingestion.inbound_of_step? hstep
      -- what a step takes goes from the front of the queue to the end of those taken
      have hmap : ∀ items : List InboundItem, (items.map (k, ·)).map Prod.snd = items := by
        intro items
        rw [List.map_map]
        exact List.map_id items
      rw [items, List.map_append, hmap, List.append_assoc, hinbound]
      rfl
    · rfl
  · rfl

theorem items_await (c : IngestionCrew) (timeout : Value) : (c.await timeout).items = c.items := by
  rw [await.eq_def]
  split
  · rfl
  · split
    · rfl
    · split <;> rfl

/-- **No item is lost**, and none is taken before one that was put earlier. -/
theorem items_perform [Depths] [Scheduler] (c : IngestionCrew) (call : CrewCall) :
    (c.perform call).items = c.items ++ call.enqueued?.toList := by
  -- to put is the only call that brings an item
  have hput : ∀ item, items { c with shared := c.shared.put item } = c.items ++ [item] :=
    fun item => (List.append_assoc ..).symm
  cases call with
  | put item => exact hput item
  | close => exact hput .finish
  | start =>
    rw [perform, CrewCall.enqueued?, Option.toList_none, List.append_nil]
    split <;> rfl
  | run => exact (List.append_nil _).symm
  | step k => exact (c.items_step k).trans (List.append_nil _).symm
  | take =>
    rw [perform, CrewCall.enqueued?, Option.toList_none, List.append_nil]
    split
    · rename_i htake
      obtain ⟨sink, items, -, -, rfl⟩ := Ingestion.take?_cases htake
      rfl
    · rfl
  | join timeout => exact (c.items_await timeout).trans (List.append_nil _).symm
  | shutDown timeout => exact (items_await _ timeout).trans (hput .finish)
  | pass moment =>
    rw [perform, CrewCall.enqueued?, Option.toList_none, List.append_nil]
    split <;> rfl

/-- Calls in turn put their items behind those that were put before. -/
theorem items_performAll [Depths] [Scheduler] (c : IngestionCrew) (calls : List CrewCall) :
    (c.performAll calls).items = c.items ++ calls.filterMap CrewCall.enqueued? := by
  induction calls generalizing c with
  | nil => exact (List.append_nil _).symm
  | cons call calls ih =>
    refine (ih (c.perform call)).trans ?_
    rw [items_perform, List.append_assoc, List.filterMap_cons]
    cases call.enqueued? <;> rfl

/-! ## What calls leave alone -/

/-- The same threads loop, they have taken the same, and the sampler is where it was. This is the
frame of all calls but `CrewCall.step` and `CrewCall.pass`. -/
structure SameWork (c next : IngestionCrew) : Prop where
  /-- Each thread is as far in its loop as before. -/
  loops : ∀ k, next.loopOf k = c.loopOf k
  /-- The loop that is shared is that of the same step. -/
  current : next.shared.loop = c.shared.loop
  sampling : next.shared.sampling = c.shared.sampling
  taken : next.taken = c.taken

theorem SameWork.refl (c : IngestionCrew) : SameWork c c :=
  ⟨fun _ => rfl, rfl, rfl, rfl⟩

theorem SameWork.trans {c next last : IngestionCrew} (h : SameWork c next)
    (hlast : SameWork next last) : SameWork c last :=
  ⟨fun k => (hlast.loops k).trans (h.loops k), hlast.current.trans h.current,
    hlast.sampling.trans h.sampling, hlast.taken.trans h.taken⟩

/-- A thread has a loop if it is in it, dead or alive. -/
theorem loopOf_eq_some {c : IngestionCrew} {k : Nat} {loop : IngestionLoop} :
    c.loopOf k = some loop ↔ c.runners[k]? = some (.looping loop) := by
  rw [loopOf, Option.bind_eq_some_iff]
  constructor
  · rintro ⟨runner, hrunner, hloop⟩
    cases runner <;> cases hloop
    exact hrunner
  · exact fun h => ⟨_, h, rfl⟩

/-- A thread that was told to loop does not do so yet. -/
theorem loop_append_called (runners : List LoopRunner) (k : Nat) :
    (runners ++ [.called])[k]?.bind LoopRunner.loop? = runners[k]?.bind LoopRunner.loop? := by
  rw [List.getElem?_append]
  split
  · rfl
  · rename_i hlength
    rw [List.getElem?_eq_none (Nat.not_lt.mp hlength), List.getElem?_singleton]
    split <;> rfl

/-- A thread that gets on has the loop of its new stage, and all others have the loops that they
had. -/
theorem loop_set {runners : List LoopRunner} {k : Nat} (hk : k < runners.length)
    (runner : LoopRunner) (j : Nat) :
    (runners.set k runner)[j]?.bind LoopRunner.loop? =
      if j = k then runner.loop? else runners[j]?.bind LoopRunner.loop? := by
  rw [List.getElem?_set]
  split
  · rename_i hkj
    rw [if_pos hkj.symm]
    rfl
  · rename_i hkj
    rw [if_neg (Ne.symm hkj)]

theorem sameWork_await (c : IngestionCrew) (timeout : Value) : SameWork c (c.await timeout) := by
  rw [await.eq_def]
  split
  · exact .refl c
  · split
    · exact .refl c
    · split
      · exact ⟨fun _ => rfl, rfl, rfl, rfl⟩
      · exact .refl c

/-- Only steps and the time get on with the work. -/
theorem sameWork_perform [Depths] [Scheduler] (c : IngestionCrew) (call : CrewCall)
    (hstep : ∀ k, call ≠ .step k)
    (hpass : ∀ moment, call ≠ .pass moment) : SameWork c (c.perform call) := by
  cases call with
  | put item => exact ⟨fun _ => rfl, rfl, rfl, rfl⟩
  | close => exact ⟨fun _ => rfl, rfl, rfl, rfl⟩
  | start =>
    rw [perform]
    split
    · exact .refl c
    · exact ⟨loop_append_called c.runners, rfl, rfl, rfl⟩
  | run => exact ⟨loop_append_called c.runners, rfl, rfl, rfl⟩
  | step k => exact absurd rfl (hstep k)
  | take =>
    rw [perform]
    split
    · rename_i htake
      obtain ⟨sink, items, -, -, rfl⟩ := Ingestion.take?_cases htake
      exact ⟨fun _ => rfl, rfl, rfl, rfl⟩
    · exact .refl c
  | join timeout => exact c.sameWork_await timeout
  | shutDown timeout =>
    have hclose : SameWork c { c with shared := c.shared.close } :=
      ⟨fun _ => rfl, rfl, rfl, rfl⟩
    exact hclose.trans (sameWork_await _ timeout)
  | pass moment => exact absurd rfl (hpass moment)

end IngestionCrew

end LoadLedger
