import LoadLedger.Machine
import LoadLedger.Proofs.Ingestion.Crew

/-!
# One loop and its sampler

A sampler starts once. So the thread that starts it first is the only one of a crew that ever loops
(`IngestionCrew.Manned.perform`): all others are turned away. The thread that loops stops the
sampler when it ends, whatever it ends with (`Ingestion.step?_hands`), so that the sampler is in
service as long as the loop is alive, and no longer (`IngestionCrew.one_loop_with_sampler`).

With a period that is longer than a thread can wait there is a loop and no sampler
(`IngestionCrew.stranded_longInterval`).

A crew is `IngestionCrew.Unmanned` at first, while threads may have been told to loop already, and
`IngestionCrew.Manned` by one of them from its start on. The sampler is as `SamplerSession.Started`
says while the loop is alive, and as `SamplerSession.Stopped` says afterwards.
-/

namespace LoadLedger

/-! ## What a step does to the sampler -/

namespace Ingestion

variable [Depths] [Scheduler]

/-- The loop writes to the ledger of the sampler. If it ends it stops the sampler after that. -/
def Hands (s : SamplerSession) (next : Ingestion) : Prop :=
  ∃ ledger, (next.loop.isAlive = true ∧ next.sampling = { s with ledger }) ∨
    ∃ cause, next.loop = .ended cause ∧
      next.sampling = (({ s with ledger } : SamplerSession).stop .null).2

/-- Whatever the loop does with an item, it either goes on with the sampler as it is, or it ends and
stops it. -/
theorem process_hands (i : Ingestion) (hloop : i.loop.isAlive = true) (item : InboundItem) :
    Hands i.sampling (i.process item) := by
  cases item with
  | finish => exact ⟨i.ledger, .inr ⟨none, rfl, rfl⟩⟩
  | other v => exact ⟨i.ledger, .inr ⟨_, rfl, rfl⟩⟩
  | outcome o =>
    rw [process]
    obtain ⟨cause, ledger, -, hmerge⟩ | ⟨ledger, -, -, hmerge⟩ |
      ⟨ledger, result, -, -, hresult, hmerge⟩ := i.mergeOutcome_cases o
    · rw [hmerge]
      exact ⟨ledger, .inr ⟨_, rfl, rfl⟩⟩
    · rw [hmerge]
      exact ⟨ledger, .inl ⟨rfl, rfl⟩⟩
    · rw [hmerge]
      cases result with
      | error cause => exact ⟨ledger, .inr ⟨_, rfl, rfl⟩⟩
      | ok forwarded =>
        cases forwarded with
        | false => exact ⟨ledger, .inl ⟨hloop, rfl⟩⟩
        | true => exact absurd rfl hresult

theorem step?_hands {i next : Ingestion} (h : i.step? = some next) : Hands i.sampling next := by
  obtain ⟨item, rest, hloop, -, rfl⟩ | ⟨o, sink, -, -, rfl⟩ := step?_cases h
  · exact process_hands { i with inbound := rest } (by dsimp only; rw [hloop]; rfl) item
  · exact ⟨i.ledger, .inl ⟨rfl, rfl⟩⟩

/-- A sampler in service stays there as long as the loop is alive, and is stopped when it ends. -/
theorem service_of_step? {i next : Ingestion} {period : Int} (h : i.sampling.Started period)
    (hstep : i.step? = some next) :
    (next.loop.isAlive = true → next.sampling.Started period) ∧
      (next.loop.isAlive = false → next.sampling.Stopped period) := by
  obtain ⟨ledger, ⟨hgoes, hsampling⟩ | ⟨cause, hended, hsampling⟩⟩ := step?_hands hstep
  · refine ⟨fun _ => hsampling ▸ h.withLedger ledger, ?_⟩
    rw [hgoes]
    exact Bool.noConfusion
  · refine ⟨?_, fun _ => hsampling ▸ (h.withLedger ledger).stop⟩
    rw [hended]
    exact Bool.noConfusion

end Ingestion

namespace IngestionCrew

/-! ## Who loops -/

section

variable [Depths] [Scheduler]

/-- Nobody has begun to loop. Threads may have been told to, and the sampler is
`SamplerSession.Fresh`. -/
structure Unmanned (interval : Value) (period : Int) (c : IngestionCrew) : Prop where
  /-- No thread is in a loop, -/
  loops : ∀ k, c.loopOf k = none
  /-- and the shared state has none either. -/
  current : c.shared.loop = .idle
  /-- Nobody has started the sampler. -/
  sampler : c.shared.sampling.Fresh interval
  /-- It can be started now. -/
  scheduled : ∃ next, Scheduler.every c.shared.sampling.now interval = .ok ⟨period, next⟩
  taken : c.taken = []

/-- One thread has begun to loop. The sampler is in service as long as the loop is alive. No other
thread is in a loop (`IngestionCrew.loopOf`). -/
structure Manned (period : Int) (k : Nat) (loop : IngestionLoop) (c : IngestionCrew) : Prop where
  /-- One thread is in its loop, and no other one is. -/
  loops : ∀ j, c.loopOf j = if j = k then some loop else none
  /-- Its loop is the one that is shared. -/
  current : c.shared.loop = loop
  /-- While it goes on, the sampler is in service. -/
  alive : loop.isAlive = true → c.shared.sampling.Started period
  /-- Afterwards the sampler is stopped, or has died before. -/
  dead : loop.isAlive = false → c.shared.sampling.Stopped period
  /-- All items were taken by this thread. -/
  taken : ∀ t ∈ c.taken, t.1 = k

section Work

variable {interval : Value} {period : Int} {k : Nat} {loop : IngestionLoop} {c next : IngestionCrew}

omit [Depths] in
theorem Unmanned.ofSameWork (h : c.Unmanned interval period) (hsame : SameWork c next) :
    next.Unmanned interval period :=
  ⟨fun k => (hsame.loops k).trans (h.loops k), hsame.current.trans h.current,
    hsame.sampling ▸ h.sampler, hsame.sampling ▸ h.scheduled, hsame.taken.trans h.taken⟩

omit [Depths] [Scheduler] in
theorem Manned.ofSameWork (h : c.Manned period k loop) (hsame : SameWork c next) :
    next.Manned period k loop :=
  ⟨fun j => (hsame.loops j).trans (h.loops j), hsame.current.trans h.current,
    hsame.sampling ▸ h.alive, hsame.sampling ▸ h.dead, hsame.taken ▸ h.taken⟩

omit [Depths] [Scheduler] in
theorem Manned.runner (h : c.Manned period k loop) : c.runners[k]? = some (.looping loop) := by
  rw [← loopOf_eq_some, h.loops, if_pos rfl]

/-! ### Beginning -/

/-- **The first thread that starts the sampler begins to loop.** -/
theorem Unmanned.begin (h : c.Unmanned interval period) (hcalled : c.runners[k]? = some .called) :
    (c.step k).Manned period k .fetching := by
  obtain ⟨next, hjob⟩ := h.scheduled
  obtain ⟨hok, hstarted⟩ := h.sampler.start hjob
  have hstart : c.shared.sampling.start = (.ok (), c.shared.sampling.start.2) :=
    Prod.ext hok rfl
  obtain ⟨hk, -⟩ := List.getElem?_eq_some_iff.mp hcalled
  rw [step, hcalled]
  dsimp only
  rw [Ingestion.enter, hstart]
  refine ⟨fun j => ?_, rfl, fun _ => hstarted, Bool.noConfusion, ?_⟩
  · rw [loopOf, loop_set hk]
    exact if_congr Iff.rfl rfl (h.loops j)
  · intro t ht
    have htaken : t ∈ c.taken := ht
    rw [h.taken] at htaken
    cases htaken

/-- Nobody else has a step to take. -/
theorem Unmanned.step (h : c.Unmanned interval period) (k : Nat) :
    (c.step k).Unmanned interval period ∨ (c.step k).Manned period k .fetching := by
  cases hrunner : c.runners[k]? with
  | none =>
    rw [IngestionCrew.step, hrunner]
    exact .inl h
  | some runner =>
    cases runner with
    | called => exact .inr (h.begin hrunner)
    | looping loop => cases (h.loops k).symm.trans (loopOf_eq_some.mpr hrunner)
    | refused cause =>
      rw [IngestionCrew.step, hrunner]
      exact .inl h

/-- Time may pass before anybody begins, if a job can be scheduled afterwards. -/
theorem Unmanned.pass (h : c.Unmanned interval period) {moment : Int}
    (hmoment : ∃ next, Scheduler.every moment interval = .ok ⟨period, next⟩) :
    (c.perform (.pass moment)).Unmanned interval period := by
  rw [perform]
  split
  · have hclock := h.sampler.withClock moment
    dsimp only
    rw [hclock.settle]
    exact ⟨h.loops, h.current, hclock, hmoment, h.taken⟩
  · exact h

/-! ### Looping -/

omit [Depths] [Scheduler] in
theorem Manned.thread (h : c.Manned period k loop) :
    c.shared.sampling.sampler.thread ≠ .unstarted := by
  cases halive : loop.isAlive with
  | true => exact (h.alive halive).thread
  | false =>
    rw [(h.dead halive).thread]
    exact SamplerThread.noConfusion

omit [Depths] in
/-- **Whoever comes later is turned away**, and leaves everything as it was. This is
`Ingestion.enter`, which begins with the sampler. -/
theorem Manned.enter (h : c.Manned period k loop) :
    c.shared.enter = (.error .samplerStarted, c.shared) := by
  rw [Ingestion.enter, SamplerSession.start_of_started h.thread]

/-- A thread that comes later is refused with the fault of the sampler. -/
theorem Manned.refuse (h : c.Manned period k loop) {j : Nat}
    (hcalled : c.runners[j]? = some .called) :
    c.step j = { c with runners := c.runners.set j (.refused .samplerStarted) } := by
  rw [IngestionCrew.step, hcalled]
  dsimp only
  rw [h.enter]

omit [Depths] [Scheduler] in
/-- What the thread that loops sees is what there is. -/
theorem Manned.seen (h : c.Manned period k loop) : { c.shared with loop } = c.shared := by
  rw [← h.current]

theorem Manned.step_of_some (h : c.Manned period k loop) {after : Ingestion}
    (hstep : c.shared.step? = some after) :
    c.step k = { c with
      shared := after
      runners := c.runners.set k (.looping after.loop)
      taken := c.taken ++ c.shared.nextItem?.toList.map (k, ·) } := by
  rw [IngestionCrew.step, h.runner]
  dsimp only
  rw [h.seen, hstep]

theorem Manned.step_of_none (h : c.Manned period k loop) (hstep : c.shared.step? = none) :
    c.step k = c := by
  rw [IngestionCrew.step, h.runner]
  dsimp only
  rw [h.seen, hstep]

/-- The thread that loops gets on. -/
theorem Manned.advance (h : c.Manned period k loop) {after : Ingestion}
    (hstep : c.shared.step? = some after) :
    (c.step k).shared = after ∧ (c.step k).Manned period k after.loop := by
  obtain ⟨hk, -⟩ := List.getElem?_eq_some_iff.mp h.runner
  have hstarted := h.alive (h.current ▸ (Ingestion.step?_alive hstep).1)
  obtain ⟨halive, hdead⟩ := Ingestion.service_of_step? hstarted hstep
  rw [h.step_of_some hstep]
  refine ⟨rfl, fun j => ?_, rfl, halive, hdead, ?_⟩
  · rw [loopOf, loop_set hk]
    split
    · rfl
    · rename_i hjk
      exact (h.loops j).trans (if_neg hjk)
  · intro t ht
    rcases List.mem_append.mp ht with hbefore | hnow
    · exact h.taken t hbefore
    · obtain ⟨item, -, rfl⟩ := List.mem_map.mp hnow
      rfl

/-- **A step of any thread** gets on with the loop that there is, or with none. -/
theorem Manned.step (h : c.Manned period k loop) (j : Nat) :
    ∃ later, (c.step j).Manned period k later ∧
      (loop.isAlive = false → later = loop ∧ (c.step j).taken = c.taken) := by
  cases hrunner : c.runners[j]? with
  | none =>
    rw [IngestionCrew.step, hrunner]
    exact ⟨loop, h, fun _ => ⟨rfl, rfl⟩⟩
  | some runner =>
    cases runner with
    | called =>
      obtain ⟨hj, -⟩ := List.getElem?_eq_some_iff.mp hrunner
      -- a thread that is only called now is refused: the sampler was started
      rw [h.refuse hrunner]
      refine ⟨loop, h.ofSameWork ⟨fun i => ?_, rfl, rfl, rfl⟩, fun _ => ⟨rfl, rfl⟩⟩
      rw [loopOf, loop_set hj, loopOf]
      split
      · rename_i hij
        rw [hij, hrunner]
        rfl
      · rfl
    | looping other =>
      -- no other thread is in a loop, so this is the one that has begun
      have hother := loopOf_eq_some.mpr hrunner
      rw [h.loops j] at hother
      obtain ⟨rfl, -⟩ := Option.ite_none_right_eq_some.mp hother
      cases hstep : c.shared.step? with
      | none =>
        rw [h.step_of_none hstep]
        exact ⟨loop, h, fun _ => ⟨rfl, rfl⟩⟩
      | some after =>
        refine ⟨after.loop, (h.advance hstep).2, fun hdead => ?_⟩
        rw [Ingestion.step?_of_dead (h.current ▸ hdead)] at hstep
        cases hstep
    | refused cause =>
      rw [IngestionCrew.step, hrunner]
      exact ⟨loop, h, fun _ => ⟨rfl, rfl⟩⟩

/-- While time passes the sampler stays in service, if its job can be put off. -/
theorem Manned.pass (h : c.Manned period k loop) {moment : Int}
    (hmoment : loop.isAlive = true → ∃ next, (Job.mk period next).RunsAfter moment) :
    (c.perform (.pass moment)).Manned period k loop := by
  rw [perform]
  split
  · rename_i hforward
    refine ⟨h.loops, h.current, fun halive => ?_, fun hdead => ?_, h.taken⟩
    · obtain ⟨next, hnext⟩ := hmoment halive
      exact (h.alive halive).pass hforward hnext
    · exact (h.dead hdead).pass moment
  · exact h

/-- **Whoever has begun to loop stays the only one that loops.** Once the loop has ended, nothing is
taken any more. The invariant is `Manned` by the same thread, with a later loop. -/
theorem Manned.perform (h : c.Manned period k loop) (call : CrewCall)
    (hcall : loop.isAlive = true → ∀ moment, call = .pass moment →
      ∃ next, (Job.mk period next).RunsAfter moment) :
    ∃ later, (c.perform call).Manned period k later ∧
      (loop.isAlive = false → later = loop ∧ (c.perform call).taken = c.taken) := by
  by_cases hstep : ∃ j, call = .step j
  · obtain ⟨j, rfl⟩ := hstep
    exact h.step j
  by_cases hpass : ∃ moment, call = .pass moment
  · obtain ⟨moment, rfl⟩ := hpass
    refine ⟨loop, h.pass fun halive => hcall halive moment rfl, fun _ => ⟨rfl, ?_⟩⟩
    rw [IngestionCrew.perform]
    split <;> rfl
  · have hsame := c.sameWork_perform call (not_exists.mp hstep) (not_exists.mp hpass)
    exact ⟨loop, h.ofSameWork hsame, fun _ => ⟨rfl, hsame.taken⟩⟩

/-- Once the loop has ended, nothing is taken any more, whatever is called. -/
theorem Manned.performAll_of_dead (h : c.Manned period k loop) (hdead : loop.isAlive = false)
    (calls : List CrewCall) :
    (c.performAll calls).Manned period k loop ∧ (c.performAll calls).taken = c.taken := by
  induction calls generalizing c with
  | nil => exact ⟨h, rfl⟩
  | cons call calls ih =>
    obtain ⟨later, hlater, hrest⟩ := h.perform call fun halive => by
      rw [hdead] at halive
      cases halive
    obtain ⟨rfl, htaken⟩ := hrest hdead
    obtain ⟨hlast, hlasttaken⟩ := ih hlater
    exact ⟨hlast, hlasttaken.trans htaken⟩

/-! ### All calls -/

/-- Nobody has begun, or one thread has. -/
def Sound (interval : Value) (period : Int) (c : IngestionCrew) : Prop :=
  c.Unmanned interval period ∨ ∃ k loop, c.Manned period k loop

/-- Whatever is called, nobody loops afterwards, or one thread does. -/
theorem Unmanned.perform (h : c.Unmanned interval period) (call : CrewCall)
    (hcall : ∀ moment, call = .pass moment →
      ∃ next, Scheduler.every moment interval = .ok ⟨period, next⟩) :
    (c.perform call).Sound interval period := by
  by_cases hstep : ∃ j, call = .step j
  · obtain ⟨j, rfl⟩ := hstep
    exact (h.step j).imp id fun hmanned => ⟨j, .fetching, hmanned⟩
  by_cases hpass : ∃ moment, call = .pass moment
  · obtain ⟨moment, rfl⟩ := hpass
    exact .inl (h.pass (hcall moment rfl))
  · exact .inl (h.ofSameWork
      (c.sameWork_perform call (not_exists.mp hstep) (not_exists.mp hpass)))

/-- **Every call keeps it that way.** There are two cases, `Unmanned` and `Manned`. -/
theorem Sound.perform (h : c.Sound interval period) (call : CrewCall)
    (hcall : ∀ moment, call = .pass moment →
      ∃ next, Scheduler.every moment interval = .ok ⟨period, next⟩) :
    (c.perform call).Sound interval period := by
  obtain hunmanned | ⟨k, loop, hmanned⟩ := h
  · exact hunmanned.perform call hcall
  · obtain ⟨later, hlater, -⟩ := hmanned.perform call fun _ moment hmoment => by
      obtain ⟨next, hjob⟩ := hcall moment hmoment
      exact ⟨next, ((Scheduler.every_eq_ok_iff ..).mp hjob).2⟩
    exact .inr ⟨k, later, hlater⟩

/-- So do calls in turn, by induction. -/
theorem Sound.performAll (h : c.Sound interval period) (calls : List CrewCall)
    (hcalls : ∀ moment, .pass moment ∈ calls →
      ∃ next, Scheduler.every moment interval = .ok ⟨period, next⟩) :
    (c.performAll calls).Sound interval period := by
  induction calls generalizing c with
  | nil => exact h
  | cons call calls ih =>
    refine ih (h.perform call fun moment hmoment => hcalls moment ?_) fun moment hmoment =>
      hcalls moment (List.mem_cons_of_mem _ hmoment)
    exact hmoment ▸ List.mem_cons_self

/-! ### Operations as calls -/

/-- A thread that was told to loop begins, or is refused. -/
theorem shared_step_of_called {j : Nat} (hcalled : c.runners[j]? = some .called) :
    (c.step j).shared = c.shared.enter.2 := by
  rw [step, hcalled]
  dsimp only
  split
  · rename_i henter
    rw [henter]
  · rename_i henter
    rw [henter]

/-- The loop goes on as far as it can in steps of its thread. -/
theorem Manned.exists_steps_of_settle (h : c.Manned period k loop) :
    ∃ n, (c.performAll (List.replicate n (.step k))).shared = c.shared.settle := by
  rw [Ingestion.settle]
  generalize 2 * c.shared.inbound.length + 1 = fuel
  induction fuel generalizing c loop with
  | zero => exact ⟨0, rfl⟩
  | succ fuel ih =>
    rw [Ingestion.settleFor]
    cases hstep : c.shared.step? with
    | none => exact ⟨0, rfl⟩
    | some after =>
      obtain ⟨hafter, hmanned⟩ := h.advance hstep
      obtain ⟨n, hn⟩ := ih hmanned
      exact ⟨n + 1, hn.trans (by rw [hafter])⟩

/-- So it does once a thread that was told to loop has begun, or was refused. -/
theorem Sound.exists_steps_of_enter (h : c.Sound interval period) {j : Nat}
    (hcalled : c.runners[j]? = some .called) :
    ∃ k n, (c.performAll (.step j :: List.replicate n (.step k))).shared =
      c.shared.enter.2.settle := by
  obtain ⟨k, loop, hmanned⟩ : ∃ k loop, (c.step j).Manned period k loop := by
    obtain hunmanned | ⟨k, loop, hmanned⟩ := h
    · exact ⟨j, .fetching, hunmanned.begin hcalled⟩
    · obtain ⟨later, hlater, -⟩ := hmanned.step j
      exact ⟨k, later, hlater⟩
  obtain ⟨n, hn⟩ := hmanned.exists_steps_of_settle
  exact ⟨k, n, hn.trans (by rw [shared_step_of_called hcalled])⟩

/-- What starting a background thread does is calls in turn. -/
theorem Sound.exists_calls_of_start (h : c.Sound interval period) :
    ∃ calls, (c.performAll calls).shared = c.shared.start.2 := by
  by_cases hmade : c.shared.threadMade = true
  · refine ⟨[], ?_⟩
    rw [Ingestion.start, if_pos hmade]
    rfl
  · have hstart := h.perform .start (fun _ => CrewCall.noConfusion)
    rw [IngestionCrew.perform, if_neg hmade] at hstart
    obtain ⟨k, n, hn⟩ := hstart.exists_steps_of_enter List.getElem?_concat_length
    refine ⟨.start :: .step c.runners.length :: List.replicate n (.step k), ?_⟩
    rw [Ingestion.start, if_neg hmade, IngestionCrew.performAll, List.foldl_cons,
      IngestionCrew.perform, if_neg hmade]
    exact hn

/-- So is what running the loop on the thread of the caller does. -/
theorem Sound.exists_calls_of_run (h : c.Sound interval period) :
    ∃ calls, (c.performAll calls).shared = c.shared.run.2 := by
  have hrun := h.perform .run (fun _ => CrewCall.noConfusion)
  obtain ⟨k, n, hn⟩ := hrun.exists_steps_of_enter List.getElem?_concat_length
  rw [Ingestion.run]
  split
  · rename_i cause next henter
    refine ⟨[.run, .step c.runners.length], ?_⟩
    have hstep := shared_step_of_called (c := c.perform .run) (j := c.runners.length)
      List.getElem?_concat_length
    exact hstep.trans (congrArg Prod.snd henter)
  · rename_i next henter
    refine ⟨.run :: .step c.runners.length :: List.replicate n (.step k), ?_⟩
    have hsettled : next.settle = c.shared.enter.2.settle := by rw [henter]
    dsimp only
    split <;> exact hn.trans hsettled.symm

/-! ## The result -/

omit [Depths] in
/-- Before anything is called nobody has begun. -/
theorem sound_ofIngestion {sinkSize : Option Int} {time : Float} {i : Ingestion}
    (hmake : Ingestion.make interval sinkSize time = .ok i) {job : Job}
    (hjob : Scheduler.every 0 interval = .ok job) : (ofIngestion i).Sound interval job.period := by
  obtain ⟨sampler, hsampler, rfl⟩ := Ingestion.make_ok hmake
  obtain rfl := Sampler.eq_of_make hsampler
  exact .inl ⟨fun _ => rfl, rfl, ⟨⟨rfl, rfl, rfl⟩, rfl, rfl, rfl, rfl⟩, ⟨job.nextRun, hjob⟩, rfl⟩

omit [Depths] [Scheduler] in
/-- Before anything is called there is no item. -/
theorem items_ofIngestion {sinkSize : Option Int} {time : Float} {i : Ingestion}
    (hmake : Ingestion.make interval sinkSize time = .ok i) : (ofIngestion i).items = [] := by
  obtain ⟨sampler, -, rfl⟩ := Ingestion.make_ok hmake
  rfl

omit [Depths] in
/-- Nobody loops yet, or the loops are those of one thread. -/
theorem Sound.exists_only (h : c.Sound interval period) :
    ∃ k, (∀ j loop, c.loopOf j = some loop → j = k) ∧ ∀ t ∈ c.taken, t.1 = k := by
  obtain hunmanned | ⟨k, loop, hmanned⟩ := h
  · refine ⟨0, fun j loop hloop => ?_, fun t ht => ?_⟩
    · cases (hunmanned.loops j).symm.trans hloop
    · rw [hunmanned.taken] at ht
      cases ht
  · refine ⟨k, fun j other hother => ?_, hmanned.taken⟩
    rw [hmanned.loops j] at hother
    exact (Option.ite_none_right_eq_some.mp hother).1

omit [Depths] in
/-- If a thread loops, it is the one that has begun. -/
theorem Sound.manned (h : c.Sound interval period) (hloop : c.loopOf k = some loop) :
    c.Manned period k loop := by
  obtain hunmanned | ⟨k', loop', hmanned⟩ := h
  · cases (hunmanned.loops k).symm.trans hloop
  · rw [hmanned.loops k] at hloop
    obtain ⟨rfl, hsame⟩ := Option.ite_none_right_eq_some.mp hloop
    obtain rfl := Option.some.inj hsame
    exact hmanned

omit [Depths] in
/-- The sampler runs exactly while the loop is alive, unless its period is too long. -/
theorem Sound.running_iff (h : c.Sound interval period) :
    c.shared.sampling.sampler.running = true ↔
      period ≤ Sampler.waitLimit ∧ ∃ k loop, c.loopOf k = some loop ∧ loop.isAlive = true := by
  obtain hunmanned | ⟨k, loop, hmanned⟩ := h
  · rw [hunmanned.sampler.running]
    refine iff_of_false Bool.false_ne_true ?_
    rintro ⟨-, k, loop, hloop, -⟩
    cases (hunmanned.loops k).symm.trans hloop
  · have hloop : c.loopOf k = some loop := loopOf_eq_some.mpr hmanned.runner
    cases halive : loop.isAlive with
    | true =>
      rw [(hmanned.alive halive).running_iff]
      exact (and_iff_left ⟨k, loop, hloop, halive⟩).symm
    | false =>
      -- a loop that has ended has stopped the sampler
      rw [SamplerSession.running_of_ended (hmanned.dead halive).thread]
      refine iff_of_false Bool.false_ne_true ?_
      rintro ⟨-, j, other, hother, hgoes⟩
      rw [hmanned.loops j] at hother
      obtain ⟨-, hsame⟩ := Option.ite_none_right_eq_some.mp hother
      obtain rfl := Option.some.inj hsame
      rw [halive] at hgoes
      cases hgoes

end Work

/-- **There is one loop, and the sampler goes with it.** Let a job be scheduled with the interval
now and at each moment to which the clock goes on. To start the sampler is assumed to be a single
step (`LoopRunner.called`): no thread comes between the look whether it was started and the mark
that it is. Whatever is called, and in whatever order the threads take their steps:

* one thread at most ever loops, and it has taken all that was taken; what was put was taken in
  order or is in the queue;
* as long as nobody loops, a thread that was told to do so begins with its next step;
* after that whoever runs the loop on his own thread is turned away, and so is any other thread that
  was told to loop, which leaves everything but that thread as it was; a second background thread is
  not made at all;
* the sampler runs exactly while the loop is alive, if its thread can wait for a whole period;
* once the loop has ended, nothing is ever taken again, and no job is left, if the thread of the
  sampler could wait for a whole period. Otherwise the job is. -/
theorem one_loop_with_sampler {interval : Value} {sinkSize : Option Int} {time : Float}
    {i : Ingestion} (hmake : Ingestion.make interval sinkSize time = .ok i) {job : Job}
    (hjob : Scheduler.every 0 interval = .ok job) (calls : List CrewCall)
    (hcalls : ∀ moment, .pass moment ∈ calls →
      ∃ later, Scheduler.every moment interval = .ok later) :
    let c := (ofIngestion i).performAll calls
    let sampler := c.shared.sampling.sampler
    (∃ k, (∀ j loop, c.loopOf j = some loop → j = k) ∧ ∀ t ∈ c.taken, t.1 = k) ∧
    c.taken.map Prod.snd ++ c.shared.inbound = calls.filterMap CrewCall.enqueued? ∧
    ((∀ j, c.loopOf j = none) →
      ∀ k, c.runners[k]? = some .called → (c.step k).loopOf k = some .fetching) ∧
    ((∃ k loop, c.loopOf k = some loop) →
      c.shared.run = (.error .samplerStarted, c.shared) ∧
        ∀ j, c.runners[j]? = some .called →
          c.step j = { c with runners := c.runners.set j (.refused .samplerStarted) }) ∧
    (c.shared.threadMade = true →
      c.shared.start = (.error .ingestionStarted, c.shared) ∧ c.perform .start = c) ∧
    (sampler.running = true ↔ job.period ≤ Sampler.waitLimit ∧
      ∃ k loop, c.loopOf k = some loop ∧ loop.isAlive = true) ∧
    ∀ k cause, c.loopOf k = some (.ended cause) →
      sampler.jobs.length = (if job.period ≤ Sampler.waitLimit then 0 else 1) ∧
        ∀ more, (c.performAll more).taken = c.taken ∧
          (c.performAll more).shared.inbound =
            c.shared.inbound ++ more.filterMap CrewCall.enqueued? := by
  intro c sampler
  obtain ⟨hperiod, -⟩ := (Scheduler.every_eq_ok_iff ..).mp hjob
  have hsound : c.Sound interval job.period := by
    refine (sound_ofIngestion hmake hjob).performAll calls fun moment hmoment => ?_
    obtain ⟨later, hlater⟩ := hcalls moment hmoment
    -- the period of the job depends on the interval alone, not on the moment
    obtain ⟨hsame, -⟩ := (Scheduler.every_eq_ok_iff ..).mp hlater
    obtain hsame := Except.ok.inj (hperiod.symm.trans hsame)
    exact ⟨later.nextRun, hsame ▸ hlater⟩
  refine ⟨hsound.exists_only, ?_, ?_, ?_, ?_, hsound.running_iff, ?_⟩
  · refine (items_performAll _ calls).trans ?_
    rw [items_ofIngestion hmake]
    rfl
  · intro hnobody k hcalled
    obtain hunmanned | ⟨j, loop, hmanned⟩ := hsound
    · exact loopOf_eq_some.mpr (hunmanned.begin hcalled).runner
    · cases (hnobody j).symm.trans (loopOf_eq_some.mpr hmanned.runner)
  · rintro ⟨k, loop, hloop⟩
    have hmanned := hsound.manned hloop
    refine ⟨?_, fun j hcalled => hmanned.refuse hcalled⟩
    rw [Ingestion.run, hmanned.enter]
  · intro hmade
    exact ⟨if_pos hmade, if_pos hmade⟩
  · intro k cause hended
    have hmanned := hsound.manned hended
    refine ⟨(hmanned.dead rfl).jobs, fun more => ?_⟩
    obtain ⟨-, htaken⟩ := hmanned.performAll_of_dead rfl more
    -- nothing is taken any more, so that what is put stays in the queue
    have hitems := c.items_performAll more
    rw [items, items, htaken, List.append_assoc] at hitems
    exact ⟨htaken, List.append_cancel_left hitems⟩

end

/-- The background thread is told first, but the thread of a caller comes before it. -/
def lateBackground : List CrewCall :=
  [.start, .run, .step 1, .step 0, .put (.outcome ⟨.get, .success⟩), .step 1, .pass 2500000, .start]

open Machine

/-- The background thread is turned away, the sampler runs for the other one, and a tick later it
still does. -/
theorem one_loop_lateBackground :
    ∃ i job later, Ingestion.make (.int 1) (some 1) 0.0 = .ok i ∧
      Scheduler.every 0 (.int 1) = .ok job ∧ Scheduler.every 2500000 (.int 1) = .ok later ∧
      let c := (ofIngestion i).performAll lateBackground
      c.taken.length = 1 ∧ (∀ t ∈ c.taken, t.1 = 1) ∧ c.shared.sampling.sampler.ticks = 1 ∧
        c.shared.sampling.sampler.running = true := by
  have hjob : Scheduler.every 0 (.int 1) = .ok ⟨1000000, 1000000⟩ := rfl
  have hlater : Scheduler.every 2500000 (.int 1) = .ok ⟨1000000, 3500000⟩ := rfl
  have hcalls : ∀ moment, .pass moment ∈ lateBackground →
      ∃ later, Scheduler.every moment (.int 1) = .ok later := by
    intro moment hmoment
    simp only [lateBackground, List.mem_cons, reduceCtorEq, false_or, or_false,
      CrewCall.pass.injEq, List.not_mem_nil] at hmoment
    exact ⟨_, hmoment ▸ hlater⟩
  -- the state is forgotten once it was looked at, so that nothing below evaluates it again
  obtain ⟨i, hmake, htaken, hticks, hloop⟩ :
      ∃ i, Ingestion.make (.int 1) (some 1) 0.0 = .ok i ∧
        let c := (ofIngestion i).performAll lateBackground
        c.taken.length = 1 ∧ c.shared.sampling.sampler.ticks = 1 ∧
          (c.loopOf 1).map IngestionLoop.isAlive = some true :=
    ⟨_, rfl, by decide +kernel⟩
  obtain ⟨loop, hloop, halive⟩ := Option.map_eq_some_iff.mp hloop
  obtain ⟨⟨k, honly, hby⟩, -, -, -, -, hrunning, -⟩ :=
    one_loop_with_sampler hmake hjob lateBackground hcalls
  obtain rfl := honly 1 loop hloop
  exact ⟨i, _, _, hmake, hjob, hlater, htaken, hby, hticks,
    hrunning.mpr ⟨by decide, 1, loop, hloop, halive⟩⟩

/-- An interval of some three centuries can be scheduled. The loop begins, but the sampler dies of
its first wait, and leaves its job when the loop has ended. -/
theorem stranded_longInterval :
    ∃ i, Ingestion.make (.int 10000000000) none 0.0 = .ok i ∧
      (∃ job, Scheduler.every 0 (.int 10000000000) = .ok job) ∧
      (let c := (ofIngestion i).performAll [.start, .step 0]
       (c.loopOf 0).map IngestionLoop.isAlive = some true ∧
        c.shared.sampling.sampler.running = false) ∧
      let c := (ofIngestion i).performAll [.start, .step 0, .close, .step 0]
      (c.loopOf 0).map IngestionLoop.isAlive = some false ∧
        c.shared.sampling.sampler.jobs.length = 1 :=
  ⟨_, rfl, by decide +kernel, by decide +kernel, by decide +kernel⟩

end IngestionCrew

end LoadLedger
