import LoadLedger.Machine
import LoadLedger.Proofs.Ingestion.OneLoop
import LoadLedger.Proofs.Replay.Delivery

/-!
# Replays that fail

A replay whose producer fails does not wait for the ingestion loop. The end mark is on the inbound
queue, and the loop is on its way to it, but the main thread asks the drainer to stop at once,
waits for it, and leaves with the fault. From then on nobody takes anything from the sink.

A sink with room for all failures takes them without a drainer, and the loop comes to its end. A
smaller one may hold the loop up for good: the drainer may have ended before the loop has put a
single failure (`Replay.reaches_early_return`), and then the loop puts as many as there is room for,
and stands still with the next one in hand (`Replay.Fails.exists_blocked`). In whatever order the
threads go on, there is no other way for a replay that fails to come to a standstill before the loop
has ended (`Replay.Fails.blocked_of_stuck`).

`Replay.Fails` is the invariant of such a replay. It says nothing of the drainer but that nobody
waits for the loop on its behalf, and keeps the sampler and the sink in order (`Ingestion.InOrder`).
The result is `Replay.loop_left_behind`.
-/

namespace LoadLedger

namespace Ingestion

/-! ## Ingestion in order -/

/-- The sampler is in service as long as the loop is alive, and a sink with a bound keeps to it. -/
structure InOrder (period : Int) (i : Ingestion) : Prop where
  /-- The sampler serves a loop that is alive, -/
  alive : i.loop.isAlive = true → i.sampling.Started period
  /-- and is stopped by one that ends. -/
  dead : i.loop.isAlive = false → i.sampling.Stopped period
  sink : ∀ sink, i.sink = some sink → 0 < sink.maxSize → (sink.items.length : Int) ≤ sink.maxSize

namespace InOrder

variable {period : Int} {i next : Ingestion}

/-- An item that is put concerns neither the sampler nor the sink. -/
theorem put (h : i.InOrder period) (item : InboundItem) : (i.put item).InOrder period :=
  ⟨h.alive, h.dead, h.sink⟩

/-- The loop stops the sampler when it ends, and puts an outcome only where there is room. -/
theorem step [Depths] [Scheduler] (h : i.InOrder period) (hstep : i.step? = some next) :
    next.InOrder period := by
  obtain ⟨halive, hdead⟩ := service_of_step? (h.alive (step?_alive hstep).1) hstep
  refine ⟨halive, hdead, ?_⟩
  obtain ⟨item, rest, -, -, rfl⟩ | ⟨o, sink, hloop, hsink, rfl⟩ := step?_cases hstep
  · obtain ⟨⟨-, -, -, hsame⟩, -⟩ := process_sameQueues { i with inbound := rest } item
    rw [hsame]
    exact h.sink
  · have hroom : sink.hasRoom = true := by
      by_contra hfull
      have hnone := (step?_eq_none_of_forwarding hloop hsink).mpr (Bool.eq_false_iff.mpr hfull)
      cases hstep.symm.trans hnone
    rintro _ ⟨⟩ hbound
    rw [FailureSink.hasRoom, Bool.or_eq_true, decide_eq_true_iff, decide_eq_true_iff] at hroom
    dsimp only at hbound ⊢
    rw [List.length_append, List.length_singleton]
    omega

theorem take {o : Outcome} (h : i.InOrder period) (htake : i.take? = some (o, next)) :
    next.InOrder period := by
  obtain ⟨sink, items, hsink, hitems, rfl⟩ := take?_cases htake
  refine ⟨h.alive, h.dead, ?_⟩
  rintro _ ⟨⟩ hbound
  have hbefore := h.sink sink hsink hbound
  rw [hitems, List.length_cons] at hbefore
  dsimp only
  omega

end InOrder

end Ingestion

namespace Replay

/-! ## The invariant -/

/-- A replay that puts the items of a plan, and then fails. It is fed like any other
(`Replay.Feeds`), but never waits for the loop. -/
structure Fails (plan : List InboundItem) (initial : Ledger) (size period : Int) (cause : Fault)
    (r : Replay) (taken : List InboundItem) : Prop where
  /-- Items go from the plan to the queue and to the loop. -/
  feeds : r.Feeds plan initial (some size) True taken
  /-- The producer has come to a fault. -/
  produced : r.produced = .error cause
  /-- The main thread does not wait for the loop. -/
  phase : r.phase ≠ .joining
  ingestion : r.ingestion.InOrder period

variable [Depths] [Scheduler]

namespace Fails

variable {plan : List InboundItem} {initial : Ledger} {size period : Int} {cause : Fault}
  {r next : Replay} {taken : List InboundItem}

/-- Whoever fails does not wait for the loop. -/
theorem phase_of_next (h : r.Fails plan initial size period cause taken) (hnext : r.Next next) :
    next.phase ≠ .joining := by
  cases hnext with
  | main hstep =>
    obtain ⟨item, items, -, rfl⟩ | ⟨-, ⟨⟨count, hcount⟩, rfl⟩ | ⟨-, rfl⟩⟩ | ⟨-, -, rfl⟩ |
      ⟨-, -, rfl⟩ := mainStep?_cases hstep
    · exact ReplayPhase.noConfusion
    -- only a producer that does not fail makes the main thread wait for the loop
    · rw [h.produced] at hcount
      cases hcount
    · exact ReplayPhase.noConfusion
    · exact ReplayPhase.noConfusion
    · exact ReplayPhase.noConfusion
  | ingestion hstep =>
    obtain ⟨i, -, rfl⟩ := ingestionStep?_cases hstep
    exact h.phase
  | drainer hstep =>
    obtain ⟨o, i, -, rfl⟩ | ⟨-, -, rfl⟩ := drainerStep?_cases hstep
    · exact h.phase
    · exact h.phase

/-- Only the steps of the ingestion thread change anything of it, and these keep to the order
(`InOrder.step`). -/
theorem inOrder_of_next (h : r.Fails plan initial size period cause taken) (hnext : r.Next next) :
    next.ingestion.InOrder period := by
  cases hnext with
  | main hstep =>
    obtain ⟨item, items, -, rfl⟩ | ⟨-, ⟨-, rfl⟩ | ⟨-, rfl⟩⟩ | ⟨-, -, rfl⟩ | ⟨-, -, rfl⟩ :=
      mainStep?_cases hstep
    · exact h.ingestion.put item
    all_goals exact h.ingestion
  | ingestion hstep =>
    obtain ⟨i, hi, rfl⟩ := ingestionStep?_cases hstep
    exact h.ingestion.step hi
  | drainer hstep =>
    obtain ⟨o, i, htake, rfl⟩ | ⟨-, -, rfl⟩ := drainerStep?_cases hstep
    · exact h.ingestion.take htake
    · exact h.ingestion

/-- **Every step of every thread keeps the invariant.** The parts are `Feeds.step`, `phase_of_next`
and `inOrder_of_next`. -/
theorem step (h : r.Fails plan initial size period cause taken)
    (hplain : ∀ item ∈ plan, item.Plain) (hnext : r.Next next) :
    ∃ more, next.Fails plan initial size period cause more := by
  obtain ⟨more, hfeeds⟩ := h.feeds.step hplain hnext
  exact ⟨more, hfeeds, (produced_of_next hnext).trans h.produced, h.phase_of_next hnext,
    h.inOrder_of_next hnext⟩

theorem reaches (h : r.Fails plan initial size period cause taken)
    (hplain : ∀ item ∈ plan, item.Plain) {last : Replay} (hreaches : r.Reaches last) :
    ∃ more, last.Fails plan initial size period cause more := by
  induction hreaches with
  | refl => exact ⟨taken, h⟩
  | tail _ hnext ih =>
    obtain ⟨more, hmore⟩ := ih
    exact hmore.step hplain hnext

/-! ## Standstills -/

/-- **A replay that fails gets stuck only at its end.** -/
theorem done_of_stuck (h : r.Fails plan initial size period cause taken)
    (hstuck : ∀ next, ¬r.Next next) : r.phase = .done :=
  (phase_of_stuck hstuck).resolve_right fun hwaits => h.phase hwaits.1

/-- **A loop that stands still without having ended has a failure in hand**, for which the sink has
no room. -/
theorem blocked_of_stuck (h : r.Fails plan initial size period cause taken)
    (hfinish : .finish ∈ plan) (hstuck : ∀ next, ¬r.Next next)
    (halive : r.ingestion.loop.isAlive = true) :
    ∃ o items, r.ingestion.loop = .forwarding o ∧ r.ingestion.sink = some ⟨size, items⟩ ∧
      r.drained ++ items ++ [o] = failuresOf taken ∧ 0 < size ∧ (items.length : Int) = size := by
  obtain ⟨-, hingestion, -⟩ := steps_eq_none_of_stuck hstuck
  have hstep : r.ingestion.step? = none := Option.map_eq_none_iff.mp hingestion
  cases hloop : r.ingestion.loop with
  | idle | ended =>
    rw [hloop] at halive
    cases halive
  | fetching =>
    -- everything has been put, the end mark too, so that a loop that fetches finds an item
    have hpending : r.pending = [] := by
      simp only [pending, h.done_of_stuck hstuck]
    exact absurd (Ingestion.inbound_of_step?_eq_none hloop hstep)
      (h.feeds.inbound_ne_nil hfinish hpending hloop)
  | forwarding o =>
    obtain ⟨sink, hsink⟩ := h.feeds.exists_sink hloop
    have hfull := (Ingestion.step?_eq_none_of_forwarding hloop hsink).mp hstep
    have hbound := h.ingestion.sink sink hsink
    have hsize := h.feeds.run.sinkSize
    obtain ⟨hforwarded, -⟩ := h.feeds.run.forwarding.withSink sink hsink
    have hhand : r.ingestion.inHand = some o := by
      rw [Ingestion.inHand, hloop]
    obtain ⟨maxSize, items⟩ := sink
    rw [hsink] at hsize
    rw [hhand] at hforwarded
    obtain rfl : maxSize = size := Option.some.inj hsize
    rw [FailureSink.hasRoom, Bool.or_eq_false_iff, decide_eq_false_iff_not,
      decide_eq_false_iff_not] at hfull
    dsimp only at hbound hfull
    exact ⟨o, items, rfl, hsink, hforwarded, by omega, by omega⟩

end Fails

/-! ## What a loop has done -/

namespace Fails

variable {outcomes : List Outcome} {initial : Ledger} {size period : Int} {cause : Fault}
  {r : Replay} {taken : List InboundItem}

omit [Depths] [Scheduler] in
/-- What is merged are the first outcomes of the plan. -/
theorem take_merged
    (h : r.Fails (outcomes.map .outcome ++ [.finish]) initial size period cause taken) :
    outcomes.take r.ingestion.merged = outcomesOf taken ∧
      r.ledger = (outcomesOf taken).foldl Ledger.merged initial := by
  have hplan := h.feeds.plan
  rw [List.append_assoc] at hplan
  have hmerged : r.ingestion.merged = (outcomesOf taken).length := h.feeds.run.merged
  refine ⟨?_, h.feeds.run.sampling.ledger⟩
  rw [hmerged, ← outcomesOf_append_of_plan hplan, List.take_left]

omit [Scheduler] in
theorem merges (h : r.Fails (outcomes.map .outcome ++ [.finish]) initial size period cause taken)
    (hplain : ∀ o ∈ outcomes, o.Plain) :
    initial.mergeAll (outcomes.take r.ingestion.merged) = (.ok (), r.ledger) := by
  obtain ⟨htaken, hledger⟩ := h.take_merged
  rw [Ledger.mergeAll_of_plain fun o ho => hplain o (List.mem_of_mem_take ho), htaken, hledger]

omit [Depths] [Scheduler] in
/-- A loop that has ended has merged everything, and has stopped the sampler. -/
theorem merged_of_dead
    (h : r.Fails (outcomes.map .outcome ++ [.finish]) initial size period cause taken)
    (hdead : r.ingestion.loop.isAlive = false) :
    outcomesOf taken = outcomes ∧ r.ingestion.inHand = none ∧
      r.ingestion.sampling.sampler.running = false := by
  have hplan := h.feeds.plan
  rw [List.append_assoc] at hplan
  have hphase : IngestionRun.Phase taken r.ingestion.loop := h.feeds.run.phase
  have hbegun := h.feeds.begun.mpr trivial
  have hrunning := SamplerSession.running_of_ended (h.ingestion.dead hdead).thread
  cases hloop : r.ingestion.loop with
  | idle => exact absurd hloop hbegun
  | fetching | forwarding =>
    rw [hloop] at hdead
    cases hdead
  | ended given =>
    rw [hloop] at hphase
    refine ⟨outcomesOf_of_ended hplan hphase, ?_, hrunning⟩
    rw [Ingestion.inHand, hloop]

/-- A loop stands still only if there are more failures than the sink has room for. -/
theorem size_lt_of_stuck
    (h : r.Fails (outcomes.map .outcome ++ [.finish]) initial size period cause taken)
    (hstuck : ∀ next, ¬r.Next next) (halive : r.ingestion.loop.isAlive = true) :
    0 < size ∧ size < (outcomes.filter Outcome.isFailure).length := by
  obtain ⟨o, items, -, -, hforwarded, hpositive, hfull⟩ :=
    h.blocked_of_stuck List.mem_concat_self hstuck halive
  have hplan := h.feeds.plan
  rw [List.append_assoc] at hplan
  have hall : (failuresOf taken).length ≤ (outcomes.filter Outcome.isFailure).length := by
    rw [← outcomesOf_append_of_plan hplan, List.filter_append, List.length_append, failuresOf]
    exact Nat.le_add_right _ _
  rw [← hforwarded, List.length_append, List.length_append, List.length_singleton] at hall
  exact ⟨hpositive, by omega⟩

end Fails

/-! ## Leaving early -/

omit [Depths] [Scheduler] in
/-- Putting items in turn. -/
theorem foldl_put (items : List InboundItem) (i : Ingestion) :
    items.foldl Ingestion.put i =
      { i with inbound := i.inbound ++ items, unfinished := i.unfinished + items.length } := by
  induction items generalizing i with
  | nil => simp only [List.foldl_nil, List.append_nil, List.length_nil, Nat.add_zero]
  | cons item items ih =>
    rw [List.foldl_cons, ih]
    simp only [Ingestion.put, List.append_assoc, List.singleton_append, List.length_cons,
      Nat.add_assoc, Nat.add_comm 1]

/-- The main thread may put everything while the others wait. -/
theorem reaches_put {r : Replay} {items : List InboundItem} (hphase : r.phase = .putting items) :
    r.Reaches { r with
      ingestion := items.foldl Ingestion.put r.ingestion
      phase := .putting [] } := by
  induction items generalizing r with
  | nil => rw [List.foldl_nil, ← hphase]
  | cons item items ih =>
    have hnext : r.Next { r with ingestion := r.ingestion.put item, phase := .putting items } :=
      .main (by rw [mainStep?, hphase])
    exact .head hnext (ih rfl)

/-- **A replay that fails may return before the loop has taken anything.** The drainer has found the
sink empty by then. -/
theorem reaches_early_return {r : Replay} {items : List InboundItem}
    (hphase : r.phase = .putting items) {cause : Fault} (hproduced : r.produced = .error cause)
    (halive : r.drainerAlive = true) {size : Int} (hsink : r.ingestion.sink = some ⟨size, []⟩) :
    r.Reaches { r with
      ingestion := items.foldl Ingestion.put r.ingestion
      phase := .done
      drainerAlive := false } := by
  let after : Replay := { r with ingestion := items.foldl Ingestion.put r.ingestion }
  -- nothing is in the sink yet, since the loop has taken no step
  have hempty : after.ingestion.take? = none := by
    simp only [after, foldl_put, Ingestion.take?, hsink]
  have hasks : Next { after with phase := .putting [] } { after with phase := .stopping } := by
    refine .main ?_
    rw [mainStep?]
    simp only [after, hproduced]
  have hends : Next { after with phase := .stopping }
      { after with phase := .stopping, drainerAlive := false } :=
    .drainer (drainerStep?_of_stopAsked halive hempty rfl)
  have hreturns : Next { after with phase := .stopping, drainerAlive := false }
      { after with phase := .done, drainerAlive := false } :=
    .main rfl
  exact (((reaches_put hphase).tail hasks).tail hends).tail hreturns

/-- A drainer that has ended takes nothing any more. -/
theorem drained_of_reaches {r last : Replay} (h : r.Reaches last)
    (hdead : r.drainerAlive = false) : last.drainerAlive = false ∧ last.drained = r.drained := by
  induction h with
  | refl => exact ⟨hdead, rfl⟩
  | tail _ hnext ih =>
    obtain ⟨hbefore, hdrained⟩ := ih
    rw [← hdrained]
    cases hnext with
    | main hstep =>
      obtain ⟨item, items, -, rfl⟩ | ⟨-, ⟨-, rfl⟩ | ⟨-, rfl⟩⟩ | ⟨-, -, rfl⟩ | ⟨-, -, rfl⟩ :=
        mainStep?_cases hstep
      all_goals exact ⟨hbefore, rfl⟩
    | ingestion hstep =>
      obtain ⟨i, -, rfl⟩ := ingestionStep?_cases hstep
      exact ⟨hbefore, rfl⟩
    | drainer hstep =>
      cases hbefore.symm.trans (drainerAlive_of_drainerStep? hstep)

/-- **A loop that is left behind with more failures than the sink has room for stands still.** From
where it is left the drainer takes nothing any more (`drained_of_reaches`). -/
theorem Fails.exists_blocked {outcomes : List Outcome} {initial : Ledger} {size period : Int}
    {cause : Fault} {r : Replay} {taken : List InboundItem}
    (h : r.Fails (outcomes.map .outcome ++ [.finish]) initial size period cause taken)
    (hplain : ∀ o ∈ outcomes, o.Plain) (hdead : r.drainerAlive = false) (hdrained : r.drained = [])
    (hpositive : 0 < size) (hsize : size < (outcomes.filter Outcome.isFailure).length) :
    ∃ last more, r.Reaches last ∧ (∀ next, ¬last.Next next) ∧ last.drainerAlive = false ∧
      last.drained = [] ∧ last.ingestion.loop.isAlive = true ∧
      last.Fails (outcomes.map .outcome ++ [.finish]) initial size period cause more := by
  obtain ⟨hreaches, hstuck⟩ := runFor_spec r.weight r
  obtain ⟨more, hfails⟩ := h.reaches (plain_of_mem_plan hplain) hreaches
  obtain ⟨hstill, hnothing⟩ := drained_of_reaches hreaches hdead
  have hnone := hnothing.trans hdrained
  refine ⟨_, more, hreaches, hstuck (Nat.le_refl _), hstill, hnone, ?_, hfails⟩
  -- had the loop ended, all failures would be in the sink
  by_contra hended
  obtain ⟨houtcomes, hhand, -⟩ := hfails.merged_of_dead (Bool.eq_false_iff.mpr hended)
  obtain ⟨sink, hsink, rfl⟩ := Option.map_eq_some_iff.mp hfails.feeds.run.sinkSize
  obtain ⟨hforwarded, -⟩ := hfails.feeds.run.forwarding.withSink sink hsink
  have hbound := hfails.ingestion.sink sink hsink hpositive
  dsimp only at hforwarded
  rw [hnone, hhand, Option.toList_none, List.nil_append, List.append_nil, failuresOf, houtcomes]
    at hforwarded
  rw [hforwarded] at hbound
  omega

/-! ## The beginning -/

/-- A replay whose job can be scheduled begins with a sampler in service and an empty sink. -/
theorem inOrder_of_make {settings : Settings} {production : Production} {time : Float} {r : Replay}
    (hmake : make settings production time = .ok r) {job : Job}
    (hjob : Scheduler.every 0 (.float settings.reportInterval) = .ok job) :
    r.ingestion.InOrder job.period ∧ r.ingestion.loop = .fetching := by
  obtain ⟨i, hi, hmake⟩ := bind_eq_ok.mp hmake
  cases hmake
  obtain ⟨sampler, hsampler, rfl⟩ := Ingestion.make_ok hi
  obtain rfl := Sampler.eq_of_make hsampler
  -- a new session, whose sampler is started by the thread that is made
  let s : SamplerSession :=
    { ledger := .start time
      sampler :=
        { interval := .float settings.reportInterval
          jobs := []
          stopRequested := false
          thread := .unstarted
          givenUp := false
          ticks := 0 }
      now := 0
      readers := 0
      failure := none
      log := [] }
  have hfresh : s.Fresh (.float settings.reportInterval) := ⟨⟨rfl, rfl, rfl⟩, rfl, rfl, rfl, rfl⟩
  obtain ⟨hok, hstarted⟩ := hfresh.start hjob
  have hstart : s.start = (.ok (), s.start.2) := Prod.ext hok rfl
  rw [Ingestion.start_eq_enter rfl rfl rfl, Ingestion.enter]
  dsimp only
  rw [hstart]
  refine ⟨⟨fun _ => hstarted, Bool.noConfusion, ?_⟩, rfl⟩
  rintro _ ⟨⟩ hbound
  exact Int.le_of_lt hbound

end Replay

/-! ## Drainers that poll -/

namespace PollingReplay

variable [Depths] [Scheduler]

/-- Nobody can go on. -/
def Stuck (p : PollingReplay) : Prop :=
  ∀ next, ¬p.Next next

omit [Scheduler] in
/-- A drainer that has not ended always goes on. -/
theorem exists_drainerMove {p : PollingReplay} (h : p.stage ≠ .ended) :
    ∃ next, p.drainerMove? = some next := by
  rw [drainerMove?]
  split
  · exact ⟨_, rfl⟩
  · split <;> exact ⟨_, rfl⟩
  · split <;> exact ⟨_, rfl⟩
  · contradiction

/-- A replay whose drainer polls stands still if the drainer has ended and the others do. -/
theorem Agrees.stuck_iff {plan : List InboundItem} {initial : Ledger} {sinkSize : Option Int}
    {scheduled : Prop} {p : PollingReplay} (h : p.Agrees plan initial sinkSize scheduled) :
    p.Stuck ↔ p.stage = .ended ∧ ∀ r, ¬p.replay.Next r := by
  constructor
  · intro hstuck
    -- a drainer that polls can always make a move, until it ends
    have hended : p.stage = .ended := by
      by_contra hnot
      obtain ⟨next, hmove⟩ := exists_drainerMove hnot
      exact hstuck next (.drainer hmove)
    refine ⟨hended, ?_⟩
    intro r hnext
    cases hnext with
    | main hstep => exact hstuck ⟨r, p.stage⟩ (.main hstep rfl)
    | ingestion hstep => exact hstuck ⟨r, p.stage⟩ (.ingestion hstep rfl)
    | drainer hstep =>
      cases (h.ended.mp hended).symm.trans (Replay.drainerAlive_of_drainerStep? hstep)
  · rintro ⟨hended, hstill⟩ next hnext
    cases hnext with
    | main hstep _ => exact hstill _ (.main hstep)
    | ingestion hstep _ => exact hstill _ (.ingestion hstep)
    | drainer hmove =>
      rw [drainerMove?, hended] at hmove
      cases hmove

end PollingReplay

namespace Replay

section

variable [Depths] [Scheduler]

/-- **A replay that fails can always return.** -/
theorem Fails.exists_return {plan : List InboundItem} {initial : Ledger} {size period : Int}
    {cause : Fault} {scheduled : Prop} {p : PollingReplay} {taken : List InboundItem}
    (h : p.replay.Fails plan initial size period cause taken)
    (hagrees : p.Agrees plan initial (some size) scheduled) (hplain : ∀ item ∈ plan, item.Plain) :
    ∃ final, p.Reaches final ∧ final.replay.phase = .done := by
  obtain ⟨hreaches, hstuck⟩ := runFor_spec p.replay.weight p.replay
  obtain ⟨more, hlast⟩ := h.reaches hplain hreaches
  obtain ⟨final, hfinal, hreplay⟩ := hagrees.exists_reaches hplain hreaches
  exact ⟨final, hfinal, hreplay ▸ hlast.done_of_stuck (hstuck (Nat.le_refl _))⟩

/-! ## The result -/

omit [Depths] in
/-- The replay of a file that is not read to its end is one that fails, from its beginning. -/
theorem New.fails {settings : Settings} {outcomes : List Outcome} {cause : Fault} {time : Float}
    {r : Replay} (h : r.New settings ⟨outcomes, true, .error cause⟩ time) {job : Job}
    (hjob : Scheduler.every 0 (.float settings.reportInterval) = .ok job)
    (hingestion : r.ingestion.InOrder job.period) :
    r.Fails (outcomes.map .outcome ++ [.finish]) (.start time) settings.failureQueueSize job.period
      cause [] := by
  have hbegun := h.feeds.begun.trans (iff_of_true ⟨job, hjob⟩ trivial)
  refine ⟨⟨h.feeds.run, h.feeds.plan, h.feeds.thread, hbegun, h.feeds.drainer⟩, h.produced, ?_,
    hingestion⟩
  rw [h.phase]
  exact ReplayPhase.noConfusion

/-- A replay that fails with more failures than the sink has room for may leave a loop behind that
stands still. -/
theorem New.exists_stuck {settings : Settings} {outcomes : List Outcome} {cause : Fault}
    {time : Float} {first : Replay} (hnew : first.New settings ⟨outcomes, true, .error cause⟩ time)
    {period : Int}
    (hfails : first.Fails (outcomes.map .outcome ++ [.finish]) (.start time)
      settings.failureQueueSize period cause [])
    (hplain : ∀ o ∈ outcomes, o.Plain) (hpositive : 0 < settings.failureQueueSize)
    (hsize : settings.failureQueueSize < (outcomes.filter Outcome.isFailure).length) :
    ∃ last taken, PollingReplay.Reaches ⟨first, .asking⟩ last ∧ last.Stuck ∧
      last.replay.drained = [] ∧ last.replay.ingestion.loop.isAlive = true ∧
      last.replay.Fails (outcomes.map .outcome ++ [.finish]) (.start time)
        settings.failureQueueSize period cause taken := by
  have hplanned := plain_of_mem_plan hplain
  have hagrees := PollingReplay.Agrees.ofNew hnew
  have hearly := reaches_early_return hnew.phase hnew.produced hnew.drainerAlive hnew.sink
  obtain ⟨taken, hleft⟩ := hfails.reaches hplanned hearly
  obtain ⟨r, more, hreaches, hstill, hdead, hdrained, halive, hend⟩ :=
    hleft.exists_blocked hplain rfl hnew.drained hpositive hsize
  obtain ⟨last, hlast, rfl⟩ := hagrees.exists_reaches hplanned (hearly.trans hreaches)
  have hends := (hagrees.reaches hplanned hlast).1
  exact ⟨last, more, hlast, hends.stuck_iff.mpr ⟨hends.ended.mpr hdead, hstill⟩, hdrained, halive,
    hend⟩

/-- The replay of a file that is not read to its end. -/
theorem exists_failing {tree : FileTree} {path : FileTree.Path} {outcomes : List Outcome}
    {cause : Fault} (hread : OutcomeFile.read tree path = ⟨outcomes, some cause⟩)
    {settings : Settings} (hinterval : ¬settings.reportInterval ≤ 0.0) {job : Job}
    (hjob : Scheduler.every 0 (.float settings.reportInterval) = .ok job) {rate : Value}
    (hrate : Production.CanPace rate) (time : Float) :
    ∃ first, make settings (Production.ofFile tree path rate) time = .ok first ∧
      first.New settings ⟨outcomes, true, .error cause⟩ time ∧
      first.ingestion.loop = .fetching ∧
      first.Fails (outcomes.map .outcome ++ [.finish]) (.start time) settings.failureQueueSize
        job.period cause [] ∧
      ∀ o ∈ outcomes, o.Plain := by
  obtain ⟨first, hmake⟩ := exists_make hinterval (Production.ofFile tree path rate) time
  have hproduction : Production.ofFile tree path rate = ⟨outcomes, true, .error cause⟩ := by
    rw [Production.ofFile_of_canPace tree path hrate, hread]
  have hplain : ∀ o ∈ (OutcomeFile.read tree path).outcomes, o.Plain :=
    OutcomeFile.plain_of_mem_read
  rw [hread] at hplain
  obtain ⟨hingestion, hloop⟩ := inOrder_of_make hmake hjob
  refine ⟨first, hmake, ?_⟩
  rw [hproduction] at hmake
  have hnew := new_of_make hmake
  exact ⟨hnew, hloop, hnew.fails hjob hingestion, hplain⟩

/-- **A replay that fails may leave its loop behind.** Let a file be read up to a fault, after some
outcomes, and let a job be scheduled with the reporting interval. The replay of the file can be made
then, with a sink of any size and with pauses or without, and in whatever order its threads go on:

* it can always return, and returns with the fault;
* the first outcomes are merged, each once and in order. If the loop has ended, all of them are, and
  the sampler is stopped;
* where nobody can go on the replay has returned and the drainer has ended. If the loop has not, it
  holds a failure that finds the sink full, and the sampler runs on, unless its period is longer
  than a thread can wait.

But the replay may return while the loop is alive, and even before it has merged anything. And the
loop may come to stand still for ever, exactly if the sink is bounded and has no room for all
failures among the outcomes. -/
theorem loop_left_behind {tree : FileTree} {path : FileTree.Path} {outcomes : List Outcome}
    {cause : Fault} (hread : OutcomeFile.read tree path = ⟨outcomes, some cause⟩)
    {settings : Settings} (hinterval : ¬settings.reportInterval ≤ 0.0) {job : Job}
    (hjob : Scheduler.every 0 (.float settings.reportInterval) = .ok job) {rate : Value}
    (hrate : Production.CanPace rate) (time : Float) :
    ∃ first, make settings (Production.ofFile tree path rate) time = .ok first ∧
      (∀ last, PollingReplay.Reaches ⟨first, .asking⟩ last →
        let ingestion := last.replay.ingestion
        ((∃ final, last.Reaches final ∧ final.replay.phase = .done) ∧
          last.replay.produced = .error cause) ∧
        ((Ledger.start time).mergeAll (outcomes.take ingestion.merged) =
            (.ok (), last.replay.ledger) ∧
          (ingestion.loop.isAlive = false →
            ingestion.merged = outcomes.length ∧ ingestion.sampling.sampler.running = false)) ∧
        (last.Stuck → last.replay.phase = .done ∧ last.stage = .ended ∧
          (ingestion.loop.isAlive = true →
            ∃ o items, ingestion.loop = .forwarding o ∧ o.isFailure = true ∧
              ingestion.sink = some ⟨settings.failureQueueSize, items⟩ ∧
              (items.length : Int) = settings.failureQueueSize ∧
              (ingestion.sampling.sampler.running = true ↔ job.period ≤ Sampler.waitLimit)))) ∧
      (∃ last, PollingReplay.Reaches ⟨first, .asking⟩ last ∧ last.replay.phase = .done ∧
        last.replay.ingestion.loop.isAlive = true ∧ last.replay.ingestion.merged = 0) ∧
      ((∃ last, PollingReplay.Reaches ⟨first, .asking⟩ last ∧ last.Stuck ∧
          last.replay.ingestion.loop.isAlive = true) ↔
        0 < settings.failureQueueSize ∧
          settings.failureQueueSize < (outcomes.filter Outcome.isFailure).length) := by
  obtain ⟨first, hmake, hnew, hloop, hfails, hplain⟩ :=
    exists_failing hread hinterval hjob hrate time
  have hplanned := plain_of_mem_plan hplain
  have hagrees := PollingReplay.Agrees.ofNew hnew
  have hearly := reaches_early_return hnew.phase hnew.produced hnew.drainerAlive hnew.sink
  refine ⟨first, hmake, ?_, ?_, ?_, ?_⟩
  · intro last hreaches
    obtain ⟨hlast, hreplay⟩ := hagrees.reaches hplanned hreaches
    obtain ⟨taken, hend⟩ := hfails.reaches hplanned hreplay
    refine ⟨⟨hend.exists_return hlast hplanned, hend.produced⟩, ⟨hend.merges hplain, ?_⟩, ?_⟩
    · intro hdead
      obtain ⟨houtcomes, -, hrunning⟩ := hend.merged_of_dead hdead
      exact ⟨hend.feeds.run.merged.trans (congrArg List.length houtcomes), hrunning⟩
    · intro hstuck
      obtain ⟨hended, hstill⟩ := hlast.stuck_iff.mp hstuck
      refine ⟨hend.done_of_stuck hstill, hended, ?_⟩
      intro halive
      obtain ⟨o, items, hforwarding, hsink, hfailures, -, hfull⟩ :=
        hend.blocked_of_stuck List.mem_concat_self hstill halive
      have hmem : o ∈ failuresOf taken := by
        rw [← hfailures]
        exact List.mem_concat_self
      exact ⟨o, items, hforwarding, (List.mem_filter.mp hmem).2, hsink, hfull,
        (hend.ingestion.alive halive).running_iff⟩
  -- the early return of the replay is one of its polling drainer as well
  · obtain ⟨last, hlast, hreplay⟩ := hagrees.exists_reaches hplanned hearly
    refine ⟨last, hlast, ?_⟩
    rw [hreplay, foldl_put]
    refine ⟨rfl, ?_, hfails.feeds.run.merged⟩
    dsimp only
    rw [hloop]
    rfl
  · rintro ⟨last, hreaches, hstuck, halive⟩
    obtain ⟨hlast, hreplay⟩ := hagrees.reaches hplanned hreaches
    obtain ⟨taken, hend⟩ := hfails.reaches hplanned hreplay
    exact hend.size_lt_of_stuck (hlast.stuck_iff.mp hstuck).2 halive
  · rintro ⟨hpositive, hsize⟩
    obtain ⟨last, taken, hreaches, hstuck, -, halive, -⟩ :=
      hnew.exists_stuck hfails hplain hpositive hsize
    exact ⟨last, hreaches, hstuck, halive⟩

end

/-! ### Three missing objects and a bad line -/

/-- A line that holds the outcome `missing`. -/
def missingLine : String :=
  "\x7b\"kind\": \"PUT\", \"status\": \"not_found\"\x7d"

/-- Does reading a line result in the outcome `missing`? -/
def isMissing : Except Fault Outcome → Bool
  | .ok ⟨.put, .notFound (.text s)⟩ => s == ""
  | _ => false

open Machine

theorem readLine_missingLine : OutcomeFile.readLine missingLine.toList = .ok missing := by
  have h : isMissing (OutcomeFile.readLine missingLine.toList) = true := by decide +kernel
  rw [isMissing.eq_def] at h
  split at h
  · rename_i s hread
    rw [hread, eq_of_beq h]
    rfl
  · cases h

/-- Three such lines and one that holds nothing of the kind. -/
def badEndingLines : String :=
  missingLine ++ "\n" ++ missingLine ++ "\n" ++ missingLine ++ "\noops\n"

/-- A folder with a file of these lines. -/
def badEnding : FileTree :=
  FileTree.empty.add "outcomes" (some (Text.Utf8.encode badEndingLines))

/-- Reading ends with a fault after the third line. -/
theorem read_badEnding : ∃ cause, OutcomeFile.read badEnding (.ofString "outcomes") =
    ⟨[missing, missing, missing], some cause⟩ := by
  have hbad : OutcomeFile.isGood "oops".toList = false := by decide +kernel
  cases hread : OutcomeFile.readLine "oops".toList with
  | ok o =>
    rw [OutcomeFile.isGood, hread] at hbad
    cases hbad
  | error cause =>
    have hoctets : badEnding.read (FileTree.Path.ofString "outcomes").toText =
        .ok (Text.Utf8.encode badEndingLines) := by decide +kernel
    have hlines : OutcomeFile.contents (OutcomeFile.seenLines (Text.Utf8.encode badEndingLines)) =
        List.replicate 3 missingLine.toList ++ ["oops".toList] := by decide +kernel
    obtain ⟨count, hbroken⟩ := OutcomeFile.read_of_bad hoctets hlines
      (.cons readLine_missingLine (.cons readLine_missingLine (.cons readLine_missingLine .nil)))
      hread
    exact ⟨_, hbroken⟩

/-- A job of a second. -/
theorem every_default : Scheduler.every 0 (.float Settings.default.reportInterval) =
    .ok ⟨1000000, 1000000⟩ := by
  decide +kernel

/-- A sink with room for one of the three failures holds the loop up. -/
theorem loop_left_behind_badEnding :
    let settings : Settings := { Settings.default with failureQueueSize := 1 }
    ∃ cause, OutcomeFile.read badEnding (.ofString "outcomes") =
        ⟨[missing, missing, missing], some cause⟩ ∧
      ¬settings.reportInterval ≤ 0.0 ∧
      Scheduler.every 0 (.float settings.reportInterval) = .ok ⟨1000000, 1000000⟩ ∧
      Production.CanPace .null ∧
      ∃ first, make settings (Production.ofFile badEnding (.ofString "outcomes") .null) 0.0 =
          .ok first ∧
        ∃ last, PollingReplay.Reaches ⟨first, .asking⟩ last ∧ last.Stuck ∧
          last.replay.phase = .done ∧ last.replay.ingestion.loop.isAlive = true ∧
          ∃ o, last.replay.ingestion.sink = some ⟨1, [o]⟩ := by
  intro settings
  obtain ⟨cause, hread⟩ := read_badEnding
  have hinterval : ¬settings.reportInterval ≤ 0.0 := by decide +kernel
  refine ⟨cause, hread, hinterval, every_default, Production.canPace_null, ?_⟩
  obtain ⟨first, hmake, hall, -, hstands⟩ :=
    loop_left_behind hread hinterval every_default Production.canPace_null 0.0
  -- three failures are more than the sink has room for
  obtain ⟨last, hreaches, hstuck, halive⟩ := hstands.mpr ⟨by decide, by decide⟩
  obtain ⟨-, -, hstill⟩ := hall last hreaches
  obtain ⟨hdone, -, hblocked⟩ := hstill hstuck
  obtain ⟨o, items, -, -, hsink, hfull, -⟩ := hblocked halive
  have hlength : items.length = 1 := Int.ofNat.inj hfull
  obtain ⟨waiting, rfl⟩ := List.length_eq_one_iff.mp hlength
  exact ⟨first, hmake, last, hreaches, hstuck, hdone, halive, waiting, hsink⟩

/-- The replay has returned with the fault, the loop is alive and will never end, one of the
outcomes that were read is not merged, and the sampler runs on. -/
theorem loop_blocked_badEnding :
    let settings : Settings := { Settings.default with failureQueueSize := 1 }
    ∃ cause, OutcomeFile.read badEnding (.ofString "outcomes") =
        ⟨[missing, missing, missing], some cause⟩ ∧
      ∃ first, make settings (Production.ofFile badEnding (.ofString "outcomes") .null) 0.0 =
          .ok first ∧
        ∃ last, PollingReplay.Reaches ⟨first, .asking⟩ last ∧ last.replay.phase = .done ∧
          last.replay.produced = .error cause ∧ last.Stuck ∧
          last.replay.ingestion.loop.isAlive = true ∧ last.replay.ingestion.merged = 2 ∧
          last.replay.ingestion.sampling.sampler.running = true := by
  intro settings
  obtain ⟨cause, hread⟩ := read_badEnding
  have hinterval : ¬settings.reportInterval ≤ 0.0 := by decide +kernel
  obtain ⟨first, hmake, hnew, -, hfails, hplain⟩ :=
    exists_failing hread hinterval every_default Production.canPace_null 0.0
  obtain ⟨last, taken, hreaches, hstuck, hdrained, halive, hend⟩ :=
    hnew.exists_stuck hfails hplain (by decide) (by decide)
  have hagrees := ((PollingReplay.Agrees.ofNew hnew).reaches (plain_of_mem_plan hplain) hreaches).1
  obtain ⟨-, hstill⟩ := hagrees.stuck_iff.mp hstuck
  obtain ⟨o, items, -, -, hfailures, -, hfull⟩ :=
    hend.blocked_of_stuck List.mem_concat_self hstill halive
  refine ⟨cause, hread, first, hmake, last, hreaches, hend.done_of_stuck hstill, hend.produced,
    hstuck, halive, ?_, (hend.ingestion.alive halive).running_iff.mpr (by decide)⟩
  -- all outcomes are failures, one of them in the sink and another one in hand
  have hmissing : ∀ o ∈ [missing, missing, missing], o.isFailure = true := by decide
  have hall : ([missing, missing, missing].take last.replay.ingestion.merged).filter
      Outcome.isFailure = [missing, missing, missing].take last.replay.ingestion.merged :=
    List.filter_eq_self.mpr fun o ho => hmissing o (List.mem_of_mem_take ho)
  obtain ⟨htaken, -⟩ := hend.take_merged
  rw [hdrained, failuresOf, ← htaken, hall] at hfailures
  have hcount := congrArg List.length hfailures
  have hlength : items.length = 1 := Int.ofNat.inj hfull
  simp only [List.length_append, List.length_take, List.length_cons, List.length_nil, hlength]
    at hcount
  omega

end Replay

end LoadLedger
