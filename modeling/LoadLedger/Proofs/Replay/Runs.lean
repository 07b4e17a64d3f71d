import LoadLedger.Proofs.Outcome.Reading
import LoadLedger.Proofs.Replay.Steps

/-!
# Runs of a replay

The threads of a replay only put, step and take, so that whatever their order is, ingestion runs as
it always does: the items taken, queued and yet to be put make up the plan (`Replay.Feeds`). A
replay adds when the main thread leaves off waiting. If its producer does not fail, nobody asks the
drainer to stop before the loop has ended (`Replay.Tracks`). Every step keeps both.

A replay whose plan has an end mark gets stuck only at its end (`Replay.Tracks.done_of_stuck`), and
there the loop has taken the whole plan, or it has never begun (`Replay.Tracks.ledger_of_done`).
Which of the two it is depends on nothing but the reporting interval: the loop begins exactly if a
job can be scheduled with it.

`Replay.New` is a replay at its beginning, and `Replay.ledger_of_make` follows it from there to its
end.
-/

namespace LoadLedger

/-! ## The beginning -/

/-- A new sampler has the interval that it was made for. -/
theorem Sampler.interval_of_make {interval : Value} {sampler : Sampler}
    (h : Sampler.make interval = .ok sampler) : sampler.interval = interval := by
  obtain rfl := Sampler.eq_of_make h
  rfl

/-- A new sampler starts exactly if its job can be scheduled. -/
theorem SamplerSession.start_ok_iff [Scheduler] {s : SamplerSession} {x : Float}
    (hthread : s.sampler.thread = .unstarted) (hinterval : s.sampler.interval = .float x) :
    s.start.1 = .ok () ↔ ∃ job, Scheduler.every s.now (.float x) = .ok job := by
  cases hjob : Scheduler.every s.now (.float x) with
  | error cause =>
    have hstart : s.sampler.start s.now = .error cause := by
      rw [Sampler.start, if_pos hthread, hinterval, hjob]
      rfl
    rw [start, hstart]
    refine iff_of_false ?_ ?_
    · intro h
      cases h
    · rintro ⟨job, h⟩
      cases h
  | ok job =>
    obtain ⟨sampler, hstart, hsame⟩ : ∃ sampler, s.sampler.start s.now = .ok sampler ∧
        sampler.interval = .float x := by
      rw [Sampler.start, if_pos hthread, hinterval, hjob]
      exact ⟨_, rfl, rfl⟩
    -- the record of the start shows the interval, which any number allows
    obtain ⟨r, hrecord⟩ : ∃ r, sampler.startRecord = .ok r := by
      rw [Sampler.startRecord, hsame]
      exact ⟨_, rfl⟩
    rw [start, hstart]
    simp only [hrecord]
    exact iff_of_true trivial ⟨job, rfl⟩

namespace Ingestion

variable [Depths] [Scheduler]

omit [Depths] in
/-- An idle loop begins exactly if the sampler starts. -/
theorem enter_of_idle {i : Ingestion} (h : i.loop = .idle) :
    i.SameQueues i.enter.2 ∧ i.enter.2.inHand = none ∧
      (i.enter.2.loop = .idle ∨ i.enter.2.loop = .fetching) ∧
      (i.enter.2.loop ≠ .idle ↔ i.sampling.start.1 = .ok ()) := by
  rw [enter]
  split
  · rename_i hstart
    rw [hstart, inHand, h]
    refine ⟨⟨rfl, rfl, rfl, rfl⟩, rfl, .inl rfl, ?_⟩
    refine iff_of_false (fun hne => hne rfl) ?_
    intro hok
    cases hok
  · rename_i hstart
    rw [hstart]
    exact ⟨⟨rfl, rfl, rfl, rfl⟩, rfl, .inr rfl, iff_of_true IngestionLoop.noConfusion rfl⟩

theorem settle_of_step?_eq_none {i : Ingestion} (h : i.step? = none) : i.settle = i := by
  rw [settle, settleFor, h]

/-- A thread that is made enters the loop. With an empty queue it gets no further. -/
theorem start_eq_enter {i : Ingestion} (hthread : i.threadMade = false) (hloop : i.loop = .idle)
    (hinbound : i.inbound = []) : i.start.2 = { i with threadMade := true }.enter.2 := by
  rw [start, if_neg (by rw [hthread]; exact Bool.false_ne_true)]
  refine settle_of_step?_eq_none ?_
  obtain ⟨hsame, -, hentered, -⟩ := enter_of_idle (i := { i with threadMade := true }) hloop
  have hqueue := hsame.inbound.trans hinbound
  generalize { i with threadMade := true }.enter.2 = j at hentered hqueue
  rcases hentered with hidle | hfetching
  · rw [step?, hidle]
  · rw [step?, hfetching, hqueue]

end Ingestion

namespace Production

/-- The pauses at a rate can be made. -/
def CanPace (rate : Value) : Prop :=
  ∃ pause, pauseOf rate = .ok pause ∧ makePause pause = .ok ()

/-- Without a rate there is no pause to be made. -/
theorem canPace_null : CanPace .null :=
  ⟨0.0, rfl, by rw [makePause, if_neg (by decide +kernel)]⟩

/-- All that can be read is put if the pauses can be made. -/
theorem ofFile_of_canPace [Depths] (tree : FileTree) (path : FileTree.Path) {rate : Value}
    (h : CanPace rate) :
    let reading := OutcomeFile.read tree path
    ofFile tree path rate =
      { outcomes := reading.outcomes
        closed := true
        result := match reading.fault with
          | none => .ok reading.outcomes.length
          | some cause => .error cause } := by
  obtain ⟨pause, hpause, hmade⟩ := h
  rw [ofFile, hpause]
  dsimp only
  rw [ofReading, hmade]
  cases (OutcomeFile.read tree path).outcomes <;> rfl

end Production

namespace Replay

/-! ## Plans -/

/-- What a producer puts is plain if its outcomes are. -/
theorem plain_of_mem_plan {outcomes : List Outcome} (h : ∀ o ∈ outcomes, o.Plain) :
    ∀ item ∈ outcomes.map InboundItem.outcome ++ [.finish], item.Plain := by
  intro item hitem o ho
  rcases List.mem_append.mp hitem with houtcome | hmark
  · obtain ⟨p, hp, rfl⟩ := List.mem_map.mp houtcome
    cases ho
    exact h o hp
  · obtain rfl := List.mem_singleton.mp hmark
    cases ho

/-- What the loop has taken of a plan are its first outcomes. -/
theorem outcomesOf_append_of_plan {outcomes : List Outcome} {taken rest : List InboundItem}
    (hplan : taken ++ rest = outcomes.map .outcome ++ [.finish]) :
    outcomesOf taken ++ outcomesOf rest = outcomes := by
  have houtcomes : outcomesOf (outcomes.map .outcome ++ [.finish]) = outcomes := by
    have hfinish : InboundItem.finish.ending? = some none := rfl
    rw [outcomesOf_append_ending _ hfinish, outcomesOf, List.filterMap_map]
    exact List.filterMap_some
  rw [outcomesOf, outcomesOf, ← List.filterMap_append, hplan]
  exact houtcomes

/-- A loop that has ended at the mark has taken everything. -/
theorem outcomesOf_of_ended {outcomes : List Outcome} {cause : Option Fault}
    {taken rest : List InboundItem} (hplan : taken ++ rest = outcomes.map .outcome ++ [.finish])
    (hphase : IngestionRun.Phase taken (.ended cause)) : outcomesOf taken = outcomes := by
  have houtcomes := outcomesOf_append_of_plan hplan
  obtain ⟨front, last, rfl, -, hending⟩ := hphase
  rcases List.eq_nil_or_concat rest with rfl | ⟨more, mark, rfl⟩
  · rw [← houtcomes]
    exact (List.append_nil _).symm
  · -- an item before the mark is an outcome, at which the loop does not end
    rw [List.concat_eq_append, ← List.append_assoc] at hplan
    obtain ⟨hfront, -⟩ := List.append_inj' hplan rfl
    have hmem : last ∈ outcomes.map InboundItem.outcome := by
      rw [← hfront]
      exact List.mem_append_left _ List.mem_concat_self
    obtain ⟨o, -, rfl⟩ := List.mem_map.mp hmem
    cases hending

/-! ## What is put is taken -/

/-- The state of a replay that puts the items of a plan. The items that were taken, are queued and
have yet to be put make up the plan, and the drainer does not end before it is asked to. It is an
`IngestionRun.Tracks` of what has been put so far. -/
structure Feeds (plan : List InboundItem) (initial : Ledger) (sinkSize : Option Int)
    (scheduled : Prop) (r : Replay) (taken : List InboundItem) : Prop where
  /-- Ingestion has got what was put so far. -/
  run : IngestionRun.Tracks initial sinkSize (taken ++ r.ingestion.inbound)
    ⟨r.ingestion, taken, r.drained⟩
  /-- What is yet to be put follows in the plan. -/
  plan : taken ++ r.ingestion.inbound ++ r.pending = plan
  /-- The background thread was made, and nobody has given it up. -/
  thread : r.ingestion.threadMade = true ∧ r.ingestion.givenUp = false
  /-- The loop begins exactly if its job can be scheduled. -/
  begun : r.ingestion.loop ≠ .idle ↔ scheduled
  /-- The drainer ends only if it is asked to. -/
  drainer : r.drainerAlive = false → r.stopAsked = true

namespace Feeds

variable {plan : List InboundItem} {initial : Ledger} {sinkSize : Option Int} {scheduled : Prop}
  {r next : Replay} {taken : List InboundItem}

/-- The main thread goes on to another phase, with nothing left to put. -/
theorem enterPhase (h : r.Feeds plan initial sinkSize scheduled taken) {phase : ReplayPhase}
    (hold : r.pending = []) (hnew : pending { r with phase } = [])
    (hasked : r.stopAsked = true → stopAsked { r with phase } = true) :
    Feeds plan initial sinkSize scheduled { r with phase } taken := by
  refine ⟨h.run, ?_, h.thread, h.begun, fun hdead => hasked (h.drainer hdead)⟩
  have hplan := h.plan
  rw [hold] at hplan
  rw [hnew]
  exact hplan

/-- The main thread puts an item of the plan, or none. -/
theorem main (h : r.Feeds plan initial sinkSize scheduled taken)
    (hstep : r.mainStep? = some next) : next.Feeds plan initial sinkSize scheduled taken := by
  rcases mainStep?_cases hstep with ⟨item, items, hphase, rfl⟩ |
    ⟨hphase, ⟨-, rfl⟩ | ⟨-, rfl⟩⟩ | ⟨hphase, -, rfl⟩ | ⟨hphase, -, rfl⟩
  -- an item of the plan goes to the end of the queue
  · have hrun := h.run.put item
    have hplan := h.plan
    rw [List.append_assoc] at hrun
    simp only [pending, hphase] at hplan
    refine ⟨hrun, ?_, h.thread, h.begun, fun hdead => ?_⟩
    · simp only [pending, Ingestion.put, ← hplan, List.append_assoc, List.singleton_append]
    · have hasked := h.drainer hdead
      simp only [stopAsked, hphase] at hasked
      cases hasked
  · refine h.enterPhase ?_ rfl ?_
    · simp only [pending, hphase]
    · simp only [stopAsked, hphase]
      exact id
  all_goals
    refine h.enterPhase ?_ rfl fun _ => rfl
    simp only [pending, hphase]

/-- The loop takes items in their order, or one outcome goes to the sink. -/
theorem ingest [Depths] [Scheduler] (h : r.Feeds plan initial sinkSize scheduled taken)
    (hplain : ∀ item ∈ plan, item.Plain) (hstep : r.ingestionStep? = some next) :
    ∃ more, next.Feeds plan initial sinkSize scheduled more := by
  obtain ⟨i, hi, rfl⟩ := ingestionStep?_cases hstep
  obtain ⟨halive, hbegun, hmade, hgiven⟩ := Ingestion.step?_alive hi
  have hrun := h.run.step fun item hitem => hplain item (h.plan ▸ List.mem_append_left _ hitem)
  rw [IngestionRun.perform] at hrun
  simp only [hi] at hrun
  -- the item that is taken goes from the queue to those that were taken
  have horder : taken ++ r.ingestion.inbound =
      taken ++ r.ingestion.nextItem?.toList ++ i.inbound := hrun.order
  refine ⟨taken ++ r.ingestion.nextItem?.toList, ?_, ?_, ?_, ?_, h.drainer⟩
  · rw [← horder]
    exact hrun
  · rw [← horder]
    exact h.plan
  · rw [hmade, hgiven]
    exact h.thread
  · refine iff_of_true hbegun (h.begun.mp ?_)
    intro hidle
    rw [hidle] at halive
    cases halive

/-- The drainer takes from the sink what the loop has put there. -/
theorem drain [Depths] [Scheduler] (h : r.Feeds plan initial sinkSize scheduled taken)
    (hstep : r.drainerStep? = some next) : next.Feeds plan initial sinkSize scheduled taken := by
  rcases drainerStep?_cases hstep with ⟨o, i, htake, rfl⟩ | ⟨-, hasked, rfl⟩
  · have hrun := h.run.take
    rw [IngestionRun.perform] at hrun
    simp only [htake] at hrun
    obtain ⟨sink, items, hsink, -, rfl⟩ := Ingestion.take?_cases htake
    exact ⟨hrun, h.plan, h.thread, h.begun, h.drainer⟩
  · exact ⟨h.run, h.plan, h.thread, h.begun, fun _ => hasked⟩

/-- **Every step of every thread keeps the invariant.** -/
theorem step [Depths] [Scheduler] (h : r.Feeds plan initial sinkSize scheduled taken)
    (hplain : ∀ item ∈ plan, item.Plain) (hnext : r.Next next) :
    ∃ more, next.Feeds plan initial sinkSize scheduled more := by
  cases hnext with
  | main hstep => exact ⟨taken, h.main hstep⟩
  | ingestion hstep => exact h.ingest hplain hstep
  | drainer hstep => exact ⟨taken, h.drain hstep⟩

/-- Once everything is put, the inbound queue does not run dry before the loop has come to the end
mark. -/
theorem inbound_ne_nil (h : r.Feeds plan initial sinkSize scheduled taken)
    (hfinish : .finish ∈ plan) (hpending : r.pending = [])
    (hloop : r.ingestion.loop = .fetching) : r.ingestion.inbound ≠ [] := by
  intro hinbound
  have hplan := h.plan
  rw [hpending, hinbound, List.append_nil, List.append_nil] at hplan
  have hgoesOn : IngestionRun.Phase taken r.ingestion.loop := h.run.phase
  rw [hloop] at hgoesOn
  have hnone : InboundItem.finish.ending? = none := hgoesOn .finish (hplan ▸ hfinish)
  cases hnone

/-- Who has an outcome in hand has a sink to put it into. -/
theorem exists_sink (h : r.Feeds plan initial sinkSize scheduled taken) {o : Outcome}
    (hloop : r.ingestion.loop = .forwarding o) : ∃ sink, r.ingestion.sink = some sink := by
  have hhand : r.ingestion.inHand = some o := by
    rw [Ingestion.inHand, hloop]
  cases hsink : r.ingestion.sink with
  | none =>
    obtain ⟨-, hempty, -⟩ := h.run.forwarding.withoutSink hsink
    rw [hhand] at hempty
    cases hempty
  | some sink => exact ⟨sink, rfl⟩

end Feeds

/-- How producing ends is known from the beginning. -/
theorem produced_of_next [Depths] [Scheduler] {r next : Replay} (h : r.Next next) :
    next.produced = r.produced := by
  cases h with
  | main hstep =>
    rcases mainStep?_cases hstep with ⟨_, _, -, rfl⟩ | ⟨-, ⟨-, rfl⟩ | ⟨-, rfl⟩⟩ | ⟨-, -, rfl⟩ |
      ⟨-, -, rfl⟩
    all_goals rfl
  | ingestion hstep =>
    obtain ⟨i, -, rfl⟩ := ingestionStep?_cases hstep
    rfl
  | drainer hstep =>
    rcases drainerStep?_cases hstep with ⟨_, _, -, rfl⟩ | ⟨-, -, rfl⟩
    all_goals rfl

/-- What the producer has come to is known from the beginning, and no step changes it. -/
theorem produced_of_reaches [Depths] [Scheduler] {r last : Replay} (h : r.Reaches last) :
    last.produced = r.produced := by
  induction h with
  | refl => rfl
  | tail _ hnext ih => exact (produced_of_next hnext).trans ih

/-! ## The invariant -/

/-- The state of a replay that is meant to put the items of a plan, and to go through with it.
Beside `Feeds` it says that the drainer is not asked to stop before the loop has ended. -/
structure Tracks (plan : List InboundItem) (initial : Ledger) (sinkSize : Option Int)
    (scheduled : Prop) (r : Replay) (taken : List InboundItem) : Prop where
  /-- Ingestion has got what was put so far. -/
  run : IngestionRun.Tracks initial sinkSize (taken ++ r.ingestion.inbound)
    ⟨r.ingestion, taken, r.drained⟩
  /-- What is yet to be put follows in the plan. -/
  plan : taken ++ r.ingestion.inbound ++ r.pending = plan
  /-- The producer comes to the end of its file. -/
  produced : ∃ count, r.produced = .ok count
  thread : r.ingestion.threadMade = true ∧ r.ingestion.givenUp = false
  begun : r.ingestion.loop ≠ .idle ↔ scheduled
  /-- The main thread asks the drainer to stop after it has waited for the loop. -/
  joined : r.stopAsked = true → r.ingestion.loop.isAlive = false
  /-- The drainer ends only if it is asked to. -/
  drainer : r.drainerAlive = false → r.stopAsked = true

namespace Tracks

variable {plan : List InboundItem} {initial : Ledger} {sinkSize : Option Int} {scheduled : Prop}
  {r next : Replay} {taken : List InboundItem}

theorem feeds (h : r.Tracks plan initial sinkSize scheduled taken) :
    r.Feeds plan initial sinkSize scheduled taken :=
  ⟨h.run, h.plan, h.thread, h.begun, h.drainer⟩

/-- The thread of ingestion is there as long as the loop is alive. -/
theorem running_eq (h : r.Tracks plan initial sinkSize scheduled taken) :
    r.ingestion.running = r.ingestion.loop.isAlive := by
  obtain ⟨hmade, hgiven⟩ := h.thread
  rw [Ingestion.running, hmade, hgiven]
  rfl

/-- A replay that has waited for the loop before it asks the drainer to stop goes through with its
plan. -/
theorem ofFeeds (h : r.Feeds plan initial sinkSize scheduled taken)
    (hproduced : ∃ count, r.produced = .ok count)
    (hjoined : r.stopAsked = true → r.ingestion.loop.isAlive = false) :
    r.Tracks plan initial sinkSize scheduled taken :=
  ⟨h.run, h.plan, hproduced, h.thread, h.begun, hjoined, h.drainer⟩

variable [Depths] [Scheduler]

/-- Nobody asks the drainer to stop before the loop has ended. -/
theorem joined_of_next (h : r.Tracks plan initial sinkSize scheduled taken)
    (hnext : r.Next next) : next.stopAsked = true → next.ingestion.loop.isAlive = false := by
  cases hnext with
  | main hstep =>
    rcases mainStep?_cases hstep with ⟨item, items, hphase, rfl⟩ |
      ⟨hphase, ⟨-, rfl⟩ | ⟨herror, rfl⟩⟩ | ⟨hphase, hrunning, rfl⟩ | ⟨hphase, -, rfl⟩
    · exact fun hasked => absurd hasked Bool.false_ne_true
    · exact fun hasked => absurd hasked Bool.false_ne_true
    · -- a plan that is gone through with does not end in a fault
      obtain ⟨count, hcount⟩ := h.produced
      obtain ⟨cause, hcause⟩ := herror
      rw [hcount] at hcause
      cases hcause
    -- the main thread has waited for the loop to end
    · rw [h.running_eq] at hrunning
      exact fun _ => hrunning
    · have hasked : r.stopAsked = true := by
        simp only [stopAsked, hphase]
      exact fun _ => h.joined hasked
  | ingestion hstep =>
    obtain ⟨i, hi, rfl⟩ := ingestionStep?_cases hstep
    intro hasked
    have hdead := h.joined hasked
    rw [(Ingestion.step?_alive hi).1] at hdead
    cases hdead
  | drainer hstep =>
    rcases drainerStep?_cases hstep with ⟨o, i, htake, rfl⟩ | ⟨-, -, rfl⟩
    · obtain ⟨sink, items, -, -, rfl⟩ := Ingestion.take?_cases htake
      exact h.joined
    · exact h.joined

/-- **Every step of every thread keeps the invariant.** -/
theorem step (h : r.Tracks plan initial sinkSize scheduled taken)
    (hplain : ∀ item ∈ plan, item.Plain) (hnext : r.Next next) :
    ∃ more, next.Tracks plan initial sinkSize scheduled more := by
  obtain ⟨more, hfeeds⟩ := h.feeds.step hplain hnext
  exact ⟨more, ofFeeds hfeeds (produced_of_next hnext ▸ h.produced) (h.joined_of_next hnext)⟩

/-- So do any number of steps. The loop may have taken more by then. -/
theorem reaches (h : r.Tracks plan initial sinkSize scheduled taken)
    (hplain : ∀ item ∈ plan, item.Plain) {last : Replay} (hreaches : r.Reaches last) :
    ∃ more, last.Tracks plan initial sinkSize scheduled more := by
  induction hreaches with
  | refl => exact ⟨taken, h⟩
  | tail _ hnext ih =>
    obtain ⟨more, hmore⟩ := ih
    exact hmore.step hplain hnext

/-! ## The end -/

omit [Depths] [Scheduler] in
/-- The drainer lives while the main thread waits for the loop. -/
theorem drainerAlive_of_joining (h : r.Tracks plan initial sinkSize scheduled taken)
    (hphase : r.phase = .joining) : r.drainerAlive = true := by
  cases hdead : r.drainerAlive with
  | true => rfl
  | false =>
    have hasked := h.drainer hdead
    simp only [stopAsked, hphase] at hasked
    cases hasked

/-- The loop that puts an outcome into an empty sink has room for it. -/
theorem step?_ne_none_of_forwarding (h : r.Tracks plan initial sinkSize scheduled taken)
    {o : Outcome} (hloop : r.ingestion.loop = .forwarding o) (htake : r.ingestion.take? = none) :
    r.ingestion.step? ≠ none := by
  intro hstep
  obtain ⟨sink, hsink⟩ := h.feeds.exists_sink hloop
  have hfull := (Ingestion.step?_eq_none_of_forwarding hloop hsink).mp hstep
  rw [FailureSink.hasRoom_of_nil (Ingestion.items_of_take?_eq_none hsink htake)] at hfull
  cases hfull

/-- While the main thread waits for the loop, somebody can take a step: the sink does not fill up,
since the drainer empties it, and the inbound queue does not run dry before the end mark. -/
theorem loop_dead_of_stuck (h : r.Tracks plan initial sinkSize scheduled taken)
    (hfinish : .finish ∈ plan) (hphase : r.phase = .joining) (hstuck : ∀ next, ¬r.Next next) :
    r.ingestion.loop.isAlive = false := by
  obtain ⟨-, hingestion, hdrainer⟩ := steps_eq_none_of_stuck hstuck
  have hstep : r.ingestion.step? = none := Option.map_eq_none_iff.mp hingestion
  have htake : r.ingestion.take? = none :=
    take?_eq_none_of_drainerStep? (h.drainerAlive_of_joining hphase) hdrainer
  cases hloop : r.ingestion.loop with
  | idle | ended => rfl
  | fetching =>
    have hinbound : r.ingestion.inbound = [] := Ingestion.inbound_of_step?_eq_none hloop hstep
    have hpending : r.pending = [] := by
      simp only [pending, hphase]
    exact absurd hinbound (h.feeds.inbound_ne_nil hfinish hpending hloop)
  | forwarding o => exact absurd hstep (h.step?_ne_none_of_forwarding hloop htake)

/-- **A replay with an end mark gets stuck only at its end.** -/
theorem done_of_stuck (h : r.Tracks plan initial sinkSize scheduled taken)
    (hfinish : .finish ∈ plan) (hstuck : ∀ next, ¬r.Next next) : r.phase = .done := by
  refine (phase_of_stuck hstuck).resolve_right ?_
  rintro ⟨hphase, hrunning⟩
  rw [h.running_eq, h.loop_dead_of_stuck hfinish hphase hstuck] at hrunning
  cases hrunning

omit [Depths] [Scheduler] in
/-- **At its end a replay has merged everything or nothing.** Which of the two it is depends on
whether the job was scheduled. -/
theorem ledger_of_done {outcomes : List Outcome}
    (h : r.Tracks (outcomes.map .outcome ++ [.finish]) initial sinkSize scheduled taken)
    (hdone : r.phase = .done) :
    (scheduled → r.ledger = outcomes.foldl Ledger.merged initial) ∧
      (¬scheduled → r.ledger = initial) := by
  -- at its end the replay has asked the drainer to stop, and so the loop has ended
  have hdead : r.ingestion.loop.isAlive = false := by
    apply h.joined
    simp only [stopAsked, hdone]
  have hplan := h.plan
  simp only [pending, hdone, List.append_nil] at hplan
  have hphase : IngestionRun.Phase taken r.ingestion.loop := h.run.phase
  have hledger : r.ledger = (outcomesOf taken).foldl Ledger.merged initial :=
    h.run.sampling.ledger
  have hbegun := h.begun
  cases hloop : r.ingestion.loop with
  | idle =>
    rw [hloop] at hphase hbegun
    obtain rfl : taken = [] := hphase
    exact ⟨fun hscheduled => absurd rfl (hbegun.mpr hscheduled), fun _ => hledger⟩
  | fetching | forwarding =>
    rw [hloop] at hdead
    cases hdead
  | ended cause =>
    rw [hloop] at hphase hbegun
    rw [outcomesOf_of_ended hplan hphase] at hledger
    exact ⟨fun _ => hledger, fun hnot => absurd (hbegun.mp IngestionLoop.noConfusion) hnot⟩

end Tracks

/-! ## Whole runs -/

/-- Ingestion that was made and has entered its loop is at the beginning of a run. -/
theorem ingestion_tracks_make [Scheduler] {interval : Value} {sinkSize : Option Int} {time : Float}
    {i : Ingestion} (hi : Ingestion.make interval sinkSize time = .ok i) :
    IngestionRun.Tracks (.start time) sinkSize []
      ⟨{ i with threadMade := true }.enter.2, [], []⟩ := by
  obtain ⟨horder, hphase, hsampling, hmerged, ⟨hwith, hwithout⟩, hsize⟩ :=
    IngestionRun.tracks_make hi (.start time)
  -- the ledger that a run begins with is the one that was made
  have hledger : i.withLedger (.start time) = i := by
    obtain ⟨sampler, -, rfl⟩ := Ingestion.make_ok hi
    rfl
  rw [hledger] at horder hphase hsampling hmerged hwith hwithout hsize
  exact IngestionRun.Tracks.enter (r := ⟨{ i with threadMade := true }, [], []⟩)
    ⟨horder, hphase, hsampling, hmerged, ⟨hwith, hwithout⟩, hsize⟩

/-- The sampler of ingestion that was made starts exactly if its job can be scheduled. -/
theorem start_ok_of_make [Scheduler] {x : Float} {sinkSize : Option Int} {time : Float}
    {i : Ingestion} (hi : Ingestion.make (.float x) sinkSize time = .ok i) :
    i.sampling.start.1 = .ok () ↔ ∃ job, Scheduler.every 0 (.float x) = .ok job := by
  obtain ⟨sampler, hsampler, rfl⟩ := Ingestion.make_ok hi
  obtain ⟨-, hthread⟩ := Sampler.make_ok hsampler
  exact SamplerSession.start_ok_iff hthread (Sampler.interval_of_make hsampler)

/-- A replay that has entered its loop, if its job can be scheduled, and put nothing. -/
structure New [Scheduler] (settings : Settings) (production : Production) (time : Float)
    (r : Replay) :
    Prop where
  feeds : r.Feeds production.items (.start time) (some settings.failureQueueSize)
    (∃ job, Scheduler.every 0 (.float settings.reportInterval) = .ok job) []
  phase : r.phase = .putting production.items
  produced : r.produced = production.result
  drainerAlive : r.drainerAlive = true
  drained : r.drained = []
  inbound : r.ingestion.inbound = []
  sink : r.ingestion.sink = some ⟨settings.failureQueueSize, []⟩
  inHand : r.ingestion.inHand = none

/-- What a replay is made of: ingestion in the background, the plan of the producer and a
drainer. -/
theorem new_of_make [Depths] [Scheduler] {settings : Settings} {production : Production}
    {time : Float} {r : Replay}
    (hmake : make settings production time = .ok r) : r.New settings production time := by
  obtain ⟨i, hi, hmake⟩ := bind_eq_ok.mp hmake
  cases hmake
  have hentered := ingestion_tracks_make hi
  have hscheduled := start_ok_of_make hi
  obtain ⟨sampler, -, hfields⟩ := Ingestion.make_ok hi
  have hidle : i.loop = .idle := by rw [hfields]
  have hinbound : i.inbound = [] := by rw [hfields]
  have hgiven : i.givenUp = false := by rw [hfields]
  have hsink : i.sink = some ⟨settings.failureQueueSize, []⟩ := by
    rw [hfields]
    rfl
  rw [Ingestion.start_eq_enter (by rw [hfields]) hidle hinbound]
  -- whether or not the loop is entered, the queues stay empty and nothing is in hand
  obtain ⟨hsame, hhand, -, hbegun⟩ :=
    Ingestion.enter_of_idle (i := { i with threadMade := true }) hidle
  generalize { i with threadMade := true }.enter.2 = j at hentered hsame hhand hbegun
  have hqueue : j.inbound = [] := hsame.inbound.trans hinbound
  refine ⟨⟨?_, ?_, ⟨hsame.threadMade, hsame.givenUp.trans hgiven⟩, hbegun.trans hscheduled,
    fun hdead => Bool.noConfusion hdead⟩, rfl, rfl, rfl, rfl, hqueue, hsame.sink.trans hsink, hhand⟩
  · rw [hqueue]
    exact hentered
  · rw [hqueue]
    rfl

/-- A replay whose producer does not fail is on its way from its beginning. -/
theorem tracks_make [Depths] [Scheduler] {settings : Settings} {production : Production}
    {time : Float} {r : Replay} (hmake : make settings production time = .ok r) {count : Nat}
    (hresult : production.result = .ok count) :
    r.Tracks production.items (.start time) (some settings.failureQueueSize)
        (∃ job, Scheduler.every 0 (.float settings.reportInterval) = .ok job) [] ∧
      r.weight ≤ 4 * (r.remaining + r.ingestion.inbound.length) + 8 := by
  have hnew := new_of_make hmake
  refine ⟨.ofFeeds hnew.feeds ⟨count, hnew.produced.trans hresult⟩ ?_, ?_⟩
  · simp only [stopAsked, hnew.phase]
    exact Bool.noConfusion
  · simp only [weight, Ingestion.weight, pending, phasesLeft, remaining, hnew.phase, hnew.inbound,
      hnew.inHand, hnew.sink, hnew.drainerAlive, Option.elim_some, Option.toList_none,
      List.length_nil, Bool.toNat_true]
    omega

theorem reaches_run [Depths] [Scheduler] (r : Replay) : r.Reaches r.run :=
  (runFor_spec _ r).1

/-- **A replay comes to its end, and has merged everything or nothing there.** Every replay of plain
outcomes and an end mark that is run reaches its end; and whatever the order in which the threads
take steps, at the end the ledger is the one with all outcomes merged, each once and in order, if
the reporting interval allows a job to be scheduled, and the one of the start if not. The run is the
one of `Replay.run`, and the orders are those of `Replay.Reaches`. -/
theorem ledger_of_make [Depths] [Scheduler] {settings : Settings} {outcomes : List Outcome}
    {count : Nat} {time : Float}
    {r : Replay} (hmake : make settings ⟨outcomes, true, .ok count⟩ time = .ok r)
    (hplain : ∀ o ∈ outcomes, o.Plain) :
    (r.Reaches r.run ∧ r.run.phase = .done) ∧
      ∀ last, r.Reaches last → last.phase = .done →
        ((∃ job, Scheduler.every 0 (.float settings.reportInterval) = .ok job) →
          last.ledger = outcomes.foldl Ledger.merged (.start time)) ∧
        ((¬∃ job, Scheduler.every 0 (.float settings.reportInterval) = .ok job) →
          last.ledger = .start time) := by
  obtain ⟨htracks, hweight⟩ := tracks_make hmake rfl
  have hitems : Production.items ⟨outcomes, true, .ok count⟩ =
      outcomes.map .outcome ++ [.finish] := rfl
  rw [hitems] at htracks
  have hplanned := plain_of_mem_plan hplain
  refine ⟨⟨reaches_run r, ?_⟩, ?_⟩
  · obtain ⟨taken, hend⟩ := htracks.reaches hplanned (reaches_run r)
    exact hend.done_of_stuck List.mem_concat_self ((runFor_spec _ r).2 hweight)
  · intro last hlast hdone
    obtain ⟨taken, hend⟩ := htracks.reaches hplanned hlast
    exact hend.ledger_of_done hdone

/-! ## Replays of files -/

/-- A replay that has been run keeps the result of its production. -/
theorem produced_of_make [Depths] [Scheduler] {settings : Settings} {production : Production}
    {time : Float} {r : Replay} (hmake : make settings production time = .ok r) :
    r.run.produced = production.result := by
  rw [produced_of_reaches (reaches_run r)]
  obtain ⟨i, -, hmake⟩ := bind_eq_ok.mp hmake
  cases hmake
  rfl

/-- A replay of a file is made and then run. -/
theorem ofFile_ok [Depths] [Scheduler] {tree : FileTree} {settings : Settings}
    {path : FileTree.Path} {rate : Value}
    {time : Float} {r : Replay} (h : ofFile tree settings path rate time = .ok r) :
    ∃ first, make settings (Production.ofFile tree path rate) time = .ok first ∧
      first.run = r := by
  rw [ofFile] at h
  cases hmake : make settings (Production.ofFile tree path rate) time with
  | error cause =>
    rw [hmake] at h
    cases h
  | ok first =>
    rw [hmake] at h
    exact ⟨first, rfl, Except.ok.inj h⟩

/-- Without a rate there are no pauses. -/
theorem production_of_null [Depths] (tree : FileTree) (path : FileTree.Path) :
    let reading := OutcomeFile.read tree path
    Production.ofFile tree path .null =
      { outcomes := reading.outcomes
        closed := true
        result := match reading.fault with
          | none => .ok reading.outcomes.length
          | some cause => .error cause } :=
  Production.ofFile_of_canPace tree path Production.canPace_null

/-- **A replay of a file that is produced without a fault** has read the whole file, and has merged
all of its outcomes or none of them. -/
theorem ledger_of_ofFile [Depths] [Scheduler] {tree : FileTree} {settings : Settings}
    {path : FileTree.Path}
    {time : Float} {r : Replay} (h : ofFile tree settings path .null time = .ok r) {count : Nat}
    (hproduced : r.produced = .ok count) :
    ∃ outcomes, OutcomeFile.Holds tree path outcomes ∧
      ((∃ job, Scheduler.every 0 (.float settings.reportInterval) = .ok job) →
        (Ledger.start time).mergeAll outcomes = (.ok (), r.ledger)) ∧
      ((¬∃ job, Scheduler.every 0 (.float settings.reportInterval) = .ok job) →
        r.ledger = .start time) := by
  obtain ⟨first, hmake, rfl⟩ := ofFile_ok h
  have hresult := (produced_of_make hmake).symm.trans hproduced
  rw [production_of_null] at hmake hresult
  -- a file with a fault would not have been produced
  have hfault : (OutcomeFile.read tree path).fault = none := by
    cases hfault : (OutcomeFile.read tree path).fault with
    | none => rfl
    | some cause =>
      rw [hfault] at hresult
      cases hresult
  have hholds := OutcomeFile.holds_of_read hfault
  rw [hfault] at hmake
  obtain ⟨⟨hreaches, hdone⟩, hends⟩ := ledger_of_make hmake hholds.plain
  obtain ⟨hall, hnone⟩ := hends _ hreaches hdone
  refine ⟨_, hholds, ?_, hnone⟩
  intro hscheduled
  rw [Ledger.mergeAll_of_plain hholds.plain, hall hscheduled]

end Replay

end LoadLedger
