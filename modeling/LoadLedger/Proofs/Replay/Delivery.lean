import LoadLedger.Machine
import LoadLedger.Proofs.Replay.Polling
import LoadLedger.Proofs.Tool.Input

/-!
# Failures are delivered

A replay whose producer does not fail waits for the end of the ingestion loop before it asks the
drainer to stop. What the sink does not hold by then will never be put, so that a drainer that looks
at the sink after that and finds it empty has taken everything (`PollingReplay.Polls`).

`PollingReplay.Polls.delivered_of_done` is about any plan of outcomes with an end mark, and
`Replay.failures_delivered` about the plan of a file. That a replay can always come to its
end is `PollingReplay.Polls.exists_return`.
-/

namespace LoadLedger

/-! ## Files without a fault -/

/-- A file without a fault is put as a whole, and the end mark after it. -/
theorem OutcomeFile.Holds.production [Depths] {tree : FileTree} {path : FileTree.Path}
    {outcomes : List Outcome} (h : Holds tree path outcomes) {rate : Value}
    (hrate : Production.CanPace rate) :
    Production.ofFile tree path rate = ⟨outcomes, true, .ok outcomes.length⟩ := by
  rw [Production.ofFile_of_canPace tree path hrate, h.read]

/-! ## The invariant -/

namespace PollingReplay

/-- A replay on its way whose drainer has seen what it has seen: a request to stop is there if it
has seen one, and the sink is empty if it has ended. That the replay itself goes its way is
`Replay.Tracks`. -/
structure Polls (plan : List InboundItem) (initial : Ledger) (sinkSize : Option Int)
    (scheduled : Prop) (p : PollingReplay) : Prop where
  /-- The replay goes its way. -/
  tracks : ∃ taken, p.replay.Tracks plan initial sinkSize scheduled taken
  /-- A drainer about to take its second look has seen a request that is still there. -/
  asked : p.stage = .checking → p.replay.stopAsked = true
  /-- The stage agrees with what the replay knows of the thread. -/
  ended : p.stage = .ended ↔ p.replay.drainerAlive = false
  /-- A drainer that has ended has left nothing behind. -/
  emptied : p.stage = .ended → ∀ sink, p.replay.ingestion.sink = some sink → sink.items = []
  /-- The main thread waits for the drainer. -/
  returned : p.replay.phase = .done → p.stage = .ended

namespace Polls

variable {plan : List InboundItem} {initial : Ledger} {sinkSize : Option Int} {scheduled : Prop}
  {p next : PollingReplay}

/-- A drainer that polls has seen what it has seen (`PollingReplay.Agrees`), whether the producer
fails or not. -/
theorem agrees (h : p.Polls plan initial sinkSize scheduled) :
    p.Agrees plan initial sinkSize scheduled := by
  obtain ⟨taken, htracks⟩ := h.tracks
  exact ⟨⟨taken, htracks.feeds⟩, h.asked, h.ended, h.returned⟩

/-- A drainer that has ended has left no loop behind. -/
theorem loop_dead (h : p.Polls plan initial sinkSize scheduled) (hended : p.stage = .ended) :
    p.replay.ingestion.loop.isAlive = false := by
  obtain ⟨taken, htracks⟩ := h.tracks
  exact htracks.joined (htracks.drainer (h.ended.mp hended))

variable [Depths] [Scheduler]

/-- Once the drainer has ended, nobody puts anything any more. -/
theorem emptied_of_next (h : p.Polls plan initial sinkSize scheduled)
    (hstep : p.replay.Next next.replay) (hdead : next.replay.drainerAlive = false) :
    ∀ sink, next.replay.ingestion.sink = some sink → sink.items = [] := by
  cases hstep with
  | main hmain =>
    obtain ⟨hsink, halive, -⟩ := Replay.mainStep?_frame hmain
    rw [hsink]
    exact h.emptied (h.ended.mpr (halive.symm.trans hdead))
  | ingestion hingestion =>
    obtain ⟨i, hi, hnext⟩ := Replay.ingestionStep?_cases hingestion
    rw [hnext] at hdead
    -- the loop has ended before the drainer, so that it takes no step
    have hloop := h.loop_dead (h.ended.mpr hdead)
    rw [(Ingestion.step?_alive hi).1] at hloop
    cases hloop
  | drainer hdrainer =>
    have halive := Replay.drainerAlive_of_drainerStep? hdrainer
    cases htake : p.replay.ingestion.take? with
    | some taken =>
      obtain ⟨o, ingestion⟩ := taken
      have hnext := Option.some.inj
        (hdrainer.symm.trans (Replay.drainerStep?_of_take? halive htake))
      rw [hnext] at hdead
      cases halive.symm.trans hdead
    | none =>
      -- the drainer ends now, and has found the sink empty
      rw [Replay.drainerStep?, if_pos halive, htake] at hdrainer
      obtain ⟨-, hended⟩ := Option.ite_none_right_eq_some.mp hdrainer
      rw [← Option.some.inj hended]
      exact fun sink hsink => Ingestion.items_of_take?_eq_none hsink htake

/-- **Every move keeps the invariant.** That it is a step of the replay or none is known from
`Agrees.move`; what is new is `emptied_of_next`. -/
theorem move (h : p.Polls plan initial sinkSize scheduled) (hplain : ∀ item ∈ plan, item.Plain)
    (hnext : p.Next next) : next.Polls plan initial sinkSize scheduled := by
  obtain ⟨hagrees, hsame | hstep⟩ := h.agrees.move hplain hnext
  · refine ⟨hsame ▸ h.tracks, hagrees.asked, hagrees.ended, ?_, hagrees.returned⟩
    intro hended
    rw [hsame]
    exact h.emptied (h.ended.mpr (hsame ▸ hagrees.ended.mp hended))
  · obtain ⟨taken, htracks⟩ := h.tracks
    exact ⟨htracks.step hplain hstep, hagrees.asked, hagrees.ended,
      fun hended => h.emptied_of_next hstep (hagrees.ended.mp hended), hagrees.returned⟩

/-- However the threads go on, the invariant holds where they come to. -/
theorem reaches (h : p.Polls plan initial sinkSize scheduled) (hplain : ∀ item ∈ plan, item.Plain)
    {last : PollingReplay} (hreaches : p.Reaches last) :
    last.Polls plan initial sinkSize scheduled := by
  induction hreaches with
  | refl => exact h
  | tail _ hnext ih => exact ih.move hplain hnext

/-- **A replay can always return**: nobody waits for somebody who waits for him. -/
theorem exists_return (h : p.Polls plan initial sinkSize scheduled)
    (hplain : ∀ item ∈ plan, item.Plain) (hfinish : .finish ∈ plan) :
    ∃ final, p.Reaches final ∧ final.replay.phase = .done := by
  obtain ⟨taken, htracks⟩ := h.tracks
  obtain ⟨hreaches, hstuck⟩ := Replay.runFor_spec p.replay.weight p.replay
  obtain ⟨more, hlast⟩ := htracks.reaches hplain hreaches
  obtain ⟨final, hfinal, hreplay⟩ := h.agrees.exists_reaches hplain hreaches
  exact ⟨final, hfinal, hreplay ▸ hlast.done_of_stuck hfinish (hstuck (Nat.le_refl _))⟩

omit [Depths] [Scheduler] in
/-- **At its end a replay has delivered everything.** The drainer has ended, so the loop has
(`loop_dead`), and the sink is empty (`Polls.emptied`). -/
theorem delivered_of_done {outcomes : List Outcome} {size : Int}
    (h : p.Polls (outcomes.map .outcome ++ [.finish]) initial (some size) scheduled)
    (hscheduled : scheduled) (hdone : p.replay.phase = .done) :
    p.replay.ledger = outcomes.foldl Ledger.merged initial ∧
      p.replay.ingestion.merged = outcomes.length ∧
      p.replay.ingestion.sink = some ⟨size, []⟩ ∧
      p.replay.drained = outcomes.filter Outcome.isFailure := by
  have hended := h.returned hdone
  have hdead := h.loop_dead hended
  obtain ⟨taken, htracks⟩ := h.tracks
  have hplan := htracks.plan
  simp only [Replay.pending, hdone, List.append_nil] at hplan
  -- the loop has begun, since its job is scheduled, and is not alive any more
  obtain ⟨cause, hloop⟩ : ∃ cause, p.replay.ingestion.loop = .ended cause := by
    have hbegun := htracks.begun.mpr hscheduled
    cases hloop : p.replay.ingestion.loop with
    | idle => exact absurd hloop hbegun
    | ended cause => exact ⟨cause, rfl⟩
    | fetching | forwarding =>
      rw [hloop] at hdead
      cases hdead
  have hphase : IngestionRun.Phase taken p.replay.ingestion.loop := htracks.run.phase
  rw [hloop] at hphase
  have htaken := Replay.outcomesOf_of_ended hplan hphase
  obtain ⟨sink, hsink, hsize⟩ := Option.map_eq_some_iff.mp htracks.run.sinkSize
  -- what was forwarded is what was drained: the sink is empty, and so is the hand of the loop
  have hempty := h.emptied hended sink hsink
  obtain ⟨hforwarded, -⟩ := htracks.run.forwarding.withSink sink hsink
  have hhand : p.replay.ingestion.inHand = none := by
    rw [Ingestion.inHand, hloop]
  have hmerged := htracks.run.merged
  rw [htaken] at hmerged
  refine ⟨(htracks.ledger_of_done hdone).1 hscheduled, hmerged, ?_, ?_⟩
  · rw [hsink]
    obtain ⟨maxSize, items⟩ := sink
    cases hsize
    cases hempty
    rfl
  · rw [hempty, hhand, Option.toList_none, List.append_nil, List.append_nil, failuresOf,
      htaken] at hforwarded
    exact hforwarded

end Polls

end PollingReplay

namespace Replay

/-! ## The result -/

/-- **A replay delivers every failure before it returns.** Let each line of a file that is not blank
hold an outcome, and let a job be scheduled with the reporting interval. The replay of the file can
be made then, with a sink of any size and with pauses or without, and in whatever order its threads
go on:

* the drainer does not end while the ingestion loop is alive;
* when the replay returns, all outcomes of the file are merged, each once and in order, the sink is
  empty, and the drainer has taken the failures of the file, each once and in order;
* the replay can always return. -/
theorem failures_delivered [Depths] [Scheduler] {tree : FileTree} {path : FileTree.Path}
    {outcomes : List Outcome} (hholds : OutcomeFile.Holds tree path outcomes) {settings : Settings}
    (hinterval : ¬settings.reportInterval ≤ 0.0)
    (hjob : ∃ job, Scheduler.every 0 (.float settings.reportInterval) = .ok job) {rate : Value}
    (hrate : Production.CanPace rate) (time : Float) :
    ∃ first, make settings (Production.ofFile tree path rate) time = .ok first ∧
      ∀ last, PollingReplay.Reaches ⟨first, .asking⟩ last →
        (last.stage = .ended → last.replay.ingestion.loop.isAlive = false) ∧
        (last.replay.phase = .done →
          (Ledger.start time).mergeAll outcomes = (.ok (), last.replay.ledger) ∧
            last.replay.ingestion.merged = outcomes.length ∧
            last.replay.ingestion.sink = some ⟨settings.failureQueueSize, []⟩ ∧
            last.replay.drained = outcomes.filter Outcome.isFailure) ∧
        ∃ final, last.Reaches final ∧ final.replay.phase = .done := by
  obtain ⟨first, hmake⟩ := exists_make hinterval (Production.ofFile tree path rate) time
  refine ⟨first, hmake, ?_⟩
  intro last hreaches
  rw [hholds.production hrate] at hmake
  obtain ⟨htracks, -⟩ := tracks_make hmake rfl
  have hplain := hholds.plain
  -- the plan is the outcomes of the file and the end mark
  have hplanned : ∀ item ∈ outcomes.map .outcome ++ [.finish], InboundItem.Plain item := by
    intro item hitem o ho
    rcases List.mem_append.mp hitem with houtcome | hmark
    · obtain ⟨p, hp, rfl⟩ := List.mem_map.mp houtcome
      cases ho
      exact hplain o hp
    · obtain rfl := List.mem_singleton.mp hmark
      cases ho
  -- at its beginning nobody has seen anything
  have hfirst : PollingReplay.Polls (outcomes.map .outcome ++ [.finish]) (.start time)
      (some settings.failureQueueSize)
      (∃ job, Scheduler.every 0 (.float settings.reportInterval) = .ok job) ⟨first, .asking⟩ := by
    obtain ⟨i, -, hmake⟩ := bind_eq_ok.mp hmake
    cases hmake
    exact ⟨⟨[], htracks⟩, DrainerStage.noConfusion, iff_of_false DrainerStage.noConfusion
      Bool.noConfusion, DrainerStage.noConfusion, ReplayPhase.noConfusion⟩
  have hpolls := hfirst.reaches hplanned hreaches
  refine ⟨hpolls.loop_dead, fun hdone => ?_,
    hpolls.exists_return hplanned List.mem_concat_self⟩
  obtain ⟨hledger, hmerged, hsink, hdrained⟩ := hpolls.delivered_of_done hjob hdone
  refine ⟨?_, hmerged, hsink, hdrained⟩
  rw [Ledger.mergeAll_of_plain hplain, hledger]

/-! ### Two missing objects -/

/-- The outcome of a `PUT` that found nothing. -/
def missing : Outcome :=
  ⟨.put, .notFound (.text "")⟩

/-- The lines of a file, one of which is blank. -/
def twoMissingLines : String :=
  "\x7b\"kind\": \"PUT\", \"status\": \"not_found\"\x7d\n\n" ++
  "\x7b\"kind\": \"GET\", \"status\": \"success\"\x7d\n" ++
  "\x7b\"kind\": \"PUT\", \"status\": \"not_found\"\x7d\n"

/-- Are these the results of reading the lines? -/
def areTwoMissing : List (Except Fault Outcome) → Bool
  | [.ok ⟨.put, .notFound (.text s)⟩, .ok ⟨.get, .success⟩, .ok ⟨.put, .notFound (.text t)⟩] =>
    s == "" && t == ""
  | _ => false

theorem eq_of_areTwoMissing {results : List (Except Fault Outcome)}
    (h : areTwoMissing results = true) :
    results = [.ok missing, .ok ⟨.get, .success⟩, .ok missing] := by
  rw [areTwoMissing.eq_def] at h
  split at h
  · obtain ⟨hs, ht⟩ := Bool.and_eq_true_iff.mp h
    rw [eq_of_beq hs, eq_of_beq ht]
    rfl
  · cases h

/-- A folder with the file. -/
def twoMissing : FileTree :=
  FileTree.empty.add "outcomes" (some (Text.Utf8.encode twoMissingLines))

open Machine

/-- The lines are read from the folder, and nothing is wrong with any of them. -/
theorem holds_twoMissing : OutcomeFile.Holds twoMissing (.ofString "outcomes")
    [missing, ⟨.get, .success⟩, missing] := by
  refine ⟨Text.Utf8.encode twoMissingLines, by decide +kernel, by decide +kernel, ?_⟩
  have hresults : (OutcomeFile.contents (Text.linesOf (Text.Utf8.readBlocks OutcomeFile.blockSize
      (Text.Utf8.encode twoMissingLines)).text)).map OutcomeFile.readLine =
        [missing, ⟨.get, .success⟩, missing].map .ok :=
    eq_of_areTwoMissing (by decide +kernel)
  rw [← List.forall₂_eq_eq_eq, List.forall₂_map_left_iff, List.forall₂_map_right_iff] at hresults
  exact hresults

/-- The two failures pass through a sink that has room for one. -/
theorem failures_delivered_twoMissing :
    let settings : Settings := { Settings.default with failureQueueSize := 1 }
    OutcomeFile.Holds twoMissing (.ofString "outcomes") [missing, ⟨.get, .success⟩, missing] ∧
      ¬settings.reportInterval ≤ 0.0 ∧
      (∃ job, Scheduler.every 0 (.float settings.reportInterval) = .ok job) ∧
      Production.CanPace .null ∧
      ∃ first, make settings (Production.ofFile twoMissing (.ofString "outcomes") .null) 0.0 =
          .ok first ∧
        ∃ last, PollingReplay.Reaches ⟨first, .asking⟩ last ∧ last.replay.phase = .done ∧
          last.replay.drained = [missing, missing] := by
  intro settings
  have hinterval : ¬settings.reportInterval ≤ 0.0 := by decide +kernel
  have hjob : ∃ job, Scheduler.every 0 (.float settings.reportInterval) = .ok job := by
    decide +kernel
  refine ⟨holds_twoMissing, hinterval, hjob, Production.canPace_null, ?_⟩
  obtain ⟨first, hmake, hall⟩ := failures_delivered holds_twoMissing hinterval hjob
    Production.canPace_null 0.0
  obtain ⟨-, -, last, hreaches, hdone⟩ := hall _ .refl
  obtain ⟨-, -, -, hdrained⟩ := (hall last hreaches).2.1 hdone
  exact ⟨first, hmake, last, hreaches, hdone, hdrained⟩

end Replay

end LoadLedger
