import LoadLedger.Proofs.Replay.Runs

/-!
# Drainers that poll

The drainer of a replay polls: it looks whether it is asked to stop, then whether the sink is empty,
and if either is not so it waits a while for an outcome. Between these looks the other threads go
on. A replay takes the two looks for one step; here each of them is a move of its own
(`PollingReplay.drainerMove?`).

The second look decides. Nobody takes back a request to stop, so that a drainer that finds the sink
empty after one could as well have looked at both at once; every move of a drainer that polls is a
step of the replay or none (`PollingReplay.Agrees.move`), and every step of the replay can be taken
in moves (`PollingReplay.Agrees.exists_reaches`). So a replay whose drainer polls comes to the same
states as any other.
-/

namespace LoadLedger

/-- The drainer can tell of every plain outcome. -/
theorem Outcome.failureMessage_of_plain [Depths] {o : Outcome} (h : o.Plain) :
    ∃ message, o.failureMessage = .ok message := by
  obtain ⟨text, htext⟩ := quoted_of_plain h
  obtain ⟨status, hstatus, -⟩ := bind_eq_ok.mp htext
  rw [failureMessage, hstatus]
  exact ⟨_, rfl⟩

/-- How far a drainer that polls has come. -/
inductive DrainerStage
  /-- It is about to look whether it is asked to stop. -/
  | asking
  /-- It has seen that it is asked to stop, and is about to look at the sink. -/
  | checking
  /-- It waits for an outcome, but not for long. -/
  | fetching
  | ended
  deriving DecidableEq

/-- A replay whose drainer polls. The drainer of the `Replay` in it only says whether the thread is
alive, and the stage says how far it has come. -/
structure PollingReplay where
  replay : Replay
  /-- How far the drainer has come since the last step of the replay that it took. -/
  stage : DrainerStage

namespace PollingReplay

/-- The drainer ends. -/
def endDrainer (p : PollingReplay) : PollingReplay :=
  ⟨{ p.replay with drainerAlive := false }, .ended⟩

variable [Depths] [Scheduler]

/-- The drainer has taken an outcome and tells of it. It dies of a message that cannot be written.
-/
def tell (p : PollingReplay) (o : Outcome) : PollingReplay :=
  match o.failureMessage with
  | .ok _ => { p with stage := .asking }
  | .error _ => p.endDrainer

/-- One move of the drainer. -/
def drainerMove? (p : PollingReplay) : Option PollingReplay :=
  match p.stage with
  | .asking => some { p with stage := if p.replay.stopAsked then .checking else .fetching }
  | .checking =>
    match p.replay.ingestion.take? with
    | some _ => some { p with stage := .fetching }
    | none => some p.endDrainer
  | .fetching =>
    match p.replay.ingestion.take? with
    | some (o, ingestion) =>
      some (tell ⟨{ p.replay with ingestion, drained := p.replay.drained ++ [o] }, .fetching⟩ o)
    | none => some { p with stage := .asking }
  | .ended => none

/-- One of the threads goes on. -/
inductive Next (p next : PollingReplay) : Prop
  | main (h : p.replay.mainStep? = some next.replay) (hstage : next.stage = p.stage)
  | ingestion (h : p.replay.ingestionStep? = some next.replay) (hstage : next.stage = p.stage)
  | drainer (h : p.drainerMove? = some next)

/-- The threads go on in some order. -/
abbrev Reaches : PollingReplay → PollingReplay → Prop :=
  Relation.ReflTransGen Next

end PollingReplay

/-! ## What steps leave alone -/

namespace Replay

/-- The main thread leaves the sink and the drainer alone, takes no request to stop back, and comes
to its end only after the drainer has. -/
theorem mainStep?_frame {r next : Replay} (h : r.mainStep? = some next) :
    next.ingestion.sink = r.ingestion.sink ∧ next.drainerAlive = r.drainerAlive ∧
      (r.stopAsked = true → next.stopAsked = true) ∧
      (next.phase = .done → r.drainerAlive = false) := by
  rcases mainStep?_cases h with ⟨item, items, hphase, rfl⟩ | ⟨hphase, ⟨-, rfl⟩ | ⟨-, rfl⟩⟩ |
    ⟨hphase, -, rfl⟩ | ⟨hphase, hdead, rfl⟩
  · refine ⟨rfl, rfl, ?_, ReplayPhase.noConfusion⟩
    simp only [stopAsked, hphase]
    exact id
  · refine ⟨rfl, rfl, ?_, ReplayPhase.noConfusion⟩
    simp only [stopAsked, hphase]
    exact id
  · exact ⟨rfl, rfl, fun _ => rfl, ReplayPhase.noConfusion⟩
  · exact ⟨rfl, rfl, fun _ => rfl, ReplayPhase.noConfusion⟩
  · exact ⟨rfl, rfl, fun _ => rfl, fun _ => hdead⟩

theorem drainerAlive_of_drainerStep? {r next : Replay} (h : r.drainerStep? = some next) :
    r.drainerAlive = true := by
  rw [drainerStep?] at h
  split at h
  · assumption
  · cases h

/-- A drainer that is alive takes what there is. -/
theorem drainerStep?_of_take? {r : Replay} (halive : r.drainerAlive = true) {o : Outcome}
    {ingestion : Ingestion} (htake : r.ingestion.take? = some (o, ingestion)) :
    r.drainerStep? = some { r with ingestion, drained := r.drained ++ [o] } := by
  rw [drainerStep?, if_pos halive, htake]

/-- Where there is nothing to take it stops if it is asked to. -/
theorem drainerStep?_of_stopAsked {r : Replay} (halive : r.drainerAlive = true)
    (htake : r.ingestion.take? = none) (hasked : r.stopAsked = true) :
    r.drainerStep? = some { r with drainerAlive := false } := by
  rw [drainerStep?, if_pos halive, htake]
  exact if_pos hasked

/-- What the drainer takes is plain. -/
theorem Feeds.plain_of_take? {plan : List InboundItem} {initial : Ledger} {sinkSize : Option Int}
    {scheduled : Prop} {r : Replay} {taken : List InboundItem}
    (h : r.Feeds plan initial sinkSize scheduled taken) (hplain : ∀ item ∈ plan, item.Plain)
    {o : Outcome} {ingestion : Ingestion} (htake : r.ingestion.take? = some (o, ingestion)) :
    o.Plain := by
  obtain ⟨sink, items, hsink, hitems, -⟩ := Ingestion.take?_cases htake
  obtain ⟨hforwarded, -⟩ := h.run.forwarding.withSink sink hsink
  have hmem : o ∈ failuresOf taken := by
    rw [← hforwarded, hitems]
    simp
  obtain ⟨item, hitem, houtcome⟩ := List.mem_filterMap.mp (List.mem_filter.mp hmem).1
  refine hplain item ?_ o houtcome
  rw [← h.plan, List.append_assoc]
  exact List.mem_append_left _ hitem

end Replay

/-! ## Moves and steps -/

namespace PollingReplay

/-- A replay whose drainer has seen what it has seen: a request to stop is there if it has seen one,
and the main thread returns only after it has ended. With this the second look decides, whichever
comes between the two. -/
structure Agrees (plan : List InboundItem) (initial : Ledger) (sinkSize : Option Int)
    (scheduled : Prop) (p : PollingReplay) : Prop where
  feeds : ∃ taken, p.replay.Feeds plan initial sinkSize scheduled taken
  /-- Nobody takes a request back that the drainer has seen. -/
  asked : p.stage = .checking → p.replay.stopAsked = true
  /-- The stage agrees with what the replay knows of the thread. -/
  ended : p.stage = .ended ↔ p.replay.drainerAlive = false
  /-- The main thread waits for the drainer. -/
  returned : p.replay.phase = .done → p.stage = .ended

variable [Depths] [Scheduler]

namespace Agrees

variable {plan : List InboundItem} {initial : Ledger} {sinkSize : Option Int} {scheduled : Prop}
  {p next : PollingReplay}

omit [Depths] in
/-- A drainer that has not moved yet has seen nothing. -/
theorem ofNew {settings : Settings} {production : Production} {time : Float} {r : Replay}
    (h : r.New settings production time) :
    Agrees production.items (.start time) (some settings.failureQueueSize)
      (∃ job, Scheduler.every 0 (.float settings.reportInterval) = .ok job) ⟨r, .asking⟩ := by
  refine ⟨⟨[], h.feeds⟩, DrainerStage.noConfusion, ?_, ?_⟩
  · rw [h.drainerAlive]
    exact iff_of_false DrainerStage.noConfusion Bool.noConfusion
  · rw [h.phase]
    exact ReplayPhase.noConfusion

omit [Depths] [Scheduler] in
/-- A drainer has ended in the replay exactly if its last move was the end. -/
theorem drainerAlive (h : p.Agrees plan initial sinkSize scheduled) (hstage : p.stage ≠ .ended) :
    p.replay.drainerAlive = true := by
  cases halive : p.replay.drainerAlive with
  | true => rfl
  | false => exact absurd (h.ended.mpr halive) hstage

omit [Depths] [Scheduler] in
/-- The main thread goes on. It may ask the drainer to stop, and never takes this back. -/
theorem main (h : p.Agrees plan initial sinkSize scheduled)
    (hstep : p.replay.mainStep? = some next.replay) (hstage : next.stage = p.stage) :
    next.Agrees plan initial sinkSize scheduled := by
  obtain ⟨taken, hfeeds⟩ := h.feeds
  obtain ⟨-, halive, hasked, hdone⟩ := Replay.mainStep?_frame hstep
  refine ⟨⟨taken, hfeeds.main hstep⟩, ?_, ?_, ?_⟩
  · rw [hstage]
    exact fun hchecking => hasked (h.asked hchecking)
  · rw [hstage, halive]
    exact h.ended
  · rw [hstage]
    exact fun hphase => h.ended.mpr (hdone hphase)

/-- The loop goes on. A drainer that polls sees nothing of it but the sink. -/
theorem ingest (h : p.Agrees plan initial sinkSize scheduled) (hplain : ∀ item ∈ plan, item.Plain)
    (hstep : p.replay.ingestionStep? = some next.replay) (hstage : next.stage = p.stage) :
    next.Agrees plan initial sinkSize scheduled := by
  obtain ⟨taken, hfeeds⟩ := h.feeds
  obtain ⟨i, -, hnext⟩ := Replay.ingestionStep?_cases hstep
  refine ⟨hfeeds.ingest hplain hstep, ?_, ?_, ?_⟩
  · rw [hstage, hnext]
    exact h.asked
  · rw [hstage, hnext]
    exact h.ended
  · rw [hstage, hnext]
    exact h.returned

omit [Depths] [Scheduler] in
/-- The drainer goes on to another stage, and nobody notices. -/
theorem setStage (h : p.Agrees plan initial sinkSize scheduled) (hbefore : p.stage ≠ .ended)
    {stage : DrainerStage} (hafter : stage ≠ .ended)
    (hasked : stage = .checking → p.replay.stopAsked = true) :
    Agrees plan initial sinkSize scheduled { p with stage } :=
  ⟨h.feeds, hasked, iff_of_false hafter fun hdead => hbefore (h.ended.mpr hdead),
    fun hdone => absurd (h.returned hdone) hbefore⟩

/-- The drainer ends after it was asked to stop, with an empty sink. -/
theorem endDrainer (h : p.Agrees plan initial sinkSize scheduled) (hstage : p.stage = .checking)
    (htake : p.replay.ingestion.take? = none) :
    p.endDrainer.Agrees plan initial sinkSize scheduled ∧ p.replay.Next p.endDrainer.replay := by
  obtain ⟨taken, hfeeds⟩ := h.feeds
  have halive := h.drainerAlive (by rw [hstage]; exact DrainerStage.noConfusion)
  have hstep := Replay.drainerStep?_of_stopAsked halive htake (h.asked hstage)
  exact ⟨⟨⟨taken, hfeeds.drain hstep⟩, DrainerStage.noConfusion, iff_of_true rfl rfl,
    fun _ => rfl⟩, .drainer hstep⟩

/-- The drainer takes an outcome and tells of it. -/
theorem take (h : p.Agrees plan initial sinkSize scheduled) (hplain : ∀ item ∈ plan, item.Plain)
    (hstage : p.stage = .fetching) {o : Outcome} {ingestion : Ingestion}
    (htake : p.replay.ingestion.take? = some (o, ingestion)) :
    let after : PollingReplay :=
      ⟨{ p.replay with ingestion, drained := p.replay.drained ++ [o] }, .asking⟩
    tell ⟨after.replay, .fetching⟩ o = after ∧ after.Agrees plan initial sinkSize scheduled ∧
      p.replay.Next after.replay := by
  intro after
  obtain ⟨taken, hfeeds⟩ := h.feeds
  have hnot : p.stage ≠ .ended := by
    rw [hstage]
    exact DrainerStage.noConfusion
  have hstep := Replay.drainerStep?_of_take? (h.drainerAlive hnot) htake
  obtain ⟨message, hmessage⟩ :=
    Outcome.failureMessage_of_plain (hfeeds.plain_of_take? hplain htake)
  refine ⟨by rw [tell, hmessage], ⟨⟨taken, hfeeds.drain hstep⟩, DrainerStage.noConfusion, ?_, ?_⟩,
    .drainer hstep⟩
  · exact iff_of_false DrainerStage.noConfusion fun hdead => hnot (h.ended.mpr hdead)
  · exact fun hdone => absurd (h.returned hdone) hnot

/-- **The drainer makes a move.** Only an outcome that it takes, and its end, are steps of the
replay. -/
theorem drain (h : p.Agrees plan initial sinkSize scheduled) (hplain : ∀ item ∈ plan, item.Plain)
    (hmove : p.drainerMove? = some next) :
    next.Agrees plan initial sinkSize scheduled ∧
      (next.replay = p.replay ∨ p.replay.Next next.replay) := by
  -- a drainer that has ended makes no move
  have hnot : p.stage ≠ .ended := by
    intro hended
    rw [drainerMove?, hended] at hmove
    cases hmove
  rw [drainerMove?] at hmove
  split at hmove
  · obtain rfl := Option.some.inj hmove
    refine ⟨h.setStage hnot ?_ ?_, .inl rfl⟩
    · split <;> exact DrainerStage.noConfusion
    · split
      · rename_i hasked
        exact fun _ => hasked
      · exact DrainerStage.noConfusion
  · rename_i hstage
    split at hmove
    · obtain rfl := Option.some.inj hmove
      exact ⟨h.setStage hnot DrainerStage.noConfusion DrainerStage.noConfusion, .inl rfl⟩
    · rename_i htake
      obtain rfl := Option.some.inj hmove
      -- it has seen the request to stop, and now sees the sink empty: this is the step of the
      -- replay
      obtain ⟨hagrees, hstep⟩ := h.endDrainer hstage htake
      exact ⟨hagrees, .inr hstep⟩
  · rename_i hstage
    split at hmove
    · rename_i o ingestion htake
      obtain rfl := Option.some.inj hmove
      obtain ⟨htold, hagrees, hstep⟩ := h.take hplain hstage htake
      rw [htold]
      exact ⟨hagrees, .inr hstep⟩
    · obtain rfl := Option.some.inj hmove
      exact ⟨h.setStage hnot DrainerStage.noConfusion DrainerStage.noConfusion, .inl rfl⟩
  · cases hmove

/-- **Every move is a step of the replay or none**, and keeps the invariant. For the main thread and
the loop this is `Agrees.main` and `Agrees.ingest`, and for the drainer `Agrees.drain`. -/
theorem move (h : p.Agrees plan initial sinkSize scheduled) (hplain : ∀ item ∈ plan, item.Plain)
    (hnext : p.Next next) :
    next.Agrees plan initial sinkSize scheduled ∧
      (next.replay = p.replay ∨ p.replay.Next next.replay) := by
  cases hnext with
  | main hstep hstage => exact ⟨h.main hstep hstage, .inr (.main hstep)⟩
  | ingestion hstep hstage => exact ⟨h.ingest hplain hstep hstage, .inr (.ingestion hstep)⟩
  | drainer hmove => exact h.drain hplain hmove

/-- Whatever a replay whose drainer polls comes to, any other can come to as well. -/
theorem reaches (h : p.Agrees plan initial sinkSize scheduled) (hplain : ∀ item ∈ plan, item.Plain)
    {last : PollingReplay} (hreaches : p.Reaches last) :
    last.Agrees plan initial sinkSize scheduled ∧ p.replay.Reaches last.replay := by
  induction hreaches with
  | refl => exact ⟨h, .refl⟩
  | tail _ hnext ih =>
    obtain ⟨hagrees, hbefore⟩ := ih
    obtain ⟨hafter, hsame | hstep⟩ := hagrees.move hplain hnext
    · rw [hsame]
      exact ⟨hafter, hbefore⟩
    · exact ⟨hafter, hbefore.tail hstep⟩

/-! ## Going on -/

/-- A drainer that is alive comes to wait for an outcome if there is one. -/
theorem reaches_fetching (h : p.Agrees plan initial sinkSize scheduled)
    (halive : p.replay.drainerAlive = true) {o : Outcome} {ingestion : Ingestion}
    (htake : p.replay.ingestion.take? = some (o, ingestion)) :
    p.Reaches ⟨p.replay, .fetching⟩ := by
  have hchecking : Reaches ⟨p.replay, .checking⟩ ⟨p.replay, .fetching⟩ :=
    .single (.drainer (by rw [drainerMove?, htake]))
  obtain ⟨replay, stage⟩ := p
  cases stage with
  | asking =>
    refine .head (.drainer rfl) ?_
    dsimp only
    split
    · exact hchecking
    · exact .refl
  | checking => exact hchecking
  | fetching => exact .refl
  | ended =>
    rw [h.ended.mp rfl] at halive
    cases halive

/-- A drainer that is asked to stop comes to look at the sink if it is empty. -/
theorem reaches_checking (h : p.Agrees plan initial sinkSize scheduled)
    (halive : p.replay.drainerAlive = true) (hasked : p.replay.stopAsked = true)
    (htake : p.replay.ingestion.take? = none) : p.Reaches ⟨p.replay, .checking⟩ := by
  have hasking : Reaches ⟨p.replay, .asking⟩ ⟨p.replay, .checking⟩ :=
    .single (.drainer (by rw [drainerMove?, hasked]; rfl))
  obtain ⟨replay, stage⟩ := p
  cases stage with
  | asking => exact hasking
  | checking => exact .refl
  | fetching => exact .head (.drainer (by rw [drainerMove?, htake])) hasking
  | ended =>
    rw [h.ended.mp rfl] at halive
    cases halive

/-- A step of the replay can be taken in moves. The drainer may have to come round to the look that
it needs first. -/
theorem exists_reaches_of_next (h : p.Agrees plan initial sinkSize scheduled)
    (hplain : ∀ item ∈ plan, item.Plain) {r : Replay} (hnext : p.replay.Next r) :
    ∃ q, p.Reaches q ∧ q.replay = r := by
  cases hnext with
  | main hstep => exact ⟨⟨r, p.stage⟩, .single (.main hstep rfl), rfl⟩
  | ingestion hstep => exact ⟨⟨r, p.stage⟩, .single (.ingestion hstep rfl), rfl⟩
  | drainer hstep =>
    have halive := Replay.drainerAlive_of_drainerStep? hstep
    cases htake : p.replay.ingestion.take? with
    | some taken =>
      obtain ⟨o, ingestion⟩ := taken
      obtain rfl := Option.some.inj
        (hstep.symm.trans (Replay.drainerStep?_of_take? halive htake))
      -- the drainer comes round to where it takes an outcome
      have hfetching := h.reaches_fetching halive htake
      obtain ⟨htold, -, -⟩ := (h.reaches hplain hfetching).1.take hplain rfl htake
      refine ⟨⟨{ p.replay with ingestion, drained := p.replay.drained ++ [o] }, .asking⟩,
        hfetching.tail (.drainer ?_), rfl⟩
      simp only [drainerMove?, htake]
      exact congrArg some htold
    | none =>
      rw [Replay.drainerStep?, if_pos halive, htake] at hstep
      obtain ⟨hasked, hended⟩ := Option.ite_none_right_eq_some.mp hstep
      obtain rfl := Option.some.inj hended
      -- it comes round to its look at the sink, with the request seen
      have hchecking := h.reaches_checking halive hasked htake
      refine ⟨PollingReplay.endDrainer ⟨p.replay, .checking⟩, hchecking.tail (.drainer ?_), rfl⟩
      simp only [drainerMove?, htake]

/-- **Whatever a replay can come to, one whose drainer polls can come to as well.** -/
theorem exists_reaches (h : p.Agrees plan initial sinkSize scheduled)
    (hplain : ∀ item ∈ plan, item.Plain) {r : Replay} (hreaches : p.replay.Reaches r) :
    ∃ q, p.Reaches q ∧ q.replay = r := by
  induction hreaches with
  | refl => exact ⟨p, .refl, rfl⟩
  | tail _ hnext ih =>
    obtain ⟨q, hq, rfl⟩ := ih
    obtain ⟨last, hlast, hreplay⟩ := (h.reaches hplain hq).1.exists_reaches_of_next hplain hnext
    exact ⟨last, hq.trans hlast, hreplay⟩

end Agrees

end PollingReplay

end LoadLedger
