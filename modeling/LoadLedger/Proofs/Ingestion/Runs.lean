import LoadLedger.Machine
import LoadLedger.Proofs.Ingestion.Steps

/-!
# Runs of ingestion

Producers, the loop and the consumer of failures take turns in any order. A run keeps what the
program itself forgets: which items the loop has taken, and which failures were taken from the sink.

`IngestionRun.Tracks` ties both to what was enqueued: the loop has taken the items in their order up
to some point, and whatever is merged, counted, in the sink or beyond it is determined by these
items alone. Every action keeps it (`IngestionRun.Tracks.perform`), so it holds after every run.

`IngestionRun.Phase` ties the stage of the loop to what it has taken, and `IngestionRun.Forwarding`
says where the failures among these are. The actions of the loop are `Tracks.enter`,
`Tracks.takeOutcome`, `Tracks.takeEnding` and `Tracks.forward`.
-/

namespace LoadLedger

/-! ## Actions -/

/-- One action on ingestion. -/
inductive IngestionAction
  /-- A producer puts an item. -/
  | put (item : InboundItem)
  | close
  /-- The loop begins, in a thread or not. -/
  | enter
  /-- The loop takes one step, if it can. -/
  | step
  /-- The consumer takes a failure, if there is one. -/
  | take

/-- The item that an action puts onto the inbound queue. -/
def IngestionAction.enqueued? : IngestionAction → Option InboundItem
  | .put item => some item
  | .close => some .finish
  | .enter | .step | .take => none

/-- Is the outcome that an action puts a plain one, if it puts any? -/
def IngestionAction.Plain (a : IngestionAction) : Prop :=
  ∀ item ∈ a.enqueued?, item.Plain

instance (a : IngestionAction) : Decidable a.Plain :=
  inferInstanceAs (Decidable (∀ item ∈ a.enqueued?, item.Plain))

/-- Ingestion and what has passed through it. The items taken and the failures drained are in their
order. -/
structure IngestionRun where
  ingestion : Ingestion
  /-- The items that the loop has taken, in order. -/
  taken : List InboundItem
  /-- The outcomes that were taken from the sink, in order. -/
  drained : List Outcome

/-- What items hold of outcomes. -/
def outcomesOf (items : List InboundItem) : List Outcome :=
  items.filterMap InboundItem.outcome?

/-- What items hold of outcomes for the sink. -/
def failuresOf (items : List InboundItem) : List Outcome :=
  (outcomesOf items).filter Outcome.isFailure

theorem outcomesOf_append_outcome (items : List InboundItem) (o : Outcome) :
    outcomesOf (items ++ [.outcome o]) = outcomesOf items ++ [o] := by
  rw [outcomesOf, List.filterMap_append]
  rfl

theorem outcomesOf_append_ending (items : List InboundItem) {item : InboundItem}
    {cause : Option Fault} (h : item.ending? = some cause) :
    outcomesOf (items ++ [item]) = outcomesOf items := by
  have hnone : item.outcome? = none := by
    cases item with
    | outcome o => cases h
    | finish => rfl
    | other v => rfl
  rw [outcomesOf, List.filterMap_append, List.filterMap_cons_none hnone]
  exact List.append_nil _

theorem failuresOf_append_outcome (items : List InboundItem) (o : Outcome) :
    failuresOf (items ++ [.outcome o]) = failuresOf items ++ [o].filter Outcome.isFailure := by
  rw [failuresOf, outcomesOf_append_outcome, List.filter_append]
  rfl

namespace IngestionRun

/-- Carries out an action. -/
def perform [Depths] [Scheduler] (r : IngestionRun) : IngestionAction → IngestionRun
  | .put item => { r with ingestion := r.ingestion.put item }
  | .close => { r with ingestion := r.ingestion.close }
  | .enter => { r with ingestion := r.ingestion.enter.2 }
  | .step =>
    match r.ingestion.step? with
    | some next => { r with ingestion := next, taken := r.taken ++ r.ingestion.nextItem?.toList }
    | none => r
  | .take =>
    match r.ingestion.take? with
    | some (o, next) => { r with ingestion := next, drained := r.drained ++ [o] }
    | none => r

/-- Actions in turn, beginning with a state of ingestion. -/
def ofActions [Depths] [Scheduler] (i : Ingestion) (actions : List IngestionAction) :
    IngestionRun :=
  actions.foldl perform ⟨i, [], []⟩

/-! ## The invariant -/

/-- How far the loop has come says what it has taken: nothing before it begins, only outcomes while
it is alive, and the item at which it ends last of all. -/
def Phase (taken : List InboundItem) : IngestionLoop → Prop
  | .idle => taken = []
  | .ended cause =>
    ∃ front last, taken = front ++ [last] ∧ (∀ item ∈ front, item.ending? = none) ∧
      last.ending? = some cause
  | _ => ∀ item ∈ taken, item.ending? = none

/-- Every failure among the items that the loop has taken is beyond the sink, in the sink, or in the
loop's hand, in this order. Without a sink there is none of this. The loop has one in hand
(`Ingestion.inHand`) or none. -/
structure Forwarding (r : IngestionRun) : Prop where
  /-- What was drained, what is in the sink and what is in hand are the failures taken so far. -/
  withSink : ∀ sink, r.ingestion.sink = some sink →
    r.drained ++ sink.items ++ r.ingestion.inHand.toList = failuresOf r.taken ∧
      r.ingestion.forwarded = r.drained.length + sink.items.length
  withoutSink : r.ingestion.sink = none →
    r.drained = [] ∧ r.ingestion.inHand = none ∧ r.ingestion.forwarded = 0

/-- The state of a run that began with a ledger and a sink of some size, or none, is what the items
say that were enqueued. So whoever knows the items and `Phase` knows the ledger, the counts and the
sink. -/
structure Tracks (initial : Ledger) (sinkSize : Option Int) (enqueued : List InboundItem)
    (r : IngestionRun) : Prop where
  /-- The loop has taken the items from the front. -/
  order : enqueued = r.taken ++ r.ingestion.inbound
  /-- The items that it has taken tell how far it has come. -/
  phase : Phase r.taken r.ingestion.loop
  /-- The ledger is that of the outcomes taken, and nobody samples it. -/
  sampling : r.ingestion.sampling.Quiet ((outcomesOf r.taken).foldl Ledger.merged initial)
    (r.ingestion.loop ≠ .idle)
  /-- All outcomes that were taken were merged. -/
  merged : r.ingestion.merged = (outcomesOf r.taken).length
  /-- Of the failures among them none is lost. -/
  forwarding : r.Forwarding
  /-- The sink keeps its size. -/
  sinkSize : r.ingestion.sink.map FailureSink.maxSize = sinkSize

namespace Tracks

variable {initial : Ledger} {sinkSize : Option Int} {enqueued : List InboundItem} {r : IngestionRun}

/-- An item that is put is the last one enqueued. The loop has not taken it. -/
theorem put (h : r.Tracks initial sinkSize enqueued) (item : InboundItem) :
    Tracks initial sinkSize (enqueued ++ [item]) { r with ingestion := r.ingestion.put item } := by
  refine ⟨?_, h.phase, h.sampling, h.merged, ⟨h.forwarding.withSink, h.forwarding.withoutSink⟩,
      h.sinkSize⟩
  rw [Ingestion.put, ← List.append_assoc, ← h.order]

variable [Depths] [Scheduler]

omit [Depths] in
/-- The loop begins at most once, and has taken nothing then. -/
theorem enter (h : r.Tracks initial sinkSize enqueued) :
    Tracks initial sinkSize enqueued { r with ingestion := r.ingestion.enter.2 } := by
  have hsampling := h.sampling
  rw [Ingestion.enter]
  split
  · rename_i sampling hstart
    have herror := hsampling.start_error (congrArg Prod.fst hstart)
    rw [hstart] at herror
    exact ⟨h.order, h.phase, herror, h.merged, ⟨h.forwarding.withSink, h.forwarding.withoutSink⟩,
      h.sinkSize⟩
  · rename_i sampling hstart
    -- the start that succeeds is the first one, so that nothing was taken or forwarded before it
    obtain ⟨hidle, hok⟩ := hsampling.start_ok (congrArg Prod.fst hstart)
    rw [hstart] at hok
    have hloop : r.ingestion.loop = .idle := Classical.not_not.mp hidle
    have htaken : r.taken = [] := by
      have hphase := h.phase
      rwa [hloop] at hphase
    have hhand : r.ingestion.inHand = none := by
      rw [Ingestion.inHand, hloop]
    refine ⟨h.order, ?_, hok.weaken, h.merged, ⟨fun sink hsink => ?_, fun hsink => ?_⟩,
      h.sinkSize⟩
    · rw [htaken]
      exact fun item hmem => absurd hmem List.not_mem_nil
    · have hforwarding := h.forwarding.withSink sink hsink
      rw [hhand] at hforwarding
      exact hforwarding
    · obtain ⟨hdrained, -, hforwarded⟩ := h.forwarding.withoutSink hsink
      exact ⟨hdrained, rfl, hforwarded⟩

/-- The loop takes a plain outcome: it is merged, and if it is a failure it is in hand. -/
theorem takeOutcome (h : r.Tracks initial sinkSize enqueued) (hloop : r.ingestion.loop = .fetching)
    {o : Outcome} (ho : o.Plain) {rest : List InboundItem}
    (hinbound : r.ingestion.inbound = .outcome o :: rest) :
    Tracks initial sinkSize enqueued
      ⟨{ r.ingestion with inbound := rest }.process (.outcome o), r.taken ++ [.outcome o],
        r.drained⟩ := by
  have horder : enqueued = r.taken ++ [.outcome o] ++ rest := by
    rw [h.order, hinbound, List.append_assoc]
    rfl
  have htaken : ∀ item ∈ r.taken ++ [.outcome o], item.ending? = none := by
    have hphase := h.phase
    rw [hloop] at hphase
    intro item hmem
    rcases List.mem_append.mp hmem with hold | hnew
    · exact hphase item hold
    · obtain rfl := List.mem_singleton.mp hnew
      rfl
  have hsampling : SamplerSession.Quiet
      ((outcomesOf (r.taken ++ [.outcome o])).foldl Ledger.merged initial) True
      { r.ingestion.sampling with ledger := r.ingestion.ledger.merged o } := by
    have hquiet := h.sampling
    have hstarted := hquiet.started (by rw [hloop]; exact IngestionLoop.noConfusion)
    refine ⟨?_, hquiet.thread, fun _ => hstarted, hquiet.ahead⟩
    rw [outcomesOf_append_outcome, List.foldl_append, ← hquiet.ledger]
    rfl
  have hmerged : r.ingestion.merged + 1 = (outcomesOf (r.taken ++ [.outcome o])).length := by
    rw [outcomesOf_append_outcome, List.length_append, h.merged]
    rfl
  have hhand : r.ingestion.inHand = none := by
    rw [Ingestion.inHand, hloop]
  rw [Ingestion.process_outcome _ ho]
  -- the outcome is in hand from now on, or it is done with at once
  by_cases hforward : (o.isFailure && r.ingestion.sink.isSome) = true
  · rw [if_pos hforward]
    obtain ⟨hfailure, hsome⟩ := Bool.and_eq_true_iff.mp hforward
    refine ⟨horder, htaken, hsampling.weaken, hmerged, ⟨fun sink hsink => ?_, fun hsink => ?_⟩,
      h.sinkSize⟩
    · obtain ⟨hitems, hcount⟩ := h.forwarding.withSink sink hsink
      refine ⟨?_, hcount⟩
      rw [hhand, Option.toList_none, List.append_nil] at hitems
      rw [failuresOf_append_outcome, ← hitems, List.filter_cons_of_pos hfailure]
      rfl
    · have habsent : r.ingestion.sink = none := hsink
      rw [habsent] at hsome
      cases hsome
  · rw [if_neg hforward]
    refine ⟨horder, ?_, hsampling.weaken, hmerged,
      ⟨fun sink hsink => ?_, h.forwarding.withoutSink⟩, h.sinkSize⟩
    · change Phase _ r.ingestion.loop
      rw [hloop]
      exact htaken
    · obtain ⟨hitems, hcount⟩ := h.forwarding.withSink sink hsink
      have hpresent : r.ingestion.sink = some sink := hsink
      have hpassed : ¬o.isFailure = true := by
        intro hfailure
        rw [hfailure, hpresent] at hforward
        exact hforward rfl
      refine ⟨?_, hcount⟩
      rw [failuresOf_append_outcome, List.filter_cons_of_neg hpassed, List.filter_nil,
        List.append_nil]
      exact hitems

omit [Depths] in
/-- The loop takes anything else: it ends, and nothing but the order is touched. -/
theorem takeEnding (h : r.Tracks initial sinkSize enqueued) (hloop : r.ingestion.loop = .fetching)
    {item : InboundItem} {cause : Option Fault} (hending : item.ending? = some cause)
    {rest : List InboundItem} (hinbound : r.ingestion.inbound = item :: rest) :
    Tracks initial sinkSize enqueued
      ⟨{ r.ingestion with inbound := rest }.endLoop cause, r.taken ++ [item], r.drained⟩ := by
  have horder : enqueued = r.taken ++ [item] ++ rest := by
    rw [h.order, hinbound, List.append_assoc]
    rfl
  have hphase := h.phase
  rw [hloop] at hphase
  have hhand : r.ingestion.inHand = none := by
    rw [Ingestion.inHand, hloop]
  have hsampling := h.sampling.stop .null
  have hstarted : r.ingestion.loop ≠ .idle := by
    rw [hloop]
    exact IngestionLoop.noConfusion
  -- the item that ends the loop is taken, but it is no outcome
  refine ⟨horder, ⟨r.taken, item, rfl, hphase, hending⟩, ?_, ?_, ⟨fun sink hsink => ?_, ?_⟩,
    h.sinkSize⟩
  · rw [outcomesOf_append_ending _ hending]
    exact ⟨hsampling.ledger, hsampling.thread, fun _ => hsampling.started hstarted,
      hsampling.ahead⟩
  · rw [outcomesOf_append_ending _ hending]
    exact h.merged
  · obtain ⟨hitems, hcount⟩ := h.forwarding.withSink sink hsink
    refine ⟨?_, hcount⟩
    rw [hhand] at hitems
    rw [failuresOf, outcomesOf_append_ending _ hending]
    exact hitems
  · intro hsink
    obtain ⟨hdrained, -, hforwarded⟩ := h.forwarding.withoutSink hsink
    exact ⟨hdrained, rfl, hforwarded⟩

omit [Depths] [Scheduler] in
/-- The loop puts the outcome in hand into the sink. -/
theorem forward (h : r.Tracks initial sinkSize enqueued) {o : Outcome}
    (hloop : r.ingestion.loop = .forwarding o) {sink : FailureSink}
    (hsink : r.ingestion.sink = some sink) :
    Tracks initial sinkSize enqueued
      { r with
        ingestion := { r.ingestion with
          sink := some { sink with items := sink.items ++ [o] }
          forwarded := r.ingestion.forwarded + 1
          unfinished := r.ingestion.unfinished - 1
          loop := .fetching } } := by
  obtain ⟨hitems, hcount⟩ := h.forwarding.withSink sink hsink
  have hphase := h.phase
  have hstarted : r.ingestion.loop ≠ .idle := by
    rw [hloop]
    exact IngestionLoop.noConfusion
  have hhand : r.ingestion.inHand = some o := by
    rw [Ingestion.inHand, hloop]
  rw [hloop] at hphase
  have hsize := h.sinkSize
  rw [hsink] at hsize
  refine ⟨h.order, hphase, ?_, h.merged, ⟨fun longer hlonger => ?_, fun hnone => ?_⟩, hsize⟩
  · have hquiet := h.sampling
    exact ⟨hquiet.ledger, hquiet.thread, fun _ => hquiet.started hstarted, hquiet.ahead⟩
  -- the outcome goes from the hand of the loop to the end of the sink
  · obtain rfl := Option.some.inj hlonger
    refine ⟨?_, ?_⟩
    · rw [← hitems, hhand]
      simp only [Ingestion.inHand, Option.toList_none, Option.toList_some, List.append_nil,
        List.append_assoc]
    · rw [List.length_append, ← Nat.add_assoc, ← hcount]
      rfl
  · cases hnone

/-- The loop takes a step: what it does is told apart by `Ingestion.step?_cases`. -/
theorem step (h : r.Tracks initial sinkSize enqueued) (hplain : ∀ item ∈ enqueued, item.Plain) :
    Tracks initial sinkSize enqueued (r.perform .step) := by
  rw [perform]
  split
  · rename_i next hnext
    rcases Ingestion.step?_cases hnext with ⟨item, rest, hloop, hinbound, rfl⟩ |
      ⟨o, sink, hloop, hsink, rfl⟩
    -- the next item of the queue was enqueued like all others
    · have hitem : item.Plain := by
        apply hplain
        rw [h.order, hinbound]
        exact List.mem_append_right _ List.mem_cons_self
      have hnextItem : r.ingestion.nextItem? = some item := by
        rw [Ingestion.nextItem?, hloop, hinbound]
        rfl
      rw [hnextItem]
      cases hending : item.ending? with
      | none =>
        cases item with
        | outcome o => exact h.takeOutcome hloop (hitem o rfl) hinbound
        | finish | other => cases hending
      | some cause =>
        rw [Ingestion.process_of_ending _ hending]
        exact h.takeEnding hloop hending hinbound
    · have hnextItem : r.ingestion.nextItem? = none := by
        rw [Ingestion.nextItem?, hloop]
      rw [hnextItem, Option.toList_none, List.append_nil]
      exact h.forward hloop hsink
  · exact h

/-- The consumer takes the oldest outcome of the sink. -/
theorem take (h : r.Tracks initial sinkSize enqueued) :
    Tracks initial sinkSize enqueued (r.perform .take) := by
  rw [perform]
  split
  · rename_i o next hnext
    obtain ⟨sink, items, hsink, hitems, rfl⟩ := Ingestion.take?_cases hnext
    obtain ⟨hfailures, hcount⟩ := h.forwarding.withSink sink hsink
    have hsize := h.sinkSize
    rw [hsink] at hsize
    refine ⟨h.order, h.phase, h.sampling, h.merged, ⟨fun shorter hshorter => ?_, fun hnone => ?_⟩,
      hsize⟩
    -- the outcome goes from the front of the sink to the end of those taken
    · obtain rfl := Option.some.inj hshorter
      refine ⟨?_, ?_⟩
      · rw [← hfailures, hitems]
        simp only [Ingestion.inHand, List.append_assoc, List.cons_append, List.nil_append]
      · rw [hitems] at hcount
        simp only [List.length_append, List.length_cons, List.length_nil] at hcount ⊢
        omega
    · cases hnone
  · exact h

/-- **Every action keeps the invariant.** There is one lemma for each action, and `step` for those
of the loop. -/
theorem perform (h : r.Tracks initial sinkSize enqueued) (hplain : ∀ item ∈ enqueued, item.Plain)
    (a : IngestionAction) :
    Tracks initial sinkSize (enqueued ++ a.enqueued?.toList) (r.perform a) := by
  cases a with
  | put item => exact h.put item
  | close => exact h.put .finish
  | enter =>
    rw [IngestionAction.enqueued?, Option.toList_none, List.append_nil]
    exact h.enter
  | step =>
    rw [IngestionAction.enqueued?, Option.toList_none, List.append_nil]
    exact h.step hplain
  | take =>
    rw [IngestionAction.enqueued?, Option.toList_none, List.append_nil]
    exact h.take

/-- So do actions in turn, by induction on them. Each item that they put is plain. -/
theorem performAll (h : r.Tracks initial sinkSize enqueued) (hplain : ∀ item ∈ enqueued, item.Plain)
    {actions : List IngestionAction} (hactions : ∀ a ∈ actions, a.Plain) :
    Tracks initial sinkSize (enqueued ++ actions.filterMap IngestionAction.enqueued?)
      (actions.foldl IngestionRun.perform r) := by
  induction actions generalizing enqueued r with
  | nil =>
    rw [List.filterMap_nil, List.append_nil]
    exact h
  | cons a actions ih =>
    have hcons : (a :: actions).filterMap IngestionAction.enqueued? =
        a.enqueued?.toList ++ actions.filterMap IngestionAction.enqueued? := by
      rw [List.filterMap_cons]
      cases a.enqueued? <;> rfl
    rw [hcons, ← List.append_assoc, List.foldl_cons]
    refine ih (h.perform hplain a) ?_ fun b hb => hactions b (List.mem_cons_of_mem _ hb)
    intro item hmem
    rcases List.mem_append.mp hmem with hold | hnew
    · exact hplain item hold
    · exact hactions a List.mem_cons_self item (Option.mem_toList.mp hnew)

end Tracks

/-- Ingestion that has not begun has done nothing. -/
theorem tracks_make {interval : Value} {sinkSize : Option Int} {time : Float} {i : Ingestion}
    (hmake : Ingestion.make interval sinkSize time = .ok i) (initial : Ledger) :
    Tracks initial sinkSize [] ⟨i.withLedger initial, [], []⟩ := by
  obtain ⟨sampler, hsampler, rfl⟩ := Ingestion.make_ok hmake
  obtain ⟨hjobs, hthread⟩ := Sampler.make_ok hsampler
  refine ⟨rfl, rfl, ⟨rfl, ?_, fun hstarted => absurd rfl hstarted, ?_⟩, rfl,
    ⟨fun sink hsink => ?_, fun hsink => ⟨rfl, rfl, rfl⟩⟩, ?_⟩
  · change sampler.thread ≠ .sampling
    rw [hthread]
    exact SamplerThread.noConfusion
  · change ∀ job ∈ sampler.jobs, _
    rw [hjobs]
    exact fun job hjob => absurd hjob List.not_mem_nil
  · obtain ⟨maxSize, -, rfl⟩ := Option.map_eq_some_iff.mp hsink
    exact ⟨rfl, rfl⟩
  · cases sinkSize <;> rfl

/-! ## The result -/

/-- The loop has ended if and only if the last item that it has taken is one at which it ends. -/
theorem Phase.ended_iff {taken : List InboundItem} {loop : IngestionLoop} (h : Phase taken loop)
    (cause : Option Fault) :
    loop = .ended cause ↔ taken.getLast?.bind InboundItem.ending? = some cause := by
  -- a loop that is alive has taken nothing at which it would have ended
  have halive : (∀ item ∈ taken, item.ending? = none) →
      ¬taken.getLast?.bind InboundItem.ending? = some cause := by
    intro hnone hsome
    obtain ⟨item, hlast, hending⟩ := Option.bind_eq_some_iff.mp hsome
    rw [hnone item (List.mem_of_getLast? hlast)] at hending
    cases hending
  cases loop with
  | idle =>
    obtain rfl : taken = [] := h
    exact iff_of_false IngestionLoop.noConfusion (halive fun _ hmem => absurd hmem List.not_mem_nil)
  | fetching => exact iff_of_false IngestionLoop.noConfusion (halive h)
  | forwarding o => exact iff_of_false IngestionLoop.noConfusion (halive h)
  | ended given =>
    obtain ⟨front, last, rfl, -, hending⟩ := h
    rw [List.getLast?_concat, Option.bind_some, hending, IngestionLoop.ended.injEq,
      Option.some_inj]

/-- No item but the last one taken is one at which the loop ends. -/
theorem Phase.dropLast {taken : List InboundItem} {loop : IngestionLoop} (h : Phase taken loop) :
    ∀ item ∈ taken.dropLast, item.ending? = none := by
  intro item hmem
  cases loop with
  | idle =>
    obtain rfl : taken = [] := h
    cases hmem
  | fetching => exact h item (List.dropLast_subset _ hmem)
  | forwarding o => exact h item (List.dropLast_subset _ hmem)
  | ended given =>
    obtain ⟨front, last, rfl, hfront, -⟩ := h
    rw [List.dropLast_concat] at hmem
    exact hfront item hmem

/-- **Ingestion processes what was enqueued in order and once.** After every run of plain outcomes:

* the loop has taken the enqueued items up to some point and left the others. It goes no further
  than the first item that is no outcome, and has ended exactly if it has come to one;
* the ledger is the initial one with each outcome among the taken items merged once, in order, and
  their number is the one reported;
* what was taken from the sink, what is in it, and the one outcome that may be waiting for room are
  the failures among these outcomes, in order. Without a sink nothing is forwarded;
* a loop that is alive stands still only if there is nothing to take, or no room in the sink for the
  outcome that waits.

All of it is read off `IngestionRun.Tracks`. -/
theorem taken_processed_once [Depths] [Scheduler] {interval : Value} {sinkSize : Option Int}
    {time : Float}
    {i : Ingestion} (hmake : Ingestion.make interval sinkSize time = .ok i) (initial : Ledger)
    (actions : List IngestionAction) (hplain : ∀ a ∈ actions, a.Plain) :
    let run := ofActions (i.withLedger initial) actions
    let outcomes := outcomesOf run.taken
    (run.taken ++ run.ingestion.inbound = actions.filterMap IngestionAction.enqueued? ∧
      (∀ item ∈ run.taken.dropLast, item.ending? = none) ∧
      ∀ cause, run.ingestion.loop = .ended cause ↔
        run.taken.getLast?.bind InboundItem.ending? = some cause) ∧
    (initial.mergeAll outcomes = (.ok (), run.ingestion.ledger) ∧
      run.ingestion.merged = outcomes.length) ∧
    (run.ingestion.sink.map FailureSink.maxSize = sinkSize ∧
      (∀ sink, run.ingestion.sink = some sink →
        run.drained ++ sink.items ++ run.ingestion.inHand.toList =
            outcomes.filter Outcome.isFailure ∧
          run.ingestion.forwarded = run.drained.length + sink.items.length) ∧
      (sinkSize = none → run.drained = [] ∧ run.ingestion.forwarded = 0)) ∧
    (run.ingestion.loop.isAlive = true → run.ingestion.step? = none →
      run.ingestion.inbound = [] ∨
        ∃ o sink, run.ingestion.inHand = some o ∧ run.ingestion.sink = some sink ∧
          sink.hasRoom = false) := by
  intro run outcomes
  have htracks : Tracks initial sinkSize (actions.filterMap IngestionAction.enqueued?) run :=
    (tracks_make hmake initial).performAll (fun _ hmem => absurd hmem List.not_mem_nil) hplain
  -- the outcomes that were taken were put by some action
  have hplainOutcomes : ∀ o ∈ outcomes, o.Plain := by
    intro o ho
    obtain ⟨item, hitem, houtcome⟩ := List.mem_filterMap.mp ho
    have henqueued : item ∈ actions.filterMap IngestionAction.enqueued? := by
      rw [htracks.order]
      exact List.mem_append_left _ hitem
    obtain ⟨a, ha, hput⟩ := List.mem_filterMap.mp henqueued
    exact hplain a ha item hput o houtcome
  refine ⟨⟨htracks.order.symm, htracks.phase.dropLast, htracks.phase.ended_iff⟩,
    ⟨?_, htracks.merged⟩, ⟨htracks.sinkSize, htracks.forwarding.withSink, fun hnone => ?_⟩,
    fun halive hstuck => ?_⟩
  · rw [Ledger.mergeAll_of_plain hplainOutcomes, Ingestion.ledger, htracks.sampling.ledger]
  · have hsink : run.ingestion.sink = none :=
      Option.map_eq_none_iff.mp (htracks.sinkSize.trans hnone)
    obtain ⟨hdrained, -, hforwarded⟩ := htracks.forwarding.withoutSink hsink
    exact ⟨hdrained, hforwarded⟩
  -- a loop that stands still waits for an item, or for room in the sink
  · cases hloop : run.ingestion.loop with
    | idle | ended => rw [hloop] at halive; cases halive
    | fetching => exact .inl (Ingestion.inbound_of_step?_eq_none hloop hstuck)
    | forwarding o =>
      have hhand : run.ingestion.inHand = some o := by
        rw [Ingestion.inHand, hloop]
      cases hsink : run.ingestion.sink with
      | none =>
        obtain ⟨-, hempty, -⟩ := htracks.forwarding.withoutSink hsink
        rw [hhand] at hempty
        cases hempty
      | some sink =>
        exact .inr ⟨o, sink, hhand, rfl,
          (Ingestion.step?_eq_none_of_forwarding hloop hsink).mp hstuck⟩

/-- Two failures for a sink with room for one, a success behind the end mark, and a consumer that
comes once. -/
def narrowSink : List IngestionAction :=
  [.put (.outcome ⟨.get, .notFound (.text "gone")⟩), .enter, .step, .step,
    .put (.outcome ⟨.put, .httpError (.int 503) (.text "down")⟩), .step, .step, .take, .close,
    .put (.outcome ⟨.get, .success⟩), .step, .step, .step]

open Machine

/-- Both failures are merged and forwarded, the loop ends, and the success is left in the queue. -/
theorem processed_narrowSink :
    ∃ i, Ingestion.make (.int 1) (some 1) 0.0 = .ok i ∧
      let run := ofActions (i.withLedger (.start 0.0)) narrowSink
      run.ingestion.merged = 2 ∧ run.ingestion.forwarded = 2 ∧
        (∃ cause, run.ingestion.loop = .ended cause) ∧ run.ingestion.inbound.length = 1 := by
  have hplain : ∀ a ∈ narrowSink, a.Plain := by decide +kernel
  -- the state is forgotten once its lists are counted, so that nothing below evaluates it again
  obtain ⟨i, hmake, houtcomes, hfailures, hhand, htaken, hlast⟩ :
      ∃ i, Ingestion.make (.int 1) (some 1) 0.0 = .ok i ∧
        let run := ofActions (i.withLedger (.start 0.0)) narrowSink
        (outcomesOf run.taken).length = 2 ∧
          ((outcomesOf run.taken).filter Outcome.isFailure).length = 2 ∧
          run.ingestion.inHand.toList.length = 0 ∧ run.taken.length = 3 ∧
          (run.taken.getLast?.bind InboundItem.ending?).isSome = true :=
    ⟨_, rfl, by decide +kernel⟩
  refine ⟨i, hmake, ?_⟩
  obtain ⟨⟨horder, -, hended⟩, ⟨-, hmerged⟩, ⟨hsize, hsink, -⟩, -⟩ :=
    taken_processed_once hmake (.start 0.0) narrowSink hplain
  refine ⟨hmerged.trans houtcomes, ?_, ?_, ?_⟩
  · obtain ⟨sink, hpresent, -⟩ := Option.map_eq_some_iff.mp hsize
    obtain ⟨hitems, hforwarded⟩ := hsink sink hpresent
    have hlength := congrArg List.length hitems
    rw [List.length_append, List.length_append, hfailures, hhand] at hlength
    exact hforwarded.trans hlength
  · obtain ⟨cause, hcause⟩ := Option.isSome_iff_exists.mp hlast
    exact ⟨cause, (hended cause).mpr hcause⟩
  · have hlength := congrArg List.length horder
    have henqueued : (narrowSink.filterMap IngestionAction.enqueued?).length = 4 := rfl
    rw [List.length_append, htaken, henqueued] at hlength
    omega

end IngestionRun

end LoadLedger
