import LoadLedger.Ingestion
import LoadLedger.Proofs.Ledger.Merging
import LoadLedger.Proofs.Sampler.Quiet

/-!
# What one step of the loop does

A step takes the next item and deals with it, or puts the outcome in hand into the sink
(`Ingestion.step?_cases`). A plain outcome is merged, and then it is in hand if it is a failure and
there is a sink, and done with otherwise (`Ingestion.process_outcome`); everything else ends the
loop (`Ingestion.process_of_ending`). The rest of the queue and the sink are left alone by it
(`Ingestion.process_sameQueues`).

`Ingestion.SameQueues` is the frame of that: what dealing with an item leaves alone.
`Ingestion.inHand` is the outcome that is merged and not yet in the sink.
-/

namespace LoadLedger

namespace InboundItem

/-- The outcome that an item is, if it is one. -/
def outcome? : InboundItem → Option Outcome
  | .outcome o => some o
  | _ => none

/-- How the loop ends at an item, if it does. -/
def ending? : InboundItem → Option (Option Fault)
  | .outcome _ => none
  | .finish => some none
  | .other v => some (some (.notOutcome v.typeName))

/-- Is the item a plain outcome, if it is an outcome at all? -/
def Plain (item : InboundItem) : Prop :=
  ∀ o ∈ item.outcome?, o.Plain

instance (item : InboundItem) : Decidable item.Plain :=
  inferInstanceAs (Decidable (∀ o ∈ item.outcome?, o.Plain))

end InboundItem

variable [Depths] [Scheduler]

namespace Ingestion

/-- The outcome that is merged but not yet in the sink. -/
def inHand (i : Ingestion) : Option Outcome :=
  match i.loop with
  | .forwarding o => some o
  | _ => none

/-- The item that the next step takes. -/
def nextItem? (i : Ingestion) : Option InboundItem :=
  match i.loop with
  | .fetching => i.inbound.head?
  | _ => none

/-- The state after an outcome is merged. -/
def mergedWith (i : Ingestion) (o : Outcome) : Ingestion :=
  { i.withLedger (i.ledger.merged o) with merged := i.merged + 1 }

omit [Depths] [Scheduler] in
/-- What there is before anything happens. -/
theorem make_ok {interval : Value} {sinkSize : Option Int} {time : Float} {i : Ingestion}
    (h : make interval sinkSize time = .ok i) :
    ∃ sampler, Sampler.make interval = .ok sampler ∧
      i = { sampling :=
              { ledger := .start time, sampler, now := 0, readers := 0, failure := none, log := [] }
            inbound := []
            unfinished := 0
            sink := sinkSize.map fun maxSize => { maxSize, items := [] }
            merged := 0
            forwarded := 0
            loop := .idle
            threadMade := false
            givenUp := false } := by
  rw [make] at h
  obtain ⟨sampling, hsampling, h⟩ := bind_eq_ok.mp h
  rw [SamplerSession.make] at hsampling
  obtain ⟨sampler, hsampler, hsampling⟩ := bind_eq_ok.mp hsampling
  cases hsampling
  exact ⟨sampler, hsampler, (Except.ok.inj h).symm⟩

/-! ## One item -/

omit [Scheduler] in
/-- Merging a plain outcome never fails, with or without a sink. -/
theorem mergeOutcome_of_plain (i : Ingestion) {o : Outcome} (h : o.Plain) :
    i.mergeOutcome o = (.ok (o.isFailure && i.sink.isSome), i.mergedWith o) := by
  rw [mergeOutcome, Ledger.merge_of_plain h]
  dsimp only
  by_cases hfailure : o.isFailure = true
  · rw [if_pos hfailure, hfailure, Bool.true_and, withLedger]
    cases hsink : i.sink with
    | none =>
      -- a dropped outcome is printed, which might fail too
      obtain ⟨s, hs⟩ := Outcome.quoted_of_plain h
      simp only [hs, Except.map, mergedWith, withLedger, Option.isSome_none, hsink]
    | some sink => simp only [mergedWith, withLedger, Option.isSome_some, hsink]
  · rw [if_neg hfailure, Bool.eq_false_iff.mpr hfailure, Bool.false_and]
    rfl

/-- What the loop does with a plain outcome. -/
theorem process_outcome (i : Ingestion) {o : Outcome} (h : o.Plain) :
    i.process (.outcome o) =
      if o.isFailure && i.sink.isSome then { i.mergedWith o with loop := .forwarding o }
      else (i.mergedWith o).taskDone := by
  rw [process, mergeOutcome_of_plain i h]
  cases o.isFailure && i.sink.isSome <;> rfl

/-- What the loop does with anything else. -/
theorem process_of_ending (i : Ingestion) {item : InboundItem} {cause : Option Fault}
    (h : item.ending? = some cause) : i.process item = i.endLoop cause := by
  cases item with
  | outcome o => cases h
  | finish => cases h; rfl
  | other v => cases h; rfl

/-! ## One step -/

/-- The loop takes the next item, or it puts the outcome in hand into the sink. -/
theorem step?_cases {i j : Ingestion} (h : i.step? = some j) :
    (∃ item rest, i.loop = .fetching ∧ i.inbound = item :: rest ∧
      j = { i with inbound := rest }.process item) ∨
    (∃ o sink, i.loop = .forwarding o ∧ i.sink = some sink ∧
      j = { i with
        sink := some { sink with items := sink.items ++ [o] }
        forwarded := i.forwarded + 1
        unfinished := i.unfinished - 1
        loop := .fetching }) := by
  rw [step?] at h
  split at h
  · rename_i hloop
    split at h
    · cases h
    · rename_i item rest hinbound
      exact .inl ⟨item, rest, hloop, hinbound, (Option.some.inj h).symm⟩
  · rename_i o hloop
    rw [forward?] at h
    split at h
    · rename_i sink hsink
      split at h
      · exact .inr ⟨o, sink, hloop, hsink, (Option.some.inj h).symm⟩
      · cases h
    · cases h
  · cases h

omit [Depths] [Scheduler] in
/-- The consumer takes the oldest outcome of the sink. -/
theorem take?_cases {i j : Ingestion} {o : Outcome} (h : i.take? = some (o, j)) :
    ∃ sink items, i.sink = some sink ∧ sink.items = o :: items ∧
      j = { i with sink := some { sink with items } } := by
  rw [take?] at h
  split at h
  · rename_i sink hsink
    split at h
    · rename_i items hitems
      cases h
      exact ⟨sink, _, hsink, hitems, rfl⟩
    · cases h
  · cases h

/-- A loop that waits for an item and cannot move has taken them all. -/
theorem inbound_of_step?_eq_none {i : Ingestion} (hloop : i.loop = .fetching)
    (h : i.step? = none) : i.inbound = [] := by
  rw [step?, hloop] at h
  dsimp only at h
  split at h
  · assumption
  · cases h

/-- A loop with an outcome in hand is held up by nothing but a sink without room. -/
theorem step?_eq_none_of_forwarding {i : Ingestion} {o : Outcome} {sink : FailureSink}
    (hloop : i.loop = .forwarding o) (hsink : i.sink = some sink) :
    i.step? = none ↔ sink.hasRoom = false := by
  rw [step?, hloop]
  dsimp only
  rw [Option.map_eq_none_iff, forward?, hsink]
  cases hroom : sink.hasRoom with
  | true => simp [hroom]
  | false => simp [hroom]

/-! ## What a step of the loop leaves alone -/

/-- What the loop does with an item concerns neither its thread nor the queues. -/
structure SameQueues (i j : Ingestion) : Prop where
  threadMade : j.threadMade = i.threadMade
  givenUp : j.givenUp = i.givenUp
  inbound : j.inbound = i.inbound
  sink : j.sink = i.sink

omit [Scheduler] in
/-- Merging an outcome, whatever comes of it, leaves the queues and the loop alone. -/
theorem mergeOutcome_sameQueues (i : Ingestion) (o : Outcome) :
    i.SameQueues (i.mergeOutcome o).2 ∧ (i.mergeOutcome o).2.loop = i.loop := by
  rw [mergeOutcome]
  split
  · exact ⟨⟨rfl, rfl, rfl, rfl⟩, rfl⟩
  · dsimp only
    split
    · split
      · exact ⟨⟨rfl, rfl, rfl, rfl⟩, rfl⟩
      · exact ⟨⟨rfl, rfl, rfl, rfl⟩, rfl⟩
    · exact ⟨⟨rfl, rfl, rfl, rfl⟩, rfl⟩

/-- A loop that deals with an item is neither idle before nor after. -/
theorem process_sameQueues (i : Ingestion) (item : InboundItem) :
    i.SameQueues (i.process item) ∧ (i.loop ≠ .idle → (i.process item).loop ≠ .idle) := by
  cases item with
  | finish => exact ⟨⟨rfl, rfl, rfl, rfl⟩, fun _ => IngestionLoop.noConfusion⟩
  | other v => exact ⟨⟨rfl, rfl, rfl, rfl⟩, fun _ => IngestionLoop.noConfusion⟩
  | outcome o =>
    -- an outcome is merged, and then the loop ends, forwards it or is done with it
    obtain ⟨⟨hthread, hgiven, hinbound, hsink⟩, hloop⟩ := i.mergeOutcome_sameQueues o
    rw [process]
    split
    · rename_i hmerge
      rw [hmerge] at hthread hgiven hinbound hsink
      exact ⟨⟨hthread, hgiven, hinbound, hsink⟩, fun _ => IngestionLoop.noConfusion⟩
    · rename_i hmerge
      rw [hmerge] at hthread hgiven hinbound hsink hloop
      refine ⟨⟨hthread, hgiven, hinbound, hsink⟩, ?_⟩
      intro hidle
      rw [← hloop] at hidle
      exact hidle
    · rename_i hmerge
      rw [hmerge] at hthread hgiven hinbound hsink
      exact ⟨⟨hthread, hgiven, hinbound, hsink⟩, fun _ => IngestionLoop.noConfusion⟩

/-- A loop that takes a step is alive, and not idle afterwards. Its thread is the same. -/
theorem step?_alive {i j : Ingestion} (h : i.step? = some j) :
    i.loop.isAlive = true ∧ j.loop ≠ .idle ∧ j.threadMade = i.threadMade ∧
      j.givenUp = i.givenUp := by
  rcases step?_cases h with ⟨item, rest, hloop, -, rfl⟩ | ⟨o, sink, hloop, -, rfl⟩
  · obtain ⟨⟨hthread, hgiven, -, -⟩, hidle⟩ := process_sameQueues { i with inbound := rest } item
    have halive : i.loop.isAlive = true := by
      rw [hloop]
      rfl
    have hbegun : i.loop ≠ .idle := by
      rw [hloop]
      exact IngestionLoop.noConfusion
    exact ⟨halive, hidle hbegun, hthread, hgiven⟩
  · rw [hloop]
    exact ⟨rfl, IngestionLoop.noConfusion, rfl, rfl⟩

/-- The items that a step does not take stay in the queue. -/
theorem inbound_of_step? {i j : Ingestion} (h : i.step? = some j) :
    i.nextItem?.toList ++ j.inbound = i.inbound := by
  rcases step?_cases h with ⟨item, rest, hloop, hinbound, rfl⟩ | ⟨o, sink, hloop, -, rfl⟩
  · obtain ⟨⟨-, -, hrest, -⟩, -⟩ := process_sameQueues { i with inbound := rest } item
    rw [hrest, nextItem?, hloop, hinbound]
    rfl
  · rw [nextItem?, hloop]
    rfl

/-- A loop that is not alive takes no step. -/
theorem step?_of_dead {i : Ingestion} (h : i.loop.isAlive = false) : i.step? = none := by
  cases hstep : i.step? with
  | none => rfl
  | some j =>
    rw [(step?_alive hstep).1] at h
    cases h

end Ingestion

end LoadLedger
