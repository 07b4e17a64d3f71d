import LoadLedger.Proofs.Ingestion.Steps

/-!
# Histories of ingestion

Producers, the loop, the consumer of failures and whoever merges outcomes on the side take turns in
any order. A history keeps what the program itself forgets: which items the loop has taken, which
outcomes were merged, by the loop or outside it, and which failures were taken from the sink.

Beginning is one call and each step of the loop is another one, so that all that the operations of
the program do are calls in turn (`IngestionHistory.exists_calls_of_start` and
`IngestionHistory.exists_calls_of_run`).

Nothing is asked of the outcomes: a merge may fail, and what is dropped without a sink may not be
printable (`Ingestion.mergeOutcome_cases`).
-/

namespace LoadLedger

/-! ## Values at the loop and at the ledger -/

/-- What is to be merged of an item. -/
def InboundItem.value? : InboundItem → Option (Outcome ⊕ Value)
  | .outcome o => some (.inl o)
  | .other v => some (.inr v)
  | .finish => none

variable [Depths] [Scheduler]

/-- The outcome that a value is, if merging it succeeds. -/
def Ledger.accepted? (l : Ledger) : Outcome ⊕ Value → Option Outcome
  | .inl o =>
    match (l.merge o).1 with
    | .ok () => some o
    | .error _ => none
  | .inr _ => none

omit [Scheduler] in
theorem Ledger.accepted?_of_ok {l next : Ledger} {o : Outcome} (h : l.merge o = (.ok (), next)) :
    l.accepted? (.inl o) = some o := by
  rw [accepted?, h]

omit [Scheduler] in
theorem Ledger.accepted?_of_error {l next : Ledger} {o : Outcome} {cause : Fault}
    (h : l.merge o = (.error cause, next)) : l.accepted? (.inl o) = none := by
  rw [accepted?, h]

namespace Ingestion

/-- The state after an outcome is merged, which leaves a ledger. -/
def counted (i : Ingestion) (ledger : Ledger) : Ingestion :=
  { i.withLedger ledger with merged := i.merged + 1 }

omit [Scheduler] in
/-- Merging an outcome fails, or it counts and the outcome is to be forwarded, or it counts and that
is all, apart from a dropped outcome that may not be printable. -/
theorem mergeOutcome_cases (i : Ingestion) (o : Outcome) :
    (∃ cause ledger, i.ledger.merge o = (.error cause, ledger) ∧
      i.mergeOutcome o = (.error cause, i.withLedger ledger)) ∨
    (∃ ledger, i.ledger.merge o = (.ok (), ledger) ∧ (o.isFailure && i.sink.isSome) = true ∧
      i.mergeOutcome o = (.ok true, i.counted ledger)) ∨
    ∃ ledger result, i.ledger.merge o = (.ok (), ledger) ∧
      (o.isFailure && i.sink.isSome) = false ∧ result ≠ .ok true ∧
      i.mergeOutcome o = (result, i.counted ledger) := by
  rw [mergeOutcome]
  cases hmerge : i.ledger.merge o with
  | mk result ledger =>
    cases result with
    | error cause => exact .inl ⟨cause, ledger, rfl, rfl⟩
    | ok _ =>
      refine .inr ?_
      cases hfailure : o.isFailure with
      | false => exact .inr ⟨ledger, .ok false, rfl, rfl, by rintro ⟨⟩, rfl⟩
      | true =>
        cases hsink : i.sink with
        | some sink =>
          refine .inl ⟨ledger, rfl, rfl, ?_⟩
          simp only [if_pos, withLedger, hsink, counted]
        | none =>
          -- what is dropped is printed, whether this goes well or not
          refine .inr ⟨ledger, o.quoted.map fun _ => false, rfl, rfl, ?_, ?_⟩
          · cases o.quoted <;> rintro ⟨⟩
          · simp only [if_pos, withLedger, hsink, counted]

omit [Depths] [Scheduler] in
/-- What is forwarded goes to the end of a sink that has room. -/
theorem forward?_cases {i j : Ingestion} {o : Outcome} (h : i.forward? o = some j) :
    ∃ sink, i.sink = some sink ∧ sink.hasRoom = true ∧
      j = { i with
        sink := some { sink with items := sink.items ++ [o] }
        forwarded := i.forwarded + 1 } := by
  rw [forward?] at h
  split at h
  · rename_i sink hsink
    split at h
    · rename_i hroom
      exact ⟨sink, hsink, hroom, (Option.some.inj h).symm⟩
    · cases h
  · cases h

/-- What the next step is going to merge. -/
def nextValue? (i : Ingestion) : Option (Outcome ⊕ Value) :=
  i.nextItem?.bind InboundItem.value?

/-- What starting a background thread does before the loop takes its first step. -/
def launch (i : Ingestion) : Ingestion :=
  if i.threadMade then i else { i with threadMade := true }.enter.2

end Ingestion

/-! ## Calls -/

/-- What may be done with ingestion, and what it does itself. -/
inductive IngestionCall
  /-- A producer puts an item. -/
  | put (item : InboundItem)
  | close
  /-- The loop begins in a background thread, unless there was one before. -/
  | start
  /-- The loop begins on the thread of the caller. -/
  | run
  /-- The loop takes one step, if it can. -/
  | step
  /-- A value is handled outside the loop, unless this would have to wait. -/
  | handle (v : Outcome ⊕ Value)
  /-- The consumer takes a failure, if there is one. -/
  | take

/-- The item that a call puts onto the inbound queue. -/
def IngestionCall.enqueued? : IngestionCall → Option InboundItem
  | .put item => some item
  | .close => some .finish
  | .start | .run | .step | .handle _ | .take => none

/-- Ingestion and what has passed through it. None of it can be asked of `Ingestion`, which counts
only. -/
structure IngestionHistory where
  ingestion : Ingestion
  /-- The items that the loop has taken, in order. -/
  taken : List InboundItem
  /-- The outcomes that were merged, by the loop and outside it. -/
  merged : List Outcome
  /-- The outcomes that were taken from the sink, in order. -/
  drained : List Outcome

namespace IngestionHistory

/-- Carries out a call. -/
def perform (r : IngestionHistory) : IngestionCall → IngestionHistory
  | .put item => { r with ingestion := r.ingestion.put item }
  | .close => { r with ingestion := r.ingestion.close }
  | .start => { r with ingestion := r.ingestion.launch }
  | .run => { r with ingestion := r.ingestion.enter.2 }
  | .step =>
    match r.ingestion.step? with
    | some next =>
      { r with
        ingestion := next
        taken := r.taken ++ r.ingestion.nextItem?.toList
        merged := r.merged ++ (r.ingestion.nextValue?.bind r.ingestion.ledger.accepted?).toList }
    | none => r
  | .handle v =>
    match r.ingestion.handleAny v with
    | (.error .wouldBlock, _) => r
    | (_, next) =>
      { r with
        ingestion := next
        merged := r.merged ++ (r.ingestion.ledger.accepted? v).toList }
  | .take =>
    match r.ingestion.take? with
    | some (o, next) => { r with ingestion := next, drained := r.drained ++ [o] }
    | none => r

/-- Carries out calls in turn. -/
def performAll (r : IngestionHistory) (calls : List IngestionCall) : IngestionHistory :=
  calls.foldl perform r

/-- Calls in turn, beginning with a state of ingestion. -/
def ofCalls (i : Ingestion) (calls : List IngestionCall) : IngestionHistory :=
  performAll ⟨i, [], [], []⟩ calls

/-- The number of failures that were merged. -/
def failures (r : IngestionHistory) : Nat :=
  (r.merged.filter Outcome.isFailure).length

/-- What is handled outside the loop changes ingestion as the program says, unless this would have
to wait. -/
theorem perform_handle {r : IngestionHistory} {v : Outcome ⊕ Value} {result : Except Fault Unit}
    {next : Ingestion} (h : r.ingestion.handleAny v = (result, next)) :
    r.perform (.handle v) = r ∨
      result ≠ .error .wouldBlock ∧ r.perform (.handle v) =
        { r with
          ingestion := next
          merged := r.merged ++ (r.ingestion.ledger.accepted? v).toList } := by
  rw [perform]
  split
  · exact .inl rfl
  · rename_i hgoes hhandled
    cases h.symm.trans hhandled
    exact .inr ⟨hgoes, rfl⟩

/-! ## Operations as calls -/

/-- The loop goes on as far as it can in steps. -/
theorem exists_steps_of_settle (r : IngestionHistory) :
    ∃ n, (r.performAll (List.replicate n .step)).ingestion = r.ingestion.settle := by
  rw [Ingestion.settle]
  generalize 2 * r.ingestion.inbound.length + 1 = fuel
  induction fuel generalizing r with
  | zero => exact ⟨0, rfl⟩
  | succ fuel ih =>
    rw [Ingestion.settleFor]
    cases hstep : r.ingestion.step? with
    | none => exact ⟨0, rfl⟩
    | some next =>
      have hperformed : (r.perform .step).ingestion = next := by
        rw [IngestionHistory.perform, hstep]
      obtain ⟨n, hn⟩ := ih (r.perform .step)
      rw [hperformed] at hn
      exact ⟨n + 1, hn⟩

/-- What starting a background thread does is a call and the steps that the loop takes then. -/
theorem exists_calls_of_start (r : IngestionHistory) :
    ∃ n, (r.performAll (.start :: List.replicate n .step)).ingestion = r.ingestion.start.2 := by
  by_cases hmade : r.ingestion.threadMade = true
  · refine ⟨0, ?_⟩
    rw [Ingestion.start, if_pos hmade]
    exact if_pos hmade
  · obtain ⟨n, hn⟩ := exists_steps_of_settle (r.perform .start)
    have hlaunched : (r.perform .start).ingestion =
        { r.ingestion with threadMade := true }.enter.2 := if_neg hmade
    rw [Ingestion.start, if_neg hmade]
    rw [hlaunched] at hn
    exact ⟨n, hn⟩

/-- So is what running the loop on the thread of the caller does. -/
theorem exists_calls_of_run (r : IngestionHistory) :
    ∃ n, (r.performAll (.run :: List.replicate n .step)).ingestion = r.ingestion.run.2 := by
  rw [Ingestion.run]
  cases henter : r.ingestion.enter with
  | mk result next =>
    have hentered : (r.perform .run).ingestion = next := congrArg Prod.snd henter
    cases result with
    | error cause => exact ⟨0, hentered⟩
    | ok _ =>
      obtain ⟨n, hn⟩ := exists_steps_of_settle (r.perform .run)
      rw [hentered] at hn
      refine ⟨n, hn.trans ?_⟩
      dsimp only
      split <;> rfl

end IngestionHistory

end LoadLedger
