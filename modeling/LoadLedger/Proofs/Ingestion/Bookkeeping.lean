import LoadLedger.Machine
import LoadLedger.Proofs.Ingestion.Histories
import LoadLedger.Proofs.Ledger.Transactions
import LoadLedger.Proofs.Outcome.Reading

/-!
# The books of ingestion

Ingestion counts in several places: how many tasks of the inbound queue are unfinished, how many
outcomes are merged, how many are forwarded. The places are updated at different moments, and a full
sink may hold the loop up in between. What they say together is kept by every update by itself
(`IngestionHistory.Books`), with two numbers for what is under way: the items that were taken and
are not done with, and the failures that are merged and not forwarded. Between two calls both of
them are the number of outcomes in the hand of the loop (`IngestionHistory.Booked`), and in a
settled state this is whether the loop is held up.

A merge may fail half-way. Then the loop ends, or the caller who has merged on the side is told, and
the books agree as before (`IngestionHistory.Books.mergeOutcome`): what was not merged is not
counted. What is left behind in the ledger is another matter (`Ledger.kept_iff_of_mergeAny_error`).
-/

namespace LoadLedger

/-! ## Held up by a sink -/

/-- A sink without room has a bound, and holds as much. -/
theorem FailureSink.hasRoom_eq_false {s : FailureSink} :
    s.hasRoom = false ↔ 0 < s.maxSize ∧ s.maxSize ≤ s.items.length := by
  rw [hasRoom, Bool.or_eq_false_iff, decide_eq_false_iff_not, decide_eq_false_iff_not, Int.not_le,
    Int.not_lt]

namespace Ingestion

/-- The loop waits for room in a sink that has none. -/
def isBlocked (i : Ingestion) : Bool :=
  match i.inHand, i.sink with
  | some _, some sink => !sink.hasRoom
  | _, _ => false

/-- A loop is held up by a sink that has no room, and by nothing else. -/
theorem hasRoom_of_isBlocked {i : Ingestion} (h : i.isBlocked = true) {sink : FailureSink}
    (hsink : i.sink = some sink) : sink.hasRoom = false := by
  rw [isBlocked, hsink] at h
  split at h
  · rename_i hsame
    cases hsame
    rwa [Bool.not_eq_true'] at h
  · cases h

end Ingestion

namespace IngestionHistory

/-! ## The books -/

/-- What is merged, forwarded and in the sink goes together, `waiting` failures being merged and not
forwarded. Without a sink nothing is forwarded. -/
def SinkBooks (sink : Option FailureSink) (failures forwarded waiting drained : Nat) : Prop :=
  match sink with
  | some s =>
    failures = forwarded + waiting ∧ forwarded = s.items.length + drained ∧
      (0 < s.maxSize → (s.items.length : Int) ≤ s.maxSize)
  | none => forwarded = 0 ∧ waiting = 0

/-- The books are in order while `unsettled` items were taken and are not done with, and `waiting`
failures were merged and are not forwarded. -/
structure Books (sinkSize : Option Int) (enqueued : List InboundItem) (unsettled waiting : Nat)
    (r : IngestionHistory) : Prop where
  /-- The items enqueued are those taken and those in the queue, in their order. -/
  order : enqueued = r.taken ++ r.ingestion.inbound
  /-- What is in the queue is unfinished, and so is what was taken and is not done with. -/
  unfinished : r.ingestion.unfinished = r.ingestion.inbound.length + unsettled
  /-- The count of merged outcomes is right. -/
  merged : r.ingestion.merged = r.merged.length
  /-- What was merged of failures is forwarded, or it waits. -/
  sink : SinkBooks r.ingestion.sink r.failures r.ingestion.forwarded waiting r.drained.length
  /-- The sink keeps its size, and does not come or go. -/
  sinkSize : r.ingestion.sink.map FailureSink.maxSize = sinkSize
  /-- The sampler is quiet, and it was started if the loop has begun. -/
  sampling : r.ingestion.sampling.Quiet r.ingestion.ledger (r.ingestion.loop ≠ .idle)

namespace Books

variable {sinkSize : Option Int} {enqueued : List InboundItem} {unsettled waiting : Nat}
  {r : IngestionHistory}

theorem put (h : r.Books sinkSize enqueued unsettled waiting) (item : InboundItem) :
    Books sinkSize (enqueued ++ [item]) unsettled waiting
      { r with ingestion := r.ingestion.put item } := by
  refine ⟨?_, ?_, h.merged, h.sink, h.sinkSize, h.sampling⟩
  · rw [Ingestion.put, ← List.append_assoc, ← h.order]
  · have hunfinished := h.unfinished
    simp only [Ingestion.put, List.length_append, List.length_singleton]
    omega

/-- The loop takes the next item. -/
theorem takeItem (h : r.Books sinkSize enqueued unsettled waiting) {item : InboundItem}
    {rest : List InboundItem} (hinbound : r.ingestion.inbound = item :: rest) :
    Books sinkSize enqueued (unsettled + 1) waiting
      { r with
        ingestion := { r.ingestion with inbound := rest }
        taken := r.taken ++ [item] } := by
  refine ⟨?_, ?_, h.merged, h.sink, h.sinkSize, h.sampling⟩
  · rw [h.order, hinbound, List.append_assoc]
    rfl
  · have hunfinished := h.unfinished
    rw [hinbound, List.length_cons] at hunfinished
    dsimp only
    omega

/-- A merge that fails leaves another ledger and nothing else. -/
theorem withLedger (h : r.Books sinkSize enqueued unsettled waiting) (ledger : Ledger) :
    Books sinkSize enqueued unsettled waiting
      { r with ingestion := r.ingestion.withLedger ledger } :=
  ⟨h.order, h.unfinished, h.merged, h.sink, h.sinkSize,
    ⟨rfl, h.sampling.thread, h.sampling.started, h.sampling.ahead⟩⟩

/-- A merge that succeeds counts, and a failure waits from now on if there is a sink. -/
theorem counted (h : r.Books sinkSize enqueued unsettled waiting) (ledger : Ledger) (o : Outcome) :
    Books sinkSize enqueued unsettled
      (waiting + (o.isFailure && r.ingestion.sink.isSome).toNat)
      { r with
        ingestion := r.ingestion.counted ledger
        merged := r.merged ++ [o] } := by
  refine ⟨h.order, h.unfinished, ?_, ?_, h.sinkSize,
    ⟨rfl, h.sampling.thread, h.sampling.started, h.sampling.ahead⟩⟩
  · rw [List.length_append, ← h.merged]
    rfl
  -- a success leaves the books of the sink alone, and a failure counts among those that wait
  · have hsink := h.sink
    change SinkBooks r.ingestion.sink _ r.ingestion.forwarded _ _
    cases hpresent : r.ingestion.sink with
    | none =>
      rw [hpresent] at hsink
      rw [Option.isSome_none, Bool.and_false]
      exact hsink
    | some sink =>
      rw [hpresent] at hsink
      obtain ⟨hfailures, hforwarded, hbound⟩ := hsink
      refine ⟨?_, hforwarded, hbound⟩
      rw [failures, List.filter_append, List.length_append, ← failures, hfailures, Nat.add_assoc,
        Option.isSome_some, Bool.and_true]
      cases hfailure : o.isFailure with
      | true => rw [List.filter_cons_of_pos hfailure]; rfl
      | false => rw [List.filter_cons_of_neg (Bool.eq_false_iff.mp hfailure)]; rfl

/-- Merging an outcome, whatever comes of it: a failure waits from now on if it is to be
forwarded. -/
theorem mergeOutcome [Depths] (h : r.Books sinkSize enqueued unsettled waiting) {o : Outcome}
    {result : Except Fault Bool} {next : Ingestion}
    (hnext : r.ingestion.mergeOutcome o = (result, next)) :
    Books sinkSize enqueued unsettled (waiting + (result.toOption.getD false).toNat)
        { r with
          ingestion := next
          merged := r.merged ++ (r.ingestion.ledger.accepted? (.inl o)).toList } ∧
      next.loop = r.ingestion.loop := by
  rcases r.ingestion.mergeOutcome_cases o with ⟨cause, ledger, hmerge, hresult⟩ |
    ⟨ledger, hmerge, hforward, hresult⟩ | ⟨ledger, answer, hmerge, hkept, hneither, hresult⟩
  · cases hnext.symm.trans hresult
    -- a merge that fails is not among the merged outcomes, though it may have left a trace
    rw [Ledger.accepted?_of_error hmerge, Option.toList_none, List.append_nil]
    exact ⟨h.withLedger ledger, rfl⟩
  · cases hnext.symm.trans hresult
    -- the outcome is merged and is to be forwarded
    have hcounted := h.counted ledger o
    rw [hforward] at hcounted
    rw [Ledger.accepted?_of_ok hmerge]
    exact ⟨hcounted, rfl⟩
  · cases hnext.symm.trans hresult
    have hcounted := h.counted ledger o
    rw [hkept] at hcounted
    rw [Ledger.accepted?_of_ok hmerge]
    refine ⟨?_, rfl⟩
    cases result with
    | error cause => exact hcounted
    | ok forwarded =>
      obtain rfl : forwarded = false :=
        Bool.eq_false_iff.mpr fun hforward => hneither (congrArg Except.ok hforward)
      exact hcounted

/-- A failure that waits is forwarded. -/
theorem forward (h : r.Books sinkSize enqueued unsettled (waiting + 1)) {o : Outcome}
    {next : Ingestion} (hnext : r.ingestion.forward? o = some next) :
    Books sinkSize enqueued unsettled waiting { r with ingestion := next } := by
  obtain ⟨sink, hpresent, hroom, rfl⟩ := Ingestion.forward?_cases hnext
  have hsink := h.sink
  have hsize := h.sinkSize
  rw [hpresent] at hsink hsize
  obtain ⟨hfailures, hforwarded, -⟩ := hsink
  refine ⟨h.order, h.unfinished, h.merged, ⟨?_, ?_, ?_⟩, hsize, h.sampling⟩
  · change r.failures = _
    dsimp only
    omega
  · simp only [List.length_append, List.length_singleton]
    omega
  · intro hpositive
    simp only [FailureSink.hasRoom, Bool.or_eq_true, decide_eq_true_eq] at hroom
    simp only [List.length_append, List.length_singleton] at hpositive ⊢
    omega

/-- The consumer takes the oldest outcome of the sink. -/
theorem take (h : r.Books sinkSize enqueued unsettled waiting) {o : Outcome} {next : Ingestion}
    (hnext : r.ingestion.take? = some (o, next)) :
    Books sinkSize enqueued unsettled waiting
      { r with ingestion := next, drained := r.drained ++ [o] } := by
  obtain ⟨sink, items, hpresent, hitems, rfl⟩ := Ingestion.take?_cases hnext
  have hsink := h.sink
  have hsize := h.sinkSize
  rw [hpresent] at hsink hsize
  obtain ⟨hfailures, hforwarded, hbound⟩ := hsink
  rw [hitems, List.length_cons] at hforwarded hbound
  refine ⟨h.order, h.unfinished, h.merged, ⟨hfailures, ?_, ?_⟩, hsize, h.sampling⟩
  · simp only [List.length_append, List.length_singleton]
    omega
  · intro hpositive
    have hlonger := hbound hpositive
    dsimp only
    omega

/-- The loop goes on somewhere else. -/
theorem setLoop (h : r.Books sinkSize enqueued unsettled waiting)
    (hbegun : r.ingestion.loop ≠ .idle) (loop : IngestionLoop) :
    Books sinkSize enqueued unsettled waiting
      { r with ingestion := { r.ingestion with loop } } :=
  ⟨h.order, h.unfinished, h.merged, h.sink, h.sinkSize,
    ⟨h.sampling.ledger, h.sampling.thread, fun _ => h.sampling.started hbegun, h.sampling.ahead⟩⟩

/-- The item that was taken last is done with. -/
theorem taskDone (h : r.Books sinkSize enqueued (unsettled + 1) waiting) :
    Books sinkSize enqueued unsettled waiting { r with ingestion := r.ingestion.taskDone } := by
  refine ⟨h.order, ?_, h.merged, h.sink, h.sinkSize, h.sampling⟩
  have hunfinished := h.unfinished
  simp only [Ingestion.taskDone]
  omega

/-- The loop ends with the item that was taken last, and stops the sampler. -/
theorem endLoop [Scheduler] (h : r.Books sinkSize enqueued (unsettled + 1) waiting)
    (hbegun : r.ingestion.loop ≠ .idle) (cause : Option Fault) :
    Books sinkSize enqueued unsettled waiting
      { r with ingestion := r.ingestion.endLoop cause } := by
  have hdone := h.taskDone
  have hstopped := h.sampling.stop .null
  refine ⟨hdone.order, hdone.unfinished, hdone.merged, hdone.sink, hdone.sinkSize, ?_⟩
  exact ⟨rfl, hstopped.thread, fun _ => hstopped.started hbegun, hstopped.ahead⟩

end Books

/-! ## Calls keep the books -/

/-- Between two calls, what is under way is what the loop has in hand. -/
def Booked (sinkSize : Option Int) (enqueued : List InboundItem) (r : IngestionHistory) : Prop :=
  r.Books sinkSize enqueued r.ingestion.inHand.toList.length r.ingestion.inHand.toList.length

variable {sinkSize : Option Int} {enqueued : List InboundItem} {r : IngestionHistory}

theorem Books.booked (h : r.Books sinkSize enqueued 0 0) (hhand : r.ingestion.inHand = none) :
    r.Booked sinkSize enqueued := by
  rw [Booked, hhand]
  exact h

theorem Booked.books (h : r.Booked sinkSize enqueued) (hhand : r.ingestion.inHand = none) :
    r.Books sinkSize enqueued 0 0 := by
  rw [Booked, hhand] at h
  exact h

/-- The loop deals with an item that it has taken and has nothing else in hand. -/
theorem Books.process [Depths] [Scheduler] (h : r.Books sinkSize enqueued 1 0)
    (hloop : r.ingestion.loop = .fetching) (item : InboundItem) :
    Booked sinkSize enqueued
      { r with
        ingestion := r.ingestion.process item
        merged := r.merged ++ (item.value?.bind r.ingestion.ledger.accepted?).toList } := by
  have hbegun : r.ingestion.loop ≠ .idle := by
    rw [hloop]
    exact IngestionLoop.noConfusion
  cases item with
  | finish =>
    rw [InboundItem.value?, Option.bind_none, Option.toList_none, List.append_nil]
    -- at the end mark, and at what is no outcome, the loop ends with nothing in hand
    exact (h.endLoop hbegun none).booked rfl
  | other v =>
    rw [InboundItem.value?, Option.bind_some, Ledger.accepted?, Option.toList_none, List.append_nil]
    exact (h.endLoop hbegun _).booked rfl
  | outcome o =>
    rw [InboundItem.value?, Option.bind_some, Ingestion.process]
    cases hmerged : r.ingestion.mergeOutcome o with
    | mk result next =>
      obtain ⟨hbooks, hsame⟩ := h.mergeOutcome hmerged
      have hgoes : next.loop = .fetching := hsame.trans hloop
      rw [← hsame] at hbegun
      cases result with
      | error cause => exact (hbooks.endLoop hbegun _).booked rfl
      | ok forwarded =>
        cases forwarded with
        -- the failure is in hand now, so the item is not done with yet
        | true => exact hbooks.setLoop hbegun (.forwarding o)
        | false =>
          refine hbooks.taskDone.booked ?_
          rw [Ingestion.inHand, Ingestion.taskDone, hgoes]

namespace Booked

variable [Depths] [Scheduler]

/-- The loop begins at most once, and has nothing in hand before. -/
theorem run (h : r.Booked sinkSize enqueued) : Booked sinkSize enqueued (r.perform .run) := by
  have hsampling := h.sampling
  rw [perform, Ingestion.enter]
  split
  · rename_i sampling hstart
    -- the sampler was started before: nobody else enters the loop
    have herror := hsampling.start_error (congrArg Prod.fst hstart)
    rw [hstart] at herror
    exact ⟨h.order, h.unfinished, h.merged, h.sink, h.sinkSize,
      ⟨rfl, herror.thread, herror.started, herror.ahead⟩⟩
  · rename_i sampling hstart
    obtain ⟨hidle, hok⟩ := hsampling.start_ok (congrArg Prod.fst hstart)
    rw [hstart] at hok
    have hloop : r.ingestion.loop = .idle := Classical.not_not.mp hidle
    have hbooks := h.books (by rw [Ingestion.inHand, hloop])
    refine Books.booked ?_ rfl
    exact ⟨hbooks.order, hbooks.unfinished, hbooks.merged, hbooks.sink, hbooks.sinkSize,
      ⟨rfl, hok.thread, fun _ => hok.started trivial, hok.ahead⟩⟩

/-- A loop that begins has nothing in hand yet, and an earlier one stays as it is. -/
theorem start (h : r.Booked sinkSize enqueued) : Booked sinkSize enqueued (r.perform .start) := by
  rw [perform, Ingestion.launch]
  split
  · exact h
  · have hmade : Booked sinkSize enqueued
        { r with ingestion := { r.ingestion with threadMade := true } } :=
      ⟨h.order, h.unfinished, h.merged, h.sink, h.sinkSize, h.sampling⟩
    exact hmade.run

/-- **A step of the loop.** It takes an item and deals with it, or forwards the failure in hand, and
either way the books agree again at its end. -/
theorem step (h : r.Booked sinkSize enqueued) : Booked sinkSize enqueued (r.perform .step) := by
  rw [perform]
  split
  · rename_i next hnext
    rcases Ingestion.step?_cases hnext with ⟨item, rest, hloop, hinbound, rfl⟩ |
      ⟨o, -, hloop, -, -⟩
    -- the loop takes an item, with nothing in hand
    · have hhand : r.ingestion.inHand = none := by
        rw [Ingestion.inHand, hloop]
      have hnextItem : r.ingestion.nextItem? = some item := by
        rw [Ingestion.nextItem?, hloop, hinbound]
        rfl
      rw [Ingestion.nextValue?, hnextItem]
      exact ((h.books hhand).takeItem hinbound).process hloop item
    -- the loop has a failure in hand and puts it into the sink
    · have hhand : r.ingestion.inHand = some o := by
        rw [Ingestion.inHand, hloop]
      have hnextItem : r.ingestion.nextItem? = none := by
        rw [Ingestion.nextItem?, hloop]
      rw [Ingestion.step?, hloop] at hnext
      obtain ⟨forwarded, hforward, rfl⟩ := Option.map_eq_some_iff.mp hnext
      have hbegun : forwarded.loop ≠ .idle := by
        obtain ⟨sink, -, -, rfl⟩ := Ingestion.forward?_cases hforward
        dsimp only
        rw [hloop]
        exact IngestionLoop.noConfusion
      rw [Booked, hhand] at h
      simp only [Ingestion.nextValue?, hnextItem, Option.bind_none, Option.toList_none,
        List.append_nil]
      exact ((h.forward hforward).taskDone.setLoop hbegun .fetching).booked rfl
  · exact h

omit [Scheduler] in
/-- An outcome that is handled outside the loop is forwarded at once if it is to be. -/
theorem handleOutcome (h : r.Booked sinkSize enqueued) {o : Outcome} {result : Except Fault Unit}
    {next : Ingestion} (hhandled : r.ingestion.handle o = (result, next))
    (hgoes : result ≠ .error .wouldBlock) :
    Booked sinkSize enqueued
      { r with
        ingestion := next
        merged := r.merged ++ (r.ingestion.ledger.accepted? (.inl o)).toList } := by
  rw [Ingestion.handle] at hhandled
  cases hmerged : r.ingestion.mergeOutcome o with
  | mk answer merged =>
    obtain ⟨hbooks, hsame⟩ := Books.mergeOutcome h hmerged
    have hhand : merged.inHand = r.ingestion.inHand := by
      rw [Ingestion.inHand, Ingestion.inHand, hsame]
    rw [hmerged] at hhandled
    cases answer with
    | error cause =>
      cases hhandled
      rw [Booked, hhand]
      exact hbooks
    | ok forwarded =>
      cases forwarded with
      | false =>
        cases hhandled
        rw [Booked, hhand]
        exact hbooks
      | true =>
        dsimp only at hhandled
        split at hhandled
        · rename_i hroom
          cases hhandled
          have hkept : next.inHand = merged.inHand := by
            obtain ⟨sink, -, -, rfl⟩ := Ingestion.forward?_cases hroom
            rfl
          rw [Booked, hkept, hhand]
          exact hbooks.forward hroom
        · cases hhandled
          -- a full sink would block the caller, and such a call does not take place
          exact absurd rfl hgoes

/-- What is handled on the side is forwarded at once or not at all. -/
theorem handle (h : r.Booked sinkSize enqueued) (v : Outcome ⊕ Value) :
    Booked sinkSize enqueued (r.perform (.handle v)) := by
  cases hhandled : r.ingestion.handleAny v with
  | mk result next =>
    rcases perform_handle hhandled with hskipped | ⟨hgoes, hperformed⟩
    · rw [hskipped]
      exact h
    · rw [hperformed]
      cases v with
      | inl o => exact h.handleOutcome hhandled hgoes
      | inr v =>
        cases hhandled
        rw [Ledger.accepted?, Option.toList_none, List.append_nil]
        exact h

/-- The consumer takes from a sink what was forwarded. -/
theorem take (h : r.Booked sinkSize enqueued) : Booked sinkSize enqueued (r.perform .take) := by
  rw [perform]
  split
  · rename_i o next hnext
    have hhand : next.inHand = r.ingestion.inHand := by
      obtain ⟨sink, items, -, -, rfl⟩ := Ingestion.take?_cases hnext
      rfl
    rw [Booked, hhand]
    exact Books.take h hnext
  · exact h

/-- **Every call keeps the books.** The invariant is `IngestionHistory.Booked`, with what was put so
far. -/
theorem perform (h : r.Booked sinkSize enqueued) (call : IngestionCall) :
    Booked sinkSize (enqueued ++ call.enqueued?.toList) (r.perform call) := by
  cases call with
  | put item => exact Books.put h item
  | close => exact Books.put h .finish
  | start => simpa only [IngestionCall.enqueued?, Option.toList_none, List.append_nil] using h.start
  | run => simpa only [IngestionCall.enqueued?, Option.toList_none, List.append_nil] using h.run
  | step => simpa only [IngestionCall.enqueued?, Option.toList_none, List.append_nil] using h.step
  | handle v =>
    simpa only [IngestionCall.enqueued?, Option.toList_none, List.append_nil] using h.handle v
  | take => simpa only [IngestionCall.enqueued?, Option.toList_none, List.append_nil] using h.take

/-- So do calls in turn, by induction. -/
theorem performAll (h : r.Booked sinkSize enqueued) (calls : List IngestionCall) :
    Booked sinkSize (enqueued ++ calls.filterMap IngestionCall.enqueued?) (r.performAll calls) := by
  induction calls generalizing enqueued r with
  | nil =>
    rw [List.filterMap_nil, List.append_nil]
    exact h
  | cons call calls ih =>
    rw [List.filterMap_eq_flatMap_toList, List.flatMap_cons, ← List.filterMap_eq_flatMap_toList,
      ← List.append_assoc]
    exact ih (h.perform call)

end Booked

/-- Ingestion that has not begun has empty books. -/
theorem booked_make {interval : Value} {sinkSize : Option Int} {time : Float} {i : Ingestion}
    (hmake : Ingestion.make interval sinkSize time = .ok i) :
    Booked sinkSize [] ⟨i, [], [], []⟩ := by
  obtain ⟨sampler, hsampler, rfl⟩ := Ingestion.make_ok hmake
  obtain ⟨hjobs, hthread⟩ := Sampler.make_ok hsampler
  refine Books.booked ?_ rfl
  refine ⟨rfl, rfl, rfl, ?_, ?_, ⟨rfl, ?_, fun hbegun => absurd rfl hbegun, ?_⟩⟩
  · cases sinkSize with
    | none => exact ⟨rfl, rfl⟩
    | some maxSize => exact ⟨rfl, rfl, fun hpositive => Int.le_of_lt hpositive⟩
  · cases sinkSize <;> rfl
  · dsimp only
    rw [hthread]
    exact SamplerThread.noConfusion
  · dsimp only
    rw [hjobs]
    exact fun job hjob => absurd hjob List.not_mem_nil

end IngestionHistory

/-! ## What cannot be merged -/

/-- A merge that fails leaves the ledger as it was if and only if it is of no outcome: of an
outcome, a request and a failure stay counted. -/
theorem Ledger.kept_iff_of_mergeAny_error [Depths] {l ledger : Ledger} {v : Outcome ⊕ Value}
    {cause : Fault} (h : l.mergeAny v = (.error cause, ledger)) : ledger = l ↔ ∃ w, v = .inr w := by
  cases v with
  | inr w =>
    cases h
    exact iff_of_true rfl ⟨w, rfl⟩
  | inl o =>
    refine iff_of_false ?_ (by rintro ⟨_, ⟨⟩⟩)
    by_cases hmergeable : o.Mergeable
    · obtain ⟨_, _, -, -, hfootprint⟩ := Outcome.footprint_of_mergeable hmergeable
      rw [mergeAny, merge_eq_leave, hfootprint] at h
      cases h
    · obtain ⟨_, serverError, -, hbroken⟩ := merge_of_not_mergeable hmergeable l
      cases h.symm.trans hbroken
      exact count_remainder_ne l serverError

namespace Ingestion

variable {i : Ingestion} {v : Outcome ⊕ Value} {cause : Fault} {ledger : Ledger}

/-- A merge that fails outside the loop is reported, and leaves another ledger at most. -/
theorem handleAny_of_merge_error [Depths] (h : i.ledger.mergeAny v = (.error cause, ledger)) :
    i.handleAny v = (.error cause, i.withLedger ledger) := by
  cases v with
  | inr w =>
    cases h
    rfl
  | inl o =>
    have hmerge : i.ledger.merge o = (.error cause, ledger) := h
    rw [handleAny, handle, mergeOutcome, hmerge]

/-- A merge that fails in the loop ends it. -/
theorem process_of_merge_error [Depths] [Scheduler] {item : InboundItem}
    (hvalue : item.value? = some v) (h : i.ledger.mergeAny v = (.error cause, ledger)) :
    i.process item = (i.withLedger ledger).endLoop (some cause) := by
  cases item with
  | finish => cases hvalue
  | other w =>
    cases hvalue
    cases h
    rfl
  | outcome o =>
    cases hvalue
    have hmerge : i.ledger.merge o = (.error cause, ledger) := h
    rw [process, mergeOutcome, hmerge]

/-- A loop that comes to a value is going to take its item. -/
theorem exists_item_of_nextValue? (h : i.nextValue? = some v) :
    ∃ item rest, i.loop = .fetching ∧ i.inbound = item :: rest ∧ item.value? = some v := by
  obtain ⟨item, hitem, hvalue⟩ := Option.bind_eq_some_iff.mp h
  rw [nextItem?] at hitem
  split at hitem
  · rename_i hloop
    obtain ⟨rest, hinbound⟩ := List.head?_eq_some_iff.mp hitem
    exact ⟨item, rest, hloop, hinbound, hvalue⟩
  · cases hitem

end Ingestion

namespace IngestionHistory

variable {sinkSize : Option Int} {enqueued : List InboundItem} {r : IngestionHistory}

section

variable [Depths] [Scheduler]

/-- **A merge that fails in the loop** ends it, and leaves another ledger at most. -/
theorem Booked.step_of_merge_error (h : r.Booked sinkSize enqueued) {v : Outcome ⊕ Value}
    {cause : Fault} {ledger : Ledger} (hnext : r.ingestion.nextValue? = some v)
    (hmerge : r.ingestion.ledger.mergeAny v = (.error cause, ledger)) :
    ∃ next, r.ingestion.step? = some next ∧ next.loop = .ended (some cause) ∧
      next.merged = r.ingestion.merged ∧ next.forwarded = r.ingestion.forwarded ∧
      next.sink = r.ingestion.sink ∧ next.ledger = ledger := by
  obtain ⟨item, rest, hloop, hinbound, hvalue⟩ := Ingestion.exists_item_of_nextValue? hnext
  have hstep : r.ingestion.step? =
      some (({ r.ingestion with inbound := rest }.withLedger ledger).endLoop (some cause)) := by
    rw [Ingestion.step?, hloop]
    dsimp only
    rw [hinbound]
    exact congrArg some (Ingestion.process_of_merge_error hvalue hmerge)
  refine ⟨_, hstep, rfl, rfl, rfl, rfl, ?_⟩
  -- the sampler that stops leaves the ledger alone
  have hbegun : r.ingestion.loop ≠ .idle := by
    rw [hloop]
    exact IngestionLoop.noConfusion
  have hquiet : SamplerSession.Quiet ledger True { r.ingestion.sampling with ledger } :=
    ⟨rfl, h.sampling.thread, fun _ => h.sampling.started hbegun, h.sampling.ahead⟩
  exact (hquiet.stop .null).ledger

/-! ## The result -/

/-- In a settled state the loop has something in hand exactly if it is held up. -/
theorem Booked.hand_of_settled (h : r.Booked sinkSize enqueued)
    (hsettled : r.ingestion.step? = none) :
    r.ingestion.inHand.toList.length = r.ingestion.isBlocked.toNat := by
  rw [Ingestion.isBlocked]
  cases hhand : r.ingestion.inHand with
  | none => rfl
  | some o =>
    -- only a loop that forwards has something in hand, and only a sink without room keeps it there
    have hloop : r.ingestion.loop = .forwarding o := by
      rw [Ingestion.inHand] at hhand
      split at hhand
      · rename_i hloop
        rw [hloop, Option.some.inj hhand]
      · cases hhand
    have hsink := h.sink
    rw [hhand] at hsink
    cases hpresent : r.ingestion.sink with
    | none =>
      rw [hpresent] at hsink
      cases hsink.2
    | some sink =>
      dsimp only
      rw [(Ingestion.step?_eq_none_of_forwarding hloop hpresent).mp hsettled]
      rfl

/-- **The books of ingestion balance** after every run of calls, whatever the outcomes are. In a
settled state

* the unfinished tasks are the items in the queue, and one more if the loop is held up;
* with a sink, the failures that were merged are those that were forwarded, and one more if the loop
  is held up, and the forwarded ones are in the sink or were taken from it;
* the loop is held up by a sink only that holds exactly what it may hold.

In every state, settled or not,

* the items that were put are those that the loop has taken and those in the queue;
* the outcomes that were merged are counted, and without a sink none is forwarded;
* a sink with a bound keeps to it;
* a value whose merge fails ends the loop, or is reported outside it, and changes nothing but the
  ledger. This stays the same if and only if the value is no outcome, and an outcome that was read
  from a record can only fail if the record has an integer in it that cannot be written. -/
theorem books_balance {interval : Value} {sinkSize : Option Int}
    {time : Float} {i : Ingestion} (hmake : Ingestion.make interval sinkSize time = .ok i)
    (calls : List IngestionCall) :
    let r := ofCalls i calls
    let blocked := r.ingestion.isBlocked.toNat
    (r.ingestion.step? = none →
      r.ingestion.unfinished = r.ingestion.inbound.length + blocked ∧
        ∀ sink, r.ingestion.sink = some sink →
          r.failures = r.ingestion.forwarded + blocked ∧
            r.ingestion.forwarded = sink.items.length + r.drained.length ∧
            (blocked = 1 → (sink.items.length : Int) = sink.maxSize)) ∧
    ((calls.filterMap IngestionCall.enqueued?).length =
        r.ingestion.inbound.length + r.taken.length ∧
      r.ingestion.merged = r.merged.length) ∧
    (r.ingestion.sink.map FailureSink.maxSize = sinkSize ∧
      (r.ingestion.sink = none → r.ingestion.forwarded = 0) ∧
      ∀ sink, r.ingestion.sink = some sink → 0 < sink.maxSize →
        (sink.items.length : Int) ≤ sink.maxSize) ∧
    ∀ v cause ledger, r.ingestion.ledger.mergeAny v = (.error cause, ledger) →
      r.ingestion.handleAny v = (.error cause, r.ingestion.withLedger ledger) ∧
        (r.ingestion.nextValue? = some v →
          ∃ next, r.ingestion.step? = some next ∧ next.loop = .ended (some cause) ∧
            next.merged = r.ingestion.merged ∧ next.forwarded = r.ingestion.forwarded ∧
            next.sink = r.ingestion.sink ∧ next.ledger = ledger) ∧
        (ledger = r.ingestion.ledger ↔ ∃ w, v = .inr w) ∧
        ∀ record o, v = .inl o → Outcome.ofRecord record = .ok o →
          ¬Value.WithinLimit record.integers := by
  intro r blocked
  have hbooked : r.Booked sinkSize (calls.filterMap IngestionCall.enqueued?) :=
    (booked_make hmake).performAll calls
  have hsink := hbooked.sink
  refine ⟨fun hsettled => ?_, ⟨?_, hbooked.merged⟩, ⟨hbooked.sinkSize, fun hnone => ?_,
    fun sink hpresent => ?_⟩, fun v cause ledger hmerge => ⟨?_, fun hnext => ?_, ?_, ?_⟩⟩
  -- in a settled state what is under way is whether the loop is held up
  · have hhand := hbooked.hand_of_settled hsettled
    refine ⟨hbooked.unfinished.trans (by rw [hhand]), fun sink hpresent => ?_⟩
    rw [hpresent, hhand] at hsink
    obtain ⟨hfailures, hforwarded, hbound⟩ := hsink
    refine ⟨hfailures, hforwarded, fun hblocked => ?_⟩
    obtain ⟨hpositive, hfull⟩ := FailureSink.hasRoom_eq_false.mp
      (Ingestion.hasRoom_of_isBlocked (Bool.toNat_eq_one.mp hblocked) hpresent)
    exact Int.le_antisymm (hbound hpositive) hfull
  · rw [hbooked.order, List.length_append, Nat.add_comm]
  · rw [hnone] at hsink
    exact hsink.1
  · rw [hpresent] at hsink
    exact hsink.2.2
  · exact Ingestion.handleAny_of_merge_error hmerge
  · exact hbooked.step_of_merge_error hnext hmerge
  · exact Ledger.kept_iff_of_mergeAny_error hmerge
  -- what is read from a record with short integers is plain, and its merge succeeds
  · rintro record o rfl hread hlimit
    have hmerged := Ledger.merge_of_plain (Outcome.plain_of_ofRecord hlimit hread)
      r.ingestion.ledger
    cases hmerge.symm.trans hmerged

end

/-- Two failures and something that is no outcome, for a loop in the background and a sink with room
for one. -/
def fullSink : List IngestionCall :=
  [.put (.outcome ⟨.get, .notFound (.text "gone")⟩),
    .put (.outcome ⟨.put, .httpError (.int 503) (.text "down")⟩), .put (.other .null), .start,
    .step, .step, .step]

open Machine

/-- The second failure holds the loop up. Once the consumer has taken the first one, the loop goes
on and ends at what is no outcome. -/
theorem balanced_fullSink :
    ∃ i, Ingestion.make (.int 60) (some 1) 0.0 = .ok i ∧
      (let r := ofCalls i fullSink
       r.ingestion.unfinished = 2 ∧ r.ingestion.forwarded = 1 ∧
        ∃ sink, r.ingestion.sink = some sink ∧ (sink.items.length : Int) = sink.maxSize) ∧
      let r := ofCalls i (fullSink ++ [.take, .step])
      r.ingestion.merged = 2 ∧
        ∃ cause next, r.ingestion.step? = some next ∧ next.loop = .ended (some cause) ∧
          next.merged = 2 ∧ next.ledger = r.ingestion.ledger := by
  -- the states are forgotten once their lists are counted, so that nothing evaluates them again
  obtain ⟨i, hmake, ⟨hsettled, hblocked, hinbound, hfailures⟩, hmerged, hnext⟩ :
      ∃ i, Ingestion.make (.int 60) (some 1) 0.0 = .ok i ∧
        (let r := ofCalls i fullSink
         r.ingestion.step?.isNone = true ∧ r.ingestion.isBlocked = true ∧
          r.ingestion.inbound.length = 1 ∧ r.failures = 2) ∧
        let r := ofCalls i (fullSink ++ [.take, .step])
        r.merged.length = 2 ∧
          r.ingestion.nextValue?.bind (fun v => v.getRight?.map Value.typeName) = some "NoneType" :=
    ⟨_, rfl, by decide +kernel, by decide +kernel⟩
  obtain ⟨hbalance, -, ⟨hsize, -, -⟩, -⟩ := books_balance hmake fullSink
  obtain ⟨-, ⟨-, hcount⟩, -, hrejected⟩ := books_balance hmake (fullSink ++ [.take, .step])
  refine ⟨i, hmake, ?_, ?_⟩
  · obtain ⟨hunfinished, hsink⟩ := hbalance (Option.isNone_iff_eq_none.mp hsettled)
    obtain ⟨sink, hpresent, -⟩ := Option.map_eq_some_iff.mp hsize
    obtain ⟨hforwarded, -, hfull⟩ := hsink sink hpresent
    rw [hblocked, Bool.toNat_true] at hunfinished hforwarded hfull
    rw [hfailures] at hforwarded
    rw [hinbound] at hunfinished
    exact ⟨hunfinished, (Nat.succ.inj hforwarded).symm, sink, hpresent, hfull rfl⟩
  · refine ⟨hcount.trans hmerged, ?_⟩
    obtain ⟨v, hvalue, htype⟩ := Option.bind_eq_some_iff.mp hnext
    obtain ⟨w, hw, -⟩ := Option.map_eq_some_iff.mp htype
    obtain rfl := Sum.getRight?_eq_some_iff.mp hw
    obtain ⟨-, hstep, -, -⟩ := hrejected (.inr w) (.notOutcome w.typeName) _ rfl
    obtain ⟨next, hgoes, hended, hsame, -, -, hledger⟩ := hstep hvalue
    exact ⟨_, next, hgoes, hended, hsame.trans (hcount.trans hmerged), hledger⟩

/-- The record of an HTTP error whose code has more digits than may be written. -/
def longCodeRecord : Value :=
  .object [("kind", .text "GET"), ("status", .text "http_error"),
    ("status_code", .int (Number.tenTo Number.digitLimit)), ("message", .text "down")]

/-- An outcome is read from this record, and its merge fails, but not without a trace: a request is
counted that is not among the merged ones. -/
theorem refused_longCode :
    ∃ i o, Ingestion.make (.int 60) (some 1) 0.0 = .ok i ∧
      Outcome.ofRecord longCodeRecord = .ok o ∧
      (i.ledger.merge o).1 = .error .unwritableInteger ∧
      let r := ofCalls i [.handle (.inl o)]
      r.ingestion.merged = 0 ∧ i.ledger.totals.requests = 0 ∧
        r.ingestion.ledger.totals.requests = 1 :=
  ⟨_, _, rfl, rfl, by decide +kernel, by decide +kernel⟩

end IngestionHistory

end LoadLedger
