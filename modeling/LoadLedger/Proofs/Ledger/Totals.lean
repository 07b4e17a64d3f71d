import LoadLedger.Machine
import LoadLedger.Proofs.Faults
import LoadLedger.Proofs.Ledger.Runs
import LoadLedger.Proofs.Number.FloatRange

/-!
# Totals

What the nine totals mean: sums and counts over the merged outcomes, each quantity by a rule of its
own (`Counters.ofOutcomes`). Merging adds them up in portions that overlap; that the portions come
to the same is a matter of one outcome (`Counters.ofOutcomes_singleton`), since both sides are
additive. The same goes for the relations between the totals (`Counters.Balanced`).

A snapshot lists the totals as they are. It fails only if a rate cannot be computed, which takes
more requests than a floating-point number can stand for.

`LedgerRun.totals_eq_ofOutcomes` says this of every run of plain outcomes, in any order of the
calls.
-/

namespace LoadLedger

/-- How many requests an outcome stands for: a consistency check writes, reads, deletes and reads
again. -/
def Outcome.weight (o : Outcome) : Nat :=
  if o.kind = .consistency then 4 else 1

/-- Server errors are counted by themselves: neither the rest of the status nor the kind matters. -/
theorem Outcome.serverErrors_counts (o : Outcome) :
    o.counts.serverErrors = countIf o.isServerError := by
  have hkind : o.kindCounts.serverErrors = 0 := by
    rw [kindCounts]
    cases o.kind <;> rfl
  have hsum : o.counts.serverErrors = 0 + countIf o.isServerError + o.kindCounts.serverErrors := rfl
  rw [hsum, hkind, Nat.zero_add, Nat.add_zero]

namespace Counters

/-! ## Sums over outcomes -/

/-- The totals of outcomes, each by its own rule. Requests and successes are weighted, everything
else is a number of outcomes. -/
def ofOutcomes (outcomes : List Outcome) : Counters where
  requests := (outcomes.map Outcome.weight).sum
  successes := ((outcomes.filter (·.status.name = .success)).map Outcome.weight).sum
  failures := outcomes.countP (·.status.name ∈ [.testFailure, .httpError, .otherError])
  throttled := outcomes.countP (·.status.name = .throttled)
  serverErrors := outcomes.countP (·.isServerError)
  gets := outcomes.countP (·.kind = .get)
  puts := outcomes.countP (·.kind ∈ [.put, .create])
  deletes := outcomes.countP (·.kind = .delete)
  consistency := outcomes.countP (·.kind = .consistency)

/-- Every rule is a sum or a number of outcomes, and adds up. -/
theorem ofOutcomes_append (outcomes others : List Outcome) :
    ofOutcomes (outcomes ++ others) = ofOutcomes outcomes + ofOutcomes others := by
  rw [add_def, add, ofOutcomes]
  simp only [List.map_append, List.filter_append, List.sum_append, List.countP_append]
  rfl

/-- Every outcome is at least one request, so that only no outcomes come to nothing. -/
theorem ofOutcomes_eq_zero_iff {outcomes : List Outcome} :
    ofOutcomes outcomes = 0 ↔ outcomes = [] := by
  constructor
  · intro h
    cases outcomes with
    | nil => rfl
    | cons o outcomes =>
      have hsum : o.weight + (outcomes.map Outcome.weight).sum = 0 := congrArg requests h
      have hweight : 0 < o.weight := by
        rw [Outcome.weight]
        split <;> decide
      omega
  · rintro rfl
    rfl

/-- For one outcome, the portions in which it is counted come to the rules: a case for each kind and
each status. -/
theorem ofOutcomes_singleton (o : Outcome) : ofOutcomes [o] = o.counts := by
  ext
  case serverErrors =>
    rw [Outcome.serverErrors_counts]
    exact List.countP_singleton
  all_goals
    obtain ⟨kind, status⟩ := o
    cases kind <;> cases status <;> rfl

/-- **The totals follow the rules**: what outcomes count for is what the rules say. Both sides are
additive, so that one outcome decides (`ofOutcomes_singleton`). -/
theorem countsOf_eq_ofOutcomes (outcomes : List Outcome) :
    Outcome.countsOf outcomes = ofOutcomes outcomes := by
  induction outcomes with
  | nil => rfl
  | cons o outcomes ih =>
    rw [Outcome.countsOf_cons, ih, ← ofOutcomes_singleton, ← ofOutcomes_append]
    rfl

/-! ## Relations between the totals -/

/-- Totals that **go together**: the requests are those of the operations, the server errors are
failures, and what was answered in one way or another was requested. Each relation is additive, and
holds of the counts of one outcome (`Outcome.counts`). -/
structure Balanced (c : Counters) : Prop where
  /-- A consistency check takes four requests. -/
  requests : c.requests = c.gets + c.puts + c.deletes + 4 * c.consistency
  /-- A server error is a failure. -/
  serverErrors : c.serverErrors ≤ c.failures
  /-- Nothing is answered in two ways. -/
  answered : c.successes + c.failures + c.throttled ≤ c.requests

theorem balanced_zero : Balanced 0 :=
  ⟨rfl, Nat.le_refl _, Nat.le_refl _⟩

theorem Balanced.add {c d : Counters} (hc : c.Balanced) (hd : d.Balanced) : (c + d).Balanced := by
  obtain ⟨hc₁, hc₂, hc₃⟩ := hc
  obtain ⟨hd₁, hd₂, hd₃⟩ := hd
  rw [add_def, Counters.add]
  constructor
  case requests => dsimp only; omega
  case serverErrors => dsimp only; omega
  case answered => dsimp only; omega

end Counters

namespace Outcome

/-- Only an HTTP error is a server error. -/
theorem wasTestFailure_of_isServerError {o : Outcome} (h : o.isServerError = true) :
    o.wasTestFailure = true := by
  obtain ⟨kind, status⟩ := o
  cases status with
  | httpError => rfl
  | _ => cases h

/-- What one outcome counts for goes together, whatever its kind and its status are. -/
theorem balanced_counts (o : Outcome) : o.counts.Balanced := by
  constructor
  case serverErrors =>
    have hfailures : o.counts.failures = countIf o.wasTestFailure := by
      rw [counts, kindCounts]
      cases o.kind <;> rfl
    rw [serverErrors_counts, hfailures]
    cases h : o.isServerError with
    | false => exact Nat.zero_le _
    | true => exact Nat.le_of_eq (congrArg countIf (wasTestFailure_of_isServerError h).symm)
  case requests =>
    obtain ⟨kind, status⟩ := o
    cases kind <;> rfl
  case answered =>
    obtain ⟨kind, status⟩ := o
    cases kind <;> cases status <;> exact Nat.le_of_ble_eq_true rfl

/-- So the totals of any outcomes go together, by induction on them. -/
theorem balanced_countsOf (outcomes : List Outcome) : (countsOf outcomes).Balanced := by
  induction outcomes with
  | nil => exact Counters.balanced_zero
  | cons o outcomes ih =>
    rw [countsOf_cons]
    exact (balanced_counts o).add ih

end Outcome

/-! ## Snapshots -/

/-- A rate can be computed unless there is more to count than a floating-point number can stand
for. -/
theorem lifetimeRate_natCast (n : Nat) (elapsed : Float) :
    (∃ rate, lifetimeRate (.int n) elapsed = .ok rate) ↔
      elapsed ≤ 0.0 ∨ n < Number.integerLimit := by
  rw [lifetimeRate]
  by_cases h : elapsed ≤ 0.0
  · rw [if_pos h]
    exact iff_of_true ⟨_, rfl⟩ (.inl h)
  · have hlimit := Number.ofInt?_isSome_iff n
    rw [Int.natAbs_natCast] at hlimit
    rw [if_neg h, or_iff_right h, ← hlimit]
    simp only [Value.amount?]
    cases Number.ofInt? n with
    | none =>
      refine iff_of_false ?_ Bool.false_ne_true
      rintro ⟨rate, hrate⟩
      cases hrate
    | some x => exact iff_of_true ⟨_, rfl⟩ rfl

/-- The totals are listed as they are. -/
structure Snapshot.Lists (s : Snapshot) (c : Counters) : Prop where
  requests : s.requests = c.requests
  successes : s.successes = c.successes
  failures : s.failures = c.failures
  throttled : s.throttled = c.throttled
  serverErrors : s.serverErrors = c.serverErrors
  gets : s.gets = c.gets
  puts : s.puts = c.puts
  deletes : s.deletes = c.deletes
  consistency : s.consistency = c.consistency

namespace Ledger

variable {l : Ledger} {now : Float}

/-- A snapshot is taken as soon as both rates are known. -/
theorem snapshot_of_rates {averageRequests averageSuccesses : Float}
    (hrequests : lifetimeRate (.int l.totals.requests) (elapsedSince l.startTime now) =
      .ok averageRequests)
    (hsuccesses : lifetimeRate (.int l.totals.successes) (elapsedSince l.startTime now) =
      .ok averageSuccesses) :
    ∃ s, l.snapshot now = .ok s ∧ s.Lists l.totals ∧ s.intervals = l.intervals := by
  rw [snapshot]
  simp only [hrequests, hsuccesses]
  exact ⟨_, rfl, ⟨rfl, rfl, rfl, rfl, rfl, rfl, rfl, rfl, rfl⟩, rfl⟩

/-- Without one of the rates there is no snapshot. -/
theorem rates_of_snapshot {s : Snapshot} (h : l.snapshot now = .ok s) :
    ∃ averageRequests averageSuccesses,
      lifetimeRate (.int l.totals.requests) (elapsedSince l.startTime now) = .ok averageRequests ∧
      lifetimeRate (.int l.totals.successes) (elapsedSince l.startTime now) =
        .ok averageSuccesses := by
  rw [snapshot] at h
  obtain ⟨averageRequests, hrequests, h⟩ := bind_eq_ok.mp h
  obtain ⟨averageSuccesses, hsuccesses, -⟩ := bind_eq_ok.mp h
  exact ⟨averageRequests, averageSuccesses, hrequests, hsuccesses⟩

/-- What a snapshot shows is the state. -/
theorem snapshot_lists {s : Snapshot} (h : l.snapshot now = .ok s) :
    s.Lists l.totals ∧ s.intervals = l.intervals := by
  obtain ⟨_, _, hrequests, hsuccesses⟩ := rates_of_snapshot h
  obtain ⟨t, ht, hlists, hintervals⟩ := snapshot_of_rates hrequests hsuccesses
  rw [ht] at h
  cases h
  exact ⟨hlists, hintervals⟩

/-- A snapshot is possible as long as the requests can be converted, since there are no more
successes than requests. -/
theorem exists_snapshot_iff (hle : l.totals.successes ≤ l.totals.requests) :
    (∃ s, l.snapshot now = .ok s) ↔
      elapsedSince l.startTime now ≤ 0.0 ∨ l.totals.requests < Number.integerLimit := by
  constructor
  · rintro ⟨s, hs⟩
    obtain ⟨rate, _, hrequests, -⟩ := rates_of_snapshot hs
    exact (lifetimeRate_natCast _ _).mp ⟨rate, hrequests⟩
  · intro h
    have hsmaller := h.imp_right (Nat.lt_of_le_of_lt hle)
    obtain ⟨_, hrequests⟩ := (lifetimeRate_natCast _ _).mpr h
    obtain ⟨_, hsuccesses⟩ := (lifetimeRate_natCast _ _).mpr hsmaller
    obtain ⟨s, hs, -⟩ := snapshot_of_rates hrequests hsuccesses
    exact ⟨s, hs⟩

end Ledger

namespace LedgerRun

/-- **The totals are those of the merged outcomes.** After every run of plain outcomes, whatever
else was merged, sampled or looked at in between, the totals follow their rules, the intervals are
the samples, and the relations between the totals hold. A snapshot lists just this; it can be taken
at any moment, unless the requests exceed what a floating-point number can stand for. The totals are
`Counters.ofOutcomes` of the outcomes merged, and `Snapshot.Lists` says that a snapshot shows
them. -/
theorem totals_eq_ofOutcomes [Depths] (time : Float) (actions : List LedgerAction)
    (hplain : ∀ a ∈ actions, a.Plain) :
    let l := (ofActions time actions).ledger
    let totals := Counters.ofOutcomes (actions.filterMap LedgerAction.outcome?)
    let samples := actions.countP LedgerAction.isSample
    l.totals = totals ∧ l.intervals = samples ∧ totals.Balanced ∧
      ∀ now, ((∃ s, l.snapshot now = .ok s) ↔
          elapsedSince l.startTime now ≤ 0.0 ∨ totals.requests < Number.integerLimit) ∧
        ∀ s, l.snapshot now = .ok s → s.Lists totals ∧ s.intervals = samples := by
  intro l totals samples
  -- The invariant gives the totals, and the rules say what they are.
  have htracks : (Traffic.ofActions actions).Tracks (ofActions time actions) :=
    Traffic.tracks_run time hplain
  have htotals : l.totals = totals := by
    rw [htracks.totals, Traffic.all_ofActions, Counters.countsOf_eq_ofOutcomes]
  have hintervals : l.intervals = samples := by
    rw [htracks.intervals, Traffic.ofActions, Traffic.length_closed_afterAll]
    exact Nat.zero_add _
  have hbalanced : totals.Balanced := by
    rw [← htotals, htracks.totals]
    exact Outcome.balanced_countsOf _
  have hle : totals.successes ≤ totals.requests := by
    have := hbalanced.answered
    omega
  refine ⟨htotals, hintervals, hbalanced, fun now => ⟨?_, fun s hs => ?_⟩⟩
  · rw [← htotals] at hle ⊢
    exact Ledger.exists_snapshot_iff hle
  · rw [← htotals, ← hintervals]
    exact Ledger.snapshot_lists hs

/-- Consistency checks with both ends, a server error, something that is no outcome, a sample, and
looks in between. -/
def mixedCalls : List LedgerAction :=
  [.merge (.inl ⟨.consistency, .success⟩), .snapshot 1.0, .sample, .merge (.inr (.int 3)),
    .merge (.inl ⟨.create, .httpError (.int 503) (.text "down")⟩), .windowHistory,
    .merge (.inl ⟨.consistency, .httpError (.int 404) (.text "gone")⟩), .recentErrors (.int 2)]

open Machine

/-- A successful check counts as four requests and four successes, a failed one as four requests and
one failure. -/
theorem snapshot_mixedCalls :
    ∃ s, (ofActions 0.0 mixedCalls).ledger.snapshot 2.0 = .ok s ∧
      s.Lists ⟨9, 4, 2, 0, 1, 0, 1, 0, 2⟩ ∧ s.intervals = 1 := by
  have hplain : ∀ a ∈ mixedCalls, a.Plain := by decide +kernel
  have htotals : Counters.ofOutcomes (mixedCalls.filterMap LedgerAction.outcome?) =
      ⟨9, 4, 2, 0, 1, 0, 1, 0, 2⟩ := by decide +kernel
  have hlimit : 9 < Number.integerLimit := by decide +kernel
  obtain ⟨-, -, -, hsnapshot⟩ := totals_eq_ofOutcomes 0.0 mixedCalls hplain
  obtain ⟨htaken, hlists⟩ := hsnapshot 2.0
  rw [htotals] at htaken hlists
  obtain ⟨s, hs⟩ := htaken.mpr (.inr hlimit)
  exact ⟨s, hs, hlists s hs⟩

end LedgerRun

end LoadLedger
