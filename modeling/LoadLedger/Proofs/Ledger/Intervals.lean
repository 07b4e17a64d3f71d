import LoadLedger.Machine
import LoadLedger.Proofs.Ledger.Runs
import Mathlib

/-!
# Intervals

What a sample answers is the traffic of its interval, neither more nor less: it is what a fresh
ledger would count for the outcomes of that interval alone. Added up, the answers and the traffic
of the open interval give the totals, so that no outcome is lost, counted twice or split.

`Ledger.lifetimeOf` is that fresh ledger's count. The argument has been made in
`Traffic.tracks_run` already, where the answers of a run are read off its traffic; here they are
compared with another ledger (`LedgerRun.deltas_eq_lifetimeOf_closed`).
-/

namespace LoadLedger

/-- What a **fresh ledger counts** for outcomes, if it is shown nothing else. It is made with
`Ledger.start` and asked for its totals. -/
def Ledger.lifetimeOf [Depths] (time : Float) (outcomes : List Outcome) : PerQuantity Int :=
  .ofFn fun q => ((Ledger.start time).mergeAll outcomes).2.totals.total q

namespace Ledger

open Outcome (countsOf trafficOf)

/-- A fresh ledger counts what the outcomes bring: all of them can be merged
(`mergeAll_of_plain`). -/
theorem lifetimeOf_of_plain [Depths] (time : Float) {outcomes : List Outcome}
    (h : ∀ o ∈ outcomes, o.Plain) : lifetimeOf time outcomes = trafficOf outcomes := by
  have hzero : (start time).totals = 0 := rfl
  rw [lifetimeOf, mergeAll_of_plain h, trafficOf]
  simp only [totals_foldl_merged, hzero, zero_add]

end Ledger

namespace Outcome

/-- The totals of intervals add up to those of all their outcomes, since `countsOf` is a sum and
every total is additive. -/
theorem sum_total_countsOf (q : Quantity) (intervals : List (List Outcome)) :
    (intervals.map fun outcomes => (countsOf outcomes).total q).sum =
      (countsOf intervals.flatten).total q := by
  induction intervals with
  | nil => rw [List.flatten_nil, countsOf_nil, Counters.total_zero]; rfl
  | cons outcomes intervals ih =>
    rw [List.map_cons, List.sum_cons, ih, List.flatten_cons, countsOf_append, Counters.total_add]

theorem sum_get_trafficOf (q : Quantity) (intervals : List (List Outcome)) :
    ((intervals.map trafficOf).map (·.get q)).sum =
      ((countsOf intervals.flatten).total q : Int) := by
  have hget : ∀ outcomes, (trafficOf outcomes).get q = ((countsOf outcomes).total q : Int) :=
    fun outcomes => PerQuantity.get_ofFn _ q
  rw [← sum_total_countsOf, Nat.cast_list_sum, List.map_map, List.map_map]
  exact congrArg List.sum (List.map_congr_left fun outcomes _ => hget outcomes)

end Outcome

namespace Traffic

/-- The outcomes of a closed interval are among those that were merged. -/
theorem plain_of_mem_closed {actions : List LedgerAction} (hplain : ∀ a ∈ actions, a.Plain)
    {outcomes : List Outcome} (hmem : outcomes ∈ (ofActions actions).closed) :
    ∀ o ∈ outcomes, o.Plain := by
  intro o ho
  have hall : o ∈ (ofActions actions).all :=
    List.mem_append_left _ (List.mem_flatten_of_mem hmem ho)
  rw [all_ofActions] at hall
  obtain ⟨a, ha, hao⟩ := List.mem_filterMap.mp hall
  exact hplain a ha o hao

end Traffic

namespace LedgerRun

/-- **Every delta is the traffic of its interval.** In every run of plain outcomes each sample
succeeds and answers, for all seven quantities, what a fresh ledger counts for the outcomes between
it and the sample before; and at every moment the answers so far and the one that the next sample
would give add up to the totals. Both are the counts of the outcomes (`Outcome.trafficOf`). -/
theorem deltas_eq_lifetimeOf_closed [Depths] (time : Float) (actions : List LedgerAction)
    (hplain : ∀ a ∈ actions, a.Plain) :
    let run := ofActions time actions
    let returned := (Traffic.ofActions actions).closed.map (Ledger.lifetimeOf time)
    run.deltas = returned.map .ok ∧
      ∀ q, ∃ next after, run.ledger.sample = (.ok next, after) ∧
        (returned.map (·.get q)).sum + next.get q = run.ledger.totals.total q := by
  intro run returned
  -- All that is said about the run is in the invariant.
  have htracks : (Traffic.ofActions actions).Tracks run := Traffic.tracks_run time hplain
  have hreturned : returned = (Traffic.ofActions actions).closed.map Outcome.trafficOf :=
    List.map_congr_left fun outcomes hmem =>
      Ledger.lifetimeOf_of_plain time (Traffic.plain_of_mem_closed hplain hmem)
  refine ⟨?_, fun q => ⟨_, _, htracks.sample, ?_⟩⟩
  · rw [htracks.deltas, hreturned, List.map_map]
    rfl
  · rw [hreturned, Outcome.sum_get_trafficOf, htracks.totals_eq_add, htracks.lastTotals,
      Counters.total_add, Outcome.trafficOf, PerQuantity.get_ofFn, Int.natCast_add]

/-- Two closed intervals and an open one, with a consistency check, something that is no outcome
and a server error among what is merged. -/
def twoIntervals : List LedgerAction :=
  [.merge (.inl ⟨.get, .success⟩), .merge (.inl ⟨.consistency, .success⟩), .sample,
    .merge (.inr (.int 3)), .merge (.inl ⟨.put, .httpError (.int 503) (.text "down")⟩), .sample,
    .merge (.inl ⟨.delete, .throttled (.int 429)⟩)]

open Machine

/-- The consistency check counts fourfold in the first interval, and the delete waits for the next
sample. -/
theorem deltas_twoIntervals :
    (ofActions 0.0 twoIntervals).deltas =
        [.ok ⟨5, 5, 1, 0, 0, 0, 1⟩, .ok ⟨1, 0, 0, 1, 0, 0, 0⟩] ∧
      ∃ next after, (ofActions 0.0 twoIntervals).ledger.sample = (.ok next, after) ∧
        6 + next.requests = (ofActions 0.0 twoIntervals).ledger.totals.requests := by
  have hplain : ∀ a ∈ twoIntervals, a.Plain := by decide +kernel
  have hreturned : (Traffic.ofActions twoIntervals).closed.map (Ledger.lifetimeOf 0.0) =
      [⟨5, 5, 1, 0, 0, 0, 1⟩, ⟨1, 0, 0, 1, 0, 0, 0⟩] := by decide +kernel
  obtain ⟨hdeltas, hsum⟩ := deltas_eq_lifetimeOf_closed 0.0 twoIntervals hplain
  obtain ⟨next, after, hsample, hrequests⟩ := hsum .requests
  rw [hreturned] at hdeltas hrequests
  exact ⟨hdeltas, next, after, hsample, hrequests⟩

end LedgerRun

end LoadLedger
