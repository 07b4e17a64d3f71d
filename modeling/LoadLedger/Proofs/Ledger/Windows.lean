import LoadLedger.Machine
import LoadLedger.Proofs.Counts
import LoadLedger.Proofs.Ledger.Totals

/-!
# Windows

Each window holds what the last samples answered for its quantity, and each current rate is the mean
of its window, cut to an integer. A sample moves all seven windows and rates together
(`Ledger.sampled`), and nothing else moves any of them; so each window is the ring onto which the
counts of all closed intervals were pushed, and the ring remembers the last of them
(`RingBuffer.pushAll_items`).

`Traffic.Smooths` is the invariant: each window is the ring of the counts of the closed intervals,
and each rate is its mean. `LedgerRun.windows_hold_last_deltas` reads off the result.
-/

namespace LoadLedger

/-! ## The invariant -/

namespace Traffic

open Outcome (countsOf trafficOf)

/-- The counts of the closed intervals for a quantity, in order: what the window of this quantity
has been shown. -/
def countsPerInterval (t : Traffic) (q : Quantity) : List Nat :=
  t.closed.map fun outcomes => (countsOf outcomes).total q

/-- What the samples answer are the counts of the closed intervals, as integers. -/
theorem map_get_closed (t : Traffic) (q : Quantity) :
    (t.closed.map trafficOf).map (·.get q) =
      (t.countsPerInterval q).map (fun n : Nat => (n : Int)) := by
  rw [countsPerInterval, List.map_map, List.map_map]
  apply List.map_congr_left
  intro outcomes _
  exact PerQuantity.get_ofFn _ q

/-- The windows of a ledger are those onto which the counts of the closed intervals were pushed, and
the rates are their means. The counts are those of `countsPerInterval`. -/
structure Smooths (t : Traffic) (l : Ledger) : Prop where
  /-- Each window has got the counts of the closed intervals, one after the other. -/
  windows : ∀ q, l.windows.get q = SlidingWindow.fresh.pushAll (t.countsPerInterval q)
  /-- Each rate is the mean of what its window holds. -/
  current : ∀ q, l.current.get q = SlidingWindow.mean (l.windows.get q)

theorem smooths_start (time : Float) : Smooths none (.start time) := by
  constructor
  case windows =>
    intro q
    exact PerQuantity.get_ofFn _ q
  case current =>
    intro q
    rw [Ledger.start, PerQuantity.get_ofFn, PerQuantity.get_ofFn]
    rfl

variable [Depths]

namespace Smooths

variable {t : Traffic} {r : LedgerRun}

/-- A sample pushes the counts of the open interval, one onto each window. What it pushes is the
traffic of the interval (`Tracks.openCount`). -/
theorem close (h : t.Smooths r.ledger) (htracks : t.Tracks r) :
    Smooths (t.after .sample) (r.perform .sample).ledger := by
  rw [LedgerRun.perform, Ledger.perform, htracks.sample]
  constructor
  case windows =>
    intro q
    have hcounts : (t.after .sample).countsPerInterval q =
        t.countsPerInterval q ++ [(countsOf t.current).total q] := by
      rw [countsPerInterval, after, List.map_append]
      rfl
    rw [Ledger.sampled, PerQuantity.get_ofFn, h.windows q, htracks.openCount, hcounts,
      RingBuffer.pushAll, RingBuffer.pushAll, List.foldl_concat]
  case current =>
    intro q
    rw [Ledger.sampled, PerQuantity.get_ofFn, PerQuantity.get_ofFn]

/-- **Every call keeps the windows in step** with the intervals. Only a sample touches them. What a
sample does to all of them at once is `Ledger.sampled`. -/
theorem perform (h : t.Smooths r.ledger) (htracks : t.Tracks r) {a : LedgerAction}
    (ha : a.Plain) : Smooths (t.after a) (r.perform a).ledger := by
  cases a with
  | merge item =>
    cases item with
    | inl o =>
      rw [LedgerRun.perform, Ledger.perform, Ledger.mergeAny, Ledger.merge_of_plain (ha o rfl)]
      exact ⟨h.windows, h.current⟩
    | inr v => exact h
  | sample => exact h.close htracks
  | snapshot now => exact h
  | windowHistory => exact h
  | recentErrors limit => exact h

/-- Whole runs do, along with the other invariant (`Tracks.performAll`), which says what a sample
pushes. -/
theorem performAll (h : t.Smooths r.ledger) (htracks : t.Tracks r) {actions : List LedgerAction}
    (hplain : ∀ a ∈ actions, a.Plain) :
    Smooths (t.afterAll actions) (r.performAll actions).ledger := by
  induction actions generalizing t r with
  | nil => exact h
  | cons a actions ih =>
    have ha : a.Plain := hplain a List.mem_cons_self
    refine ih (h.perform htracks ha) (htracks.perform ha) ?_
    intro b hb
    exact hplain b (List.mem_cons_of_mem _ hb)

end Smooths

/-- In every state of a run of plain outcomes the windows are those of the closed intervals. -/
theorem smooths_run (time : Float) {actions : List LedgerAction}
    (hplain : ∀ a ∈ actions, a.Plain) :
    Smooths (ofActions actions) (LedgerRun.ofActions time actions).ledger :=
  (smooths_start time).performAll (tracks_start time) hplain

end Traffic

/-! ## Looking -/

namespace Ledger

variable {l : Ledger} {t : Traffic}

/-- A snapshot shows the rates as they are. -/
theorem current_of_snapshot {now : Float} {s : Snapshot} (h : l.snapshot now = .ok s)
    (q : Quantity) : s.current.get q = l.current.get q := by
  rw [snapshot] at h
  obtain ⟨averageRequests, -, h⟩ := bind_eq_ok.mp h
  obtain ⟨averageSuccesses, -, h⟩ := bind_eq_ok.mp h
  cases h
  exact PerQuantity.get_ofFn _ q

/-- The history of a window is the end of the counts of all closed intervals: a ring keeps the last
five of what was pushed (`RingBuffer.pushAll_items`). -/
theorem windowHistory_of_smooths (h : t.Smooths l) (q : Quantity) :
    l.windowHistory.get q = lastItems 5 (t.countsPerInterval q) := by
  rw [windowHistory, PerQuantity.get_ofFn, h.windows q, RingBuffer.pushAll_items]
  rfl

/-- As integers these are the last answers of the samples. -/
theorem windowHistory_eq_lastItems (h : t.Smooths l) (q : Quantity) :
    (l.windowHistory.get q).map (fun n : Nat => (n : Int)) =
      lastItems 5 ((t.closed.map Outcome.trafficOf).map (·.get q)) := by
  rw [t.map_get_closed q, lastItems_map, windowHistory_of_smooths h]

/-- There are as many counts in it as there were samples, and five at most. -/
theorem length_windowHistory (h : t.Smooths l) (q : Quantity) :
    (l.windowHistory.get q).length = min t.closed.length 5 := by
  rw [windowHistory_of_smooths h, length_lastItems, Traffic.countsPerInterval, List.length_map,
    Nat.min_comm]

/-- A snapshot shows the mean of the history of the window. -/
theorem current_of_smooths (h : t.Smooths l) {now : Float} {s : Snapshot}
    (hs : l.snapshot now = .ok s) (q : Quantity) :
    s.current.get q = Counts.mean (l.windowHistory.get q) := by
  rw [current_of_snapshot hs, h.current q, windowHistory, PerQuantity.get_ofFn]
  rfl

end Ledger

namespace LedgerRun

/-- **The rates are smoothed over the last five intervals.** In every run of plain outcomes each
sample succeeds, and after `k` samples, for all seven quantities:

* the window holds the last `min k 5` answers of the samples, the oldest one first;
* the rate of a snapshot is the integer below their mean, and zero before the first sample, no
  matter what was merged since the last one. A snapshot can be taken at any moment, unless the
  requests exceed what a floating-point number can stand for. -/
theorem windows_hold_last_deltas [Depths] (time : Float) (actions : List LedgerAction)
    (hplain : ∀ a ∈ actions, a.Plain) :
    let run := ofActions time actions
    let samples := actions.countP LedgerAction.isSample
    ∃ returned : List (PerQuantity Int),
      (run.deltas = returned.map .ok ∧ returned.length = samples) ∧
      (∀ q, (run.ledger.windowHistory.get q).map (fun n : Nat => (n : Int)) =
          lastItems 5 (returned.map (·.get q)) ∧
        (run.ledger.windowHistory.get q).length = min samples 5) ∧
      ∀ now,
        ((∃ s, run.ledger.snapshot now = .ok s) ↔
          elapsedSince run.ledger.startTime now ≤ 0.0 ∨
            run.ledger.totals.requests < Number.integerLimit) ∧
        ∀ s, run.ledger.snapshot now = .ok s → ∀ q,
          let held : List Int := lastItems 5 (returned.map (·.get q))
          s.current.get q = ⌊(held.sum : ℚ) / held.length⌋ ∧
            (samples = 0 → s.current.get q = 0) := by
  intro run samples
  have htracks : (Traffic.ofActions actions).Tracks run := Traffic.tracks_run time hplain
  have hsmooths : (Traffic.ofActions actions).Smooths run.ledger := Traffic.smooths_run time hplain
  -- each sample closes an interval
  have hlength : (Traffic.ofActions actions).closed.length = samples := by
    rw [Traffic.ofActions, Traffic.length_closed_afterAll]
    exact Nat.zero_add _
  have hle : run.ledger.totals.successes ≤ run.ledger.totals.requests := by
    rw [htracks.totals]
    have hbalanced := (Outcome.balanced_countsOf (Traffic.ofActions actions).all).answered
    omega
  refine ⟨(Traffic.ofActions actions).closed.map Outcome.trafficOf, ⟨?_, ?_⟩, ?_, ?_⟩
  · rw [htracks.deltas, List.map_map]
    rfl
  · rw [List.length_map, hlength]
  · intro q
    rw [← hlength]
    exact ⟨Ledger.windowHistory_eq_lastItems hsmooths q, Ledger.length_windowHistory hsmooths q⟩
  · intro now
    refine ⟨Ledger.exists_snapshot_iff hle, ?_⟩
    intro s hs q held
    -- the window is the end of what has been returned, and the rate is the mean of the window
    have hheld : (run.ledger.windowHistory.get q).map (fun n : Nat => (n : Int)) = held :=
      Ledger.windowHistory_eq_lastItems hsmooths q
    have hrate := Ledger.current_of_smooths hsmooths hs q
    constructor
    · rw [hrate, Counts.mean_eq_floor, ← hheld, List.length_map]
    · -- the mean of no counts is zero, by definition rather than by division
      intro hnone
      have hempty : run.ledger.windowHistory.get q = [] := by
        rw [← List.length_eq_zero_iff, Ledger.length_windowHistory hsmooths, hlength, hnone]
        rfl
      rw [hrate, hempty, Counts.mean_nil]
      rfl

/-- Six intervals, the third one without traffic, and a consistency check that waits for the next
sample. -/
def sixIntervals : List LedgerAction :=
  [.merge (.inl ⟨.get, .success⟩), .sample, .merge (.inl ⟨.consistency, .success⟩), .sample,
    .sample, .merge (.inl ⟨.put, .throttled (.int 429)⟩), .sample,
    .merge (.inl ⟨.get, .success⟩), .sample, .merge (.inl ⟨.get, .success⟩),
    .merge (.inl ⟨.delete, .notFound (.text "gone")⟩), .sample,
    .merge (.inl ⟨.consistency, .success⟩)]

open Machine

/-- The first interval has left the window, and the check that was merged last does not count
yet. -/
theorem windows_sixIntervals :
    (ofActions 0.0 sixIntervals).ledger.windowHistory.get .requests = [4, 0, 1, 1, 2] ∧
      ∃ s, (ofActions 0.0 sixIntervals).ledger.snapshot 1.0 = .ok s ∧
        s.current.get .requests = 1 := by
  have hplain : ∀ a ∈ sixIntervals, a.Plain := by decide +kernel
  have hlimit : (ofActions 0.0 sixIntervals).ledger.totals.requests < Number.integerLimit := by
    decide +kernel
  have hclosed : ((Traffic.ofActions sixIntervals).closed.map Outcome.trafficOf).map
      (·.get .requests) = [1, 4, 0, 1, 1, 2] := by decide +kernel
  obtain ⟨returned, ⟨hdeltas, -⟩, hheld, hsnapshot⟩ :=
    windows_hold_last_deltas 0.0 sixIntervals hplain
  have hreturned : returned = (Traffic.ofActions sixIntervals).closed.map Outcome.trafficOf := by
    have hok := hdeltas.symm.trans (Traffic.tracks_run 0.0 hplain).deltas
    rw [← Function.comp_def Except.ok, ← List.map_map] at hok
    exact List.map_injective_iff.mpr (fun _ _ => Except.ok.inj) hok
  obtain ⟨hwindow, -⟩ := hheld .requests
  obtain ⟨htaken, hrates⟩ := hsnapshot 1.0
  obtain ⟨s, hs⟩ := htaken.mpr (.inr hlimit)
  obtain ⟨hrate, -⟩ := hrates s hs .requests
  rw [hreturned, hclosed] at hwindow hrate
  refine ⟨?_, s, hs, ?_⟩
  · exact List.map_injective_iff.mpr (fun _ _ => Int.ofNat.inj) hwindow
  · rw [hrate]
    decide +kernel

end LedgerRun

end LoadLedger
