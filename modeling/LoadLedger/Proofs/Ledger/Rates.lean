import LoadLedger.Machine
import LoadLedger.Proofs.Ledger.Intervals
import LoadLedger.Proofs.Ledger.Windows

/-!
# Rates that go together

The totals of any outcomes go together (`Counters.Balanced`), and all seven windows hold the same
intervals. So the sums of the windows are the totals of the outcomes in these intervals
(`Ledger.sum_windowHistory`), and every rate is such a total divided by the number of intervals
(`Ledger.current_eq_shares`). Each rate is cut to an integer by itself, and a consistency check
weighs four times what the other operations do; so what is cut off of the operations are seven
remainders. With at most five intervals these come to less than six, and the requests are at most
five above the operations (`Counters.Balanced.agree_shares`).
-/

namespace LoadLedger

/-- Rates that go together, up to what is cut off of each of them. -/
structure PerQuantity.Agree (rates : PerQuantity Int) : Prop where
  /-- The operations come to no more than the requests, -/
  operations :
    rates.gets + rates.puts + rates.deletes + 4 * rates.consistency ≤ rates.requests
  /-- and to five less at most. -/
  requests :
    rates.requests ≤ rates.gets + rates.puts + rates.deletes + 4 * rates.consistency + 5
  /-- What was answered was requested. -/
  answered : rates.successes + rates.throttled ≤ rates.requests

/-! ## Totals shared among intervals -/

namespace Counters

/-- What falls to each of `n` intervals, cut to integers. -/
def shares (c : Counters) (n : Nat) : PerQuantity Int :=
  .ofFn fun q => (c.total q / n : Nat)

variable {c : Counters}

/-- The requests of an interval are those of its operations and what is cut off of these. This is
where the four requests of a consistency check are divided as one count. -/
theorem Balanced.requests_div (h : c.Balanced) {n : Nat} (hn : 0 < n) :
    c.requests / n = c.gets / n + c.puts / n + c.deletes / n + 4 * (c.consistency / n) +
      (c.gets % n + c.puts % n + c.deletes % n + 4 * (c.consistency % n)) / n := by
  have hsplit : c.requests =
      n * (c.gets / n + c.puts / n + c.deletes / n + 4 * (c.consistency / n)) +
        (c.gets % n + c.puts % n + c.deletes % n + 4 * (c.consistency % n)) := by
    calc c.requests
        = (n * (c.gets / n) + c.gets % n) + (n * (c.puts / n) + c.puts % n) +
            (n * (c.deletes / n) + c.deletes % n) +
            4 * (n * (c.consistency / n) + c.consistency % n) := by
          simp only [Nat.div_add_mod, h.requests]
      _ = _ := by ring
  rw [hsplit, Nat.mul_add_div hn]

/-- **Shares of totals that go together agree** if there are at most five intervals. -/
theorem Balanced.agree_shares (h : c.Balanced) {n : Nat} (hn : n ≤ 5) : (c.shares n).Agree := by
  rcases Nat.eq_zero_or_pos n with rfl | hpos
  · -- without an interval all rates are zero
    constructor <;> simp only [shares, PerQuantity.ofFn, Nat.div_zero] <;> decide
  · have hrequests := h.requests_div hpos
    -- Seven remainders, each below the number of intervals.
    have hcut : (c.gets % n + c.puts % n + c.deletes % n + 4 * (c.consistency % n)) / n < 6 := by
      have hgets := Nat.mod_lt c.gets hpos
      have hputs := Nat.mod_lt c.puts hpos
      have hdeletes := Nat.mod_lt c.deletes hpos
      have hconsistency := Nat.mod_lt c.consistency hpos
      exact Nat.div_lt_of_lt_mul (by omega)
    have hanswered : c.successes / n + c.throttled / n ≤ c.requests / n := by
      have hle : c.successes + c.throttled ≤ c.requests := by
        have := h.answered
        omega
      exact Nat.div_add_div_le_add_div.trans (Nat.div_le_div_right hle)
    have hbelow : c.gets / n + c.puts / n + c.deletes / n + 4 * (c.consistency / n) ≤
        c.requests / n := hrequests ▸ Nat.le_add_right _ _
    have habove : c.requests / n ≤
        c.gets / n + c.puts / n + c.deletes / n + 4 * (c.consistency / n) + 5 :=
      hrequests ▸ Nat.add_le_add_left (Nat.le_of_lt_succ hcut) _
    constructor <;> simp only [shares, PerQuantity.ofFn, total]
    case operations => exact_mod_cast hbelow
    case requests => exact_mod_cast habove
    case answered => exact_mod_cast hanswered

end Counters

/-! ## Windows over the same intervals -/

/-- The outcomes of the intervals that the windows hold. -/
def Traffic.recent (t : Traffic) : List Outcome :=
  (lastItems 5 t.closed).flatten

namespace Ledger

open Outcome (countsOf)

variable {l : Ledger} {t : Traffic}

/-- **The windows hold the same intervals**, so that the sum of each is a total of the outcomes in
these intervals. These are the outcomes of `Traffic.recent`. -/
theorem sum_windowHistory (h : t.Smooths l) (q : Quantity) :
    (l.windowHistory.get q).sum = (countsOf t.recent).total q := by
  rw [windowHistory_of_smooths h, Traffic.countsPerInterval, lastItems_map,
    Outcome.sum_total_countsOf, Traffic.recent]

/-- **The rates are shares of one size** of the totals of one list of outcomes. They are the
`shares` of the totals by the number of intervals. -/
theorem current_eq_shares (h : t.Smooths l) {now : Float} {s : Snapshot}
    (hs : l.snapshot now = .ok s) :
    s.current = (countsOf t.recent).shares (min t.closed.length 5) := by
  apply PerQuantity.ext_get
  intro q
  rw [current_of_smooths h hs, Counts.mean, Counts.sum_eq, sum_windowHistory h,
    length_windowHistory h, Counters.shares, PerQuantity.get_ofFn]

end Ledger

namespace LedgerRun

/-- **The rates go together** up to what is cut off. In every state that a run of plain outcomes
reaches, the requests of a snapshot are those of its operations or at most five more, and its
successes and throttled operations are some of its requests. A snapshot can be taken at any moment,
unless the requests of the run exceed what a floating-point number can stand for. What is said of
the rates is `PerQuantity.Agree`, read off `Counters.Balanced`. -/
theorem rates_agree [Depths] (time : Float) (actions : List LedgerAction)
    (hplain : ∀ a ∈ actions, a.Plain) (now : Float) :
    let l := (ofActions time actions).ledger
    ((∃ s, l.snapshot now = .ok s) ↔
        elapsedSince l.startTime now ≤ 0.0 ∨ l.totals.requests < Number.integerLimit) ∧
      ∀ s, l.snapshot now = .ok s → s.current.Agree := by
  intro l
  have htracks : (Traffic.ofActions actions).Tracks (ofActions time actions) :=
    Traffic.tracks_run time hplain
  have hle : l.totals.successes ≤ l.totals.requests := by
    have hbalanced := (Outcome.balanced_countsOf (Traffic.ofActions actions).all).answered
    rw [htracks.totals]
    omega
  refine ⟨Ledger.exists_snapshot_iff hle, ?_⟩
  intro s hs
  rw [Ledger.current_eq_shares (Traffic.smooths_run time hplain) hs]
  exact (Outcome.balanced_countsOf _).agree_shares (Nat.min_le_right _ 5)

/-- Four intervals with one operation of each sort, and one without traffic. -/
def evenIntervals : List LedgerAction :=
  let interval : List LedgerAction :=
    [.merge (.inl ⟨.get, .success⟩), .merge (.inl ⟨.create, .success⟩),
      .merge (.inl ⟨.delete, .throttled (.int 429)⟩), .merge (.inl ⟨.consistency, .success⟩),
      .sample]
  interval ++ interval ++ interval ++ interval ++ [.sample]

open Machine

/-- All of the five are cut off: the rate of each operation is zero, though there are five requests
per interval. -/
theorem rates_evenIntervals :
    ∃ s, (ofActions 0.0 evenIntervals).ledger.snapshot 1.0 = .ok s ∧
      s.current = ⟨5, 4, 0, 0, 0, 0, 0⟩ ∧ s.current.Agree := by
  have hplain : ∀ a ∈ evenIntervals, a.Plain := by decide +kernel
  have hlimit : (ofActions 0.0 evenIntervals).ledger.totals.requests < Number.integerLimit := by
    decide +kernel
  have hcurrent : (ofActions 0.0 evenIntervals).ledger.current = ⟨5, 4, 0, 0, 0, 0, 0⟩ := by
    decide +kernel
  obtain ⟨htaken, hagree⟩ := rates_agree 0.0 evenIntervals hplain 1.0
  obtain ⟨s, hs⟩ := htaken.mpr (.inr hlimit)
  refine ⟨s, hs, ?_, hagree s hs⟩
  apply PerQuantity.ext_get
  intro q
  rw [Ledger.current_of_snapshot hs, hcurrent]
  cases q <;> rfl

end LedgerRun

end LoadLedger
