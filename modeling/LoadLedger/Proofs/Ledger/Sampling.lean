import LoadLedger.Proofs.Ledger.Merging
import Mathlib.Data.List.Nodup

/-!
# What sampling does

Closing an interval pushes one count onto each of seven windows, and a window refuses a negative
count. So sampling succeeds as long as no total has fallen below its value at the last sample
(`Ledger.Grown`), and then all windows and rates move together: `Ledger.sample_of_grown`.

`Ledger.sampled` is the ledger after such a sample, and `Ledger.entered` the one in the middle of
it, when some of the quantities have been entered (`Ledger.enterAll_natCast`).
-/

namespace LoadLedger

namespace Ledger

/-- No total is below its value at the last sample. This is all that `sample` needs to succeed. -/
def Grown (l : Ledger) : Prop :=
  ∀ q, l.lastTotals.total q ≤ l.totals.total q

/-- The traffic of the open interval as counts. Requests are counted by themselves, and the others
are differences of totals. -/
def openCount (l : Ledger) : Quantity → Nat
  | .requests => l.openRequests
  | q => l.totals.total q - l.lastTotals.total q

/-- The ledger after the counts of an interval are entered for some quantities: their windows have
one count more, and their rates are the new means. -/
def entered (l : Ledger) (counts : Quantity → Nat) (qs : List Quantity) : Ledger :=
  { l with
    windows := .ofFn fun q =>
      if q ∈ qs then (l.windows.get q).push (counts q) else l.windows.get q
    current := .ofFn fun q =>
      if q ∈ qs then SlidingWindow.mean ((l.windows.get q).push (counts q)) else l.current.get q }

/-- The ledger **after a sample**: all windows and rates have moved, and the next interval is
open. -/
def sampled (l : Ledger) : Ledger :=
  { l with
    lastTotals := l.totals
    windows := .ofFn fun q => (l.windows.get q).push (l.openCount q)
    current := .ofFn fun q => SlidingWindow.mean ((l.windows.get q).push (l.openCount q))
    openRequests := 0
    intervals := l.intervals + 1 }

/-- Only requests have a counter of their own. -/
theorem openCount_of_ne (l : Ledger) {q : Quantity} (hq : q ≠ .requests) :
    l.openCount q = l.totals.total q - l.lastTotals.total q := by
  cases q with
  | requests => exact absurd rfl hq
  | _ => rfl

/-- Without a loss, the differences that a sample answers are the counts. -/
theorem openTraffic_of_grown {l : Ledger} (h : l.Grown) :
    l.openTraffic = .ofFn fun q => (l.openCount q : Int) := by
  apply PerQuantity.ext_get
  intro q
  have hq := h q
  cases q with
  | requests => rfl
  | _ => simp only [openTraffic, openCount, PerQuantity.get_ofFn]; omega

/-! ## Entering counts -/

/-- A count is never refused: a window takes everything that is not negative. -/
theorem enter_natCast (l : Ledger) (q : Quantity) (n : Nat) :
    l.enter q n = .ok { l with
      windows := l.windows.set q ((l.windows.get q).push n)
      current := l.current.set q (SlidingWindow.mean ((l.windows.get q).push n)) } := rfl

theorem entered_nil (l : Ledger) (counts : Quantity → Nat) : l.entered counts [] = l := by
  have hwindows : (PerQuantity.ofFn fun q => l.windows.get q) = l.windows :=
    PerQuantity.ext_get fun q => PerQuantity.get_ofFn _ q
  have hcurrent : (PerQuantity.ofFn fun q => l.current.get q) = l.current :=
    PerQuantity.ext_get fun q => PerQuantity.get_ofFn _ q
  simp only [entered, List.not_mem_nil, if_false, hwindows, hcurrent]

/-- Entering a count for one quantity and then for others is entering them all, since a quantity
that comes only once is not touched again. -/
theorem entered_cons {l : Ledger} {counts : Quantity → Nat} {q : Quantity} {qs : List Quantity}
    (hq : q ∉ qs) :
    Ledger.entered { l with
        windows := l.windows.set q ((l.windows.get q).push (counts q))
        current := l.current.set q (SlidingWindow.mean ((l.windows.get q).push (counts q))) }
      counts qs = l.entered counts (q :: qs) := by
  rw [entered, entered]
  congr 1
  all_goals
    apply PerQuantity.ext_get
    intro p
    rw [PerQuantity.get_ofFn, PerQuantity.get_ofFn]
    by_cases hp : p = q
    · subst hp
      rw [if_neg hq, if_pos List.mem_cons_self, PerQuantity.get_set_self]
    · simp only [List.mem_cons, hp, false_or, PerQuantity.get_set_of_ne _ _ hp]

/-- **Entering counts for distinct quantities succeeds** and treats each of them once. The order
does not show in `entered`, which looks at each quantity by itself. -/
theorem enterAll_natCast (counts : Quantity → Nat) {qs : List Quantity} (hqs : qs.Nodup)
    (l : Ledger) :
    enterAll (.ofFn fun q => (counts q : Int)) qs l = (.ok (), l.entered counts qs) := by
  induction qs generalizing l with
  | nil => rw [enterAll, entered_nil]
  | cons q qs ih =>
    obtain ⟨hq, hqs⟩ := List.nodup_cons.mp hqs
    rw [enterAll, PerQuantity.get_ofFn, enter_natCast]
    exact (ih hqs _).trans (congrArg _ (entered_cons hq))

/-! ## Closing an interval -/

/-- **Sampling succeeds**, answers the traffic of the open interval and opens the next one: of a
ledger that is `Grown` all differences are counts, and these are never refused. -/
theorem sample_of_grown {l : Ledger} (h : l.Grown) :
    l.sample = (.ok (.ofFn fun q => (l.openCount q : Int)), l.sampled) := by
  have hall : Quantity.all.Nodup := by decide
  have hmem : ∀ q, q ∈ Quantity.all := Quantity.mem_all
  rw [sample, openTraffic_of_grown h]
  simp only [enterAll_natCast _ hall, entered, hmem, if_true]
  rfl

@[simp] theorem totals_sampled (l : Ledger) : l.sampled.totals = l.totals := rfl

@[simp] theorem lastTotals_sampled (l : Ledger) : l.sampled.lastTotals = l.totals := rfl

@[simp] theorem intervals_sampled (l : Ledger) : l.sampled.intervals = l.intervals + 1 := rfl

end Ledger

end LoadLedger
