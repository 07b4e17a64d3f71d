import LoadLedger.Proofs.Outcome.Plain
import Mathlib.Algebra.BigOperators.Group.List.Basic

/-!
# What merging does

`Ledger.merge` counts in three portions and keeps messages in between, and a fault may end it after
the first or the second one. How it ends, what it counts and what it keeps depends on the outcome
alone: this is the footprint of the outcome, and merging is leaving it in the ledger
(`Ledger.merge_eq_leave`).

A plain outcome is merged without a fault, and what it leaves behind is the sum of its
contributions; `Ledger.merged` is this update (`Ledger.merge_of_plain`). Merging a list of plain
outcomes then adds up their counts (`Ledger.totals_foldl_merged`).
-/

namespace LoadLedger

/-! ## Counters as a sum -/

namespace Counters

instance : AddCommMonoid Counters where
  add_assoc := Counters.add_assoc
  zero_add := Counters.zero_add
  add_zero := Counters.add_zero
  add_comm := Counters.add_comm
  nsmul := nsmulRec

@[simp] theorem requests_add (c d : Counters) : (c + d).requests = c.requests + d.requests := rfl

end Counters

namespace Outcome

/-- What an outcome counts for altogether: the three portions in which `Ledger.merge` counts it, one
after the other. -/
def counts (o : Outcome) : Counters :=
  o.arrivalCounts + serverErrorCounts o.isServerError + o.kindCounts

/-- What a list of outcomes counts for. -/
def countsOf (outcomes : List Outcome) : Counters :=
  (outcomes.map counts).sum

@[simp] theorem countsOf_nil : countsOf [] = 0 := rfl

@[simp] theorem countsOf_cons (o : Outcome) (outcomes : List Outcome) :
    countsOf (o :: outcomes) = o.counts + countsOf outcomes := by
  rw [countsOf, List.map_cons, List.sum_cons]
  rfl

@[simp] theorem countsOf_append (outcomes others : List Outcome) :
    countsOf (outcomes ++ others) = countsOf outcomes + countsOf others := by
  rw [countsOf, List.map_append, List.sum_append]
  rfl

end Outcome

/-! ## Footprints -/

/-- What a merge does to a ledger: how it ends, what it counts, and what it leaves among the HTTP
errors and among the other errors. -/
structure Footprint where
  /-- How the merge ends. -/
  result : Except Fault Unit
  /-- What it adds to the totals. -/
  counts : Counters
  /-- The line that it leaves among the HTTP errors, if any. -/
  http : Option Value
  /-- The message that it leaves among the other errors, if any. -/
  other : Option Value

namespace Outcome

/-- The footprint of an outcome that is merged as a whole. -/
def wholeFootprint (o : Outcome) (serverError : Bool) (line : Option Value) : Footprint where
  result := .ok ()
  counts := o.arrivalCounts + serverErrorCounts serverError + o.kindCounts
  http := line
  other := o.otherLine

/-- The footprint of a merge that a fault ends early. -/
def brokenFootprint (cause : Fault) (counts : Counters) : Footprint where
  result := .error cause
  counts := counts
  http := none
  other := none

/-- The footprint of an outcome. There are two places where a fault may end it: where the code is
compared, and where the line for the HTTP errors is written. -/
def footprint [Depths] (o : Outcome) : Footprint :=
  match o.wasServerError with
  | .error cause => brokenFootprint cause o.arrivalCounts
  | .ok serverError =>
    match o.httpLine with
    | .error cause => brokenFootprint cause (o.arrivalCounts + serverErrorCounts serverError)
    | .ok line => o.wholeFootprint serverError line

/-- A plain outcome is merged as a whole: its code can be compared (`wasServerError_of_plain`) and
its line can be written (`httpLine_of_plain`). -/
theorem footprint_of_plain [Depths] {o : Outcome} (h : o.Plain) :
    o.footprint = o.wholeFootprint o.isServerError (o.httpText.map Value.ofText) := by
  rw [footprint, wasServerError_of_plain h, httpLine_of_plain h]

end Outcome

namespace Ledger

/-- **Leaves a footprint** in a ledger. Windows, rates and everything that belongs to closed
intervals stay as they are. `Ledger.merge` does no more (`Ledger.merge_eq_leave`). -/
def leave (l : Ledger) (f : Footprint) : Ledger :=
  { l with
    totals := l.totals + f.counts
    httpErrors := l.httpErrors.pushAll f.http.toList
    otherErrors := l.otherErrors.pushAll f.other.toList
    openRequests := l.openRequests + f.counts.requests }

/-- **Merging is leaving the footprint of the outcome**, with the result that it says. So what is
known of footprints is known of merging, in every state of the ledger. -/
theorem merge_eq_leave [Depths] (l : Ledger) (o : Outcome) :
    l.merge o = (o.footprint.result, l.leave o.footprint) := by
  rw [merge, Outcome.footprint]
  cases o.wasServerError with
  | error cause => rfl
  | ok serverError =>
    cases o.httpLine with
    | error cause =>
      simp only [count, leave, Outcome.brokenFootprint, Counters.requests_add, add_assoc]
      rfl
    | ok line =>
      -- the messages are kept between the second portion and the third, which leaves them alone
      simp only [count, keepHttp, keepOther, leave, Outcome.wholeFootprint, Counters.requests_add,
        add_assoc]

/-! ## Plain outcomes -/

/-- The ledger **after a plain outcome**. `Ledger.merge` answers it, without a fault. -/
def merged (l : Ledger) (o : Outcome) : Ledger :=
  { l with
    totals := l.totals + o.counts
    httpErrors := l.httpErrors.pushAll (o.httpText.map Value.ofText).toList
    otherErrors := l.otherErrors.pushAll o.otherLine.toList
    openRequests := l.openRequests + o.counts.requests }

/-- **Merging a plain outcome succeeds**, and the portions in which it is counted add up to its
counts. -/
theorem merge_of_plain [Depths] {o : Outcome} (h : o.Plain) (l : Ledger) :
    l.merge o = (.ok (), l.merged o) := by
  rw [merge_eq_leave, Outcome.footprint_of_plain h]
  rfl

@[simp] theorem totals_merged (l : Ledger) (o : Outcome) :
    (l.merged o).totals = l.totals + o.counts := rfl

@[simp] theorem openRequests_merged (l : Ledger) (o : Outcome) :
    (l.merged o).openRequests = l.openRequests + o.counts.requests := rfl

/-! ## Outcomes in turn -/

/-- Merging plain outcomes in turn succeeds, and each of them finds the ledger that the ones before
have left. -/
theorem mergeAll_of_plain [Depths] {outcomes : List Outcome} (h : ∀ o ∈ outcomes, o.Plain)
    (l : Ledger) :
    l.mergeAll outcomes = (.ok (), outcomes.foldl merged l) := by
  induction outcomes generalizing l with
  | nil => rfl
  | cons o outcomes ih =>
    rw [mergeAll, merge_of_plain (h o List.mem_cons_self)]
    exact ih (fun p hp => h p (List.mem_cons_of_mem _ hp)) (l.merged o)

/-- The totals grow by what the outcomes count for, in whatever order (`Outcome.countsOf` is a
sum). -/
theorem totals_foldl_merged (outcomes : List Outcome) (l : Ledger) :
    (outcomes.foldl merged l).totals = l.totals + Outcome.countsOf outcomes := by
  induction outcomes generalizing l with
  | nil => exact (Counters.add_zero _).symm
  | cons o outcomes ih =>
    rw [List.foldl_cons, ih, totals_merged, Outcome.countsOf_cons, add_assoc]

end Ledger

end LoadLedger
