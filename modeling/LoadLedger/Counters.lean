import LoadLedger.Outcome
import LoadLedger.Quantity

/-!
# Counters

The lifetime counters of a load test and what one outcome adds to them. A consistency check performs
four operations: it counts as four requests, and as four successes if it succeeds, but as one
failure if it fails.
-/

namespace LoadLedger

/-- Nine running totals. -/
@[ext]
structure Counters where
  requests : Nat
  successes : Nat
  failures : Nat
  throttled : Nat
  serverErrors : Nat
  gets : Nat
  puts : Nat
  deletes : Nat
  consistency : Nat
  deriving DecidableEq

namespace Counters

/-- Nothing counted. -/
def zero : Counters :=
  ⟨0, 0, 0, 0, 0, 0, 0, 0, 0⟩

/-- The sum of two counts. -/
def add (c d : Counters) : Counters :=
  { requests := c.requests + d.requests
    successes := c.successes + d.successes
    failures := c.failures + d.failures
    throttled := c.throttled + d.throttled
    serverErrors := c.serverErrors + d.serverErrors
    gets := c.gets + d.gets
    puts := c.puts + d.puts
    deletes := c.deletes + d.deletes
    consistency := c.consistency + d.consistency }

instance : Zero Counters := ⟨zero⟩

instance : Add Counters := ⟨add⟩

/-- The totals in the order in which they are listed. -/
def toList (c : Counters) : List Nat :=
  [c.requests, c.successes, c.failures, c.throttled, c.serverErrors, c.gets, c.puts, c.deletes,
    c.consistency]

/-- The total of a tracked quantity. -/
def total (c : Counters) : Quantity → Nat
  | .requests => c.requests
  | .successes => c.successes
  | .gets => c.gets
  | .puts => c.puts
  | .deletes => c.deletes
  | .throttled => c.throttled
  | .consistency => c.consistency

theorem add_def (c d : Counters) : c + d = c.add d := rfl

theorem add_comm (c d : Counters) : c + d = d + c := by
  simp only [add_def, add]; ext <;> simp only <;> omega

theorem add_assoc (c d e : Counters) : c + d + e = c + (d + e) := by
  simp only [add_def, add]; ext <;> simp only <;> omega

theorem add_zero (c : Counters) : c + 0 = c := rfl

theorem zero_add (c : Counters) : 0 + c = c := by
  rw [add_comm, add_zero]

@[simp] theorem total_add (c d : Counters) (q : Quantity) :
    (c + d).total q = c.total q + d.total q := by
  cases q <;> rfl

@[simp] theorem total_zero (q : Quantity) : (0 : Counters).total q = 0 := by
  cases q <;> rfl

end Counters

/-- Counts one if the condition holds. -/
def countIf (b : Bool) : Nat :=
  if b then 1 else 0

/-- The number of requests that a consistency check implies beyond the first one. -/
def impliedRequests : Nat := 3

namespace Outcome

/-- What an outcome counts for by its arrival: one request, and what its status says of itself. -/
def arrivalCounts (o : Outcome) : Counters :=
  { (0 : Counters) with
    requests := 1
    successes := countIf o.wasSuccess
    failures := countIf o.wasTestFailure
    throttled := countIf o.wasThrottled }

/-- What an outcome counts for if its code is one of a server error. -/
def serverErrorCounts (serverError : Bool) : Counters :=
  { (0 : Counters) with serverErrors := countIf serverError }

/-- What an outcome counts for by its kind. -/
def kindCounts (o : Outcome) : Counters :=
  match o.kind with
  | .get => { (0 : Counters) with gets := 1 }
  | .put | .create => { (0 : Counters) with puts := 1 }
  | .delete => { (0 : Counters) with deletes := 1 }
  | .consistency =>
    { (0 : Counters) with
      consistency := 1
      requests := impliedRequests
      successes := if o.wasSuccess then impliedRequests else 0 }

end Outcome

end LoadLedger
