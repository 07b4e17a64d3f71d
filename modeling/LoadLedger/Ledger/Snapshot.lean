import LoadLedger.Ledger

/-!
# Snapshots

A copy of the state at a moment, with the average rates since the start. No time passes backwards:
a clock that reads less than the start counts as reading the start. Without elapsed time the
averages are zero.
-/

namespace LoadLedger

/-- A copy of the state at a moment. -/
structure Snapshot where
  requests : Int
  successes : Int
  failures : Int
  throttled : Int
  serverErrors : Int
  gets : Int
  puts : Int
  deletes : Int
  consistency : Int
  /-- The rates per interval. -/
  current : PerQuantity Int
  elapsedSeconds : Float
  averageRequests : Float
  averageSuccesses : Float
  intervals : Int

/-- The average rate per second, with one decimal place. A count is looked at only if time has
elapsed. -/
def lifetimeRate (count : Value) (elapsed : Float) : Except Fault Float :=
  if elapsed ≤ 0.0 then .ok 0.0
  else match count.amount? with
    | some (.int i) =>
      match Number.ofInt? i with
      | some x => .ok (Number.roundToTenth (x / elapsed))
      | none => .error .integerTooLarge
    | some (.float x) => .ok (Number.roundToTenth (x / elapsed))
    | none => .error (.indivisible count.typeName "float")

/-- The time from a start to the present, never negative. -/
def elapsedSince (start now : Float) : Float :=
  let elapsed := now - start
  if 0.0 > elapsed then 0.0 else elapsed

/-- The state of a test at a time. -/
def Ledger.snapshot (l : Ledger) (now : Float) : Except Fault Snapshot := do
  let elapsed := elapsedSince l.startTime now
  let averageRequests ← lifetimeRate (.int l.totals.requests) elapsed
  let averageSuccesses ← lifetimeRate (.int l.totals.successes) elapsed
  return {
    requests := l.totals.requests
    successes := l.totals.successes
    failures := l.totals.failures
    throttled := l.totals.throttled
    serverErrors := l.totals.serverErrors
    gets := l.totals.gets
    puts := l.totals.puts
    deletes := l.totals.deletes
    consistency := l.totals.consistency
    current := .ofFn fun q => l.current.get q
    elapsedSeconds := elapsed
    averageRequests
    averageSuccesses
    intervals := l.intervals }

end LoadLedger
