import LoadLedger.Counters
import LoadLedger.Outcome.Record
import LoadLedger.RecentLog
import LoadLedger.SlidingWindow

/-!
# The ledger of a load test

The aggregate state of a running test: lifetime counters, the most recent errors, and for each
tracked quantity a window of what the last intervals brought. Outcomes are merged one by one;
sampling closes the open interval.

The traffic of the open interval is known in two ways: requests have a counter of their own that
sampling resets, and the other quantities are the difference to the totals at the last sample.
-/

namespace LoadLedger

/-- The state of a test. -/
structure Ledger where
  startTime : Float
  totals : Counters
  httpErrors : RecentLog Value
  otherErrors : RecentLog Value
  /-- The requests since the last sample. -/
  openRequests : Nat
  /-- The totals at the last sample. -/
  lastTotals : Counters
  windows : PerQuantity SlidingWindow
  /-- The current rates. -/
  current : PerQuantity Nat
  /-- The number of samples. -/
  intervals : Nat

/-- The most recent errors, newest first. -/
structure RecentErrors where
  http : List Value
  other : List Value

namespace Ledger

/-- The ledger of a test that begins at a time. -/
def start (time : Float) : Ledger :=
  { startTime := time
    totals := 0
    httpErrors := RecentLog.fresh Value
    otherErrors := RecentLog.fresh Value
    openRequests := 0
    lastTotals := 0
    windows := .ofFn fun _ => SlidingWindow.fresh
    current := .ofFn fun _ => 0
    intervals := 0 }

/-! ## Merging outcomes -/

/-- Adds to the totals; requests add to the open interval as well. -/
def count (l : Ledger) (c : Counters) : Ledger :=
  { l with totals := l.totals + c, openRequests := l.openRequests + c.requests }

/-- Keeps a message on HTTP errors, if there is one. -/
def keepHttp (l : Ledger) (message : Option Value) : Ledger :=
  { l with httpErrors := l.httpErrors.pushAll message.toList }

/-- Keeps a message on other errors, if there is one. -/
def keepOther (l : Ledger) (message : Option Value) : Ledger :=
  { l with otherErrors := l.otherErrors.pushAll message.toList }

end Ledger

/-- The line that an outcome leaves among the HTTP errors: its code and its message. -/
def Outcome.httpLine [Depths] (o : Outcome) : Except Fault (Option Value) :=
  match o.status with
  | .httpError code message => do
    let code ← code.shownAt .recentError
    let message ← message.shownAt .recentError
    return some (.ofText (code ++ ": " ++ message))
  | _ => .ok none

/-- The message that an outcome leaves among the other errors. A failed consistency check leaves its
message there too, since the other counters do not tell it from any other failure. -/
def Outcome.otherLine (o : Outcome) : Option Value :=
  match o.status with
  | .otherError message => some message
  | _ => if o.kind = .consistency ∧ o.wasTestFailure then some o.message else none

namespace Ledger

section Merging

variable [Depths]

/-- Merges an outcome. An outcome whose details are not what they should be is found out on the way,
and what was counted before stays counted. -/
def merge (l : Ledger) (o : Outcome) : Except Fault Unit × Ledger :=
  let arrived := l.count o.arrivalCounts
  match o.wasServerError with
  | .error cause => (.error cause, arrived)
  | .ok serverError =>
    let classified := arrived.count (Outcome.serverErrorCounts serverError)
    match o.httpLine with
    | .error cause => (.error cause, classified)
    | .ok line => (.ok (), ((classified.keepHttp line).keepOther o.otherLine).count o.kindCounts)

/-- Merges something that may be no outcome. -/
def mergeAny (l : Ledger) : Outcome ⊕ Value → Except Fault Unit × Ledger
  | .inl o => l.merge o
  | .inr v => (.error (.notOutcome v.typeName), l)

/-- Merges outcomes in turn, up to the first one that fails. -/
def mergeAll (l : Ledger) : List Outcome → Except Fault Unit × Ledger
  | [] => (.ok (), l)
  | o :: outcomes =>
    match l.merge o with
    | (.ok (), next) => next.mergeAll outcomes
    | failed => failed

/-- Reads and merges records in turn, up to the first one that is no outcome or fails. -/
def mergeRecords (l : Ledger) : List Value → Except Fault Unit × Ledger
  | [] => (.ok (), l)
  | v :: records =>
    match Outcome.ofRecord v with
    | .error cause => (.error cause, l)
    | .ok o =>
      match l.merge o with
      | (.ok (), next) => next.mergeRecords records
      | failed => failed

end Merging

/-! ## Closing an interval -/

/-- The traffic of the open interval. -/
def openTraffic (l : Ledger) : PerQuantity Int :=
  .ofFn fun q =>
    match q with
    | .requests => l.openRequests
    | _ => (l.totals.total q : Int) - l.lastTotals.total q

/-- Enters the traffic of an interval for one quantity. -/
def enter (l : Ledger) (q : Quantity) (traffic : Int) : Except Fault Ledger := do
  let window ← (l.windows.get q).pushValue (.int traffic)
  return { l with
    windows := l.windows.set q window
    current := l.current.set q window.mean }

/-- Enters the traffic of an interval for quantities in turn. -/
def enterAll (traffic : PerQuantity Int) : List Quantity → Ledger → Except Fault Unit × Ledger
  | [], l => (.ok (), l)
  | q :: rest, l =>
    match l.enter q (traffic.get q) with
    | .error cause => (.error cause, l)
    | .ok next => enterAll traffic rest next

/-- Closes the open interval: enters its traffic, refreshes the rates and opens the next interval.
Answers the traffic. -/
def sample (l : Ledger) : Except Fault (PerQuantity Int) × Ledger :=
  let traffic := l.openTraffic
  match enterAll traffic Quantity.all { l with lastTotals := l.totals } with
  | (.error cause, failed) => (.error cause, failed)
  | (.ok (), entered) =>
    (.ok traffic, { entered with openRequests := 0, intervals := entered.intervals + 1 })

/-! ## Looking -/

/-- What each window holds, the oldest interval first. -/
def windowHistory (l : Ledger) : PerQuantity (List Nat) :=
  .ofFn fun q => (l.windows.get q).items

/-- The most recent errors, at most `limit` of each sort. -/
def recentErrors (l : Ledger) (limit : Int) : RecentErrors :=
  ⟨l.httpErrors.latest limit, l.otherErrors.latest limit⟩

/-- The most recent errors, as many of each sort as a given limit leaves. -/
def recentErrorsOf (l : Ledger) (limit : Value) : Except Fault RecentErrors :=
  limit.toLimit.map l.recentErrors

/-- The most recent errors, as many of each sort as are kept. -/
def allRecentErrors (l : Ledger) : RecentErrors :=
  l.recentErrors RecentLog.defaultCapacity

end Ledger

end LoadLedger
