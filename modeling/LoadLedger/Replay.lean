import LoadLedger.Replay.Production
import LoadLedger.Settings

/-!
# Replays

Three threads feed a file through ingestion: the main thread puts the outcomes, waits for the
ingestion loop to end and then asks the drainer to stop; the ingestion loop merges and forwards; the
drainer takes failures from the sink until it is asked to stop and finds the sink empty.

Each thread has a step that it takes if it can. A run takes steps in a fixed order of preference:
the drainer first, then ingestion, then the main thread.
-/

namespace LoadLedger

/-- How far the main thread has come. -/
inductive ReplayPhase
  /-- Items remain to be put. -/
  | putting (items : List InboundItem)
  /-- The thread waits for the end of the ingestion loop. -/
  | joining
  /-- The drainer is asked to stop, and the thread waits for its end. -/
  | stopping
  | done

/-- The state of a replay. -/
structure Replay where
  ingestion : Ingestion
  phase : ReplayPhase
  /-- How producing ends. -/
  produced : Except Fault Nat
  drainerAlive : Bool
  /-- What the drainer has taken. -/
  drained : List Outcome

namespace Replay

section Running

variable [Depths] [Scheduler]

/-- A replay whose ingestion thread has been started, with the plan of the producer. -/
def make (settings : Settings) (production : Production) (startTime : Float) :
    Except Fault Replay := do
  let ingestion ← Ingestion.make (.float settings.reportInterval) (some settings.failureQueueSize)
    startTime
  return {
    ingestion := ingestion.start.2
    phase := .putting production.items
    produced := production.result
    drainerAlive := true
    drained := [] }

/-- Is the drainer asked to stop? -/
def stopAsked (r : Replay) : Bool :=
  match r.phase with
  | .stopping | .done => true
  | _ => false

/-! ## Steps -/

/-- The step of the main thread. -/
def mainStep? (r : Replay) : Option Replay :=
  match r.phase with
  | .putting (item :: items) =>
    some { r with ingestion := r.ingestion.put item, phase := .putting items }
  | .putting [] =>
    match r.produced with
    | .ok _ => some { r with phase := .joining }
    | .error _ => some { r with phase := .stopping }
  | .joining => if r.ingestion.running then none else some { r with phase := .stopping }
  | .stopping => if r.drainerAlive then none else some { r with phase := .done }
  | .done => none

/-- The step of the ingestion thread. -/
def ingestionStep? (r : Replay) : Option Replay :=
  r.ingestion.step?.map fun ingestion => { r with ingestion }

/-- The step of the drainer. -/
def drainerStep? (r : Replay) : Option Replay :=
  if r.drainerAlive then
    match r.ingestion.take? with
    | some (o, ingestion) => some { r with ingestion, drained := r.drained ++ [o] }
    | none => if r.stopAsked then some { r with drainerAlive := false } else none
  else none

/-- The step of whoever comes first in the order of preference. -/
def step? (r : Replay) : Option Replay :=
  r.drainerStep? <|> r.ingestionStep? <|> r.mainStep?

/-- At most `fuel` steps. -/
def runFor : Nat → Replay → Replay
  | 0, r => r
  | fuel + 1, r =>
    match r.step? with
    | some r => runFor fuel r
    | none => r

/-- The number of items that remain to be put. -/
def remaining (r : Replay) : Nat :=
  match r.phase with
  | .putting items => items.length
  | _ => 0

/-- Runs a replay to its end. Each item is put, merged, forwarded and taken at most once. -/
def run (r : Replay) : Replay :=
  runFor (4 * (r.remaining + r.ingestion.inbound.length) + 8) r

/-- The replay of a file, run to its end. -/
def ofFile (tree : FileTree) (settings : Settings) (path : FileTree.Path)
    (rate : Value) (startTime : Float) : Except Fault Replay :=
  (make settings (Production.ofFile tree path rate) startTime).map run

end Running

/-- The ledger of a replay. -/
def ledger (r : Replay) : Ledger :=
  r.ingestion.ledger

end Replay

/-! ## Messages -/

/-- The message of the drainer on an outcome. -/
def Outcome.failureMessage [Depths] (o : Outcome) : Except Fault String := do
  let status ← o.status.quoted
  return "Failure: " ++ o.kind.name ++ " " ++ status

/-- The message of the main thread on the outcomes that it has put. -/
def queuedMessage (count : Nat) (path : FileTree.Path) : String :=
  "Queued " ++ toString count ++ " outcomes from " ++ path.toText

end LoadLedger
