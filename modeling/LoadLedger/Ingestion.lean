import LoadLedger.Outcome.Record
import LoadLedger.Sampler.Session

/-!
# Ingestion

One loop drains the inbound queue into the ledger and hands failures on to a sink. It starts the
sampler, takes one item after the other, and ends at the end mark or at the first item that cannot
be merged; whichever way it ends, the sampler is stopped. A sink without room holds the loop up
until somebody takes from it.

A sampler is started once, so that there is one loop at most.
-/

namespace LoadLedger

/-- What may stand on the inbound queue. -/
inductive InboundItem
  | outcome (o : Outcome)
  /-- The mark that no more outcomes will arrive. -/
  | finish
  /-- Something that is neither. -/
  | other (v : Value)

/-- A queue of outcomes for a consumer of failures. A maximal size of zero or less is no bound. -/
structure FailureSink where
  maxSize : Int
  items : List Outcome

/-- The maximal size that stands for a number: the number itself, or the next integer above it. What
no size can reach is no bound. -/
def FailureSink.sizeOf : Number.Amount → Int
  | .int i => i
  | .float x =>
    match Number.partsOf x with
    | .finite false mantissa exponent =>
      let whole := Number.truncate false mantissa exponent
      if Number.equalsInt x whole then whole else whole + 1
    | _ => 0

/-- Is there room for one more outcome? -/
def FailureSink.hasRoom (s : FailureSink) : Bool :=
  s.maxSize ≤ 0 || (s.items.length : Int) < s.maxSize

/-- How far the ingestion loop has come. -/
inductive IngestionLoop
  | idle
  /-- The loop waits for an item. -/
  | fetching
  /-- The loop has merged an outcome and waits for room in the sink. -/
  | forwarding (o : Outcome)
  | ended (cause : Option Fault)

/-- Is the loop alive? -/
def IngestionLoop.isAlive : IngestionLoop → Bool
  | .fetching | .forwarding _ => true
  | _ => false

/-- The state of ingestion. -/
structure Ingestion where
  sampling : SamplerSession
  inbound : List InboundItem
  /-- The number of items that were put and are not done with. -/
  unfinished : Nat
  sink : Option FailureSink
  merged : Nat
  forwarded : Nat
  loop : IngestionLoop
  /-- Was a background thread ever made for the loop? -/
  threadMade : Bool
  /-- Has a wait for the end of the thread failed? The thread is taken for ended since then, though
  it goes on. -/
  givenUp : Bool

namespace Ingestion

/-- Ingestion that has not begun, with a fresh ledger and an optional sink. -/
def make (interval : Value) (sinkSize : Option Int) (startTime : Float) :
    Except Fault Ingestion := do
  let sampling ← SamplerSession.make interval
  return {
    sampling := { sampling with ledger := .start startTime }
    inbound := []
    unfinished := 0
    sink := sinkSize.map fun maxSize => { maxSize, items := [] }
    merged := 0
    forwarded := 0
    loop := .idle
    threadMade := false
    givenUp := false }

/-- The ledger that outcomes are merged into. -/
def ledger (i : Ingestion) : Ledger :=
  i.sampling.ledger

/-- The state with another ledger. -/
def withLedger (i : Ingestion) (ledger : Ledger) : Ingestion :=
  { i with sampling := { i.sampling with ledger } }

/-- Puts an item onto the inbound queue. -/
def put (i : Ingestion) (item : InboundItem) : Ingestion :=
  { i with inbound := i.inbound ++ [item], unfinished := i.unfinished + 1 }

/-- Marks the end of the outcomes. -/
def close (i : Ingestion) : Ingestion :=
  i.put .finish

/-! ## One outcome -/

section Running

variable [Depths] [Scheduler]

/-- Merges an outcome. Answers whether it is to be forwarded to the sink. Without a sink it is
dropped, which shows it. -/
def mergeOutcome (i : Ingestion) (o : Outcome) : Except Fault Bool × Ingestion :=
  match i.ledger.merge o with
  | (.error cause, ledger) => (.error cause, i.withLedger ledger)
  | (.ok (), ledger) =>
    let i := { i.withLedger ledger with merged := i.merged + 1 }
    if o.isFailure then
      match i.sink with
      | some _ => (.ok true, i)
      | none => (o.quoted.map fun _ => false, i)
    else (.ok false, i)

/-- Puts an outcome into the sink if there is room. -/
def forward? (i : Ingestion) (o : Outcome) : Option Ingestion :=
  match i.sink with
  | some sink =>
    if sink.hasRoom then
      some { i with
        sink := some { sink with items := sink.items ++ [o] }
        forwarded := i.forwarded + 1 }
    else none
  | none => none

/-- Merges an outcome and forwards it, at once and outside the loop. -/
def handle (i : Ingestion) (o : Outcome) : Except Fault Unit × Ingestion :=
  match i.mergeOutcome o with
  | (.error cause, i) => (.error cause, i)
  | (.ok false, i) => (.ok (), i)
  | (.ok true, i) =>
    match i.forward? o with
    | some i => (.ok (), i)
    | none => (.error .wouldBlock, i)

/-- Handles something that may be no outcome. -/
def handleAny (i : Ingestion) : Outcome ⊕ Value → Except Fault Unit × Ingestion
  | .inl o => i.handle o
  | .inr v => (.error (.notOutcome v.typeName), i)

/-! ## The loop -/

/-- The item in hand is done with. -/
def taskDone (i : Ingestion) : Ingestion :=
  { i with unfinished := i.unfinished - 1 }

/-- The loop ends with the item in hand, and stops the sampler. -/
def endLoop (i : Ingestion) (cause : Option Fault) : Ingestion :=
  { i.taskDone with sampling := (i.sampling.stop .null).2, loop := .ended cause }

/-- The loop deals with an item that it has taken. -/
def process (i : Ingestion) : InboundItem → Ingestion
  | .finish => i.endLoop none
  | .other v => i.endLoop (some (.notOutcome v.typeName))
  | .outcome o =>
    match i.mergeOutcome o with
    | (.error cause, i) => i.endLoop (some cause)
    | (.ok false, i) => i.taskDone
    | (.ok true, i) => { i with loop := .forwarding o }

/-- One step of the loop, `none` if it cannot move. -/
def step? (i : Ingestion) : Option Ingestion :=
  match i.loop with
  | .fetching =>
    match i.inbound with
    | [] => none
    | item :: inbound => some ({ i with inbound }.process item)
  | .forwarding o => (i.forward? o).map fun i => { i.taskDone with loop := .fetching }
  | _ => none

/-- At most `fuel` steps of the loop. -/
def settleFor : Nat → Ingestion → Ingestion
  | 0, i => i
  | fuel + 1, i =>
    match i.step? with
    | some i => settleFor fuel i
    | none => i

/-- The loop goes on as far as it can: each item takes two steps at most. -/
def settle (i : Ingestion) : Ingestion :=
  settleFor (2 * i.inbound.length + 1) i

/-- The loop begins, with the sampler. -/
def enter (i : Ingestion) : Except Fault Unit × Ingestion :=
  match i.sampling.start with
  | (.error cause, sampling) => (.error cause, { i with sampling })
  | (.ok (), sampling) => (.ok (), { i with sampling, loop := .fetching })

/-! ## The operations -/

/-- Runs the loop to its end. -/
def run (i : Ingestion) : Except Fault Unit × Ingestion :=
  match i.enter with
  | (.error cause, i) => (.error cause, i)
  | (.ok (), i) =>
    let i := i.settle
    match i.loop with
    | .ended none => (.ok (), i)
    | .ended (some cause) => (.error cause, i)
    | _ => (.error .wouldBlock, i)

/-- Runs the loop in a background thread. A thread is made once; it dies if the loop cannot begin.
-/
def start (i : Ingestion) : Except Fault Unit × Ingestion :=
  if i.threadMade then (.error .ingestionStarted, i)
  else (.ok (), { i with threadMade := true }.enter.2.settle)

/-- Does the background thread count as alive? -/
def running (i : Ingestion) : Bool :=
  i.threadMade && !i.givenUp && i.loop.isAlive

/-- Waits for the end of the background thread, as long as the timeout says. Answers whether it has
ended, if there ever was one. A timeout that cannot be waited for makes the wait fail, and the
thread is given up. -/
def join (i : Ingestion) (timeout : Value) : Except Fault Bool × Ingestion :=
  if i.threadMade then
    match Timeout.ofValue timeout with
    | .error cause => (.error cause, i.settle)
    | .ok timeout =>
      if i.running then
        match timeout.takesTime with
        | .error cause => (.error cause, { i with givenUp := true }.settle)
        | .ok true => (.ok !i.settle.running, i.settle)
        | .ok false => (.ok false, i.settle)
      else (.ok true, i.settle)
  else (.ok true, i)

/-- Marks the end of the outcomes and waits for the end of the background thread. -/
def shutDown (i : Ingestion) (timeout : Value) : Except Fault Bool × Ingestion :=
  i.close.join timeout

/-- Takes an outcome from the sink, if there is one. -/
def take? (i : Ingestion) : Option (Outcome × Ingestion) :=
  match i.sink with
  | some sink =>
    match sink.items with
    | o :: items => some (o, { i with sink := some { sink with items } })
    | [] => none
  | none => none

/-- Takes at most `count` outcomes from the sink; the loop goes on after each. -/
def drain : Nat → Ingestion → List Outcome × Ingestion
  | 0, i => ([], i)
  | count + 1, i =>
    match i.take? with
    | none => ([], i)
    | some (o, i) =>
      let (outcomes, i) := drain count i.settle
      (o :: outcomes, i)

/-- Takes all outcomes that the sink holds or will hold without more input. -/
def drainAll (i : Ingestion) : List Outcome × Ingestion :=
  drain (i.inbound.length + (i.sink.elim 0 (·.items.length)) + 1) i

/-- Puts the outcomes of records in turn, up to the first record that is none. -/
def putRecords : List Value → Ingestion → Except Fault Unit × Ingestion
  | [], i => (.ok (), i)
  | v :: records, i =>
    match Outcome.ofRecord v with
    | .error cause => (.error cause, i)
    | .ok o => putRecords records (i.put (.outcome o))

end Running

end Ingestion

end LoadLedger
