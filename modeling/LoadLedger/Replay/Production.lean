import LoadLedger.Ingestion
import LoadLedger.OutcomeFile

/-!
# Production

The producer of a replay puts the outcomes of a file onto the inbound queue, at a rate if one is
asked for, and the end mark after them. The file is read as outcomes are needed, so that a pause
that cannot be made comes before faults of later lines. The end mark is put whatever happens, but
for a rate that makes no sense in the first place.
-/

namespace LoadLedger

/-- What the producer puts, and how it ends: with the number of outcomes, or with a fault. -/
structure Production where
  outcomes : List Outcome
  closed : Bool
  result : Except Fault Nat

namespace Production

/-- The items that are put. -/
def items (p : Production) : List InboundItem :=
  p.outcomes.map .outcome ++ if p.closed then [.finish] else []

/-- The pause after each outcome, in seconds, for a rate per second. No rate and a rate of zero make
no pause. -/
def pauseOf (rate : Value) : Except Fault Float :=
  if rate.isGiven then
    match rate.amount? with
    | some (.float x) => .ok (1.0 / x)
    | some (.int i) =>
      match Number.ofInt? i with
      | some x => .ok (1.0 / x)
      | none => .error .integerTooLarge
    | none => .error (.indivisible "float" rate.typeName)
  else .ok 0.0

/-- Makes a pause. Its length is counted in nanoseconds of 64 bits, of which one too many turns it
negative. -/
def makePause (pause : Float) : Except Fault Unit :=
  if pause != 0.0 then
    let limit := Timeout.nanosecondLimit
    let nanoseconds := pause * 1e9
    if pause.isNaN then .error .timeNotNumber
    else if nanoseconds < -limit || limit < nanoseconds then .error .timeTooLong
    else if pause < 0.0 || nanoseconds == limit then .error .negativePause
    else .ok ()
  else .ok ()

/-- The production of what is read from a file, with a pause after each outcome. -/
def ofReading (reading : OutcomeReading) (pause : Float) : Production :=
  match reading.outcomes, makePause pause with
  | first :: _, .error cause => ⟨[first], true, .error cause⟩
  | outcomes, _ =>
    { outcomes
      closed := true
      result := match reading.fault with
        | none => .ok outcomes.length
        | some cause => .error cause }

/-- The production of a file. -/
def ofFile [Depths] (tree : FileTree) (path : FileTree.Path) (rate : Value) : Production :=
  match pauseOf rate with
  | .error cause => ⟨[], false, .error cause⟩
  | .ok pause => ofReading (OutcomeFile.read tree path) pause

end Production

end LoadLedger
