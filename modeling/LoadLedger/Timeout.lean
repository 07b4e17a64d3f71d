import LoadLedger.Value

/-!
# Timeouts

How long somebody waits for a thread to end: without a limit, or for a number of seconds. A time
below zero is no time at all. A time is counted in nanoseconds of 64 bits; one that has more of them
is no timeout, and a fractional one that has just one too many turns negative.
-/

namespace LoadLedger

/-- How long to wait. -/
inductive Timeout
  | unlimited
  | seconds (time : Number.Amount)

namespace Timeout

/-- The timeout that a value stands for. -/
def ofValue : Value → Except Fault Timeout
  | .null => .ok .unlimited
  | v =>
    match v.amount? with
    | some time => .ok (.seconds time)
    | none => .error (.incomparable ">" "int" v.typeName)

/-- The number of nanoseconds that 64 bits have no room for. -/
def nanosecondLimit : Float := 9223372036854775808.0

/-- The greatest number of whole seconds whose nanoseconds can be counted. -/
def secondLimit : Int := 9223372036

/-- Is there any time to wait? -/
def takesTime : Timeout → Except Fault Bool
  | .unlimited => .ok true
  | .seconds (.int i) => if secondLimit < i then .error .timeTooLong else .ok (0 < i)
  | .seconds (.float x) =>
    let nanoseconds := x * 1e9
    if x.isNaN then .error .timeNotNumber
    else if nanosecondLimit < nanoseconds then .error .timeTooLong
    else if nanoseconds == nanosecondLimit then .error .negativeWait
    else .ok (0.0 < x)

end Timeout

end LoadLedger
