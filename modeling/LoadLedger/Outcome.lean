import LoadLedger.Value

/-!
# Outcomes

The unit of work that load-test workers produce: the kind of an operation and the one status that
applies to it. The classifications are derived from the status and overlap: an HTTP error with code
503 is a server error, an error and a test failure at once.

A status carries its details as values. Nothing forces a status code to be a number or a message to
be a text when an outcome is put together by hand; outcomes that are read from records are
`Outcome.Plain`.
-/

namespace LoadLedger

/-- How an operation ended. -/
inductive Status
  /-- The operation completed and passed its check. -/
  | success
  /-- The operation completed but its assertion failed. -/
  | testFailure (message : Value)
  /-- The server asked the client to back off. -/
  | throttled (statusCode : Value)
  /-- A response that is neither a success nor a throttle nor a missing object. -/
  | httpError (statusCode message : Value)
  /-- An error of the client or the transport, without a response. -/
  | otherError (message : Value)
  /-- The object is missing. -/
  | notFound (message : Value)

namespace Status

/-- The name of a status. -/
def name : Status → StatusName
  | .success => .success
  | .testFailure _ => .testFailure
  | .throttled _ => .throttled
  | .httpError .. => .httpError
  | .otherError _ => .otherError
  | .notFound _ => .notFound

/-- The status code, if the status has one. -/
def statusCode? : Status → Option Value
  | .throttled code => some code
  | .httpError code _ => some code
  | _ => none

/-- The message, if the status has one. -/
def message? : Status → Option Value
  | .testFailure message => some message
  | .httpError _ message => some message
  | .otherError message => some message
  | .notFound message => some message
  | _ => none

end Status

/-- The result of one completed operation. -/
structure Outcome where
  kind : Kind
  status : Status

/-- Is the value a status code of the server-error class? Only numbers can be compared. -/
def Value.isServerErrorCode (code : Value) : Except Fault Bool :=
  match code.amount? with
  | some (.int i) => .ok (500 ≤ i && i < 600)
  | some (.float x) => .ok (500.0 ≤ x && x < 600.0)
  | none => .error (.incomparable "<=" "int" code.typeName)

namespace Outcome

/-- The operation succeeded. -/
def wasSuccess (o : Outcome) : Bool :=
  o.status.name == .success

/-- The operation failed its test: by its assertion, by an HTTP error or by another error. -/
def wasTestFailure (o : Outcome) : Bool :=
  o.status.name == .testFailure || o.status.name == .httpError || o.status.name == .otherError

/-- The operation was throttled. -/
def wasThrottled (o : Outcome) : Bool :=
  o.status.name == .throttled

/-- The operation met an HTTP error of the server-error class. -/
def wasServerError (o : Outcome) : Except Fault Bool :=
  match o.status with
  | .httpError code _ => code.isServerErrorCode
  | _ => .ok false

/-- The object of the operation was missing. -/
def wasNotFound (o : Outcome) : Bool :=
  o.status.name == .notFound

/-- The operation met an error, with or without a response. -/
def wasError (o : Outcome) : Bool :=
  o.status.name == .httpError || o.status.name == .otherError

/-- Does the outcome go to the failure sink? -/
def isFailure (o : Outcome) : Bool :=
  o.wasTestFailure || o.wasNotFound

/-- The diagnostic message, empty if the status has none. -/
def message (o : Outcome) : Value :=
  o.status.message?.getD (.text "")

/-- Is a status code an integer that can be written? -/
def PlainCode (code : Value) : Prop :=
  ∃ i : Int, code = .int i ∧ i.natAbs < Number.tenTo Number.digitLimit

/-- Is a message a text? -/
def PlainMessage (message : Value) : Prop :=
  ∃ t : AnyText, message = .ofText t

/-- Is the outcome one whose details are what they are meant to be? -/
def Plain (o : Outcome) : Prop :=
  (∀ code ∈ o.status.statusCode?, PlainCode code) ∧
    ∀ message ∈ o.status.message?, PlainMessage message

end Outcome

/-! ## Equality -/

/-- Are two optional details equal? -/
def sameDetail : Option Value → Option Value → Bool
  | none, none => true
  | some v, some w => v.same w
  | _, _ => false

/-- Are two outcomes equal: in kind, in status and in details? -/
def Outcome.same (o p : Outcome) : Bool :=
  o.kind == p.kind && o.status.name == p.status.name &&
    sameDetail o.status.statusCode? p.status.statusCode? &&
    sameDetail o.status.message? p.status.message?

end LoadLedger
