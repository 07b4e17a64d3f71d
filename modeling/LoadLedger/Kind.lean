/-!
# Kinds of operations and statuses

The two closed vocabularies of an outcome: what a worker did, and how it ended.
-/

namespace LoadLedger

/-- The kind of operation that a worker performed. -/
inductive Kind
  | get
  | put
  | create
  | delete
  | consistency
  deriving DecidableEq

/-- All kinds, in the order in which messages list them. -/
def Kind.all : List Kind :=
  [.get, .put, .create, .delete, .consistency]

/-- The name of a kind in records and messages. -/
def Kind.name : Kind → String
  | .get => "GET"
  | .put => "PUT"
  | .create => "CREATE"
  | .delete => "DELETE"
  | .consistency => "CONSISTENCY"

/-- The kind of a name. -/
def Kind.ofName? (name : String) : Option Kind :=
  Kind.all.find? (·.name == name)

/-- How an operation ended, without the details. -/
inductive StatusName
  | success
  | testFailure
  | throttled
  | httpError
  | otherError
  | notFound
  deriving DecidableEq

/-- All status names, in the order in which messages list them. -/
def StatusName.all : List StatusName :=
  [.success, .testFailure, .throttled, .httpError, .otherError, .notFound]

/-- The name of a status in records. -/
def StatusName.name : StatusName → String
  | .success => "success"
  | .testFailure => "test_failure"
  | .throttled => "throttled"
  | .httpError => "http_error"
  | .otherError => "other_error"
  | .notFound => "not_found"

/-- The name of a status in printed outcomes. -/
def StatusName.title : StatusName → String
  | .success => "Success"
  | .testFailure => "TestFailure"
  | .throttled => "Throttled"
  | .httpError => "HttpError"
  | .otherError => "OtherError"
  | .notFound => "NotFound"

/-- The status of a name in records. -/
def StatusName.ofName? (name : String) : Option StatusName :=
  StatusName.all.find? (·.name == name)

theorem Kind.ofName?_name (k : Kind) : Kind.ofName? k.name = some k := by
  cases k <;> decide

theorem StatusName.ofName?_name (s : StatusName) : StatusName.ofName? s.name = some s := by
  cases s <;> decide

theorem StatusName.name_injective {a b : StatusName} (h : a.name = b.name) : a = b := by
  have := congrArg StatusName.ofName? h
  simpa [StatusName.ofName?_name] using this

end LoadLedger
