import LoadLedger.Outcome.Text
import LoadLedger.Text.UpperCase

/-!
# Outcomes as records

A record is an object with a kind, a status and, depending on the status, a status code and a
message. Reading is liberal: the kind in any case and with hyphens, a second name for consistency
checks, a status code in any form that reads as an integer, a message of any type. Writing is
canonical.
-/

namespace LoadLedger

/-- The record of an outcome. -/
def Outcome.toRecord (o : Outcome) : List (String × Value) :=
  [("kind", .text o.kind.name), ("status", .text o.status.name.name)] ++
    (o.status.statusCode?.map fun v => ("status_code", v)).toList ++
    (o.status.message?.map fun v => ("message", v)).toList

/-- The record of an outcome, as a value. -/
def Outcome.toValue (o : Outcome) : Value :=
  .object o.toRecord

/-- The name of a kind in its canonical spelling: upper case, hyphens as underscores, and the short
name for consistency checks. -/
def canonicalKindName (name : String) : String :=
  let spelled := String.ofList ((Text.upper name).toList.map fun c => if c == '-' then '_' else c)
  if spelled == "CONSISTENCY_CHECK" then "CONSISTENCY" else spelled

/-- The kind of a name in any spelling. No kind has a broken name. -/
def Kind.ofText? : AnyText → Option Kind
  | .whole name => Kind.ofName? (canonicalKindName name)
  | .broken _ => none

section Reading

variable [Depths]

/-- The kind of a record. -/
def readKind (entries : List (String × Value)) : Except Fault Kind := do
  let name ← match Value.field? entries "kind" with
    | some v => v.shownAt .kind
    | none => .ok ""
  match Kind.ofText? name with
  | some kind => return kind
  | none =>
    let shown ← ((Value.field? entries "kind").getD .null).shownAt .unknownKind
    throw (.unknownKind shown)

/-- The name of the status of a record. Lists and objects are not even looked up. -/
def readStatusName (entries : List (String × Value)) : Except Fault StatusName :=
  match (Value.field? entries "status").getD .null with
  | .text s =>
    match StatusName.ofName? s with
    | some name => .ok name
    | none => .error (.unknownStatus s)
  | .list _ => .error (.unhashable "list")
  | .object _ | .brokenObject .. => .error (.unhashable "dict")
  | v => do
    let shown ← v.shownAt .unknownStatus
    throw (.unknownStatus shown)

/-- The status code that a value stands for. A value of a wrong type or form is reported as such;
a number that no integer can stand for is not. -/
def readStatusCode (v : Value) : Except Fault Int :=
  match v.toInteger with
  | .ok code => .ok code
  | .error cause =>
    match cause.family with
    | .wrongType | .badValue => do
      let quoted ← v.quotedAt .badStatusCode
      throw (.badStatusCode quoted)
    | _ => .error cause

/-- The message of a record, empty if there is none. -/
def readMessage (entries : List (String × Value)) : Except Fault AnyText :=
  match Value.field? entries "message" with
  | some v => v.shownAt .message
  | none => .ok ""

/-- The code of a throttled outcome whose record gives none. -/
def defaultThrottleCode : Int := 429

/-- The status of a record, once its name is known. -/
def readStatus (entries : List (String × Value)) : StatusName → Except Fault Status
  | .success => .ok .success
  | .testFailure => do return .testFailure (.ofText (← readMessage entries))
  | .throttled =>
    match Value.field? entries "status_code" with
    | some v => do return .throttled (.int (← readStatusCode v))
    | none => .ok (.throttled (.int defaultThrottleCode))
  | .httpError =>
    match Value.field? entries "status_code" with
    | some v => do
      let code ← readStatusCode v
      return .httpError (.int code) (.ofText (← readMessage entries))
    | none => .error .missingStatusCode
  | .otherError => do return .otherError (.ofText (← readMessage entries))
  | .notFound => do return .notFound (.ofText (← readMessage entries))

/-- Reads an outcome from a record. -/
def Outcome.ofRecord (v : Value) : Except Fault Outcome :=
  match v.fields? with
  | some entries => do
    let kind ← readKind entries
    let name ← readStatusName entries
    let status ← readStatus entries name
    return ⟨kind, status⟩
  | none => .error (.notRecord v.typeName)

end Reading

/-! ## Outcomes put together by hand -/

/-- Something that an outcome may be put together from. -/
inductive Ingredient
  | kind (k : Kind)
  | status (s : Status)
  | value (v : Value)

/-- The printed form of an ingredient. -/
def Ingredient.quoted [Depths] : Ingredient → Except Fault String
  | .kind k => .ok k.quoted
  | .status s => s.quoted
  | .value v => v.quotedAt .ingredient

/-- Puts an outcome together: the first ingredient has to be a kind, the second one a status. -/
def Outcome.make [Depths] : Ingredient → Ingredient → Except Fault Outcome
  | .kind k, .status s => .ok ⟨k, s⟩
  | .kind _, other => do throw (.notStatus (← other.quoted))
  | other, _ => do throw (.notKind (← other.quoted))

/-- A status of the given details, in order; details that are left out have their defaults. -/
def Status.make (name : StatusName) (details : List Value) : Except Fault Status :=
  match name, details with
  | .success, [] => .ok .success
  | .testFailure, [] => .ok (.testFailure (.text ""))
  | .testFailure, [message] => .ok (.testFailure message)
  | .throttled, [] => .ok (.throttled (.int defaultThrottleCode))
  | .throttled, [code] => .ok (.throttled code)
  | .httpError, [code] => .ok (.httpError code (.text ""))
  | .httpError, [code, message] => .ok (.httpError code message)
  | .otherError, [] => .ok (.otherError (.text ""))
  | .otherError, [message] => .ok (.otherError message)
  | .notFound, [] => .ok (.notFound (.text ""))
  | .notFound, [message] => .ok (.notFound message)
  | _, [] => .error (.detailMissing name.title)
  | _, _ => .error (.detailsTooMany name details.length)

/-! ## Laws -/

theorem Kind.ofName?_canonicalKindName_name (k : Kind) :
    Kind.ofName? (canonicalKindName k.name) = some k := by
  cases k <;> decide +kernel

end LoadLedger
