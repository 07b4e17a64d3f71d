import LoadLedger.Outcome

/-!
# Printed outcomes

An outcome is printed with its kind, its status and the details that the status has, each by its
name.
-/

namespace LoadLedger

/-- The printed form of a kind. -/
def Kind.quoted (k : Kind) : String :=
  "<OperationKind." ++ k.name ++ ": '" ++ k.name ++ "'>"

section Details

variable [Depths]

/-- The printed details of a status, the status code first. -/
def Status.quotedDetails (s : Status) : Except Fault (List String) := do
  let code ← match s.statusCode? with
    | some v => (v.quotedAt .detail).map (["status_code=" ++ ·])
    | none => .ok []
  let message ← match s.message? with
    | some v => (v.quotedAt .detail).map (["message=" ++ ·])
    | none => .ok []
  return code ++ message

/-- The printed form of a status. -/
def Status.quoted (s : Status) : Except Fault String := do
  let details ← s.quotedDetails
  return s.name.title ++ "(" ++ ", ".intercalate details ++ ")"

/-- The printed form of an outcome. -/
def Outcome.quoted (o : Outcome) : Except Fault String := do
  let status ← o.status.quoted
  return "Outcome(kind=" ++ o.kind.quoted ++ ", status=" ++ status ++ ")"

end Details

end LoadLedger
