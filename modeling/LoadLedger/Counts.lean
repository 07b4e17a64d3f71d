import LoadLedger.Value

/-!
# Counts

Traffic is counted in natural numbers. Data from outside is checked once, where it enters: every
item has to be a nonnegative integer, and the first item that is not decides the fault. Truth values
are no counts, though they are numbers.
-/

namespace LoadLedger

/-- The items of a value: those of a list, the characters of a text, the keys of an object. -/
def Value.items : Value → Except Fault (List Value)
  | .list items => .ok items
  | .text s => .ok (s.toList.map fun c => .text (String.singleton c))
  | .brokenText t => .ok (t.points.map fun p => .ofText (.ofPoints [p]))
  | .object entries => .ok (entries.map fun e => .text e.1)
  | .brokenObject keys _ => .ok (keys.map .ofText)
  | v => .error (.notIterable v.typeName)

namespace Counts

/-- The count at an index. -/
def ofValue (index : Nat) : Value → Except Fault Nat
  | .int (.ofNat n) => .ok n
  | .int i =>
    match Number.writeInteger i with
    | .ok shown => .error (.negativeCount index shown)
    | .error cause => .error cause
  | v => .error (.notCount v.typeName index)

/-- The counts of a list whose first item has the given index. -/
def validateFrom : Nat → List Value → Except Fault (List Nat)
  | _, [] => .ok []
  | index, v :: items => do
    let n ← ofValue index v
    let counts ← validateFrom (index + 1) items
    return n :: counts

/-- The counts of a list. -/
def validate (items : List Value) : Except Fault (List Nat) :=
  validateFrom 0 items

/-- The sum of counts. -/
def sum : List Nat → Nat
  | [] => 0
  | n :: counts => n + sum counts

/-- The mean, cut to an integer; the mean of nothing is zero. -/
def mean (counts : List Nat) : Nat :=
  sum counts / counts.length

/-- The counts that a value holds. -/
def validateValue (v : Value) : Except Fault (List Nat) := do
  validate (← v.items)

/-- The mean of the counts that a value holds. -/
def meanOfValue (v : Value) : Except Fault Nat :=
  (validateValue v).map mean

/-! ## Laws -/

@[simp] theorem mean_nil : mean [] = 0 := rfl

theorem ofValue_natCast (index n : Nat) : ofValue index (.int n) = .ok n := rfl

theorem validateFrom_map (index : Nat) (counts : List Nat) :
    validateFrom index (counts.map fun n => .int (n : Nat)) = .ok counts := by
  induction counts generalizing index with
  | nil => rfl
  | cons n counts ih =>
    simp only [List.map_cons, validateFrom, ofValue_natCast, ih]
    rfl

end Counts

end LoadLedger
