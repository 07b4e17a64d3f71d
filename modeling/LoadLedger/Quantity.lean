/-!
# Quantities

The seven quantities whose traffic is tracked per interval, and tables that hold one entry for each
of them.
-/

namespace LoadLedger

/-- What is tracked per interval. -/
inductive Quantity
  | requests
  | successes
  | gets
  | puts
  | deletes
  | throttled
  | consistency
  deriving DecidableEq

/-- All quantities, in the order in which an interval is closed. -/
def Quantity.all : List Quantity :=
  [.requests, .successes, .gets, .puts, .deletes, .throttled, .consistency]

/-- The name of a quantity. -/
def Quantity.name : Quantity → String
  | .requests => "requests"
  | .successes => "successes"
  | .gets => "gets"
  | .puts => "puts"
  | .deletes => "deletes"
  | .throttled => "throttled"
  | .consistency => "consistency"

/-- One entry for each quantity. -/
@[ext]
structure PerQuantity (α : Type) where
  requests : α
  successes : α
  gets : α
  puts : α
  deletes : α
  throttled : α
  consistency : α
  deriving DecidableEq

namespace PerQuantity

/-- The entry of a quantity. -/
def get (t : PerQuantity α) : Quantity → α
  | .requests => t.requests
  | .successes => t.successes
  | .gets => t.gets
  | .puts => t.puts
  | .deletes => t.deletes
  | .throttled => t.throttled
  | .consistency => t.consistency

/-- The table with another entry for one quantity. -/
def set (t : PerQuantity α) (q : Quantity) (a : α) : PerQuantity α :=
  match q with
  | .requests => { t with requests := a }
  | .successes => { t with successes := a }
  | .gets => { t with gets := a }
  | .puts => { t with puts := a }
  | .deletes => { t with deletes := a }
  | .throttled => { t with throttled := a }
  | .consistency => { t with consistency := a }

/-- The table of the values of a function. -/
def ofFn (f : Quantity → α) : PerQuantity α :=
  ⟨f .requests, f .successes, f .gets, f .puts, f .deletes, f .throttled, f .consistency⟩

/-- The entries under the names of their quantities. -/
def toList (t : PerQuantity α) : List (String × α) :=
  Quantity.all.map fun q => (q.name, t.get q)

@[simp] theorem get_ofFn (f : Quantity → α) (q : Quantity) : (ofFn f).get q = f q := by
  cases q <;> rfl

@[simp] theorem get_set_self (t : PerQuantity α) (q : Quantity) (a : α) :
    (t.set q a).get q = a := by
  cases q <;> rfl

theorem get_set_of_ne {p q : Quantity} (t : PerQuantity α) (a : α) (h : p ≠ q) :
    (t.set q a).get p = t.get p := by
  cases p <;> cases q <;> first | rfl | exact absurd rfl h

theorem ext_get {s t : PerQuantity α} (h : ∀ q, s.get q = t.get q) : s = t := by
  ext
  case requests => exact h .requests
  case successes => exact h .successes
  case gets => exact h .gets
  case puts => exact h .puts
  case deletes => exact h .deletes
  case throttled => exact h .throttled
  case consistency => exact h .consistency

end PerQuantity

theorem Quantity.mem_all (q : Quantity) : q ∈ Quantity.all := by
  cases q <;> decide

end LoadLedger
