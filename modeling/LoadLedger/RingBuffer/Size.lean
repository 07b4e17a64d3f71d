import LoadLedger.RingBuffer
import LoadLedger.Value

/-!
# Rings of a given size

How many items a ring keeps, and how many of them are asked for, comes from outside. A size has to
be an integer of at least one; a truth value counts as the number that it is. A limit may be any
integer, and one below zero is as good as zero.
-/

namespace LoadLedger

/-- The number of items that a ring of a given size keeps. `tooSmall` is the fault of a size below
one, from the text of the size. -/
def Value.toSize (tooSmall : String → Fault) (size : Value) : Except Fault { n : Nat // 0 < n } :=
  match size.amount? with
  | some (.int i) =>
    if h : 0 < i.toNat then
      if Number.greatestSize < i.toNat then .error .sizeTooLarge else .ok ⟨i.toNat, h⟩
    else do throw (tooSmall (← size.numeral))
  | some (.float x) =>
    if x < 1.0 then do throw (tooSmall (← size.numeral)) else .error .notLength
  | none => .error (.incomparable "<" size.typeName "int")

/-- The number of items that a limit leaves. A limit that is no integer is found out only if it is
not below zero. -/
def Value.toLimit (limit : Value) : Except Fault Int :=
  match limit.amount? with
  | some (.int i) => .ok i
  | some (.float x) => if x < 0.0 then .ok 0 else .error .notLimit
  | none => .error (.incomparable ">" "int" limit.typeName)

/-- An empty ring of a given size. -/
def RingBuffer.ofSize (α : Type) (tooSmall : String → Fault) (size : Value) :
    Except Fault (RingBuffer α) :=
  (size.toSize tooSmall).map fun n => .empty α n.val n.property

/-- The items that a given limit leaves, the newest one first. -/
def RingBuffer.latestOf (r : RingBuffer α) (limit : Value) : Except Fault (List α) :=
  limit.toLimit.map r.latest

/-! ## Laws -/

theorem RingBuffer.latestOf_int (r : RingBuffer α) (i : Int) :
    r.latestOf (.int i) = .ok (r.latest i) := rfl

theorem RingBuffer.ofSize_nat (tooSmall : String → Fault) (n : Nat) (pos : 0 < n)
    (le : n ≤ Number.greatestSize) :
    RingBuffer.ofSize α tooSmall (.int n) = .ok (.empty α n pos) := by
  have small : ¬ Number.greatestSize < n := by omega
  simp only [RingBuffer.ofSize, Value.toSize, Value.amount?, Int.toNat_natCast, pos, dif_pos, small,
    if_false, Except.map]

theorem RingBuffer.ofSize_of_greatestSize_lt (tooSmall : String → Fault) {i : Int}
    (lt : Number.greatestSize < i) :
    RingBuffer.ofSize α tooSmall (.int i) = .error .sizeTooLarge := by
  have pos : 0 < i.toNat := by omega
  have large : Number.greatestSize < i.toNat := by omega
  simp only [RingBuffer.ofSize, Value.toSize, Value.amount?, pos, dif_pos, large, if_true,
    Except.map]

end LoadLedger
