import LoadLedger.Counts
import LoadLedger.Proofs.Faults
import Mathlib.Algebra.Order.BigOperators.Group.List
import Mathlib.Data.Rat.Floor

/-!
# Counts and their means

A value is a count exactly if it is a nonnegative integer (`Counts.ofValue_eq_ok_iff`), and any
other one is refused for its type or for its sign (`Counts.ofValue_of_not_isCount`). The mean of
counts is their sum by their number without the remainder (`Counts.length_mul_mean_le`,
`Counts.sum_lt_of_ne_nil`), which fixes it (`Counts.eq_mean_iff`), so that it lies between the least
and the greatest of them (`Counts.exists_min_max`). Of data that holds counts the same mean is found
(`Counts.meanOfValue_list`).
-/

namespace LoadLedger.Counts

/-! ## Single values -/

/-- Just the nonnegative integers are counts, wherever they stand. -/
theorem ofValue_eq_ok_iff {index n : Nat} {v : Value} :
    ofValue index v = .ok n ↔ v = .int n := by
  constructor
  · intro h
    unfold ofValue at h
    split at h
    · cases h
      rfl
    · split at h <;> cases h
    · cases h
  · rintro rfl
    exact ofValue_natCast index n

/-- Is the value a count? -/
def IsCount (v : Value) : Prop :=
  ∃ n : Nat, v = .int n

theorem not_isCount_of_error {index : Nat} {v : Value} {cause : Fault}
    (h : ofValue index v = .error cause) : ¬ IsCount v := by
  rintro ⟨n, rfl⟩
  cases h

/-- The fault of a value that is no count: an integer is shown, and of anything else the type is
named. -/
def refusal (index : Nat) : Value → Fault
  | .int i => .negativeCount index (toString i)
  | v => .notCount v.typeName index

theorem family_refusal (index : Nat) (v : Value) : (refusal index v).family = .counts := by
  unfold refusal
  split <;> rfl

/-- What is no count is refused for the reason that applies to it, unless it is a negative integer
that the message cannot hold. -/
theorem ofValue_of_not_isCount {index : Nat} {v : Value} (hv : ¬ IsCount v)
    (hshort : ∀ i : Int, v = .int i → i < 0 → i.natAbs < Number.tenTo Number.digitLimit) :
    ofValue index v = .error (refusal index v) := by
  unfold ofValue
  split
  · exact absurd ⟨_, rfl⟩ hv
  · rename_i i hnegative
    have hlt : i < 0 := Int.not_le.mp fun hle => hnegative _ (Int.toNat_of_nonneg hle).symm
    have hwritten : Number.writeInteger i = .ok (toString i) :=
      Number.writeInteger_eq_ok_iff.mpr ⟨hshort i rfl hlt, rfl⟩
    rw [hwritten]
    rfl
  · rename_i hinteger
    rw [refusal]
    exact hinteger

/-- What is no count is refused as such, unless it is a negative integer that the message cannot
hold. -/
theorem family_of_ofValue {index : Nat} {v : Value} {cause : Fault}
    (h : ofValue index v = .error cause)
    (hshort : ∀ i : Int, v = .int i → i < 0 → i.natAbs < Number.tenTo Number.digitLimit) :
    cause.family = .counts := by
  rw [ofValue_of_not_isCount (not_isCount_of_error h) hshort] at h
  cases h
  exact family_refusal index v

/-! ## Means -/

theorem sum_eq (counts : List Nat) : sum counts = counts.sum := by
  induction counts with
  | nil => rfl
  | cons n counts ih => rw [sum, List.sum_cons, ih]

theorem sum_map_natCast (counts : List Nat) :
    (counts.map fun n : Nat => (n : Int)).sum = (counts.sum : Nat) := by
  induction counts with
  | nil => rfl
  | cons n counts ih => rw [List.map_cons, List.sum_cons, List.sum_cons, ih, Int.natCast_add]

/-- The mean of counts is the integer below their mean as a rational number. For no counts both
sides are zero. -/
theorem mean_eq_floor (counts : List Nat) :
    (mean counts : Int) = ⌊((counts.map fun n : Nat => (n : Int)).sum : ℚ) / counts.length⌋ := by
  rw [sum_map_natCast, Rat.floor_intCast_div_natCast, mean, sum_eq]
  rfl

theorem length_mul_mean_le (counts : List Nat) : counts.length * mean counts ≤ counts.sum := by
  rw [mean, sum_eq]
  exact Nat.mul_div_le _ _

variable {counts : List Nat}

theorem sum_lt_of_ne_nil (h : counts ≠ []) : counts.sum < counts.length * (mean counts + 1) := by
  rw [mean, sum_eq]
  exact Nat.lt_mul_div_succ _ (List.length_pos_iff.mpr h)

/-- No other integer lies between the same bounds, negative ones included. -/
theorem eq_mean_iff (h : counts ≠ []) {k : Int} :
    (counts.length * k ≤ counts.sum ∧ counts.sum < counts.length * (k + 1)) ↔ k = mean counts := by
  have hle : (counts.length : Int) * mean counts ≤ counts.sum := by
    exact_mod_cast length_mul_mean_le counts
  have hlt : (counts.sum : Int) < counts.length * (mean counts + 1) := by
    exact_mod_cast sum_lt_of_ne_nil h
  constructor
  · rintro ⟨hk, hsum⟩
    have hpos : 0 ≤ (counts.length : Int) := Int.natCast_nonneg _
    have hbelow : k < mean counts + 1 := lt_of_mul_lt_mul_left (hk.trans_lt hlt) hpos
    have habove : (mean counts : Int) < k + 1 := lt_of_mul_lt_mul_left (hle.trans_lt hsum) hpos
    omega
  · rintro rfl
    exact ⟨hle, hlt⟩

/-- What is at most each count is at most their mean. -/
theorem le_mean (h : counts ≠ []) {least : Nat} (hleast : ∀ n ∈ counts, least ≤ n) :
    least ≤ mean counts := by
  have hle : counts.length * least ≤ counts.sum := counts.card_nsmul_le_sum least hleast
  have hlt : counts.length * least < counts.length * (mean counts + 1) :=
    Nat.lt_of_le_of_lt hle (sum_lt_of_ne_nil h)
  exact Nat.le_of_lt_succ (Nat.lt_of_mul_lt_mul_left hlt)

/-- What is at least each count is at least their mean. -/
theorem mean_le (h : counts ≠ []) {greatest : Nat} (hgreatest : ∀ n ∈ counts, n ≤ greatest) :
    mean counts ≤ greatest := by
  have hle : counts.sum ≤ counts.length * greatest := counts.sum_le_card_nsmul greatest hgreatest
  exact Nat.le_of_mul_le_mul_left ((length_mul_mean_le counts).trans hle)
    (List.length_pos_iff.mpr h)

/-- The mean lies between the least count and the greatest. -/
theorem exists_min_max (h : counts ≠ []) : ∃ least greatest,
    counts.min? = some least ∧ counts.max? = some greatest ∧
      least ≤ mean counts ∧ mean counts ≤ greatest := by
  obtain ⟨least, hleast⟩ := Option.isSome_iff_exists.mp (List.isSome_min?_iff.mpr h)
  obtain ⟨greatest, hgreatest⟩ := Option.isSome_iff_exists.mp (List.isSome_max?_iff.mpr h)
  exact ⟨least, greatest, hleast, hgreatest, le_mean h (List.min?_eq_some_iff.mp hleast).2,
    mean_le h (List.max?_eq_some_iff.mp hgreatest).2⟩

/-- The mean of a list that holds counts is found without a fault. -/
theorem meanOfValue_list (counts : List Nat) :
    meanOfValue (.list (counts.map fun n : Nat => .int n)) = .ok (mean counts) := by
  have hvalid : validateValue (.list (counts.map fun n : Nat => .int n)) = .ok counts :=
    validateFrom_map 0 counts
  rw [meanOfValue, hvalid]
  rfl

end LoadLedger.Counts
