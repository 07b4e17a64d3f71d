import LoadLedger.Proofs.Counts

/-!
# Checking data from outside

A list is checked item by item, from the first one on. If each item is a count the check gives the
counts that were there (`Counts.validateFrom_eq_ok_iff`). Otherwise it stops at the first item that
is none (`Counts.FirstRefused`) with the fault of that item at its index, and at no other one
(`Counts.validateFrom_eq_error_iff`). A mean is taken of what passes the check and fails with it.

**Messages.** What is refused is told with the index and the type of the item
(`Counts.refusalText`), so that the message of a refusal can be read off the data
(`Counts.refused_iff_noncount`). A list may hold several items that are no counts: the least index
decides.
-/

namespace LoadLedger.Counts

variable {items : List Value} {v w : Value} {index : Nat} {cause : Fault}

/-! ## The first item that is no count -/

/-- The item at an index is no count, and **every item before it is one**. -/
structure FirstRefused (items : List Value) (index : Nat) (v : Value) : Prop where
  /-- The index is that of the item. -/
  item : items[index]? = some v
  not_isCount : ¬ IsCount v
  /-- No item before it is refused. -/
  before : ∀ j < index, ∀ w, items[j]? = some w → IsCount w

theorem FirstRefused.mem (h : FirstRefused items index v) : v ∈ items :=
  List.mem_of_getElem? h.item

theorem firstRefused_zero : FirstRefused (v :: items) 0 w ↔ w = v ∧ ¬ IsCount v := by
  constructor
  · rintro ⟨hitem, hbad, -⟩
    cases hitem
    exact ⟨rfl, hbad⟩
  · rintro ⟨rfl, hbad⟩
    exact ⟨rfl, hbad, fun j hj => absurd hj (Nat.not_lt_zero j)⟩

theorem firstRefused_succ :
    FirstRefused (v :: items) (index + 1) w ↔ IsCount v ∧ FirstRefused items index w := by
  constructor
  · rintro ⟨hitem, hbad, hbefore⟩
    refine ⟨hbefore 0 (Nat.succ_pos index) v rfl, hitem, hbad, fun j hj => ?_⟩
    exact hbefore (j + 1) (Nat.succ_lt_succ hj)
  · rintro ⟨hv, hitem, hbad, hbefore⟩
    refine ⟨hitem, hbad, fun j hj u hu => ?_⟩
    cases j with
    | zero =>
      cases hu
      exact hv
    | succ j => exact hbefore j (Nat.lt_of_succ_lt_succ hj) u hu

/-- If any item is no count, there is a first one. -/
theorem exists_firstRefused (h : ∃ v ∈ items, ¬ IsCount v) :
    ∃ index v, FirstRefused items index v := by
  induction items with
  | nil =>
    obtain ⟨v, hv, -⟩ := h
    cases hv
  | cons v items ih =>
    by_cases hv : IsCount v
    · have hitems : ∃ w ∈ items, ¬ IsCount w := by
        obtain ⟨w, hw, hbad⟩ := h
        obtain rfl | hw := List.mem_cons.mp hw
        · exact absurd hv hbad
        · exact ⟨w, hw, hbad⟩
      obtain ⟨index, w, hfirst⟩ := ih hitems
      exact ⟨index + 1, w, firstRefused_succ.mpr ⟨hv, hfirst⟩⟩
    · exact ⟨0, v, firstRefused_zero.mpr ⟨rfl, hv⟩⟩

/-! ## The check of a list -/

/-- **The check gives the counts that were in the list**, and only if there is nothing else. The
index that `validateFrom` begins with does not matter here. -/
theorem validateFrom_eq_ok_iff {counts : List Nat} :
    validateFrom index items = .ok counts ↔ items = counts.map fun n : Nat => .int n := by
  constructor
  · intro h
    induction items generalizing index counts with
    | nil =>
      cases h
      rfl
    | cons v items ih =>
      obtain ⟨n, hn, h⟩ := bind_eq_ok.mp h
      obtain ⟨tail, htail, h⟩ := bind_eq_ok.mp h
      cases h
      rw [List.map_cons, ← ih htail, ofValue_eq_ok_iff.mp hn]
  · rintro rfl
    exact validateFrom_map index counts

/-- **The check fails with the fault of the first item that is no count**, at the index of that item
in the list. Which item that is says `FirstRefused`. -/
theorem validateFrom_eq_error_iff :
    validateFrom index items = .error cause ↔
      ∃ k v, FirstRefused items k v ∧ ofValue (index + k) v = .error cause := by
  -- the index moves on with the items, so it is generalized
  induction items generalizing index with
  | nil =>
    refine iff_of_false (by rintro ⟨⟩) ?_
    rintro ⟨k, v, hfirst, -⟩
    cases hfirst.mem
  | cons v items ih =>
    rw [validateFrom, bind_eq_error]
    constructor
    · rintro (h | ⟨n, hn, h⟩)
      · exact ⟨0, v, firstRefused_zero.mpr ⟨rfl, not_isCount_of_error h⟩, h⟩
      · obtain ⟨k, w, hfirst, hw⟩ := ih.mp (bind_pure_eq_error.mp h)
        have hv : IsCount v := ⟨n, ofValue_eq_ok_iff.mp hn⟩
        rw [Nat.add_right_comm] at hw
        exact ⟨k + 1, w, firstRefused_succ.mpr ⟨hv, hfirst⟩, hw⟩
    · rintro ⟨k, w, hfirst, hw⟩
      cases k with
      | zero =>
        obtain ⟨rfl, -⟩ := firstRefused_zero.mp hfirst
        exact .inl hw
      | succ k =>
        obtain ⟨⟨n, rfl⟩, hrest⟩ := firstRefused_succ.mp hfirst
        rw [← Nat.add_assoc, Nat.add_right_comm] at hw
        exact .inr ⟨n, ofValue_natCast index n, bind_pure_eq_error.mpr (ih.mpr ⟨k, w, hrest, hw⟩)⟩

/-- A list of counts passes the check. -/
theorem exists_validateFrom_eq_ok (h : ∀ v ∈ items, IsCount v) :
    ∃ counts, validateFrom index items = .ok counts := by
  cases hcheck : validateFrom index items with
  | ok counts => exact ⟨counts, rfl⟩
  | error cause =>
    obtain ⟨k, v, hfirst, -⟩ := validateFrom_eq_error_iff.mp hcheck
    exact absurd (h v hfirst.mem) hfirst.not_isCount

/-- Any other list is refused for its first item that is no count, unless that is a negative integer
which the message cannot hold. -/
theorem validateValue_of_firstRefused (hfirst : FirstRefused items index v)
    (hshort : ∀ i : Int, v = .int i → i < 0 → i.natAbs < Number.tenTo Number.digitLimit) :
    validateValue (.list items) = .error (refusal index v) := by
  have hv : ofValue (0 + index) v = .error (refusal index v) := by
    rw [Nat.zero_add]
    exact ofValue_of_not_isCount hfirst.not_isCount hshort
  exact validateFrom_eq_error_iff.mpr ⟨index, v, hfirst, hv⟩

/-- A mean fails just as the check does. -/
theorem meanOfValue_eq_error_iff :
    meanOfValue v = .error cause ↔ validateValue v = .error cause := by
  rw [meanOfValue]
  cases validateValue v with
  | ok counts => exact iff_of_false (by rintro ⟨⟩) (by rintro ⟨⟩)
  | error c => rw [Except.map, Except.error.injEq, Except.error.injEq]

/-! ## What is said of the items -/

/-- What is said of an item that is no count. -/
def refusalText (index : Nat) : Value → String
  | .int i => "Invalid negative count at index " ++ toString index ++ ": " ++ toString i
  | v => "All values must be integers, got " ++ v.typeName ++ " at index " ++ toString index

/-- The message of a refusal is the text that is said of the item. -/
theorem message_refusal (index : Nat) (v : Value) :
    (refusal index v).message = refusalText index v := by
  cases v <;> rfl

/-- **A list is refused exactly if some item is no count.** Its items are of any types; a negative
integer among them has no more digits than a message can hold. Then the check and the mean alike

* fail as to counts if and only if some item is no count;
* tell of the first such item: its index, and its type or, if it is a negative integer, the integer;
* succeed if all items are counts. The check gives the list as it is. The mean is zero if the list
  is empty, and otherwise the one integer for which the sum is at least that many times the number
  of items and less than one more time. -/
theorem refused_iff_noncount (items : List Value)
    (hshort : ∀ i : Int, .int i ∈ items → i < 0 → i.natAbs < Number.tenTo Number.digitLimit) :
    ((∃ cause, validateValue (.list items) = .error cause ∧ cause.family = .counts) ↔
      ∃ v ∈ items, ¬ IsCount v) ∧
    ((∃ cause, meanOfValue (.list items) = .error cause ∧ cause.family = .counts) ↔
      ∃ v ∈ items, ¬ IsCount v) ∧
    (∀ index v, FirstRefused items index v →
      ∃ cause, validateValue (.list items) = .error cause ∧
        meanOfValue (.list items) = .error cause ∧ cause.message = refusalText index v) ∧
    ((∀ v ∈ items, IsCount v) →
      ∃ counts : List Nat, items = counts.map (fun n : Nat => .int n) ∧
        validateValue (.list items) = .ok counts ∧
        (counts = [] → meanOfValue (.list items) = .ok 0) ∧
        (counts ≠ [] → ∃ m : Nat, meanOfValue (.list items) = .ok m ∧
          ∀ k : Int,
            (counts.length * k ≤ counts.sum ∧ counts.sum < counts.length * (k + 1)) ↔ k = m)) := by
  have hfails : ∀ {index v}, FirstRefused items index v →
      validateValue (.list items) = .error (refusal index v) :=
    fun hfirst => validateValue_of_firstRefused hfirst fun i hi => hshort i (hi ▸ hfirst.mem)
  have hrefused : (∃ cause, validateValue (.list items) = .error cause ∧ cause.family = .counts) ↔
      ∃ v ∈ items, ¬ IsCount v := by
    constructor
    · rintro ⟨cause, h, -⟩
      obtain ⟨k, v, hfirst, -⟩ := validateFrom_eq_error_iff.mp h
      exact ⟨v, hfirst.mem, hfirst.not_isCount⟩
    · intro hbad
      obtain ⟨index, v, hfirst⟩ := exists_firstRefused hbad
      exact ⟨_, hfails hfirst, family_refusal index v⟩
  refine ⟨hrefused, ?mean, ?message, ?counts⟩
  case mean =>
    simp only [meanOfValue_eq_error_iff]
    exact hrefused
  case message =>
    intro index v hfirst
    exact ⟨_, hfails hfirst, meanOfValue_eq_error_iff.mpr (hfails hfirst), message_refusal index v⟩
  -- Nothing but counts is left, and the mean is taken of these.
  case counts =>
    intro hcounts
    obtain ⟨counts, hcheck⟩ := exists_validateFrom_eq_ok hcounts
    obtain rfl := validateFrom_eq_ok_iff.mp hcheck
    refine ⟨counts, rfl, hcheck, ?_, fun hsome => ?_⟩
    · rintro rfl
      rfl
    · exact ⟨mean counts, meanOfValue_list counts, fun k => eq_mean_iff hsome⟩

/-- A count, and two items that are none, for different reasons. -/
def competingItems : List Value :=
  [.int 7, .int (-3), .bool true]

/-- Of the two the first one is told of, for its own reason. -/
theorem refused_competingItems :
    ∃ cause, validateValue (.list competingItems) = .error cause ∧
      meanOfValue (.list competingItems) = .error cause ∧
      cause.message = "Invalid negative count at index 1: -3" := by
  have hfirst : FirstRefused competingItems 1 (.int (-3)) := by
    refine firstRefused_succ.mpr ⟨⟨7, rfl⟩, firstRefused_zero.mpr ⟨rfl, ?_⟩⟩
    rintro ⟨n, ⟨⟩⟩
  have hshort : ∀ i : Int, .int i ∈ competingItems → i < 0 →
      i.natAbs < Number.tenTo Number.digitLimit := by
    intro i hi _
    have hi : i = 7 ∨ i = -3 := by simpa [competingItems] using hi
    obtain rfl | rfl := hi <;> decide +kernel
  obtain ⟨-, -, htold, -⟩ := refused_iff_noncount competingItems hshort
  exact htold 1 (.int (-3)) hfirst

example : meanOfValue (.list [.int 10, .int 20, .int 25]) = .ok 18 := rfl

end LoadLedger.Counts
