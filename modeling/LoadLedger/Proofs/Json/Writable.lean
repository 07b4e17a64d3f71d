import LoadLedger.Json.Reader
import LoadLedger.Proofs.Values
import Mathlib.Data.List.TakeWhile

/-!
# What is read can be written

A reader puts lists and objects together from values that it has read before, one level deeper.
Whatever holds of the scalars and is passed on from the items to the list (`Json.PassedOn`) holds of
all that `Json.read` answers (`Json.passedOn_of_read`): the three readers that call each other are
treated together, by induction on their fuel.

Two properties are passed on. What `Json.read` answers is no higher than its limit of nesting allows
(`Json.height_le_of_read`), and a reader that refuses numerals beyond the limit for integers answers
only values whose integers can be written (`Json.withinLimit_of_read`). So whatever is read from a
file can be written everywhere (`Json.writable_of_read`).
-/

namespace LoadLedger.Json

open Value (Writable WithinLimit)

/-! ## Numbers and words -/

/-- The digits of numerals are those of ASCII, and `Text.asciiDigitValue` gives what they stand
for. -/
theorem asciiDigitValue_lt {c : Char} (h : Text.isAsciiDigit c = true) :
    Text.asciiDigitValue c < 10 := by
  rw [Text.isAsciiDigit, Bool.and_eq_true, decide_eq_true_eq, decide_eq_true_eq] at h
  have hle : c.toNat ≤ '9'.toNat := h.2
  have hnine : '9'.toNat = '0'.toNat + 9 := rfl
  rw [Text.asciiDigitValue]
  omega

/-- What `takeDigits` takes are digits. -/
theorem takeDigits_lt (s : List Char) : ∀ d ∈ (takeDigits s).1, d < 10 := by
  intro d hd
  obtain ⟨c, hc, rfl⟩ := List.mem_map.mp hd
  exact asciiDigitValue_lt (List.mem_takeWhile_imp hc)

/-- So is what `takeWhole` takes, which stops after a leading zero. -/
theorem takeWhole_lt (s : List Char) : ∀ d ∈ (takeWhole s).1, d < 10 := by
  rw [takeWhole.eq_def]
  split
  · intro d hd
    obtain rfl := List.mem_singleton.mp hd
    decide
  · exact takeDigits_lt s

/-- **An integer that is read can be written**, if the limit for reading does not exceed the one for
writing. A numeral with a fraction or an exponent is read as a floating-point number, which holds no
integer. -/
theorem withinLimit_of_readNumber {limits : Limits} (hlimits : limits.digits ≤ Number.digitLimit)
    {s rest : List Char} {v : Value} (h : readNumber limits s = .ok (v, rest)) :
    WithinLimit v.integers := by
  rw [readNumber] at h
  dsimp only at h
  generalize takeMinus s = signed at h
  have hdigits := takeWhole_lt signed.2
  generalize takeWhole signed.2 = whole at h hdigits
  split at h
  · cases h
  · split at h
    · split at h
      · cases h
      · rename_i hcount
        cases h
        -- as many digits as the limits of reading allow are not too many for writing
        have hlt : Number.ofDigits whole.1 < Number.tenTo Number.digitLimit :=
          Nat.lt_of_lt_of_le (Number.ofDigits_lt hdigits)
            (Number.tenTo_le_tenTo (Nat.le_trans (Nat.not_lt.mp hcount) hlimits))
        rw [Value.integers, WithinLimit, List.forall_mem_singleton]
        split
        · rw [Int.natAbs_neg, Int.natAbs_natCast]
          exact hlt
        · rw [Int.natAbs_natCast]
          exact hlt
    · cases h
      exact Value.withinLimit_nil

/-- A number nests nothing. -/
theorem height_of_readNumber {limits : Limits} {s rest : List Char} {v : Value}
    (h : readNumber limits s = .ok (v, rest)) : v.height = 1 := by
  rw [readNumber] at h
  dsimp only at h
  split at h
  · cases h
  · split at h
    · split at h
      · cases h
      · cases h
        rw [Value.height]
    · cases h
      rw [Value.height]

/-- A word stands for a value that nests nothing and holds no integer. -/
theorem of_mem_words {word : List Char} {v : Value} (h : (word, v) ∈ words) :
    v.integers = [] ∧ v.height = 1 := by
  simp only [words, List.mem_cons, Prod.mk.injEq, List.not_mem_nil, or_false] at h
  rcases h with ⟨-, rfl⟩ | ⟨-, rfl⟩ | ⟨-, rfl⟩ | ⟨-, rfl⟩ | ⟨-, rfl⟩ | ⟨-, rfl⟩
  all_goals exact ⟨by rw [Value.integers], by rw [Value.height]⟩

/-- What `readScalar` answers is a number, or one of the `words`. -/
theorem withinLimit_of_readScalar {limits : Limits} (hlimits : limits.digits ≤ Number.digitLimit)
    {s rest : List Char} {v : Value} (h : readScalar limits s = .ok (v, rest)) :
    WithinLimit v.integers := by
  rw [readScalar] at h
  split at h
  · rename_i word w hfind
    cases h
    rw [(of_mem_words (List.mem_of_find?_eq_some hfind)).1]
    exact Value.withinLimit_nil
  · exact withinLimit_of_readNumber hlimits h

theorem height_of_readScalar {limits : Limits} {s rest : List Char} {v : Value}
    (h : readScalar limits s = .ok (v, rest)) : v.height = 1 := by
  rw [readScalar] at h
  split at h
  · rename_i word w hfind
    cases h
    exact (of_mem_words (List.mem_of_find?_eq_some hfind)).2
  · exact height_of_readNumber h

/-! ## Lists and objects -/

/-- A property of the values that are read where a number of levels may still be nested: texts and
scalars have it, and a list or an object has it if its items have it one level deeper. This is all
that the three readers need to know about a property. -/
structure PassedOn (limits : Limits) (P : Nat → Value → Prop) : Prop where
  /-- Texts have the property at any depth, -/
  text : ∀ (depth : Nat) (t : AnyText), P depth (.ofText t)
  /-- and so has whatever is read as a scalar. -/
  scalar : ∀ {depth : Nat} {s rest : List Char} {v : Value},
    readScalar limits s = .ok (v, rest) → P depth v
  /-- A list has it if its items have it one level deeper. -/
  list : ∀ {depth : Nat} {items : List Value}, (∀ v ∈ items, P depth v) →
    P (depth + 1) (.list items)
  /-- So does an object, -/
  object : ∀ {depth : Nat} {entries : List (String × Value)}, (∀ e ∈ entries, P depth e.2) →
    P (depth + 1) (.object entries)
  /-- be its keys whole or not. -/
  brokenObject : ∀ {depth : Nat} {keys : List AnyText} {items : List Value},
    (∀ v ∈ items, P depth v) → P (depth + 1) (.brokenObject keys items)

namespace PassedOn

variable {limits : Limits} {P : Nat → Value → Prop}

/-- Whatever the keys of the entries are, `Value.ofEntries` keeps to their values. -/
theorem ofEntries (hP : PassedOn limits P) {depth : Nat} {entries : List (AnyText × Value)}
    (h : ∀ e ∈ entries, P depth e.2) : P (depth + 1) (.ofEntries entries) := by
  rw [Value.ofEntries]
  split
  · refine hP.object fun e he => ?_
    obtain ⟨old, hold, hwhole⟩ := List.mem_filterMap.mp he
    obtain ⟨key, -, rfl⟩ := Option.map_eq_some_iff.mp hwhole
    exact h old hold
  · refine hP.brokenObject fun v hv => ?_
    obtain ⟨old, hold, rfl⟩ := List.mem_map.mp hv
    exact h old hold

/-- Heights are passed on: a list is one higher than its items. -/
theorem height (limits : Limits) : PassedOn limits fun depth v => v.height ≤ depth + 1 where
  text depth t := by cases t <;> exact Nat.le_add_left 1 depth
  scalar h := (height_of_readScalar h).trans_le (Nat.le_add_left 1 _)
  list h := by
    rw [Value.height]
    exact Nat.succ_le_succ (Value.heightOfItems_le_iff.mpr h)
  object h := by
    rw [Value.height]
    exact Nat.succ_le_succ (Value.heightOfEntries_le_iff.mpr h)
  brokenObject h := by
    rw [Value.height]
    exact Nat.succ_le_succ (Value.heightOfItems_le_iff.mpr h)

/-- The limit of integers is passed on: the integers of a list are those of its items. -/
theorem withinLimit (hlimits : limits.digits ≤ Number.digitLimit) :
    PassedOn limits fun _ v => WithinLimit v.integers where
  text depth t := by cases t <;> exact Value.withinLimit_nil
  scalar h := withinLimit_of_readScalar hlimits h
  list h := by
    rw [Value.integers]
    exact Value.withinLimit_integersOfItems_iff.mpr h
  object h := by
    rw [Value.integers]
    exact Value.withinLimit_integersOfEntries_iff.mpr h
  brokenObject h := by
    rw [Value.integers]
    exact Value.withinLimit_integersOfItems_iff.mpr h

end PassedOn

/-! ## The three readers -/

/-- `putEntry` gives an old key its new value or appends the entry. A new value has the property,
and all others have it still. -/
theorem forall_putEntry {P : Value → Prop} {entries : List (AnyText × Value)}
    (h : ∀ e ∈ entries, P e.2) (key : AnyText) {v : Value} (hv : P v) :
    ∀ e ∈ putEntry entries key v, P e.2 := by
  intro e he
  rw [putEntry] at he
  split at he
  · obtain ⟨old, hold, rfl⟩ := List.mem_map.mp he
    split
    · exact hv
    · exact h old hold
  · rcases List.mem_append.mp he with hold | hnew
    · exact h e hold
    · obtain rfl := List.mem_singleton.mp hnew
      exact hv

/-- With so much fuel, **whatever is read has a property**. The items that are done have it before,
so that the list that they end up in has it one level higher. -/
structure ReadsOnly (limits : Limits) (P : Nat → Value → Prop) (fuel : Nat) : Prop where
  value : ∀ {depth : Nat} {s rest : List Char} {v : Value},
    readValueFor limits fuel depth s = .ok (v, rest) → P depth v
  items : ∀ {depth : Nat} {done : List Value} {s rest : List Char} {v : Value},
    (∀ u ∈ done, P depth u) → readItemsFor limits fuel depth done s = .ok (v, rest) →
      P (depth + 1) v
  entries : ∀ {depth : Nat} {done : List (AnyText × Value)} {s rest : List Char} {v : Value},
    (∀ e ∈ done, P depth e.2) → readEntriesFor limits fuel depth done s = .ok (v, rest) →
      P (depth + 1) v

namespace ReadsOnly

variable {limits : Limits} {P : Nat → Value → Prop} {fuel depth : Nat} {s rest : List Char}
  {v : Value}

/-- Without fuel nothing is read. -/
theorem zero (limits : Limits) (P : Nat → Value → Prop) : ReadsOnly limits P 0 := by
  constructor
  case value =>
    intro depth s rest v h
    rw [readValueFor] at h
    cases h
  case items =>
    intro depth done s rest v _ h
    rw [readItemsFor] at h
    cases h
  case entries =>
    intro depth done s rest v _ h
    rw [readEntriesFor] at h
    cases h

/-- `readValueFor` answers a text, a scalar, an empty list or object, or what the two other readers
answer one level deeper. Where no level is left it answers nothing. -/
theorem value_succ (h : ReadsOnly limits P fuel) (hP : PassedOn limits P)
    (hread : readValueFor limits (fuel + 1) depth s = .ok (v, rest)) : P depth v := by
  rw [readValueFor.eq_def] at hread
  dsimp only at hread
  split at hread
  · split at hread
    · cases hread
    · cases hread
      exact hP.text depth _
  · split at hread
    · cases hread
    · rename_i hdepth
      -- a list that is read leaves a level less for its items
      obtain ⟨depth, rfl⟩ := Nat.exists_eq_succ_of_ne_zero hdepth
      split at hread
      · cases hread
        exact hP.list (List.forall_mem_nil _)
      · exact h.items (List.forall_mem_nil _) hread
  · split at hread
    · cases hread
    · rename_i hdepth
      obtain ⟨depth, rfl⟩ := Nat.exists_eq_succ_of_ne_zero hdepth
      split at hread
      · cases hread
        exact hP.object (List.forall_mem_nil _)
      · exact h.entries (List.forall_mem_nil _) hread
  · exact hP.scalar hread

/-- `readItemsFor` reads an item and has the list, or else goes on with one item more. -/
theorem items_succ (h : ReadsOnly limits P fuel) (hP : PassedOn limits P) {done : List Value}
    (hdone : ∀ u ∈ done, P depth u)
    (hread : readItemsFor limits (fuel + 1) depth done s = .ok (v, rest)) : P (depth + 1) v := by
  rw [readItemsFor] at hread
  split at hread
  · cases hread
  · rename_i item after hitem
    have hmore : ∀ u ∈ item :: done, P depth u := List.forall_mem_cons.mpr ⟨h.value hitem, hdone⟩
    split at hread
    · cases hread
      exact hP.list fun u hu => hmore u (List.mem_reverse.mp hu)
    · exact h.items hmore hread
    · cases hread

/-- `readEntriesFor` does the same with `putEntry`, so that a key that is repeated keeps its place
and loses its old value. -/
theorem entries_succ (h : ReadsOnly limits P fuel) (hP : PassedOn limits P)
    {done : List (AnyText × Value)} (hdone : ∀ e ∈ done, P depth e.2)
    (hread : readEntriesFor limits (fuel + 1) depth done s = .ok (v, rest)) : P (depth + 1) v := by
  rw [readEntriesFor.eq_def] at hread
  dsimp only at hread
  split at hread
  · split at hread
    · cases hread
    · split at hread
      · split at hread
        · cases hread
        · rename_i item _ hitem
          -- the entry may take the place of an earlier one with the same key
          have hmore := forall_putEntry hdone ‹_› (h.value hitem)
          split at hread
          · cases hread
            exact hP.ofEntries hmore
          · exact h.entries hmore hread
          · cases hread
      · cases hread
  · cases hread

/-- The three laws hold with any fuel of what is `PassedOn`. -/
theorem of_passedOn (hP : PassedOn limits P) (fuel : Nat) : ReadsOnly limits P fuel := by
  induction fuel with
  | zero => exact zero limits P
  | succ fuel ih => exact ⟨ih.value_succ hP, ih.items_succ hP, ih.entries_succ hP⟩

end ReadsOnly

/-! ## Texts -/

section Texts

variable {limits : Limits} {s : List Char} {v : Value}

/-- **What is passed on holds of all that is read.** The number of levels is the whole limit of
nesting. The laws are those of `PassedOn`, which say nothing about reading. -/
theorem passedOn_of_read {P : Nat → Value → Prop} (hP : PassedOn limits P)
    (h : read limits s = .ok v) : P limits.nesting v := by
  have htext : readText limits s = .ok v := by
    rw [read] at h
    split at h
    · rename_i hread
      rw [hread]
      exact congrArg _ (Except.ok.inj h)
    · cases h
    · cases h
  rw [readText.eq_def] at htext
  split at htext
  · cases htext
  · split at htext
    · cases htext
    · rename_i hread
      split at htext
      · cases htext
        exact (ReadsOnly.of_passedOn hP _).value hread
      · cases htext

/-- What is read nests no more lists and objects than the limit says, and a scalar inside of
them. -/
theorem height_le_of_read (h : read limits s = .ok v) : v.height ≤ limits.nesting + 1 :=
  passedOn_of_read (.height limits) h

/-- What is read holds no integer that is too long to be written. -/
theorem withinLimit_of_read (hlimits : limits.digits ≤ Number.digitLimit)
    (h : read limits s = .ok v) : WithinLimit v.integers :=
  passedOn_of_read (.withinLimit hlimits) h

/-- **What is read from a file can be written**, at every place (`Value.Writable`): the reader
refuses what would be too long or too deep. -/
theorem writable_of_read [Depths] (h : read .ofFiles s = .ok v) : v.Writable :=
  ⟨withinLimit_of_read (Nat.le_refl _) h, height_le_of_read h⟩

end Texts

end LoadLedger.Json
