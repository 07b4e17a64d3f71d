import LoadLedger.Json.Reader

/-!
# Where reading stops

A reader stops at a place of the text, or since a limit is passed: a numeral has too many digits, or
values are nested too deep (`Json.fault_of_read`). Strings have no limit, and the three readers that
call each other pass on the stops of each other, so that they are treated together, by induction on
their fuel (`Json.StopsAtLimits`).

What each of the readers does with one unit of fuel more is a lemma of its own
(`StopsAtLimits.value_succ`, `StopsAtLimits.items_succ`, `StopsAtLimits.entries_succ`).
-/

namespace LoadLedger.Json

/-- The faults of a text that passes one of the `Limits`: a numeral of too many digits, or lists and
objects that are nested too deep. Neither is about a place of the text. -/
inductive LimitFault (limits : Limits) : Fault → Prop
  /-- A numeral has more digits than are allowed. -/
  | digits {count : Nat} (h : limits.digits < count) : LimitFault limits (.tooManyDigits count)
  /-- A list or an object lies deeper than is allowed. -/
  | nesting (n : Nesting) : LimitFault limits (.nestedTooDeep n)

variable {limits : Limits} {cause : Fault}

/-! ## Strings and numbers -/

/-- Four hexadecimal digits, or a surrogate pair of them: `readCodeEscape` meets no limit. -/
theorem readCodeEscape_ne_limit (s : List Char) : readCodeEscape s ≠ .error (.limit cause) := by
  rw [readCodeEscape.eq_def]
  repeat' split
  all_goals
    intro h
    cases h

/-- **Strings have no limit**, however long they are: `readStringFor` stops at places of the text
only. The induction is on its fuel, with the code points that are done left open. -/
theorem readStringFor_ne_limit (start : List Char) (fuel : Nat) (done : List CodePoint)
    (s : List Char) : readStringFor start fuel done s ≠ .error (.limit cause) := by
  -- every character that is read uses up some fuel, and all faults on the way are of the text
  -- itself
  induction fuel generalizing done s with
  | zero =>
    rw [readStringFor]
    rintro ⟨⟩
  | succ fuel ih =>
    rw [readStringFor.eq_def]
    dsimp only
    split
    · rintro ⟨⟩
    · rintro ⟨⟩
    · rintro ⟨⟩
    · rename_i rest
      have hescape : readCodeEscape ('u' :: rest) ≠ .error (.limit cause) :=
        readCodeEscape_ne_limit _
      split
      · rename_i hread
        rw [hread] at hescape
        rintro ⟨⟩
        exact hescape rfl
      · exact ih _ _
    · split
      · rintro ⟨⟩
      · exact ih _ _
    · split
      · rintro ⟨⟩
      · exact ih _ _

/-- A numeral stops `readNumber` for another reason than its spelling if it has too many digits. -/
theorem limitFault_of_readNumber {s : List Char} (h : readNumber limits s = .error (.limit cause)) :
    LimitFault limits cause := by
  rw [readNumber] at h
  dsimp only at h
  split at h
  · cases h
  · split at h
    · split at h
      · rename_i hcount
        cases h
        exact .digits hcount
      · cases h
    · cases h

/-- Words have no limit, so that the limits of `readScalar` are those of `readNumber`. -/
theorem limitFault_of_readScalar {s : List Char} (h : readScalar limits s = .error (.limit cause)) :
    LimitFault limits cause := by
  rw [readScalar] at h
  split at h
  · cases h
  · exact limitFault_of_readNumber h

/-! ## Lists and objects -/

/-- With so much fuel, whoever stops for another reason than the text has passed a limit. The three
readers call each other, and so their three laws are one induction hypothesis. -/
structure StopsAtLimits (limits : Limits) (fuel : Nat) : Prop where
  /-- The reader of values, -/
  value : ∀ {depth : Nat} {s : List Char} {cause : Fault},
    readValueFor limits fuel depth s = .error (.limit cause) → LimitFault limits cause
  /-- that of the items of a list, -/
  items : ∀ {depth : Nat} {done : List Value} {s : List Char} {cause : Fault},
    readItemsFor limits fuel depth done s = .error (.limit cause) → LimitFault limits cause
  /-- and that of the entries of an object. -/
  entries : ∀ {depth : Nat} {done : List (AnyText × Value)} {s : List Char} {cause : Fault},
    readEntriesFor limits fuel depth done s = .error (.limit cause) → LimitFault limits cause

namespace StopsAtLimits

variable {fuel depth : Nat} {s : List Char}

/-- Without fuel a reader stops at a place of the text. -/
theorem zero (limits : Limits) : StopsAtLimits limits 0 := by
  constructor
  case value =>
    intro depth s cause h
    rw [readValueFor] at h
    cases h
  case items =>
    intro depth done s cause h
    rw [readItemsFor] at h
    cases h
  case entries =>
    intro depth done s cause h
    rw [readEntriesFor] at h
    cases h

/-- A value is nested too deep itself, or what is in it passes a limit. Keys and texts never do. -/
theorem value_succ (h : StopsAtLimits limits fuel)
    (hread : readValueFor limits (fuel + 1) depth s = .error (.limit cause)) :
    LimitFault limits cause := by
  rw [readValueFor.eq_def] at hread
  dsimp only at hread
  split at hread
  · split at hread
    · rename_i hstring
      cases hread
      -- a string is read without a look at the limits
      exact absurd hstring (readStringFor_ne_limit _ _ _ _)
    · cases hread
  · split at hread
    · cases hread
      -- at depth zero the bracket is too deep, and otherwise the items are read a level below
      exact .nesting .array
    · split at hread
      · cases hread
      · exact h.items hread
  · split at hread
    · cases hread
      exact .nesting .object
    · split at hread
      · cases hread
      · exact h.entries hread
  · exact limitFault_of_readScalar hread

/-- `readItemsFor` passes on the stops of its items, and those of the remaining ones. -/
theorem items_succ (h : StopsAtLimits limits fuel) {done : List Value}
    (hread : readItemsFor limits (fuel + 1) depth done s = .error (.limit cause)) :
    LimitFault limits cause := by
  rw [readItemsFor] at hread
  split at hread
  · rename_i hitem
    cases hread
    exact h.value hitem
  · split at hread
    · cases hread
    · exact h.items hread
    · cases hread

/-- `readEntriesFor` does the same; a key is a string and has no limit. -/
theorem entries_succ (h : StopsAtLimits limits fuel) {done : List (AnyText × Value)}
    (hread : readEntriesFor limits (fuel + 1) depth done s = .error (.limit cause)) :
    LimitFault limits cause := by
  rw [readEntriesFor.eq_def] at hread
  dsimp only at hread
  split at hread
  · split at hread
    · rename_i hkey
      cases hread
      exact absurd hkey (readStringFor_ne_limit _ _ _ _)
    · split at hread
      · split at hread
        · rename_i hitem
          cases hread
          -- a limit is passed in the value, or in the entries after it
          exact h.value hitem
        · split at hread
          · cases hread
          · exact h.entries hread
          · cases hread
      · cases hread
  · cases hread

theorem of_fuel (limits : Limits) (fuel : Nat) : StopsAtLimits limits fuel := by
  induction fuel with
  | zero => exact zero limits
  | succ fuel ih => exact ⟨ih.value_succ, ih.items_succ, ih.entries_succ⟩

end StopsAtLimits

/-- **Reading goes wrong at a place of the text, or at a limit.** The first kind has the family of
the JSON faults, which callers are ready for; the second kind escapes from them. Which limits there
are says `Json.LimitFault`. -/
theorem fault_of_read {s : List Char} (h : read limits s = .error cause) :
    cause.family = .json ∨ LimitFault limits cause := by
  rw [read] at h
  split at h
  · cases h
  · cases h
    exact .inl rfl
  · rename_i hread
    cases h
    refine .inr ?_
    -- After a value only blanks may follow, and what else follows is a place of the text.
    rw [readText.eq_def] at hread
    split at hread
    · cases hread
    · split at hread
      · rename_i hvalue
        cases hread
        exact (StopsAtLimits.of_fuel limits _).value hvalue
      · split at hread
        · cases hread
        · cases hread

end LoadLedger.Json
