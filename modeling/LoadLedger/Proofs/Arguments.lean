import LoadLedger.Arguments

/-!
# What an interval can be

The interval of the command line is a floating-point number, or nothing: it was not given, or it was
set to nothing (`Arguments.interval_of_read`). This holds at the start, and reading one more
argument keeps it.
-/

namespace LoadLedger

/-- What an option may hold whose values are decimals. -/
def IsDecimalOption (v : Value) : Prop :=
  v = .null ∨ v = .list [] ∨ ∃ x, v = .float x

namespace ArgumentState

variable {s next : ArgumentState} {option : OptionName}

/-- An option that is set to a decimal holds one, and setting another one changes nothing. -/
theorem isDecimalOption_set (h : IsDecimalOption s.interval) {v : Value}
    (hv : option = .interval → IsDecimalOption v) : IsDecimalOption (s.set option v).interval := by
  cases option with
  | interval => exact hv rfl
  | _ => exact h

/-- Where an option is set to a text, its own reading decides what it holds. -/
theorem isDecimalOption_setText (h : IsDecimalOption s.interval) {text : String}
    (hset : s.setText option text = .ok next) : IsDecimalOption next.interval := by
  rw [setText] at hset
  cases hvalue : valueOf option text with
  | error stop =>
    rw [hvalue] at hset
    cases hset
  | ok v =>
    rw [hvalue] at hset
    cases hset
    refine isDecimalOption_set h ?_
    rintro rfl
    rw [valueOf, decimal] at hvalue
    split at hvalue
    · cases hvalue
      exact .inr (.inr ⟨_, rfl⟩)
    · cases hvalue

theorem isDecimalOption_setJoined (h : IsDecimalOption s.interval) {text : String}
    (hset : s.setJoined option text = .ok next) : IsDecimalOption next.interval := by
  rw [setJoined] at hset
  split at hset
  · cases hset
    exact isDecimalOption_set h fun _ => .inr (.inl rfl)
  · exact isDecimalOption_setText h hset

/-- Reading keeps it, argument by argument: the induction is on the tokens that are left. -/
theorem isDecimalOption_read {tokens : List ArgumentToken} (h : IsDecimalOption s.interval)
    (hread : s.read tokens = .ok next) : IsDecimalOption next.interval := by
  fun_induction ArgumentState.read s tokens with
  | case1 =>
    cases hread
    exact h
  -- what is no option leaves the options alone
  | case2 _ _ _ ih | case3 _ _ _ _ ih | case4 _ _ _ _ _ ih | case5 _ _ _ _ _ ih
  | case6 _ _ _ _ _ _ ih | case7 _ _ _ _ ih | case8 _ _ _ _ _ ih | case9 _ _ _ ih =>
    exact ih h hread
  | case13 _ _ _ _ _ _ hset ih => exact ih (isDecimalOption_setJoined h hset) hread
  | case15 _ _ _ _ _ _ hset ih => exact ih (isDecimalOption_setText h hset) hread
  | case10 | case11 | case12 | case14 | case16 => cases hread

end ArgumentState

/-- **The interval of the command line is a floating-point number or nothing.** What keeps it so is
`IsDecimalOption`. -/
theorem Arguments.interval_of_read {config : String} {arguments : List String} {a : Arguments}
    (h : Arguments.read config arguments = .ok a) : IsDecimalOption a.interval := by
  rw [Arguments.read] at h
  split at h
  · cases h
  · split at h
    · cases h
    · rename_i s hread
      have hinterval : IsDecimalOption s.interval :=
        ArgumentState.isDecimalOption_read (.inl rfl) hread
      rw [ArgumentState.finish] at h
      split at h
      · cases h
      · split at h
        · cases h
          exact hinterval
        · cases h

end LoadLedger
