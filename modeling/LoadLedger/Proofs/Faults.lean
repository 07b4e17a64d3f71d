import LoadLedger.Fault

/-!
# Computations that may fail

A computation in several stages has a result exactly if each stage has one, and its fault is that of
the first stage that has none. Readers, constructors and schedules are all written in this way, so
that a result of one of them is taken apart stage by stage with `bind_eq_ok`, and a fault with
`bind_eq_error`.

Callers tell faults apart by their families and are ready for some of them only. The others escape,
from two stages in a row as from each of them (`escapesFrom_bind_iff`).

`EscapesFrom` takes the families that callers are ready for as a parameter, so that reading a
record, a line, a file or settings are instances of one notion.
-/

namespace LoadLedger

/-- Whether a computation has a result can be told by carrying it out. -/
instance decidableExistsEqOk (x : Except ε α) : Decidable (∃ a, x = .ok a) :=
  match x with
  | .ok a => .isTrue ⟨a, rfl⟩
  | .error _ => .isFalse (by rintro ⟨_, ⟨⟩⟩)

/-- Whether a computation ends with a fault can be told in the same way. -/
instance decidableEqError (x : Except Fault α) (cause : Fault) : Decidable (x = .error cause) :=
  match x with
  | .ok _ => .isFalse (by rintro ⟨⟩)
  | .error c => decidable_of_iff (c = cause) (by rw [Except.error.injEq])

/-- Two stages in a row have a result if the first one has one with which the second one has it. -/
theorem bind_eq_ok {x : Except Fault α} {f : α → Except Fault β} {b : β} :
    x >>= f = .ok b ↔ ∃ a, x = .ok a ∧ f a = .ok b := by
  constructor
  · intro h
    cases x with
    | error cause => cases h
    | ok a => exact ⟨a, rfl, h⟩
  · rintro ⟨a, rfl, h⟩
    exact h

/-- Two stages in a row have a fault if the first one has it, or the second one with a result of the
first one. -/
theorem bind_eq_error {x : Except Fault α} {f : α → Except Fault β} {cause : Fault} :
    x >>= f = .error cause ↔ x = .error cause ∨ ∃ a, x = .ok a ∧ f a = .error cause := by
  constructor
  · intro h
    cases x with
    | error c => exact .inl (by cases h; rfl)
    | ok a => exact .inr ⟨a, rfl, h⟩
  · rintro (rfl | ⟨a, rfl, h⟩)
    · rfl
    · exact h

/-- What is only put into another form afterwards has the faults that it had before. -/
theorem bind_pure_eq_error {x : Except Fault α} {f : α → β} {cause : Fault} :
    (x >>= fun a => pure (f a)) = .error cause ↔ x = .error cause := by
  rw [bind_eq_error]
  constructor
  · rintro (h | ⟨a, -, h⟩)
    · exact h
    · cases h
  · exact .inl

/-- Whether two stages in a row have a result at all. -/
theorem exists_bind_eq_ok {x : Except Fault α} {f : α → Except Fault β} :
    (∃ b, x >>= f = .ok b) ↔ ∃ a, x = .ok a ∧ ∃ b, f a = .ok b := by
  constructor
  · rintro ⟨b, h⟩
    obtain ⟨a, ha, hb⟩ := bind_eq_ok.mp h
    exact ⟨a, ha, b, hb⟩
  · rintro ⟨a, ha, b, hb⟩
    exact ⟨b, bind_eq_ok.mpr ⟨a, ha, hb⟩⟩

/-- What is only put into another form afterwards has a result if it had one before. -/
theorem exists_bind_pure_eq_ok {x : Except Fault α} {f : α → β} :
    (∃ b, (x >>= fun a => pure (f a)) = .ok b) ↔ ∃ a, x = .ok a := by
  rw [exists_bind_eq_ok]
  constructor
  · rintro ⟨a, ha, -⟩
    exact ⟨a, ha⟩
  · rintro ⟨a, ha⟩
    exact ⟨a, ha, f a, rfl⟩

/-- `Except.map` keeps to the result. -/
theorem map_eq_ok {x : Except Fault α} {f : α → β} {b : β} :
    x.map f = .ok b ↔ ∃ a, x = .ok a ∧ f a = b := by
  cases x with
  | ok a => exact ⟨fun h => ⟨a, rfl, Except.ok.inj h⟩, by rintro ⟨_, ⟨⟩, rfl⟩; rfl⟩
  | error cause => exact iff_of_false (by rintro ⟨⟩) (by rintro ⟨_, ⟨⟩, -⟩)

/-- `Except.map` leaves a fault what it is. -/
theorem map_eq_error {x : Except Fault α} {f : α → β} {cause : Fault} :
    x.map f = .error cause ↔ x = .error cause := by
  cases x with
  | ok a => exact iff_of_false (by rintro ⟨⟩) (by rintro ⟨⟩)
  | error c => exact ⟨fun h => congrArg _ (Except.error.inj h), fun h => by cases h; rfl⟩

theorem exists_map_eq_ok {x : Except Fault α} {f : α → β} :
    (∃ b, x.map f = .ok b) ↔ ∃ a, x = .ok a := by
  simp only [map_eq_ok]
  exact ⟨fun ⟨_, a, ha, _⟩ => ⟨a, ha⟩, fun ⟨a, ha⟩ => ⟨f a, a, ha, rfl⟩⟩

/-! ## Escapes -/

/-- Does a computation end with a fault **outside the family** that its callers are ready for? -/
def EscapesFrom (family : Fault.Family) (x : Except Fault α) (cause : Fault) : Prop :=
  x = .error cause ∧ cause.family ≠ family

variable {family : Fault.Family} {cause : Fault}

theorem not_escapesFrom_ok {a : α} : ¬ EscapesFrom family (.ok a) cause := by
  rintro ⟨⟨⟩, -⟩

theorem not_escapesFrom_of_family {c : Fault} (h : c.family = family) :
    ¬ EscapesFrom family (.error c : Except Fault α) cause := by
  rintro ⟨⟨⟩, hfamily⟩
  exact hfamily h

/-- A fault escapes from two stages in a row if it does from the first one or, with a result of the
first one, from the second one. -/
theorem escapesFrom_bind_iff {x : Except Fault α} {f : α → Except Fault β} :
    EscapesFrom family (x >>= f) cause ↔
      EscapesFrom family x cause ∨ ∃ a, x = .ok a ∧ EscapesFrom family (f a) cause := by
  refine ⟨?_, ?_⟩
  · rintro ⟨h, hfamily⟩
    obtain hx | ⟨a, ha, hf⟩ := bind_eq_error.mp h
    · exact .inl ⟨hx, hfamily⟩
    · exact .inr ⟨a, ha, hf, hfamily⟩
  · rintro (⟨hx, hfamily⟩ | ⟨a, ha, hf, hfamily⟩)
    · exact ⟨bind_eq_error.mpr (.inl hx), hfamily⟩
    · exact ⟨bind_eq_error.mpr (.inr ⟨a, ha, hf⟩), hfamily⟩

/-- What is only put into another form afterwards lets the same faults escape. -/
theorem escapesFrom_bind_pure_iff {x : Except Fault α} {f : α → β} :
    EscapesFrom family (x >>= fun a => pure (f a)) cause ↔ EscapesFrom family x cause := by
  rw [EscapesFrom, bind_pure_eq_error, EscapesFrom]

end LoadLedger
