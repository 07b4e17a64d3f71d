import LoadLedger.Machine
import LoadLedger.Proofs.Ledger.Merging
import LoadLedger.Proofs.Values

/-!
# Which merges are transactions

A merge is a transaction if it applies the whole update of an outcome or leaves the ledger alone
(`Ledger.Transactional`). Something that is no outcome is turned away before anything is counted.
An outcome is let in with any details; its code is compared and its line for the HTTP errors is
written when a part of it is counted already, and writing fails for integers that are too long and
for values that are nested too deep. So the merge of an outcome is a transaction exactly if
these two stages have a result, which is a matter of its details alone (`Outcome.mergeable_iff`).
A merge that breaks off leaves a request and a failure behind, without an operation that they belong
to (`Ledger.merge_of_not_mergeable`).

**What remains.** `Outcome.remainder` is the part of an update that is missing when a merge has
broken off. With it the broken update and the whole one can be compared
(`Ledger.merge_of_mergeable`).
-/

namespace LoadLedger

/-! ## Details that can be merged -/

/-- A code can be compared exactly if it is a number, be it an integer, a floating-point number or a
truth value. -/
theorem Value.exists_isServerErrorCode_iff {code : Value} :
    (∃ b, code.isServerErrorCode = .ok b) ↔ code.amount?.isSome := by
  rw [Value.isServerErrorCode]
  cases code.amount? with
  | none => exact iff_of_false (by rintro ⟨_, ⟨⟩⟩) Bool.false_ne_true
  | some amount => cases amount <;> exact iff_of_true ⟨_, rfl⟩ rfl

namespace Outcome

variable [Depths]

/-- Can the outcome be merged as a whole? The code of an HTTP error has to be a number, and its
details have to go into a line: no integer in them may be too long, and there has to be room for
what they nest. -/
def Mergeable (o : Outcome) : Prop :=
  match o.status with
  | .httpError code message =>
    code.amount?.isSome ∧ code.WritableAt .recentError ∧ message.WritableAt .recentError
  | _ => True

/-- An outcome can be merged as a whole exactly if its code can be compared and its line can be
written: `Mergeable` names the details that decide about the two stages. -/
theorem mergeable_iff {o : Outcome} :
    o.Mergeable ↔ (∃ b, o.wasServerError = .ok b) ∧ ∃ line, o.httpLine = .ok line := by
  obtain ⟨kind, status⟩ := o
  cases status with
  | httpError code message =>
    rw [Mergeable, wasServerError, httpLine, Value.exists_isServerErrorCode_iff,
      exists_bind_eq_ok]
    simp only [exists_bind_pure_eq_ok, exists_and_right, Value.exists_shownAt_iff]
  | _ => exact iff_of_true trivial ⟨⟨_, rfl⟩, _, rfl⟩

/-- A line that cannot be written has an integer beyond the limit in it, or values that are nested
too deep. -/
theorem cause_of_httpLine {o : Outcome} {cause : Fault}
    (h : o.httpLine = .error cause) : cause = .unwritableInteger ∨ cause = .tooDeepToWrite := by
  have hshown : ∀ v : Value, v.shownAt .recentError = .error cause →
      cause = .unwritableInteger ∨ cause = .tooDeepToWrite := by
    intro v hv
    exact (Value.unwritableAt_iff_shownAt.mpr hv).blocked.imp And.left And.left
  obtain ⟨kind, status⟩ := o
  cases status with
  | httpError code message =>
    obtain hcode | ⟨_, -, hrest⟩ := bind_eq_error.mp h
    · exact hshown code hcode
    · exact hshown message (bind_pure_eq_error.mp hrest)
  | _ => cases h

/-- What is counted of an HTTP error before its merge can break off: a request and a failure, and
possibly a server error. -/
def remainder (serverError : Bool) : Counters :=
  { (0 : Counters) with
    requests := 1
    failures := 1
    serverErrors := countIf serverError }

/-- An outcome that can be merged as a whole has a whole footprint, whether it is a server error or
not. -/
theorem footprint_of_mergeable {o : Outcome} (h : o.Mergeable) :
    ∃ serverError line, o.wasServerError = .ok serverError ∧ o.httpLine = .ok line ∧
      o.footprint = o.wholeFootprint serverError line := by
  obtain ⟨⟨serverError, hcode⟩, line, hline⟩ := mergeable_iff.mp h
  refine ⟨serverError, line, hcode, hline, ?_⟩
  rw [footprint, hcode, hline]

/-- Any other outcome leaves the remainder of an HTTP error and ends with the fault of the stage
that has no result. -/
theorem footprint_of_not_mergeable {o : Outcome} (h : ¬ o.Mergeable) :
    ∃ cause serverError, (o.wasServerError = .error cause ∨ o.httpLine = .error cause) ∧
      o.footprint = brokenFootprint cause (remainder serverError) := by
  obtain ⟨kind, status⟩ := o
  cases status with
  | httpError code message =>
    rw [footprint]
    cases hcode : wasServerError ⟨kind, .httpError code message⟩ with
    | error cause => exact ⟨cause, false, .inl rfl, rfl⟩
    | ok serverError =>
      cases hline : httpLine ⟨kind, .httpError code message⟩ with
      | error cause =>
        refine ⟨cause, serverError, .inr rfl, ?_⟩
        cases serverError <;> rfl
      | ok line => exact absurd (mergeable_iff.mpr ⟨⟨_, hcode⟩, _, hline⟩) h
  | _ => exact absurd trivial h

end Outcome

/-! ## Transactions -/

namespace Ledger

section

variable [Depths]

/-- Is it a transaction to merge something into a ledger? Either an outcome is applied as a whole,
in all its counts and with the entries that it leaves in the logs, or a fault ends the merge and the
ledger is the same as before. -/
def Transactional (l : Ledger) (item : Outcome ⊕ Value) : Prop :=
  (∃ o serverError line, item = .inl o ∧ o.wasServerError = .ok serverError ∧
      o.httpLine = .ok line ∧
      l.mergeAny item = (.ok (), l.leave (o.wholeFootprint serverError line))) ∨
    ∃ cause, l.mergeAny item = (.error cause, l)

omit [Depths] in
/-- What is counted shows in the requests, of which the `remainder` has one. -/
theorem count_remainder_ne (l : Ledger) (serverError : Bool) :
    l.count (Outcome.remainder serverError) ≠ l := by
  intro h
  have hrequests := congrArg (fun m : Ledger => m.totals.requests) h
  exact Nat.succ_ne_self _ hrequests

/-- **An outcome that can be merged is merged as a whole**, in any state of the ledger. What it
leaves is `Outcome.wholeFootprint`. -/
theorem merge_of_mergeable {o : Outcome} (h : o.Mergeable) (l : Ledger) :
    l.Transactional (.inl o) := by
  obtain ⟨serverError, line, hcode, hline, hfootprint⟩ := Outcome.footprint_of_mergeable h
  refine .inl ⟨o, serverError, line, rfl, hcode, hline, ?_⟩
  rw [mergeAny, merge_eq_leave, hfootprint]
  rfl

/-- **A merge that breaks off** ends with the fault of the stage that has no result, and a request
and a failure stay counted. Neither the logs nor the windows are touched. What it leaves is
`Outcome.brokenFootprint`. -/
theorem merge_of_not_mergeable {o : Outcome} (h : ¬ o.Mergeable) (l : Ledger) :
    ∃ cause serverError,
      (o.wasServerError = .error cause ∨
        o.httpLine = .error cause ∧ (cause = .unwritableInteger ∨ cause = .tooDeepToWrite)) ∧
      l.mergeAny (.inl o) = (.error cause, l.count (Outcome.remainder serverError)) := by
  obtain ⟨cause, serverError, hstage, hfootprint⟩ := Outcome.footprint_of_not_mergeable h
  refine ⟨cause, serverError, ?_, ?_⟩
  · exact hstage.imp_right fun hline => ⟨hline, Outcome.cause_of_httpLine hline⟩
  · rw [mergeAny, merge_eq_leave, hfootprint]
    rfl

/-- A merge that fails with something counted is no transaction: it is not applied as a whole, since
it fails, and the ledger is not what it was. -/
theorem not_transactional_of_count {l : Ledger} {item : Outcome ⊕ Value} {cause : Fault}
    {serverError : Bool}
    (h : l.mergeAny item = (.error cause, l.count (Outcome.remainder serverError))) :
    ¬ l.Transactional item := by
  rintro (⟨o, _, line, -, -, -, hwhole⟩ | ⟨_, hkept⟩)
  · cases h.symm.trans hwhole
  · exact count_remainder_ne l serverError (Prod.mk.inj (h.symm.trans hkept)).2

/-- **Merging is a transaction exactly for what can be merged as a whole or is no outcome.** In any
state of the ledger, whether a merge is a transaction depends on the details of an HTTP error alone.
Where it is none, the merge ends with a fault, and a request and a failure stay counted that belong
to no operation. -/
theorem transactional_iff_mergeable (l : Ledger) (item : Outcome ⊕ Value) :
    (l.Transactional item ↔ ∀ o, item = .inl o → o.Mergeable) ∧
      ∀ o, item = .inl o → ¬ o.Mergeable → ∃ cause serverError,
        (o.wasServerError = .error cause ∨
          o.httpLine = .error cause ∧
            (cause = .unwritableInteger ∨ cause = .tooDeepToWrite)) ∧
        l.mergeAny item = (.error cause, l.count (Outcome.remainder serverError)) := by
  refine ⟨⟨?_, ?_⟩, ?_⟩
  · rintro h o rfl
    -- What breaks off leaves something behind, so that it cannot be a transaction.
    by_contra hnot
    obtain ⟨cause, serverError, -, hbroken⟩ := merge_of_not_mergeable hnot l
    exact not_transactional_of_count hbroken h
  · intro h
    cases item with
    | inl o => exact merge_of_mergeable (h o rfl) l
    | inr v => exact .inr ⟨_, rfl⟩
  · rintro o rfl h
    exact merge_of_not_mergeable h l

/-- **A message that is nested too deep breaks off a merge**, when a request, a failure and a server
error are counted. Such messages exist whatever `Depths` says (`Value.unwritableAt_nested`). -/
theorem merge_nestedMessage (l : Ledger) (kind : Kind) :
    l.mergeAny (.inl ⟨kind, .httpError (.int 503)
        (Value.nested (Depths.room .recentError))⟩) =
      (.error .tooDeepToWrite, l.count (Outcome.remainder true)) := by
  have hcode : ∃ t, (Value.int 503).shownAt .recentError = .ok t :=
    Value.exists_shownAt_iff.mpr ((Value.writableWithin_int.mpr (by decide +kernel)).at _)
  obtain ⟨code, hcode⟩ := hcode
  have hmessage := Value.unwritableAt_iff_shownAt.mp (Value.unwritableAt_nested .recentError)
  have hline : Outcome.httpLine ⟨kind, .httpError (.int 503)
      (Value.nested (Depths.room .recentError))⟩ = .error .tooDeepToWrite := by
    rw [Outcome.httpLine]
    exact bind_eq_error.mpr (.inr ⟨code, hcode, bind_eq_error.mpr (.inl hmessage)⟩)
  rw [mergeAny, merge_eq_leave, Outcome.footprint, hline]
  rfl

end

/-! ## Codes that break off a merge -/

/-- An HTTP error whose code is a text. -/
def textCode : Outcome :=
  ⟨.put, .httpError (.text "503") (.text "down")⟩

open Machine

/-- A failed consistency check is merged as a whole; the text `503` cannot be compared, and the
merge breaks off. -/
theorem transactional_codes :
    (start 0.0).Transactional (.inl ⟨.consistency, .httpError (.int 503) (.text "down")⟩) ∧
      ∃ serverError, (start 0.0).mergeAny (.inl textCode) =
        (.error (.incomparable "<=" "int" "str"),
          (start 0.0).count (Outcome.remainder serverError)) := by
  refine ⟨?_, ?_⟩
  · refine (transactional_iff_mergeable (start 0.0) _).1.mpr ?_
    rintro o ⟨rfl⟩
    exact ⟨rfl, (Value.writableWithin_int.mpr (by decide +kernel)).at _,
      Value.writableAt_ofText (.whole "down") _⟩
  · have hnot : ¬ textCode.Mergeable := fun h => Bool.false_ne_true h.1
    obtain ⟨cause, serverError, hstage, hmerge⟩ :=
      (transactional_iff_mergeable (start 0.0) (.inl textCode)).2 textCode rfl hnot
    obtain hcode | ⟨hline, -⟩ := hstage
    · cases hcode
      exact ⟨serverError, hmerge⟩
    · cases hline

/-- An HTTP error whose code has more digits than may be written. -/
def longCode : Outcome :=
  ⟨.get, .httpError (.int (Number.tenTo Number.digitLimit)) (.text "down")⟩

/-- The line of such an error cannot be written: the merge fails, and the ledger is not what it was
before. -/
theorem merge_longCode :
    (start 0.0).mergeAny (.inl longCode) =
        (.error .unwritableInteger, (start 0.0).count (Outcome.remainder false)) ∧
      ¬ (start 0.0).Transactional (.inl longCode) := by
  have hcode : longCode.wasServerError = .ok false := by decide +kernel
  have hshown : (Value.int (Number.tenTo Number.digitLimit)).shownAt .recentError =
      .error .unwritableInteger := by
    decide +kernel
  have hline : longCode.httpLine = .error .unwritableInteger := by
    rw [longCode, Outcome.httpLine]
    simp only [hshown]
    rfl
  have hmerge : (start 0.0).mergeAny (.inl longCode) =
      (.error .unwritableInteger, (start 0.0).count (Outcome.remainder false)) := by
    rw [mergeAny, merge_eq_leave, Outcome.footprint, hcode, hline]
    rfl
  exact ⟨hmerge, not_transactional_of_count hmerge⟩

end Ledger

end LoadLedger
