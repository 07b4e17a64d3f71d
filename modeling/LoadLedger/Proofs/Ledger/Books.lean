import LoadLedger.Proofs.Ledger.RecentErrors

/-!
# Books and logs

A ledger has two parts that do not depend on each other: its books, that is everything it counts and
computes from counts, and its two logs of errors. Merging outcomes in another order leaves the same
books (`Ledger.sameBooks_leave_comm`), since they only add up; a log shows the order of the outcomes
that append to it and of no others (`Ledger.errors_leave`). Sampling reads and writes the books
alone, so that ledgers with the same books answer the same (`Ledger.SameBooks.sample`).

A footprint (`Outcome.footprint`) says what an outcome adds to either part. Two footprints commute
on the books always, and on a log if one of them has no entry for it (`Ledger.errors_leave_comm`).
-/

namespace LoadLedger

/-! ## Logs -/

/-- The two logs of errors. -/
inductive ErrorLog
  | http
  | other
  deriving DecidableEq

/-- What is shown of a log among the most recent errors. -/
def RecentErrors.ofLog (e : RecentErrors) : ErrorLog → List Value
  | .http => e.http
  | .other => e.other

/-- What a footprint leaves in a log. -/
def Footprint.entry (f : Footprint) : ErrorLog → Option Value
  | .http => f.http
  | .other => f.other

namespace Outcome

/-- Does an outcome leave an entry in a log? An HTTP error does in its own, whatever the operation
was. An error without a response and a failed consistency check do in the other one. -/
def appendsTo (o : Outcome) : ErrorLog → Bool
  | .http => o.status.name == .httpError
  | .other => o.status.name == .otherError || (o.kind == .consistency && o.wasTestFailure)

/-- An outcome that does not append to a log leaves no entry there, however its merge ends. -/
theorem entry_footprint_eq_none [Depths] {o : Outcome} {log : ErrorLog}
    (h : o.appendsTo log = false) :
    o.footprint.entry log = none := by
  obtain ⟨kind, status⟩ := o
  cases log with
  | http =>
    cases status with
    | httpError code message => cases h
    | _ => rfl
  | other =>
    -- nothing is put onto the other log for a success, and otherwise the sort of the error decides
    rw [footprint]
    split
    · rfl
    split
    · rfl
    cases status with
    | otherError message => cases h
    | success | throttled | notFound => cases kind <;> rfl
    | testFailure | httpError =>
      cases kind with
      | consistency => cases h
      | _ => rfl

/-- A plain outcome leaves just the entries that its kind and its status call for. -/
theorem isSome_entry_footprint [Depths] {o : Outcome} (h : o.Plain) (log : ErrorLog) :
    (o.footprint.entry log).isSome = o.appendsTo log := by
  rw [footprint_of_plain h]
  obtain ⟨kind, status⟩ := o
  cases log with
  | http =>
    cases status with
    | httpError code message =>
      obtain ⟨i, rfl, -⟩ := h.1 code rfl
      obtain ⟨t, rfl⟩ := h.2 message rfl
      rw [httpText_httpError]
      rfl
    | _ => rfl
  | other => cases status <;> cases kind <;> rfl

end Outcome

namespace Ledger

/-- A log of a ledger. -/
def errors (l : Ledger) : ErrorLog → RecentLog Value
  | .http => l.httpErrors
  | .other => l.otherErrors

variable {l m n : Ledger}

/-- The recent errors are the newest entries of each log. -/
theorem ofLog_recentErrors (l : Ledger) (limit : Int) (log : ErrorLog) :
    (l.recentErrors limit).ofLog log = (l.errors log).latest limit := by
  cases log <;> rfl

theorem SameErrors.errors_eq (h : l.SameErrors m) (log : ErrorLog) :
    l.errors log = m.errors log := by
  cases log with
  | http => exact h.http
  | other => exact h.other

/-- A log grows by what the footprint has for it. -/
theorem errors_leave (l : Ledger) (f : Footprint) (log : ErrorLog) :
    (l.leave f).errors log = (l.errors log).pushAll (f.entry log).toList := by
  cases log <;> rfl

/-- Two footprints of which one has nothing for a log can be left in either order. -/
theorem errors_leave_comm (l : Ledger) {f g : Footprint} {log : ErrorLog}
    (h : f.entry log = none ∨ g.entry log = none) :
    ((l.leave f).leave g).errors log = ((l.leave g).leave f).errors log := by
  simp only [errors_leave]
  rcases h with h | h
  · simp only [h, Option.toList_none]
    rfl
  · simp only [h, Option.toList_none]
    rfl

/-! ## Books -/

/-- Two ledgers that agree on **everything but the logs**: what was counted, what is computed from
it, and since when. Merging and sampling keep it, with the same answers. -/
structure SameBooks (l m : Ledger) : Prop where
  startTime : l.startTime = m.startTime
  totals : l.totals = m.totals
  openRequests : l.openRequests = m.openRequests
  lastTotals : l.lastTotals = m.lastTotals
  windows : l.windows = m.windows
  current : l.current = m.current
  intervals : l.intervals = m.intervals

namespace SameBooks

theorem refl (l : Ledger) : l.SameBooks l :=
  ⟨rfl, rfl, rfl, rfl, rfl, rfl, rfl⟩

theorem symm (h : l.SameBooks m) : m.SameBooks l where
  startTime := h.startTime.symm
  totals := h.totals.symm
  openRequests := h.openRequests.symm
  lastTotals := h.lastTotals.symm
  windows := h.windows.symm
  current := h.current.symm
  intervals := h.intervals.symm

theorem trans (h : l.SameBooks m) (h' : m.SameBooks n) : l.SameBooks n where
  startTime := h.startTime.trans h'.startTime
  totals := h.totals.trans h'.totals
  openRequests := h.openRequests.trans h'.openRequests
  lastTotals := h.lastTotals.trans h'.lastTotals
  windows := h.windows.trans h'.windows
  current := h.current.trans h'.current
  intervals := h.intervals.trans h'.intervals

theorem leave (h : l.SameBooks m) (f : Footprint) : (l.leave f).SameBooks (m.leave f) :=
  { h with
    totals := congrArg (· + f.counts) h.totals
    openRequests := congrArg (· + f.counts.requests) h.openRequests }

end SameBooks

/-- **The books do not show the order** in which two footprints were left: counting is adding, and
addition commutes. -/
theorem sameBooks_leave_comm (l : Ledger) (f g : Footprint) :
    ((l.leave f).leave g).SameBooks ((l.leave g).leave f) :=
  { SameBooks.refl l with
    totals := add_right_comm l.totals f.counts g.counts
    openRequests := Nat.add_right_comm l.openRequests f.counts.requests g.counts.requests }

/-! ## Sampling -/

/-- The ledger with other logs, and all its books. -/
def withLogs (l : Ledger) (http other : RecentLog Value) : Ledger :=
  { l with httpErrors := http, otherErrors := other }

theorem sameBooks_withLogs (l : Ledger) (http other : RecentLog Value) :
    (l.withLogs http other).SameBooks l :=
  { SameBooks.refl l with }

/-- A ledger with the same books is the same ledger with other logs. -/
theorem SameBooks.eq_withLogs (h : l.SameBooks m) :
    m = l.withLogs m.httpErrors m.otherErrors := by
  cases l
  cases m
  cases h
  subst_vars
  rfl

section WithLogs

variable (http other : RecentLog Value)

theorem enter_withLogs (l : Ledger) (q : Quantity) (traffic : Int) :
    (l.withLogs http other).enter q traffic =
      (l.enter q traffic).map (·.withLogs http other) := by
  simp only [enter, withLogs]
  cases (l.windows.get q).pushValue (.int traffic) <;> rfl

theorem enterAll_withLogs (traffic : PerQuantity Int) (qs : List Quantity) (l : Ledger) :
    enterAll traffic qs (l.withLogs http other) =
      ((enterAll traffic qs l).1, (enterAll traffic qs l).2.withLogs http other) := by
  induction qs generalizing l with
  | nil => rfl
  | cons q qs ih =>
    rw [enterAll, enterAll, enter_withLogs]
    cases l.enter q (traffic.get q) with
    | error cause => rfl
    | ok next => exact ih next

/-- A sample does not look at the logs, even if it breaks off. -/
theorem sample_withLogs (l : Ledger) :
    (l.withLogs http other).sample = (l.sample.1, l.sample.2.withLogs http other) := by
  have hentered : enterAll (l.withLogs http other).openTraffic Quantity.all
      { l.withLogs http other with lastTotals := (l.withLogs http other).totals } = _ :=
    enterAll_withLogs http other l.openTraffic Quantity.all { l with lastTotals := l.totals }
  simp only [sample, hentered]
  cases enterAll l.openTraffic Quantity.all { l with lastTotals := l.totals } with
  | mk result entered => cases result <;> rfl

end WithLogs

/-- **Ledgers with the same books answer a sample alike** and have the same books afterwards. -/
theorem SameBooks.sample (h : l.SameBooks m) :
    l.sample.1 = m.sample.1 ∧ l.sample.2.SameBooks m.sample.2 := by
  rw [h.eq_withLogs, sample_withLogs]
  exact ⟨rfl, (sameBooks_withLogs _ _ _).symm⟩

end Ledger

end LoadLedger
