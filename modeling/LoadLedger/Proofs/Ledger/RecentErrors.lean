import LoadLedger.Machine
import LoadLedger.Proofs.Faults
import LoadLedger.Proofs.Ledger.Runs

/-!
# Recent errors

The two logs of errors are the ends of two histories that can be read off the merged outcomes alone:
the lines of all HTTP errors, and the messages of all other errors. Merging writes to the log of
other errors in two places, one for errors without a response and one for failed consistency
checks; `Outcome.otherText` says in one place which outcomes leave a message there, and
`Outcome.otherLine_of_plain` that none leaves two. Samples and looks leave both logs alone
(`Ledger.SameErrors`), so the ledger remembers the end of each history (`Ledger.Remembers`).

`LedgerRun.recentErrors_eq_newest` reads off what is shown: of each history the newest part, as far
as the logs and the limit reach.
-/

namespace LoadLedger

/-! ## What one outcome leaves -/

namespace Outcome

/-- The text that an outcome leaves among the other errors, if its details are plain. An error
without a response leaves its message whatever the operation was; a failed test does so only if it
was a consistency check. -/
def otherText (o : Outcome) : Option AnyText :=
  match o.kind, o.status with
  | _, .otherError message => messageText? message
  | .consistency, .testFailure message => messageText? message
  | .consistency, .httpError _ message => messageText? message
  | _, _ => none

/-- No outcome leaves two lines among the other errors: what `otherLine` leaves is the `otherText`,
if the details are plain. -/
theorem otherLine_of_plain {o : Outcome} (h : o.Plain) :
    o.otherLine = o.otherText.map Value.ofText := by
  obtain ⟨kind, status⟩ := o
  obtain ⟨-, hmessage⟩ := h
  cases status with
  | success | throttled | notFound => cases kind <;> rfl
  | testFailure message | httpError _ message | otherError message =>
    obtain ⟨t, rfl⟩ := hmessage message rfl
    cases kind <;> simp only [otherLine, otherText, messageText?_ofText] <;> rfl

/-- A failed consistency check without a response is an other error and nothing else. -/
theorem texts_of_otherError {o : Outcome} (h : o.Plain) (hstatus : o.status.name = .otherError) :
    o.httpText = none ∧ ∃ message, o.otherText = some message := by
  obtain ⟨kind, status⟩ := o
  obtain ⟨-, hmessage⟩ := h
  cases status with
  | otherError message =>
    obtain ⟨t, rfl⟩ := hmessage message rfl
    refine ⟨rfl, t, ?_⟩
    cases kind <;> exact messageText?_ofText t
  | _ => cases hstatus

end Outcome

namespace Ledger

/-! ## What leaves the logs alone -/

/-- Two ledgers with the same logs of errors. Whoever asks for the recent errors cannot tell them
apart. -/
structure SameErrors (l m : Ledger) : Prop where
  http : l.httpErrors = m.httpErrors
  other : l.otherErrors = m.otherErrors

namespace SameErrors

variable {l m n : Ledger}

theorem refl (l : Ledger) : l.SameErrors l :=
  ⟨rfl, rfl⟩

theorem trans (h : l.SameErrors m) (h' : m.SameErrors n) : l.SameErrors n :=
  ⟨h.http.trans h'.http, h.other.trans h'.other⟩

end SameErrors

theorem sameErrors_enter {l m : Ledger} {q : Quantity} {traffic : Int}
    (h : l.enter q traffic = .ok m) : m.SameErrors l := by
  rw [enter] at h
  obtain ⟨window, -, h⟩ := bind_eq_ok.mp h
  cases h
  exact ⟨rfl, rfl⟩

theorem sameErrors_enterAll (traffic : PerQuantity Int) (qs : List Quantity) (l : Ledger) :
    (enterAll traffic qs l).2.SameErrors l := by
  induction qs generalizing l with
  | nil => exact .refl l
  | cons q qs ih =>
    rw [enterAll]
    cases hentered : l.enter q (traffic.get q) with
    | error cause => exact .refl l
    | ok next => exact (ih next).trans (sameErrors_enter hentered)

/-- A sample touches no log, even if it breaks off. -/
theorem sameErrors_sample (l : Ledger) : l.sample.2.SameErrors l := by
  have hentered := sameErrors_enterAll l.openTraffic Quantity.all { l with lastTotals := l.totals }
  rw [sample]
  cases henter : enterAll l.openTraffic Quantity.all { l with lastTotals := l.totals } with
  | mk result entered =>
    rw [henter] at hentered
    cases result with
    | error cause => exact ⟨hentered.http, hentered.other⟩
    | ok _ => exact ⟨hentered.http, hentered.other⟩

/-- **Only outcomes are remembered**: a call that merges none leaves both logs as they are. -/
theorem sameErrors_perform [Depths] {a : LedgerAction} (h : a.outcome? = none) (l : Ledger) :
    (l.perform a).2.SameErrors l := by
  cases a with
  | merge item =>
    cases item with
    | inl o => cases h
    | inr v => exact .refl l
  | sample => exact sameErrors_sample l
  | snapshot now => exact .refl l
  | windowHistory => exact .refl l
  | recentErrors limit => exact .refl l

/-! ## The invariant -/

/-- The logs of a ledger are **the ends of the histories** of outcomes: each is the ring onto which
one history was pushed. The histories are those of `Outcome.httpText` and `Outcome.otherText`. -/
structure Remembers (l : Ledger) (outcomes : List Outcome) : Prop where
  /-- The lines of the HTTP errors. -/
  http : l.httpErrors =
    RingBuffer.pushAll (RecentLog.fresh Value) ((outcomes.filterMap Outcome.httpText).map .ofText)
  /-- The messages of the other errors, in the order of the outcomes. -/
  other : l.otherErrors =
    RingBuffer.pushAll (RecentLog.fresh Value) ((outcomes.filterMap Outcome.otherText).map .ofText)

theorem remembers_start (time : Float) : (start time).Remembers [] :=
  ⟨rfl, rfl⟩

/-- What a history with one more outcome comes to. -/
theorem map_filterMap_concat (text : Outcome → Option AnyText) (outcomes : List Outcome)
    (o : Outcome) :
    ((outcomes ++ [o]).filterMap text).map Value.ofText =
      (outcomes.filterMap text).map Value.ofText ++ ((text o).map Value.ofText).toList := by
  rw [List.filterMap_append, List.map_append, List.filterMap_cons]
  cases text o <;> rfl

namespace Remembers

variable {l m : Ledger} {outcomes : List Outcome}

theorem congr (h : l.Remembers outcomes) (hsame : m.SameErrors l) : m.Remembers outcomes :=
  ⟨hsame.http.trans h.http, hsame.other.trans h.other⟩

/-- A plain outcome leaves its texts behind those that are there, one in each log at most. -/
theorem merge (h : l.Remembers outcomes) {o : Outcome} (ho : o.Plain) :
    (l.merged o).Remembers (outcomes ++ [o]) := by
  constructor
  case http =>
    rw [map_filterMap_concat, RingBuffer.pushAll_append, ← h.http]
    rfl
  case other =>
    rw [map_filterMap_concat, RingBuffer.pushAll_append, ← h.other, ← Outcome.otherLine_of_plain ho]
    rfl

/-- **Every call keeps the logs in step** with the histories. Merging a plain outcome pushes what
`otherText` and `httpText` say of it. -/
theorem perform [Depths] (h : l.Remembers outcomes) {a : LedgerAction} (ha : a.Plain) :
    (l.perform a).2.Remembers (outcomes ++ a.outcome?.toList) := by
  cases hout : a.outcome? with
  | none =>
    rw [Option.toList_none, List.append_nil]
    exact h.congr (sameErrors_perform hout l)
  | some o =>
    obtain rfl := LedgerAction.outcome?_eq_some.mp hout
    rw [Ledger.perform, mergeAny, merge_of_plain (ha o rfl)]
    exact h.merge (ha o rfl)

/-- The most recent errors are the ends of the histories, newest first. Each log holds five of them
at most, and the limit takes some of these. -/
theorem recentErrors_eq (h : l.Remembers outcomes) (limit : Int) :
    let newest (history : List AnyText) : List Value :=
      ((lastItems 5 history).reverse.take limit.toNat).map .ofText
    l.recentErrors limit =
      ⟨newest (outcomes.filterMap Outcome.httpText),
        newest (outcomes.filterMap Outcome.otherText)⟩ := by
  intro newest
  have hlatest : ∀ history : List AnyText,
      RingBuffer.latest (RingBuffer.pushAll (RecentLog.fresh Value) (history.map .ofText)) limit =
        newest history := by
    intro history
    -- reversing and cutting commute with turning entries into values
    have hitems : (RingBuffer.pushAll (RecentLog.fresh Value) (history.map Value.ofText)).items =
        (lastItems 5 history).map .ofText := by
      rw [← lastItems_map]
      exact RingBuffer.pushAll_items _ _
    rw [RingBuffer.latest, hitems, ← List.map_reverse, ← List.map_take]
  rw [recentErrors, h.http, h.other, hlatest, hlatest]

end Remembers

end Ledger

namespace LedgerRun

/-- Whole runs keep the logs in step, by induction on the calls. -/
theorem remembers_performAll [Depths] {r : LedgerRun} {outcomes : List Outcome}
    (h : r.ledger.Remembers outcomes) {actions : List LedgerAction}
    (hplain : ∀ a ∈ actions, a.Plain) :
    (r.performAll actions).ledger.Remembers
      (outcomes ++ actions.filterMap LedgerAction.outcome?) := by
  induction actions generalizing r outcomes with
  | nil =>
    rw [List.filterMap_nil, List.append_nil]
    exact h
  | cons a actions ih =>
    rw [LedgerAction.filterMap_outcome?_cons, ← List.append_assoc]
    refine ih (h.perform (hplain a List.mem_cons_self)) ?_
    intro b hb
    exact hplain b (List.mem_cons_of_mem _ hb)

/-- **The logs refine the histories of errors.** After every run of plain outcomes, and for every
limit, the recent HTTP errors and the recent other errors are the last five entries of their
histories, newest first and cut to the limit. One more outcome adds at most one entry to each log,
and a consistency check that failed without a response exactly one altogether; a call that merges no
outcome adds nothing. The invariant is `Ledger.Remembers`. -/
theorem recentErrors_eq_newest [Depths] (time : Float) (actions : List LedgerAction)
    (hplain : ∀ a ∈ actions, a.Plain) (limit : Int) :
    let l := (ofActions time actions).ledger
    let outcomes := actions.filterMap LedgerAction.outcome?
    let newest (history : List AnyText) : List Value :=
      ((lastItems 5 history).reverse.take limit.toNat).map .ofText
    l.recentErrors limit =
        ⟨newest (outcomes.filterMap Outcome.httpText),
          newest (outcomes.filterMap Outcome.otherText)⟩ ∧
      (∀ o : Outcome, o.Plain → ∃ http other : List Value,
        (l.perform (.merge (.inl o))).2.httpErrors = l.httpErrors.pushAll http ∧
        (l.perform (.merge (.inl o))).2.otherErrors = l.otherErrors.pushAll other ∧
        http.length ≤ 1 ∧ other.length ≤ 1 ∧
        (o.kind = .consistency → o.status.name = .otherError →
          http.length + other.length = 1)) ∧
      ∀ a : LedgerAction, a.outcome? = none →
        (l.perform a).2.httpErrors = l.httpErrors ∧
          (l.perform a).2.otherErrors = l.otherErrors := by
  intro l outcomes newest
  have hremembers : l.Remembers outcomes :=
    remembers_performAll (r := ⟨.start time, []⟩) (Ledger.remembers_start time) hplain
  refine ⟨hremembers.recentErrors_eq limit, ?_, ?_⟩
  · intro o ho
    refine ⟨(o.httpText.map Value.ofText).toList, (o.otherText.map Value.ofText).toList,
      ?_, ?_, ?_, ?_, ?_⟩
    · rw [Ledger.perform, Ledger.mergeAny, Ledger.merge_of_plain ho]
      rfl
    · rw [Ledger.perform, Ledger.mergeAny, Ledger.merge_of_plain ho,
        ← Outcome.otherLine_of_plain ho]
      rfl
    · exact Option.length_toList_le
    · exact Option.length_toList_le
    · intro _ hstatus
      obtain ⟨hhttp, message, hother⟩ := Outcome.texts_of_otherError ho hstatus
      rw [hhttp, hother]
      rfl
  -- A call without an outcome adds nothing, be it a sample that breaks off.
  · intro a ha
    obtain ⟨hhttp, hother⟩ := Ledger.sameErrors_perform ha l
    exact ⟨hhttp, hother⟩

/-- Errors of both sorts with a sample in between: six other errors, one of which is an HTTP error
as well, and an error that only counts as a failure. -/
def mixedErrors : List LedgerAction :=
  [.merge (.inl ⟨.get, .otherError (.text "reset")⟩),
    .merge (.inl ⟨.consistency, .otherError (.text "timeout")⟩),
    .merge (.inl ⟨.get, .testFailure (.text "checksum")⟩), .sample,
    .merge (.inl ⟨.consistency, .httpError (.int 503) (.text "down")⟩), .merge (.inr .null),
    .merge (.inl ⟨.put, .httpError (.int 404) (.text "gone")⟩),
    .merge (.inl ⟨.consistency, .testFailure (.text "stale")⟩),
    .merge (.inl ⟨.delete, .otherError (.text "refused")⟩),
    .merge (.inl ⟨.put, .otherError (.text "broken pipe")⟩)]

open Machine

/-- The oldest of the other errors is forgotten, and the failed consistency check is in both
logs. -/
theorem recentErrors_mixedErrors :
    (ofActions 0.0 mixedErrors).ledger.recentErrors 9 =
      ⟨[.text "404: gone", .text "503: down"],
        [.text "broken pipe", .text "refused", .text "stale", .text "down", .text "timeout"]⟩ := by
  have hplain : ∀ a ∈ mixedErrors, a.Plain := by decide +kernel
  have hhttp : (mixedErrors.filterMap LedgerAction.outcome?).filterMap Outcome.httpText =
      ["503: down", "404: gone"] := by decide +kernel
  have hother : (mixedErrors.filterMap LedgerAction.outcome?).filterMap Outcome.otherText =
      ["reset", "timeout", "down", "stale", "refused", "broken pipe"] := by decide +kernel
  obtain ⟨hrecent, -, -⟩ := recentErrors_eq_newest 0.0 mixedErrors hplain 9
  rw [hhttp, hother] at hrecent
  exact hrecent

end LedgerRun

end LoadLedger
