import LoadLedger.Ledger.Snapshot
import LoadLedger.Proofs.Ledger.Sampling

/-!
# Runs of a ledger

A run is any list of calls on a ledger, in any order: merges of outcomes and of anything else,
samples, and looks. Beside the run stands the traffic of its calls, read off the calls alone: which
outcomes were merged in which interval. `Traffic.Tracks` ties the two together, every call keeps it
(`Traffic.Tracks.perform`), and so it holds after every run of plain outcomes
(`Traffic.tracks_run`).

`LedgerRun.perform` carries out a call and keeps what it answers; `Traffic.after` only looks at the
call. A sample closes the open interval of the traffic, and what it answers has to be the counts of
the outcomes in there (`Outcome.trafficOf`).
-/

namespace LoadLedger

/-! ## Calls and answers -/

/-- One call on a ledger. -/
inductive LedgerAction
  /-- An outcome is merged, or something that is none. -/
  | merge (item : Outcome ⊕ Value)
  | sample
  /-- The state is copied while the clock shows a moment. -/
  | snapshot (now : Float)
  | windowHistory
  | recentErrors (limit : Value)

/-- What a call answers. -/
inductive LedgerAnswer
  | merged (result : Except Fault Unit)
  | delta (result : Except Fault (PerQuantity Int))
  | snapshot (result : Except Fault Snapshot)
  | windowHistory (windows : PerQuantity (List Nat))
  | recentErrors (result : Except Fault RecentErrors)

/-- What a sample answered. -/
def LedgerAnswer.delta? : LedgerAnswer → Option (Except Fault (PerQuantity Int))
  | .delta result => some result
  | _ => none

namespace LedgerAction

/-- The outcome that a call merges. -/
def outcome? : LedgerAction → Option Outcome
  | .merge (.inl o) => some o
  | _ => none

/-- Is the call a sample? -/
def isSample : LedgerAction → Bool
  | .sample => true
  | _ => false

/-- Is the outcome that the call merges a plain one, if it merges any? -/
def Plain (a : LedgerAction) : Prop :=
  ∀ o ∈ a.outcome?, o.Plain

instance (a : LedgerAction) : Decidable a.Plain :=
  inferInstanceAs (Decidable (∀ o ∈ a.outcome?, o.Plain))

/-- Only a merge has an outcome. -/
theorem outcome?_eq_some {a : LedgerAction} {o : Outcome} :
    a.outcome? = some o ↔ a = .merge (.inl o) := by
  constructor
  · intro h
    rcases a with (p | v) | _ | _ | _ | _ <;> cases h
    rfl
  · rintro rfl
    rfl

theorem filterMap_outcome?_cons (a : LedgerAction) (actions : List LedgerAction) :
    (a :: actions).filterMap outcome? = a.outcome?.toList ++ actions.filterMap outcome? := by
  rw [List.filterMap_cons]
  cases a.outcome? <;> rfl

end LedgerAction

/-- Carries out a call. Looking changes nothing. -/
def Ledger.perform [Depths] (l : Ledger) : LedgerAction → LedgerAnswer × Ledger
  | .merge item => ((.merged (l.mergeAny item).1), (l.mergeAny item).2)
  | .sample => (.delta l.sample.1, l.sample.2)
  | .snapshot now => (.snapshot (l.snapshot now), l)
  | .windowHistory => (.windowHistory l.windowHistory, l)
  | .recentErrors limit => (.recentErrors (l.recentErrorsOf limit), l)

/-- A ledger and what was answered on the way to it. The answers include the deltas of the samples
(`LedgerRun.deltas`). -/
structure LedgerRun where
  ledger : Ledger
  /-- What the calls have answered, one answer for each. -/
  answers : List LedgerAnswer

namespace LedgerRun

variable [Depths]

/-- One more call. -/
def perform (r : LedgerRun) (a : LedgerAction) : LedgerRun :=
  ⟨(r.ledger.perform a).2, r.answers ++ [(r.ledger.perform a).1]⟩

/-- Calls in turn. -/
def performAll (r : LedgerRun) (actions : List LedgerAction) : LedgerRun :=
  actions.foldl perform r

/-- The run of calls on a fresh ledger. -/
def ofActions (time : Float) (actions : List LedgerAction) : LedgerRun :=
  performAll ⟨.start time, []⟩ actions

/-- What the samples answered, in order. -/
def deltas (r : LedgerRun) : List (Except Fault (PerQuantity Int)) :=
  r.answers.filterMap LedgerAnswer.delta?

end LedgerRun

/-! ## The traffic of calls -/

/-- The outcomes of some calls: those of each closed interval, and those since the last sample. It
is read off the calls by `Traffic.after`, without a look at any ledger. -/
structure Traffic where
  /-- The outcomes of the intervals that samples have closed, interval by interval. -/
  closed : List (List Outcome)
  /-- Those of the open interval. -/
  current : List Outcome

namespace Traffic

/-- No calls. -/
def none : Traffic :=
  ⟨[], []⟩

/-- The traffic with one more call. -/
def after (t : Traffic) : LedgerAction → Traffic
  | .merge (.inl o) => { t with current := t.current ++ [o] }
  | .sample => ⟨t.closed ++ [t.current], []⟩
  | _ => t

/-- The traffic with more calls. -/
def afterAll (t : Traffic) (actions : List LedgerAction) : Traffic :=
  actions.foldl after t

/-- The traffic of calls. -/
def ofActions (actions : List LedgerAction) : Traffic :=
  afterAll none actions

/-- All outcomes, whatever interval they belong to. -/
def all (t : Traffic) : List Outcome :=
  t.closed.flatten ++ t.current

/-- One more call brings its outcome to all the outcomes, be it to the open interval or not at
all. -/
theorem all_after (t : Traffic) (a : LedgerAction) :
    (t.after a).all = t.all ++ a.outcome?.toList := by
  cases a with
  | merge item =>
    cases item with
    | inl o => exact (List.append_assoc _ _ _).symm
    | inr v => exact (List.append_nil _).symm
  | sample =>
    rw [after, all, all, List.flatten_append, List.flatten_singleton, List.append_nil]
    exact (List.append_nil _).symm
  -- a look leaves the traffic as it is
  | _ => exact (List.append_nil _).symm

/-- Cutting a run into intervals loses no outcome and changes no order: the induction is on the
calls, with what was merged before left open. -/
theorem all_afterAll (t : Traffic) (actions : List LedgerAction) :
    (t.afterAll actions).all = t.all ++ actions.filterMap LedgerAction.outcome? := by
  induction actions generalizing t with
  | nil => exact (List.append_nil _).symm
  | cons a actions ih =>
    rw [LedgerAction.filterMap_outcome?_cons, ← List.append_assoc, ← all_after]
    exact ih (t.after a)

theorem all_ofActions (actions : List LedgerAction) :
    (ofActions actions).all = actions.filterMap LedgerAction.outcome? :=
  all_afterAll none actions

/-- Every sample closes one interval. -/
theorem length_closed_afterAll (t : Traffic) (actions : List LedgerAction) :
    (t.afterAll actions).closed.length =
      t.closed.length + actions.countP LedgerAction.isSample := by
  induction actions generalizing t with
  | nil => rfl
  | cons a actions ih =>
    have hafter : (t.after a).closed.length = t.closed.length + if a.isSample then 1 else 0 := by
      cases a with
      | merge item => cases item <;> rfl
      | sample => exact List.length_append
      | _ => rfl
    rw [List.countP_cons, Nat.add_comm (List.countP _ _), ← Nat.add_assoc, ← hafter]
    exact ih (t.after a)

end Traffic

/-- What outcomes bring for each quantity: the nine counters of `countsOf`, seen as the seven
quantities of an interval. -/
def Outcome.trafficOf (outcomes : List Outcome) : PerQuantity Int :=
  .ofFn fun q => (Outcome.countsOf outcomes).total q

/-! ## The invariant -/

namespace Traffic

open Outcome (countsOf trafficOf)

/-- The state of a run is what the traffic of its calls says. The requests of the open interval are
counted by themselves, everything else is a difference between two totals. -/
structure Tracks (t : Traffic) (r : LedgerRun) : Prop where
  /-- The totals count all outcomes, -/
  totals : r.ledger.totals = countsOf t.all
  /-- and those at the last sample what was there before it. -/
  lastTotals : r.ledger.lastTotals = countsOf t.closed.flatten
  /-- The requests since then have a counter of their own. -/
  openRequests : r.ledger.openRequests = (countsOf t.current).requests
  /-- Each sample has closed an interval, -/
  intervals : r.ledger.intervals = t.closed.length
  /-- and has answered its traffic. -/
  deltas : r.deltas = t.closed.map fun outcomes => .ok (trafficOf outcomes)

theorem tracks_start (time : Float) : Tracks none ⟨.start time, []⟩ :=
  ⟨rfl, rfl, rfl, rfl, rfl⟩

namespace Tracks

variable {t : Traffic} {r : LedgerRun}

/-- The totals are those of the closed intervals and those of the open one. -/
theorem totals_eq_add (h : t.Tracks r) :
    r.ledger.totals = r.ledger.lastTotals + countsOf t.current := by
  rw [h.totals, h.lastTotals, all, Outcome.countsOf_append]

/-- So no total ever falls below its value at the last sample. -/
theorem grown (h : t.Tracks r) : r.ledger.Grown := by
  intro q
  rw [h.totals_eq_add, Counters.total_add]
  exact Nat.le_add_right _ _

/-- Both ways to know the traffic of the open interval agree. -/
theorem openCount (h : t.Tracks r) (q : Quantity) :
    r.ledger.openCount q = (countsOf t.current).total q := by
  by_cases hq : q = .requests
  · subst hq
    exact h.openRequests
  · rw [Ledger.openCount_of_ne _ hq, h.totals_eq_add, Counters.total_add, Nat.add_sub_cancel_left]

/-- A sample answers the traffic of the open interval. -/
theorem sample (h : t.Tracks r) :
    r.ledger.sample = (.ok (trafficOf t.current), r.ledger.sampled) := by
  rw [Ledger.sample_of_grown h.grown, trafficOf]
  simp only [h.openCount]

/-- A call that changes nothing and is no sample keeps the invariant: a snapshot, a history, the
recent errors, and the merge of what is no outcome. -/
theorem look (h : t.Tracks r) {answer : LedgerAnswer} (hanswer : answer.delta? = Option.none) :
    t.Tracks ⟨r.ledger, r.answers ++ [answer]⟩ := by
  refine { h with deltas := ?_ }
  rw [LedgerRun.deltas, List.filterMap_append, List.filterMap_cons_none hanswer, List.filterMap_nil,
    List.append_nil]
  exact h.deltas

variable [Depths]

/-- A merge counts in the open interval: the totals and the requests of the interval grow by what
the outcome counts for, and the samples before are not touched. -/
theorem merge (h : t.Tracks r) {o : Outcome} (ho : o.Plain) :
    Tracks (t.after (.merge (.inl o))) (r.perform (.merge (.inl o))) := by
  have hmerge : r.perform (.merge (.inl o)) =
      ⟨r.ledger.merged o, r.answers ++ [.merged (.ok ())]⟩ := by
    rw [LedgerRun.perform, Ledger.perform, Ledger.mergeAny, Ledger.merge_of_plain ho]
  -- The outcome belongs to the open interval, behind those that are there.
  have hcurrent : countsOf (t.current ++ [o]) = countsOf t.current + o.counts := by
    rw [Outcome.countsOf_append, Outcome.countsOf_cons, Outcome.countsOf_nil, add_zero]
  rw [hmerge]
  refine (Tracks.look (r := ⟨r.ledger.merged o, r.answers⟩) ?_ rfl)
  constructor
  case totals =>
    rw [Ledger.totals_merged, h.totals, after, all, all, Outcome.countsOf_append,
      Outcome.countsOf_append, hcurrent, add_assoc]
  case lastTotals => exact h.lastTotals
  case openRequests =>
    rw [Ledger.openRequests_merged, h.openRequests, after, hcurrent, Counters.requests_add]
  case intervals => exact h.intervals
  case deltas => exact h.deltas

/-- A sample closes the interval: its traffic is answered (`sample`), the totals at the last sample
catch up, and the next interval is empty. -/
theorem close (h : t.Tracks r) : Tracks (t.after .sample) (r.perform .sample) := by
  rw [LedgerRun.perform, Ledger.perform, h.sample]
  constructor
  case totals =>
    rw [Ledger.totals_sampled, h.totals, after, all, all, List.flatten_append,
      List.flatten_singleton, List.append_nil]
  case lastTotals =>
    rw [Ledger.lastTotals_sampled, h.totals, after, all, List.flatten_append,
      List.flatten_singleton]
  case openRequests => rfl
  case intervals =>
    rw [Ledger.intervals_sampled, h.intervals, after, List.length_append, List.length_singleton]
  case deltas =>
    rw [LedgerRun.deltas, List.filterMap_append, after, List.map_append]
    exact congrArg (· ++ _) h.deltas

/-- **Every call keeps the invariant.** -/
theorem perform (h : t.Tracks r) {a : LedgerAction} (ha : a.Plain) :
    Tracks (t.after a) (r.perform a) := by
  cases a with
  | merge item =>
    cases item with
    | inl o => exact h.merge (ha o rfl)
    | inr v => exact h.look rfl
  | sample => exact h.close
  | snapshot now => exact h.look rfl
  | windowHistory => exact h.look rfl
  | recentErrors limit => exact h.look rfl

theorem performAll (h : t.Tracks r) {actions : List LedgerAction}
    (hplain : ∀ a ∈ actions, a.Plain) : Tracks (t.afterAll actions) (r.performAll actions) := by
  induction actions generalizing t r with
  | nil => exact h
  | cons a actions ih =>
    exact ih (h.perform (hplain a List.mem_cons_self))
      fun b hb => hplain b (List.mem_cons_of_mem _ hb)

end Tracks

/-- **Every run of plain outcomes keeps the books**: its state is what the traffic of its calls
says. By induction on the calls, with `Tracks.perform` for each of them. -/
theorem tracks_run [Depths] (time : Float) {actions : List LedgerAction}
    (hplain : ∀ a ∈ actions, a.Plain) :
    Tracks (ofActions actions) (LedgerRun.ofActions time actions) :=
  (tracks_start time).performAll hplain

end Traffic

end LoadLedger
