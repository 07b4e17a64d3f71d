import LoadLedger.Machine
import LoadLedger.Proofs.Ledger.Books
import Mathlib.Data.List.Forall2
import Mathlib.Data.List.Perm.Basic

/-!
# Interleavings

Several producers merge batches of outcomes, each in its own order, while samples and looks fall
somewhere in between. Which interleaving of the batches comes about does not show in the books, as
long as the same outcomes are merged between the same samples, and it shows in a log of errors only
if more than one batch appends to it.

Every run is brought into a standard form: the traffic of its calls, interval by interval, without
looks (`LedgerRun.alike_performTraffic`). Two standard forms whose intervals are permutations of
each other are alike (`LedgerRun.alike_of_perm`), by swaps of neighbouring outcomes.

`LedgerRun.Alike` is what can be seen of two runs apart from the logs, and every call keeps it
(`Alike.perform`). `Interleaves` builds an interleaving of batches call by call, so that an
induction over it takes the outcomes out of their batches in the order of the calls
(`Interleaves.entries`).
-/

namespace LoadLedger

/-! ## Runs that are alike -/

namespace LedgerRun

/-- Two runs with the same books, whose samples have answered the same. -/
structure Alike (r s : LedgerRun) : Prop where
  /-- The ledgers cannot be told apart but by their logs. -/
  books : r.ledger.SameBooks s.ledger
  /-- Nor can the answers of the samples. -/
  deltas : r.deltas = s.deltas

variable [Depths]

/-- A call adds what it answers as a sample. -/
theorem deltas_perform (r : LedgerRun) (a : LedgerAction) :
    (r.perform a).deltas = r.deltas ++ (r.ledger.perform a).1.delta?.toList := by
  rw [deltas, perform, List.filterMap_append, deltas, List.filterMap_cons]
  cases (r.ledger.perform a).1.delta? <;> rfl

/-- Merging an outcome leaves its footprint. -/
theorem ledger_perform_merge (r : LedgerRun) (o : Outcome) :
    (r.perform (.merge (.inl o))).ledger = r.ledger.leave o.footprint := by
  rw [perform, Ledger.perform, Ledger.mergeAny, Ledger.merge_eq_leave]

/-- A merge is no sample. -/
theorem deltas_perform_merge (r : LedgerRun) (o : Outcome) :
    (r.perform (.merge (.inl o))).deltas = r.deltas := by
  rw [deltas_perform]
  exact List.append_nil _

/-- A call that neither merges an outcome nor samples changes nothing: a look, or the merge of what
is no outcome. -/
theorem alike_perform_of_look (r : LedgerRun) {a : LedgerAction} (ha : a.outcome? = none)
    (hsample : a.isSample = false) : (r.perform a).Alike r := by
  cases a with
  | merge item =>
    cases item with
    | inl o => cases ha
    | inr v => exact ⟨.refl _, (deltas_perform r _).trans (List.append_nil _)⟩
  | sample => cases hsample
  | snapshot | windowHistory | recentErrors =>
    exact ⟨.refl _, (deltas_perform r _).trans (List.append_nil _)⟩

/-- Outcomes that are merged one after the other may change places (`sameBooks_leave_comm`), plain
or not. -/
theorem alike_swap (r : LedgerRun) (a b : Outcome) :
    ((r.perform (.merge (.inl a))).perform (.merge (.inl b))).Alike
      ((r.perform (.merge (.inl b))).perform (.merge (.inl a))) := by
  constructor
  case books =>
    simp only [ledger_perform_merge]
    exact Ledger.sameBooks_leave_comm _ _ _
  case deltas => simp only [deltas_perform_merge]

namespace Alike

variable {r s t : LedgerRun}

omit [Depths] in
theorem refl (r : LedgerRun) : r.Alike r :=
  ⟨.refl _, rfl⟩

omit [Depths] in
theorem symm (h : r.Alike s) : s.Alike r :=
  ⟨h.books.symm, h.deltas.symm⟩

omit [Depths] in
theorem trans (h : r.Alike s) (h' : s.Alike t) : r.Alike t :=
  ⟨h.books.trans h'.books, h.deltas.trans h'.deltas⟩

/-- **Runs that are alike stay alike** with any call: an outcome leaves the same footprint in both,
a sample looks at the books alone (`SameBooks.sample`), and all else changes nothing. -/
theorem perform (h : r.Alike s) (a : LedgerAction) : (r.perform a).Alike (s.perform a) := by
  cases hout : a.outcome? with
  -- Only a merge has an outcome, and it is no sample.
  | some o =>
    obtain rfl := LedgerAction.outcome?_eq_some.mp hout
    constructor
    case books =>
      rw [ledger_perform_merge, ledger_perform_merge]
      exact h.books.leave _
    case deltas => rw [deltas_perform_merge, deltas_perform_merge, h.deltas]
  | none =>
    cases hsample : a.isSample with
    | true =>
      obtain rfl : a = .sample := by
        cases a with
        | sample => rfl
        | _ => cases hsample
      obtain ⟨hanswer, hbooks⟩ := h.books.sample
      refine ⟨hbooks, ?_⟩
      rw [deltas_perform, deltas_perform, h.deltas, Ledger.perform, Ledger.perform, hanswer]
    | false =>
      exact (alike_perform_of_look r hout hsample).trans
        (h.trans (alike_perform_of_look s hout hsample).symm)

theorem performAll (h : r.Alike s) (actions : List LedgerAction) :
    (r.performAll actions).Alike (s.performAll actions) := by
  induction actions generalizing r s with
  | nil => exact h
  | cons a actions ih => exact ih (h.perform a)

end Alike

/-! ## The standard form of a run -/

/-- Merges outcomes in turn. -/
def mergeAll (r : LedgerRun) (outcomes : List Outcome) : LedgerRun :=
  r.performAll (outcomes.map fun o => .merge (.inl o))

/-- Merges the outcomes of an interval and closes it. -/
def closeInterval (r : LedgerRun) (outcomes : List Outcome) : LedgerRun :=
  (r.mergeAll outcomes).perform .sample

/-- Merges and samples what traffic says, interval by interval. -/
def performTraffic (r : LedgerRun) (t : Traffic) : LedgerRun :=
  (t.closed.foldl closeInterval r).mergeAll t.current

/-- One more call of the run is one more call of its standard form: a merge comes last in the open
interval, a sample closes it, and a look is left out. -/
theorem alike_performTraffic_after (r : LedgerRun) (t : Traffic) (a : LedgerAction) :
    ((r.performTraffic t).perform a).Alike (r.performTraffic (t.after a)) := by
  cases a with
  | merge item =>
    cases item with
    | inl o =>
      -- the outcome joins the open interval, where it is merged last
      have hconcat : r.performTraffic (t.after (.merge (.inl o))) =
          (r.performTraffic t).perform (.merge (.inl o)) := by
        rw [performTraffic, Traffic.after, mergeAll, List.map_append, performAll, List.foldl_append]
        rfl
      rw [hconcat]
      exact .refl _
    | inr v => exact alike_perform_of_look _ rfl rfl
  | sample =>
    have hclose : r.performTraffic (t.after .sample) = (r.performTraffic t).perform .sample := by
      rw [performTraffic, Traffic.after, List.foldl_append]
      rfl
    rw [hclose]
    exact .refl _
  | snapshot | windowHistory | recentErrors => exact alike_perform_of_look _ rfl rfl

/-- **A run is alike its standard form**, by induction from its end. The standard form is
`performTraffic` of the traffic of the calls. -/
theorem alike_performTraffic (r : LedgerRun) (actions : List LedgerAction) :
    (r.performAll actions).Alike (r.performTraffic (Traffic.ofActions actions)) := by
  have hgeneral : ∀ (s : LedgerRun) (t : Traffic), s.Alike (r.performTraffic t) →
      (s.performAll actions).Alike (r.performTraffic (t.afterAll actions)) := by
    induction actions with
    | nil => exact fun s t h => h
    | cons a actions ih =>
      intro s t h
      exact ih (s.perform a) (t.after a) ((h.perform a).trans (alike_performTraffic_after r t a))
  exact hgeneral r .none (.refl r)

namespace Alike

variable {r s : LedgerRun}

/-- The order of outcomes that are merged in turn does not matter: a permutation is made of swaps of
neighbours (`alike_swap`). -/
theorem mergeAll_of_perm {outcomes others : List Outcome} (hperm : outcomes.Perm others)
    (h : r.Alike s) : (r.mergeAll outcomes).Alike (s.mergeAll others) := by
  induction hperm generalizing r s with
  | nil => exact h
  | cons o _ ih => exact ih (h.perform (.merge (.inl o)))
  | swap a b outcomes =>
    have hswap := ((h.perform (.merge (.inl b))).perform (.merge (.inl a))).trans (alike_swap s b a)
    exact hswap.performAll _
  | trans _ _ ih₁ ih₂ => exact (ih₁ h).trans (ih₂ (.refl s))

/-- The order inside of each interval does not matter. -/
theorem closeAll_of_perm {intervals others : List (List Outcome)}
    (hperm : List.Forall₂ List.Perm intervals others) (h : r.Alike s) :
    (intervals.foldl closeInterval r).Alike (others.foldl closeInterval s) := by
  induction hperm generalizing r s with
  | nil => exact h
  | cons hfirst _ ih => exact ih ((h.mergeAll_of_perm hfirst).perform .sample)

end Alike

/-- **Runs with the same outcomes in the same intervals are alike**, whatever the order inside of
the intervals. -/
theorem alike_of_perm (r : LedgerRun) {xs ys : List LedgerAction}
    (hclosed : List.Forall₂ List.Perm (Traffic.ofActions xs).closed (Traffic.ofActions ys).closed)
    (hcurrent : (Traffic.ofActions xs).current.Perm (Traffic.ofActions ys).current) :
    (r.performAll xs).Alike (r.performAll ys) := by
  have hstandard : (r.performTraffic (Traffic.ofActions xs)).Alike
      (r.performTraffic (Traffic.ofActions ys)) :=
    ((Alike.refl r).closeAll_of_perm hclosed).mergeAll_of_perm hcurrent
  exact (alike_performTraffic r xs).trans (hstandard.trans (alike_performTraffic r ys).symm)

end LedgerRun

/-! ## Logs of a run -/

/-- The entries that outcomes leave in a log, in order. -/
def Outcome.entriesOf [Depths] (log : ErrorLog) (outcomes : List Outcome) : List Value :=
  outcomes.filterMap (·.footprint.entry log)

namespace Outcome

variable [Depths]

theorem entriesOf_append (log : ErrorLog) (outcomes others : List Outcome) :
    entriesOf log (outcomes ++ others) = entriesOf log outcomes ++ entriesOf log others :=
  List.filterMap_append

theorem entriesOf_singleton (log : ErrorLog) (o : Outcome) :
    entriesOf log [o] = (o.footprint.entry log).toList := by
  rw [entriesOf, List.filterMap_cons]
  cases o.footprint.entry log <;> rfl

theorem entriesOf_eq_nil {log : ErrorLog} {outcomes : List Outcome}
    (h : ∀ o ∈ outcomes, o.appendsTo log = false) : entriesOf log outcomes = [] :=
  List.filterMap_eq_nil_iff.mpr fun o ho => entry_footprint_eq_none (h o ho)

end Outcome

/-- **A log holds the entries of the merged outcomes, in their order**; no other call touches it.
Which outcome has which entry says `Outcome.entriesOf`. -/
theorem LedgerRun.errors_performAll [Depths] (r : LedgerRun) (actions : List LedgerAction)
    (log : ErrorLog) :
    (r.performAll actions).ledger.errors log = (r.ledger.errors log).pushAll
      (Outcome.entriesOf log (actions.filterMap LedgerAction.outcome?)) := by
  induction actions generalizing r with
  | nil => rfl
  | cons a actions ih =>
    have hperform : (r.perform a).ledger.errors log =
        (r.ledger.errors log).pushAll (Outcome.entriesOf log a.outcome?.toList) := by
      cases hout : a.outcome? with
      | none => exact (Ledger.sameErrors_perform hout r.ledger).errors_eq log
      | some o =>
        obtain rfl := LedgerAction.outcome?_eq_some.mp hout
        rw [ledger_perform_merge, Ledger.errors_leave, Option.toList_some,
          Outcome.entriesOf_singleton]
    rw [performAll, List.foldl_cons, ← performAll, ih, hperform, ← RingBuffer.pushAll_append,
      ← Outcome.entriesOf_append, LedgerAction.filterMap_outcome?_cons]

/-! ## Batches -/

/-- The calls merge batches of outcomes, each batch in its own order. Which batch comes next is open
at every call, and calls that merge no outcome may come in between. -/
inductive Interleaves : List (List Outcome) → List LedgerAction → Prop
  /-- All batches are merged. -/
  | done {batches : List (List Outcome)} (hempty : ∀ batch ∈ batches, batch = []) :
      Interleaves batches []
  /-- The next outcome of one of the batches is merged. -/
  | merge (front back : List (List Outcome)) {o : Outcome} {batch : List Outcome}
      {actions : List LedgerAction} :
      Interleaves (front ++ batch :: back) actions →
        Interleaves (front ++ (o :: batch) :: back) (.merge (.inl o) :: actions)
  /-- A call that merges no outcome leaves the batches as they are. -/
  | between {batches : List (List Outcome)} {a : LedgerAction} {actions : List LedgerAction}
      (ha : a.outcome? = none) :
      Interleaves batches actions → Interleaves batches (a :: actions)

namespace Interleaves

open Outcome (entriesOf entriesOf_append entriesOf_eq_nil)

variable {batches : List (List Outcome)} {xs ys actions : List LedgerAction}

/-- All outcomes of the batches are merged, and no others. Only their order is open. -/
theorem perm (h : Interleaves batches actions) :
    (actions.filterMap LedgerAction.outcome?).Perm batches.flatten := by
  induction h with
  | done hempty => rw [List.flatten_eq_nil_iff.mpr hempty]; exact .nil
  | merge front back _ ih =>
    rw [List.flatten_append, List.flatten_cons] at ih ⊢
    exact (ih.cons _).trans List.perm_middle.symm
  | between ha _ ih => rwa [LedgerAction.filterMap_outcome?_cons, ha]

theorem perm_flatten {intervals others : List (List Outcome)}
    (h : List.Forall₂ List.Perm intervals others) : intervals.flatten.Perm others.flatten := by
  induction h with
  | nil => exact .nil
  | cons hfirst _ ih => exact hfirst.append ih

/-- If the same outcomes are merged before the last sample, then also after it, since altogether
they are those of the batches. -/
theorem perm_current (hx : Interleaves batches xs) (hy : Interleaves batches ys)
    (hclosed : List.Forall₂ List.Perm (Traffic.ofActions xs).closed
      (Traffic.ofActions ys).closed) :
    (Traffic.ofActions xs).current.Perm (Traffic.ofActions ys).current := by
  have hall : (Traffic.ofActions xs).all.Perm (Traffic.ofActions ys).all := by
    rw [Traffic.all_ofActions, Traffic.all_ofActions]
    exact hx.perm.trans hy.perm.symm
  have hfront := (perm_flatten hclosed).symm.append_right (Traffic.ofActions xs).current
  exact (List.perm_append_left_iff _).mp (hfront.trans hall)

/-- An outcome of one batch and all that lies before that batch may change places, if at most one
batch appends to the log. -/
theorem entriesOf_comm [Depths] {front back : List (List Outcome)} {o : Outcome}
    {batch : List Outcome} {log : ErrorLog}
    (hone : (front ++ (o :: batch) :: back).countP (·.any (·.appendsTo log)) ≤ 1) :
    entriesOf log ([o] ++ front.flatten) = entriesOf log (front.flatten ++ [o]) := by
  rw [entriesOf_append, entriesOf_append]
  cases ho : o.appendsTo log with
  | false =>
    have hnone : entriesOf log [o] = [] :=
      entriesOf_eq_nil fun p hp => List.mem_singleton.mp hp ▸ ho
    rw [hnone, List.nil_append, List.append_nil]
  | true =>
    -- this is the one batch, so that those in front of it leave nothing
    rw [List.countP_append, List.countP_cons, List.any_cons, ho, Bool.true_or, if_pos rfl] at hone
    have hfront : front.countP (·.any (·.appendsTo log)) = 0 := by omega
    have hnone : entriesOf log front.flatten = [] := by
      apply entriesOf_eq_nil
      intro p hp
      obtain ⟨b, hb, hpb⟩ := List.mem_flatten.mp hp
      have hbatch := List.countP_eq_zero.mp hfront b hb
      rw [List.any_eq_true] at hbatch
      exact Bool.eq_false_iff.mpr fun happends => hbatch ⟨p, hpb, happends⟩
    rw [hnone, List.nil_append, List.append_nil]

/-- A batch that has lost its first outcome appends no more than before, so that at most one batch
appends during the whole run. -/
theorem countP_le_countP_cons (p : Outcome → Bool) (front back : List (List Outcome)) (o : Outcome)
    (batch : List Outcome) :
    (front ++ batch :: back).countP (·.any p) ≤
      (front ++ (o :: batch) :: back).countP (·.any p) := by
  rw [List.countP_append, List.countP_append, List.countP_cons, List.countP_cons, List.any_cons]
  cases batch.any p with
  | false => simp
  | true => simp

/-- **A log to which at most one batch appends does not show the interleaving**: its entries are
those of the batches one after the other. By induction on the run, where the first outcome is
brought behind the batches in front of it (`entriesOf_comm`). -/
theorem entries [Depths] (h : Interleaves batches actions) {log : ErrorLog}
    (hone : batches.countP (·.any (·.appendsTo log)) ≤ 1) :
    entriesOf log (actions.filterMap LedgerAction.outcome?) = entriesOf log batches.flatten := by
  -- at most one batch appends to the log, so that the outcome may be taken out of its batch first
  induction h with
  | done hempty => rw [List.flatten_eq_nil_iff.mpr hempty]; rfl
  | between ha _ ih =>
    rw [LedgerAction.filterMap_outcome?_cons, ha]
    exact ih hone
  | @merge front back o batch actions _ ih =>
    have hrest := ih (Nat.le_trans (countP_le_countP_cons _ front back o batch) hone)
    calc entriesOf log (([o] : List Outcome) ++ actions.filterMap LedgerAction.outcome?)
      _ = entriesOf log ([o] ++ front.flatten) ++ entriesOf log (batch ++ back.flatten) := by
        rw [entriesOf_append, hrest, List.flatten_append, List.flatten_cons, ← entriesOf_append,
          ← entriesOf_append, List.append_assoc]
      _ = entriesOf log (front.flatten ++ [o]) ++ entriesOf log (batch ++ back.flatten) := by
        rw [entriesOf_comm hone]
      _ = entriesOf log (front ++ (o :: batch) :: back).flatten := by
        rw [← entriesOf_append, List.flatten_append, List.flatten_cons, List.append_assoc]
        rfl

end Interleaves

namespace LedgerRun

/-- **The order of merges does not show.**

* Two outcomes may change places at any state: the books are the same in either order, and so is
  every log to which not both of them append.
* A plain outcome is merged without a fault and leaves one entry in each log to which it appends,
  and none in the other.
* Two interleavings of batches that place the same outcomes between the same samples have the same
  books, and their samples answer the same. If at most one batch appends to a log, the recent errors
  of that log are the same as well.

What is alike is `LedgerRun.Alike`; the logs are treated by themselves. -/
theorem interleavings_alike [Depths] :
    (∀ (l : Ledger) (a b : Outcome),
      ((l.merge a).2.merge b).2.SameBooks ((l.merge b).2.merge a).2 ∧
        ∀ log, (a.appendsTo log && b.appendsTo log) = false →
          ((l.merge a).2.merge b).2.errors log = ((l.merge b).2.merge a).2.errors log) ∧
    (∀ (l : Ledger) (o : Outcome), o.Plain →
      (l.merge o).1 = .ok () ∧ ∀ log, ∃ entries : List Value,
        (l.merge o).2.errors log = (l.errors log).pushAll entries ∧
          entries.length = countIf (o.appendsTo log)) ∧
    ∀ (r : LedgerRun) (batches : List (List Outcome)) (xs ys : List LedgerAction),
      Interleaves batches xs → Interleaves batches ys →
      List.Forall₂ List.Perm (Traffic.ofActions xs).closed (Traffic.ofActions ys).closed →
      (r.performAll xs).Alike (r.performAll ys) ∧
        ∀ log, batches.countP (·.any (·.appendsTo log)) ≤ 1 → ∀ limit,
          ((r.performAll xs).ledger.recentErrors limit).ofLog log =
            ((r.performAll ys).ledger.recentErrors limit).ofLog log := by
  refine ⟨?_, ?_, ?_⟩
  · intro l a b
    -- merging is leaving a footprint, and footprints commute where they do not touch the same log
    simp only [Ledger.merge_eq_leave]
    refine ⟨Ledger.sameBooks_leave_comm _ _ _, ?_⟩
    intro log hlog
    apply Ledger.errors_leave_comm
    rcases Bool.and_eq_false_iff.mp hlog with ha | hb
    · exact .inl (Outcome.entry_footprint_eq_none ha)
    · exact .inr (Outcome.entry_footprint_eq_none hb)
  · intro l o ho
    refine ⟨congrArg Prod.fst (Ledger.merge_of_plain ho l), ?_⟩
    intro log
    refine ⟨(o.footprint.entry log).toList, ?_, ?_⟩
    · rw [Ledger.merge_eq_leave, Ledger.errors_leave]
    · rw [← Outcome.isSome_entry_footprint ho log]
      cases o.footprint.entry log <;> rfl
  · intro r batches xs ys hx hy hclosed
    -- the intervals that are closed have the same traffic, and so has the open one
    refine ⟨alike_of_perm r hclosed (hx.perm_current hy hclosed), ?_⟩
    intro log hone limit
    rw [Ledger.ofLog_recentErrors, Ledger.ofLog_recentErrors, errors_performAll, errors_performAll,
      hx.entries hone, hy.entries hone]

/-- A batch with an HTTP error, and one without errors. -/
def twoBatches : List (List Outcome) :=
  [[⟨.get, .success⟩, ⟨.consistency, .httpError (.int 503) (.text "down")⟩],
    [⟨.consistency, .success⟩, ⟨.delete, .throttled (.int 429)⟩]]

/-- The first batch goes first on either side of a sample. -/
def firstGoesFirst : List LedgerAction :=
  [.merge (.inl ⟨.get, .success⟩), .merge (.inl ⟨.consistency, .success⟩), .sample,
    .merge (.inl ⟨.consistency, .httpError (.int 503) (.text "down")⟩),
    .merge (.inl ⟨.delete, .throttled (.int 429)⟩)]

/-- The second batch goes first, and somebody looks. -/
def secondGoesFirst : List LedgerAction :=
  [.merge (.inl ⟨.consistency, .success⟩), .windowHistory, .merge (.inl ⟨.get, .success⟩), .sample,
    .merge (.inl ⟨.delete, .throttled (.int 429)⟩),
    .merge (.inl ⟨.consistency, .httpError (.int 503) (.text "down")⟩)]

open Machine

/-- Both interleavings end with the same books and the same recent errors. -/
theorem alike_twoBatches :
    (ofActions 0.0 firstGoesFirst).Alike (ofActions 0.0 secondGoesFirst) ∧
      ∀ log, ((ofActions 0.0 firstGoesFirst).ledger.recentErrors 5).ofLog log =
        ((ofActions 0.0 secondGoesFirst).ledger.recentErrors 5).ofLog log := by
  have hempty : ∀ batch ∈ [[], ([] : List Outcome)], batch = [] := by decide
  have hfirst : Interleaves twoBatches firstGoesFirst :=
    .merge [] _ (.merge [_] [] (.between rfl (.merge [] _ (.merge [_] [] (.done hempty)))))
  have hsecond : Interleaves twoBatches secondGoesFirst :=
    .merge [_] [] (.between rfl (.merge [] _ (.between rfl (.merge [_] [] (.merge [] _
      (.done hempty))))))
  have hclosed : List.Forall₂ List.Perm (Traffic.ofActions firstGoesFirst).closed
      (Traffic.ofActions secondGoesFirst).closed :=
    .cons (List.Perm.swap _ _ _) .nil
  obtain ⟨-, -, hbatches⟩ := interleavings_alike
  obtain ⟨halike, hrecent⟩ := hbatches ⟨.start 0.0, []⟩ _ _ _ hfirst hsecond hclosed
  refine ⟨halike, ?_⟩
  intro log
  have hone : twoBatches.countP (·.any (·.appendsTo log)) ≤ 1 := by cases log <;> decide
  exact hrecent log hone 5

end LedgerRun

end LoadLedger
