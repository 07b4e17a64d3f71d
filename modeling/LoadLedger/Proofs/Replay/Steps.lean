import LoadLedger.Proofs.Ingestion.Runs
import LoadLedger.Replay
import Mathlib.Logic.Relation

/-!
# The steps of a replay

The threads of a replay take steps in any order (`Replay.Next`). What each of them can do is said
once, by the inversion of its step. Nobody can go on forever: an item comes closer to the drainer
with every step that touches it, and the main thread and the drainer come closer to their ends
(`Replay.weight_lt_of_next`). So the fuel of a run suffices, and a run stops only where nobody can
take a step (`Replay.runFor_spec`).

The inversions are `Replay.mainStep?_cases`, `Replay.ingestionStep?_cases` and
`Replay.drainerStep?_cases`. Later modules take steps apart with these alone.
-/

namespace LoadLedger

namespace Ingestion

/-! ## What is left to do -/

/-- How much is left to do for items that were put: each is taken, forwarded and drained. -/
def weight (i : Ingestion) : Nat :=
  3 * i.inbound.length + 2 * i.inHand.toList.length + i.sink.elim 0 (·.items.length)

/-- A step of the loop brings an item closer to the drainer, or puts an end to the loop. -/
theorem weight_lt_of_step? [Depths] [Scheduler] {i j : Ingestion} (h : i.step? = some j) :
    j.weight < i.weight := by
  rcases step?_cases h with ⟨item, rest, hloop, hinbound, rfl⟩ | ⟨o, sink, hloop, hsink, rfl⟩
  · obtain ⟨⟨-, -, hrest, hsame⟩, -⟩ := process_sameQueues { i with inbound := rest } item
    have hhand := Option.length_toList_le
      (o := inHand (({ i with inbound := rest } : Ingestion).process item))
    rw [weight, weight, hrest, hsame, hinbound, List.length_cons]
    dsimp only
    omega
  · have hhand : i.inHand = some o := by
      rw [inHand, hloop]
    rw [weight, weight, hhand, hsink]
    simp only [inHand, Option.toList_none, Option.toList_some, Option.elim_some, List.length_append,
      List.length_cons, List.length_nil]
    omega

theorem weight_lt_of_take? {i j : Ingestion} {o : Outcome} (h : i.take? = some (o, j)) :
    j.weight < i.weight := by
  obtain ⟨sink, items, hsink, hitems, rfl⟩ := take?_cases h
  rw [weight, weight, hsink]
  simp only [inHand, Option.elim_some, hitems, List.length_cons]
  omega

/-- Nothing is taken only if there is nothing in the sink. -/
theorem items_of_take?_eq_none {i : Ingestion} {sink : FailureSink} (hsink : i.sink = some sink)
    (h : i.take? = none) : sink.items = [] := by
  rw [take?, hsink] at h
  cases hitems : sink.items with
  | nil => rfl
  | cons o items =>
    simp only [hitems] at h
    cases h

/-- An item that is put has three steps to go: it is taken, put into the sink and taken from it. -/
theorem weight_put (i : Ingestion) (item : InboundItem) : (i.put item).weight = i.weight + 3 := by
  rw [weight, weight, put, List.length_append, List.length_singleton]
  simp only [inHand]
  omega

end Ingestion

/-- An empty sink has room, whatever its size is. -/
theorem FailureSink.hasRoom_of_nil {sink : FailureSink} (h : sink.items = []) :
    sink.hasRoom = true := by
  rw [hasRoom, h, List.length_nil, Bool.or_eq_true, decide_eq_true_iff, decide_eq_true_iff]
  omega

namespace Replay

/-! ## The threads -/

/-- The items that the main thread has yet to put. -/
def pending (r : Replay) : List InboundItem :=
  match r.phase with
  | .putting items => items
  | _ => []

/-- One of the threads takes a step. -/
inductive Next [Depths] [Scheduler] (r next : Replay) : Prop
  | main (h : r.mainStep? = some next)
  | ingestion (h : r.ingestionStep? = some next)
  | drainer (h : r.drainerStep? = some next)

/-- The threads take steps in some order. -/
abbrev Reaches [Depths] [Scheduler] : Replay → Replay → Prop :=
  Relation.ReflTransGen Next

/-- The main thread puts an item, is done with putting, learns that the loop has ended, or learns
that the drainer has. -/
theorem mainStep?_cases {r next : Replay} (h : r.mainStep? = some next) :
    (∃ item items, r.phase = .putting (item :: items) ∧
      next = { r with ingestion := r.ingestion.put item, phase := .putting items }) ∨
    (r.phase = .putting [] ∧
      ((∃ count, r.produced = .ok count) ∧ next = { r with phase := .joining } ∨
        (∃ cause, r.produced = .error cause) ∧ next = { r with phase := .stopping })) ∨
    (r.phase = .joining ∧ r.ingestion.running = false ∧ next = { r with phase := .stopping }) ∨
    (r.phase = .stopping ∧ r.drainerAlive = false ∧ next = { r with phase := .done }) := by
  rw [mainStep?] at h
  split at h
  · rename_i item items hphase
    exact .inl ⟨item, items, hphase, (Option.some.inj h).symm⟩
  · rename_i hphase
    refine .inr (.inl ⟨hphase, ?_⟩)
    split at h
    · rename_i count hproduced
      exact .inl ⟨⟨count, hproduced⟩, (Option.some.inj h).symm⟩
    · rename_i cause hproduced
      exact .inr ⟨⟨cause, hproduced⟩, (Option.some.inj h).symm⟩
  · rename_i hphase
    split at h
    · cases h
    · rename_i hrunning
      exact .inr (.inr (.inl ⟨hphase, Bool.eq_false_iff.mpr hrunning, (Option.some.inj h).symm⟩))
  · rename_i hphase
    split at h
    · cases h
    · rename_i halive
      exact .inr (.inr (.inr ⟨hphase, Bool.eq_false_iff.mpr halive, (Option.some.inj h).symm⟩))
  · cases h

/-- The thread of ingestion takes a step of its loop, and leaves the rest of the replay alone. -/
theorem ingestionStep?_cases [Depths] [Scheduler] {r next : Replay}
    (h : r.ingestionStep? = some next) :
    ∃ i, r.ingestion.step? = some i ∧ next = { r with ingestion := i } := by
  obtain ⟨i, hi, rfl⟩ := Option.map_eq_some_iff.mp h
  exact ⟨i, hi, rfl⟩

/-- The drainer takes an outcome, or it is asked to stop and finds none. -/
theorem drainerStep?_cases {r next : Replay} (h : r.drainerStep? = some next) :
    (∃ o i, r.ingestion.take? = some (o, i) ∧
      next = { r with ingestion := i, drained := r.drained ++ [o] }) ∨
    (r.drainerAlive = true ∧ r.stopAsked = true ∧ next = { r with drainerAlive := false }) := by
  rw [drainerStep?] at h
  split at h
  · rename_i halive
    split at h
    · rename_i o i htake
      exact .inl ⟨o, i, htake, (Option.some.inj h).symm⟩
    · split at h
      · rename_i hasked
        exact .inr ⟨halive, hasked, (Option.some.inj h).symm⟩
      · cases h
  · cases h

/-- Where no thread takes a step, neither does any of the three. -/
theorem steps_eq_none_of_stuck [Depths] [Scheduler] {r : Replay} (hstuck : ∀ next, ¬r.Next next) :
    r.mainStep? = none ∧ r.ingestionStep? = none ∧ r.drainerStep? = none :=
  ⟨Option.eq_none_iff_forall_not_mem.mpr fun next h => hstuck next (.main h),
    Option.eq_none_iff_forall_not_mem.mpr fun next h => hstuck next (.ingestion h),
    Option.eq_none_iff_forall_not_mem.mpr fun next h => hstuck next (.drainer h)⟩

/-- A drainer that lives is held up by nothing but an empty sink. -/
theorem take?_eq_none_of_drainerStep? {r : Replay} (halive : r.drainerAlive = true)
    (h : r.drainerStep? = none) : r.ingestion.take? = none := by
  rw [drainerStep?, if_pos halive] at h
  split at h
  · cases h
  · assumption

/-- A drainer that is asked to stop does not stand still. -/
theorem drainer_dead_of_drainerStep? {r : Replay} (hasked : r.stopAsked = true)
    (h : r.drainerStep? = none) : r.drainerAlive = false := by
  cases halive : r.drainerAlive with
  | false => rfl
  | true =>
    have htake := take?_eq_none_of_drainerStep? halive h
    rw [drainerStep?, if_pos halive, htake, hasked] at h
    cases h

/-- Where no thread takes a step, the main thread has returned or waits for the loop. -/
theorem phase_of_stuck [Depths] [Scheduler] {r : Replay} (hstuck : ∀ next, ¬r.Next next) :
    r.phase = .done ∨ r.phase = .joining ∧ r.ingestion.running = true := by
  obtain ⟨hmain, -, hdrainer⟩ := steps_eq_none_of_stuck hstuck
  rw [mainStep?] at hmain
  cases hphase : r.phase with
  | putting items =>
    rw [hphase] at hmain
    cases items with
    | cons item items => cases hmain
    | nil =>
      dsimp only at hmain
      split at hmain <;> cases hmain
  | joining =>
    cases hrunning : r.ingestion.running with
    | true => exact .inr ⟨rfl, rfl⟩
    | false =>
      rw [hphase, hrunning] at hmain
      cases hmain
  | stopping =>
    have hasked : r.stopAsked = true := by
      simp only [stopAsked, hphase]
    -- a drainer that was asked to stop and cannot move has ended
    rw [hphase, drainer_dead_of_drainerStep? hasked hdrainer] at hmain
    cases hmain
  | done => exact .inl rfl

/-! ## Runs come to an end -/

/-- How many phases lie ahead of the main thread. -/
def phasesLeft (r : Replay) : Nat :=
  match r.phase with
  | .putting _ => 3
  | .joining => 2
  | .stopping => 1
  | .done => 0

/-- How much is left to do. -/
def weight (r : Replay) : Nat :=
  4 * r.pending.length + r.ingestion.weight + r.phasesLeft + r.drainerAlive.toNat

/-- **Every step leaves less to do.** The `weight` counts the steps that each item and each thread
has left. -/
theorem weight_lt_of_next [Depths] [Scheduler] {r next : Replay} (h : r.Next next) :
    next.weight < r.weight := by
  rw [weight, weight]
  cases h with
  | main h =>
    rcases mainStep?_cases h with ⟨item, items, hphase, rfl⟩ | ⟨hphase, ⟨-, rfl⟩ | ⟨-, rfl⟩⟩ |
      ⟨hphase, -, rfl⟩ | ⟨hphase, -, rfl⟩
    -- an item that is put weighs more in the plan than in the queue
    · have hput := r.ingestion.weight_put item
      simp only [pending, phasesLeft, hphase, List.length_cons]
      omega
    all_goals
      simp only [pending, phasesLeft, hphase]
      omega
  | ingestion h =>
    obtain ⟨i, hi, rfl⟩ := ingestionStep?_cases h
    have hless := Ingestion.weight_lt_of_step? hi
    simp only [pending, phasesLeft]
    omega
  | drainer h =>
    rcases drainerStep?_cases h with ⟨o, i, htake, rfl⟩ | ⟨halive, -, rfl⟩
    · have hless := Ingestion.weight_lt_of_take? htake
      simp only [pending, phasesLeft]
      omega
    · simp only [pending, phasesLeft, halive, Bool.toNat_true, Bool.toNat_false]
      omega

/-- The thread that comes first in the order of preference is one of the threads, and if it cannot
take a step nobody can. -/
theorem step?_cases [Depths] [Scheduler] (r : Replay) :
    (∃ next, r.step? = some next ∧ r.Next next) ∨ r.step? = none ∧ ∀ next, ¬r.Next next := by
  rw [step?]
  cases hdrainer : r.drainerStep? with
  | some next => exact .inl ⟨next, rfl, .drainer hdrainer⟩
  | none =>
    cases hingestion : r.ingestionStep? with
    | some next => exact .inl ⟨next, rfl, .ingestion hingestion⟩
    | none =>
      cases hmain : r.mainStep? with
      | some next => exact .inl ⟨next, rfl, .main hmain⟩
      | none =>
        refine .inr ⟨rfl, ?_⟩
        intro next hnext
        cases hnext with
        | main h => rw [hmain] at h; cases h
        | ingestion h => rw [hingestion] at h; cases h
        | drainer h => rw [hdrainer] at h; cases h

/-- With as much fuel as there is left to do, a run stops only where nobody can go on. -/
theorem runFor_spec [Depths] [Scheduler] (fuel : Nat) (r : Replay) :
    r.Reaches (runFor fuel r) ∧ (r.weight ≤ fuel → ∀ next, ¬(runFor fuel r).Next next) := by
  -- by induction on the fuel: each step makes the replay lighter
  induction fuel generalizing r with
  | zero =>
    refine ⟨.refl, ?_⟩
    intro hweight next hnext
    have := weight_lt_of_next hnext
    rw [runFor] at this
    omega
  | succ fuel ih =>
    rw [runFor]
    rcases r.step?_cases with ⟨next, hstep, hnext⟩ | ⟨hstep, hstuck⟩
    · rw [hstep]
      obtain ⟨hreaches, hdone⟩ := ih next
      refine ⟨.head hnext hreaches, ?_⟩
      intro hweight
      have := weight_lt_of_next hnext
      exact hdone (by omega)
    · rw [hstep]
      exact ⟨.refl, fun _ => hstuck⟩

end Replay

end LoadLedger
