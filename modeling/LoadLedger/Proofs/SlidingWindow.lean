import LoadLedger.Proofs.Counts
import LoadLedger.SlidingWindow

/-!
# Sliding windows and what was pushed

A window is the end of the history of its accepted pushes: the values that are counts, in the order
in which they were pushed (`SlidingWindow.items_performAll`). What is no count is refused and leaves
the window as it was (`SlidingWindow.perform_push_of_refused`). The mean checks once more what the
window holds and never finds anything, since nothing but counts gets into a window
(`SlidingWindow.perform_mean`).

Windows can be made in any size up to the greatest size of a buffer (`SlidingWindow.ofSize_large`).

A call is a `WindowCall`, and `SlidingWindow.performAll` carries out calls in turn.
The result on all of them is `SlidingWindow.refines_pushes`.
-/

namespace LoadLedger

/-! ## Calls and answers -/

/-- One call on a window. -/
inductive WindowCall
  | push (v : Value)
  | mean

/-- What a call answers. -/
inductive WindowAnswer
  | pushed (result : Except Fault Unit)
  | mean (rate : Except Fault Nat)

/-- The count that a call brings into the window, if it brings any. -/
def WindowCall.accepted? : WindowCall → Option Nat
  | .push (.int (.ofNat n)) => some n
  | _ => none

/-- Just the nonnegative integers are accepted; truth values are none. -/
theorem WindowCall.accepted?_push_eq_some {v : Value} {n : Nat} :
    (push v).accepted? = some n ↔ v = .int n := by
  constructor
  · intro h
    cases v with
    | int i =>
      cases i with
      | ofNat m =>
        cases h
        rfl
      | negSucc m => cases h
    | null | bool | float | text | brokenText | list | object | brokenObject => cases h
  · rintro rfl
    rfl

namespace SlidingWindow

/-- What the window holds, as data. -/
def toValue (w : SlidingWindow) : Value :=
  .list (w.items.map fun n : Nat => .int n)

/-- Carries out a call. A push that is refused leaves the window as it is, and a mean is taken of
what the window holds as of any other data. -/
def perform (w : SlidingWindow) : WindowCall → WindowAnswer × SlidingWindow
  | .push v =>
    match w.pushValue v with
    | .ok next => (.pushed (.ok ()), next)
    | .error cause => (.pushed (.error cause), w)
  | .mean => (.mean (Counts.meanOfValue w.toValue), w)

/-- The window after calls in turn. -/
def performAll (w : SlidingWindow) (calls : List WindowCall) : SlidingWindow :=
  calls.foldl (fun w call => (w.perform call).2) w

/-! ## One call -/

theorem perform_push_natCast (w : SlidingWindow) (n : Nat) :
    w.perform (.push (.int n)) = (.pushed (.ok ()), w.push n) := rfl

/-- A value that is no count is refused, with the fault of the check, and the window stays as it
is. -/
theorem perform_push_of_refused (w : SlidingWindow) {v : Value} (hv : ∀ n : Nat, v ≠ .int n) :
    ∃ cause, Counts.ofValue 0 v = .error cause ∧
      w.perform (.push v) = (.pushed (.error cause), w) := by
  cases hcount : Counts.ofValue 0 v with
  | ok n => exact absurd (Counts.ofValue_eq_ok_iff.mp hcount) (hv n)
  | error cause =>
    have hpush : w.pushValue v = .error cause := by
      rw [pushValue, hcount]
      rfl
    exact ⟨cause, rfl, by rw [perform, hpush]⟩

/-- **A mean never fails**: it is that of the counts in the window. -/
theorem perform_mean (w : SlidingWindow) : w.perform .mean = (.mean (.ok w.mean), w) := by
  rw [perform, toValue, Counts.meanOfValue_list, mean]

/-- A call pushes what it brings, if anything, and does nothing else to the window. -/
theorem perform_eq_pushAll (w : SlidingWindow) (call : WindowCall) :
    (w.perform call).2 = w.pushAll call.accepted?.toList := by
  cases call with
  | mean => rfl
  | push v =>
    cases haccepted : (WindowCall.push v).accepted? with
    | some n =>
      obtain rfl := WindowCall.accepted?_push_eq_some.mp haccepted
      rfl
    | none =>
      have hv : ∀ n : Nat, v ≠ .int n := by
        rintro n rfl
        cases haccepted
      obtain ⟨cause, -, hperform⟩ := w.perform_push_of_refused hv
      rw [hperform]
      rfl

/-! ## Many calls -/

/-- Calls in turn push what they bring, by induction on the calls. -/
theorem performAll_eq_pushAll (w : SlidingWindow) (calls : List WindowCall) :
    w.performAll calls = w.pushAll (calls.filterMap WindowCall.accepted?) := by
  induction calls generalizing w with
  | nil => rfl
  | cons call calls ih =>
    have hcons : (call :: calls).filterMap WindowCall.accepted? =
        call.accepted?.toList ++ calls.filterMap WindowCall.accepted? := by
      rw [List.filterMap_cons]
      cases call.accepted? <;> rfl
    rw [hcons, RingBuffer.pushAll_append, ← perform_eq_pushAll, ← ih]
    rfl

/-- **A window is the end of the history of its accepted pushes**: it is the ring onto which these
were pushed (`RingBuffer.pushAll_items`). -/
theorem items_performAll (w : SlidingWindow) (calls : List WindowCall) :
    (w.performAll calls).items =
      lastItems w.capacity (w.items ++ calls.filterMap WindowCall.accepted?) := by
  rw [performAll_eq_pushAll, RingBuffer.pushAll_items]

/-- **Sliding windows refine the history of pushes.** A window of any size from one on can be made,
unless the size is greater than a buffer can have, and after calls in any order

* it holds the last counts that were pushed, as many as its size, the oldest one first;
* another push is accepted if it is a nonnegative integer. Everything else is refused as no count,
  unless it is a negative integer that the message cannot hold, and leaves the window as it is;
* a mean does not fail. It is zero if the window is empty, and otherwise the sum of the counts by
  their number without the remainder, which lies between the least and the greatest of them.

Which pushes count says `WindowCall.accepted?`. -/
theorem refines_pushes (size : Int) (hsize : 1 ≤ size) (calls : List WindowCall) :
    (Number.greatestSize < size → ofSize (.int size) = .error .sizeTooLarge) ∧
    (size ≤ Number.greatestSize → ∃ fresh, ofSize (.int size) = .ok fresh ∧
      let w := fresh.performAll calls
      let held := lastItems size.toNat (calls.filterMap WindowCall.accepted?)
      w.items = held ∧
      (∀ n : Nat, w.perform (.push (.int n)) = (.pushed (.ok ()), w.push n)) ∧
      (∀ v : Value, (∀ n : Nat, v ≠ .int n) →
        ∃ cause, w.perform (.push v) = (.pushed (.error cause), w) ∧
          ((∀ i : Int, v = .int i → i.natAbs < Number.tenTo Number.digitLimit) →
            cause.family = .counts)) ∧
      w.perform .mean = (.mean (.ok w.mean), w) ∧
      (held = [] → w.mean = 0) ∧
      (held ≠ [] →
        held.length * w.mean ≤ held.sum ∧ held.sum < held.length * (w.mean + 1) ∧
          ∃ least greatest, held.min? = some least ∧ held.max? = some greatest ∧
            least ≤ w.mean ∧ w.mean ≤ greatest)) := by
  obtain ⟨n, rfl⟩ := Int.eq_ofNat_of_zero_le (Int.le_trans (by decide) hsize)
  have hpos : 0 < n := by omega
  refine ⟨RingBuffer.ofSize_of_greatestSize_lt _, fun hle => ?_⟩
  refine ⟨.empty Nat n hpos, RingBuffer.ofSize_nat _ n hpos (by omega), ?_⟩
  intro w held
  have hitems : w.items = held := items_performAll _ calls
  have hmean : w.mean = Counts.mean held := by rw [mean, hitems]
  refine ⟨hitems, w.perform_push_natCast, ?refused, w.perform_mean, ?none, ?some⟩
  -- Refused is what brings nothing into the window.
  case refused =>
    intro v hv
    obtain ⟨cause, hcause, hperform⟩ := w.perform_push_of_refused hv
    refine ⟨cause, hperform, fun hshort => ?_⟩
    exact Counts.family_of_ofValue hcause fun i hi _ => hshort i hi
  case none =>
    intro hnone
    rw [hmean, hnone, Counts.mean_nil]
  case some =>
    intro hsome
    rw [hmean]
    exact ⟨Counts.length_mul_mean_le held, Counts.sum_lt_of_ne_nil hsome,
      Counts.exists_min_max hsome⟩

/-- Pushes of several types, and a mean among them. -/
def mixedPushes : List WindowCall :=
  [.push (.int 7), .push (.bool true), .push (.int (-3)), .push (.int 4), .mean, .push (.text "5"),
    .push (.int 11)]

/-- The window of two holds the last two of the three counts, and their mean is cut. -/
theorem refines_mixedPushes :
    ∃ fresh, ofSize (.int 2) = .ok fresh ∧
      let w := fresh.performAll mixedPushes
      w.items = [4, 11] ∧ w.perform .mean = (.mean (.ok 7), w) ∧
        ∃ cause, w.perform (.push (.bool true)) = (.pushed (.error cause), w) ∧
          cause.family = .counts := by
  obtain ⟨-, hmade⟩ := refines_pushes 2 (by decide) mixedPushes
  obtain ⟨fresh, hfresh, hitems, -, hrefused, hmean, -⟩ := hmade (by decide)
  obtain ⟨cause, hperform, hfamily⟩ := hrefused (.bool true) (fun n => nofun)
  refine ⟨fresh, hfresh, hitems, ?_, cause, hperform, hfamily fun i => nofun⟩
  rw [hmean, mean, hitems]
  rfl

/-- A window of a greater size cannot be made, so that nothing can be pushed onto it. -/
theorem ofSize_large :
    ofSize (.int 9223372036854775808) = .error .sizeTooLarge ∧
      ¬ ∃ fresh, ofSize (.int 9223372036854775808) = .ok fresh ∧
        (fresh.performAll [.push (.int 1)]).items = [1] := by
  have hlarge : ofSize (.int 9223372036854775808) = .error .sizeTooLarge :=
    RingBuffer.ofSize_of_greatestSize_lt _ (by decide)
  refine ⟨hlarge, ?_⟩
  rintro ⟨fresh, hfresh, -⟩
  cases hlarge.symm.trans hfresh

end SlidingWindow

end LoadLedger
