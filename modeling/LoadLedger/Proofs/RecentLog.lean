import LoadLedger.RecentLog
import Mathlib.Data.List.Infix

/-!
# Recent logs and what was appended

A log holds the end of the history of its messages, and looking at it shows the newest part of that
end (`RecentLog.latest_pushAll`). A limit cuts from the old side, so that a greater limit shows the
same messages and possibly older ones (`RingBuffer.latest_prefix_latest`); none is shown below zero
and nothing is cut off beyond the size of the log (`RingBuffer.latest_perm`).

Logs can be made in any capacity up to the greatest size of a buffer (`RecentLog.ofCapacity_large`).
-/

namespace LoadLedger

namespace RingBuffer

/-- A greater limit goes on where a smaller one ends, since both take from the newest item on. -/
theorem latest_prefix_latest (r : RingBuffer α) {a b : Int} (h : a ≤ b) :
    r.latest a <+: r.latest b :=
  List.take_prefix_take_left (Int.toNat_le_toNat h)

/-- Without a limit to speak of, looking shows every item as often as it is there. -/
theorem latest_perm (r : RingBuffer α) {limit : Int} (h : r.size ≤ limit) :
    (r.latest limit).Perm r.items := by
  have hle : r.items.reverse.length ≤ limit.toNat := by
    rw [size] at h
    rw [List.length_reverse]
    omega
  rw [latest, List.take_of_length_le hle]
  exact List.reverse_perm r.items

/-- Items that are pushed in turn fill the ring up to its capacity. -/
theorem size_pushAll (r : RingBuffer α) (items : List α) :
    (r.pushAll items).size = min r.capacity (r.size + items.length) := by
  rw [size, pushAll_items, length_lastItems, List.length_append]
  rfl

end RingBuffer

namespace RecentLog

/-- **Looking at a log shows the newest part of the history** of what was appended. -/
theorem latest_pushAll (n : Nat) (hpos : 0 < n) (messages : List α) (limit : Int) :
    ((RingBuffer.empty α n hpos).pushAll messages).latest limit =
      (lastItems n messages).reverse.take limit.toNat := by
  rw [RingBuffer.latest, RingBuffer.pushAll_items]
  rfl

/-- **Recent logs refine the history of messages.** A log of any capacity from one on can be made,
unless the capacity is greater than a buffer can have. After messages are appended in turn, it holds
as many of them as its capacity allows, and

* for every limit it shows the first of the last messages, newest first, as many as the limit; none
  if the limit is negative;
* a smaller limit shows the beginning of what a greater one shows;
* a limit that is not below the size of the log shows every message as often as it is among the
  last. -/
theorem refines_appends (capacity : Int) (hcapacity : 1 ≤ capacity) (messages : List α) :
    (Number.greatestSize < capacity → ofCapacity α (.int capacity) = .error .sizeTooLarge) ∧
    (capacity ≤ Number.greatestSize → ∃ fresh, ofCapacity α (.int capacity) = .ok fresh ∧
      let log := fresh.pushAll messages
      let kept := lastItems capacity.toNat messages
      log.size = min capacity.toNat messages.length ∧
      (∀ limit : Int,
        log.latestOf (.int limit) = .ok (kept.reverse.take (max limit 0).toNat)) ∧
      (∀ a b : Int, a ≤ b → log.latest a <+: log.latest b) ∧
      (∀ limit : Int, log.size ≤ limit → (log.latest limit).Perm kept)) := by
  obtain ⟨n, rfl⟩ := Int.eq_ofNat_of_zero_le (Int.le_trans (by decide) hcapacity)
  have hpos : 0 < n := by omega
  refine ⟨RingBuffer.ofSize_of_greatestSize_lt _, fun hle => ?_⟩
  refine ⟨.empty α n hpos, RingBuffer.ofSize_nat _ n hpos (by omega), ?_⟩
  intro log kept
  -- a log is a ring, and a ring keeps the end of what was pushed onto it
  have hkept : log.items = kept := RingBuffer.pushAll_items _ messages
  refine ⟨?size, ?shown, fun _ _ => log.latest_prefix_latest, ?all⟩
  case size =>
    have hsize : log.size = min n (0 + messages.length) := RingBuffer.size_pushAll _ messages
    rwa [Nat.zero_add] at hsize
  case shown =>
    intro limit
    have hlimit : (max limit 0).toNat = limit.toNat := by omega
    rw [RingBuffer.latestOf_int, hlimit]
    exact congrArg Except.ok (latest_pushAll n hpos messages limit)
  case all =>
    intro limit hlimit
    exact hkept ▸ log.latest_perm hlimit

/-- A log of three keeps both of two equal messages, and shows nothing for a negative limit. -/
theorem refines_repeatedMessages :
    ∃ fresh, ofCapacity String (.int 3) = .ok fresh ∧
      let log := fresh.pushAll ["reset", "timeout", "refused", "timeout"]
      log.size = 3 ∧ log.latestOf (.int 9) = .ok ["timeout", "refused", "timeout"] ∧
        log.latestOf (.int (-1)) = .ok [] := by
  obtain ⟨-, hmade⟩ :=
    refines_appends 3 (by decide) ["reset", "timeout", "refused", "timeout"]
  obtain ⟨fresh, hfresh, hsize, hshown, -⟩ := hmade (by decide)
  exact ⟨fresh, hfresh, hsize, hshown 9, hshown (-1)⟩

/-- A log of a greater capacity cannot be made, so that nothing can be appended to it. -/
theorem ofCapacity_large :
    ofCapacity String (.int 9223372036854775808) = .error .sizeTooLarge ∧
      ¬ ∃ fresh, ofCapacity String (.int 9223372036854775808) = .ok fresh ∧
        (fresh.pushAll ["reset"]).size = 1 := by
  have hlarge : ofCapacity String (.int 9223372036854775808) = .error .sizeTooLarge :=
    RingBuffer.ofSize_of_greatestSize_lt _ (by decide)
  refine ⟨hlarge, ?_⟩
  rintro ⟨fresh, hfresh, -⟩
  cases hlarge.symm.trans hfresh

end RecentLog

end LoadLedger
