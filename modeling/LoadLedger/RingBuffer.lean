/-!
# Ring buffers

A ring holds the items that were pushed last, at most as many as its capacity. Pushing onto a full
ring drops the oldest item. Seen from outside, a ring is the end of the list of everything that was
ever pushed: `RingBuffer.pushAll_items`.
-/

namespace LoadLedger

/-- The last `n` items of a list. -/
def lastItems (n : Nat) (items : List α) : List α :=
  items.drop (items.length - n)

/-- A buffer of bounded size, the oldest item first. -/
structure RingBuffer (α : Type) where
  capacity : Nat
  items : List α
  capacity_pos : 0 < capacity
  length_le : items.length ≤ capacity

namespace RingBuffer

/-- The empty ring. -/
def empty (α : Type) (capacity : Nat) (capacity_pos : 0 < capacity) : RingBuffer α :=
  { capacity, items := [], capacity_pos, length_le := Nat.zero_le _ }

/-- The number of items. -/
def size (r : RingBuffer α) : Nat :=
  r.items.length

/-- Adds an item. The oldest one makes room for it if the ring is full. -/
def push (r : RingBuffer α) (a : α) : RingBuffer α :=
  { r with
    items := lastItems r.capacity (r.items ++ [a])
    length_le := by simp only [lastItems, List.length_drop]; omega }

/-- Adds items, the first one first. -/
def pushAll (r : RingBuffer α) (items : List α) : RingBuffer α :=
  items.foldl push r

/-- At most `limit` items, the newest one first. A negative limit is none at all. -/
def latest (r : RingBuffer α) (limit : Int) : List α :=
  r.items.reverse.take limit.toNat

end RingBuffer

/-! ## Laws -/

theorem lastItems_of_length_le {n : Nat} {items : List α} (h : items.length ≤ n) :
    lastItems n items = items := by
  simp [lastItems, Nat.sub_eq_zero_of_le h]

theorem length_lastItems (n : Nat) (items : List α) :
    (lastItems n items).length = min n items.length := by
  simp only [lastItems, List.length_drop]; omega

theorem lastItems_map (f : α → β) (n : Nat) (items : List α) :
    lastItems n (items.map f) = (lastItems n items).map f := by
  rw [lastItems, lastItems, List.length_map, List.map_drop]

theorem lastItems_lastItems_append (n : Nat) (front back : List α) :
    lastItems n (lastItems n front ++ back) = lastItems n (front ++ back) := by
  simp only [lastItems, List.length_append, List.length_drop, List.drop_append, List.drop_drop]
  congr 2 <;> omega

namespace RingBuffer

@[simp] theorem items_push (r : RingBuffer α) (a : α) :
    (r.push a).items = lastItems r.capacity (r.items ++ [a]) := rfl

@[simp] theorem capacity_push (r : RingBuffer α) (a : α) : (r.push a).capacity = r.capacity := rfl

/-- A ring holds the end of the list of everything that was pushed onto it. -/
theorem pushAll_items (r : RingBuffer α) (items : List α) :
    (r.pushAll items).items = lastItems r.capacity (r.items ++ items) := by
  induction items generalizing r with
  | nil => simp [pushAll, lastItems_of_length_le r.length_le]
  | cons a items ih =>
    have := ih (r.push a)
    simp only [pushAll, List.foldl_cons] at this ⊢
    rw [this, capacity_push, items_push, lastItems_lastItems_append, List.append_assoc,
      List.singleton_append]

theorem pushAll_append (r : RingBuffer α) (items others : List α) :
    r.pushAll (items ++ others) = (r.pushAll items).pushAll others :=
  List.foldl_append

end RingBuffer

end LoadLedger
