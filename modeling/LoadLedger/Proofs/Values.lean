import LoadLedger.Proofs.Faults
import LoadLedger.Proofs.Number.IntegerRange

/-!
# Values that can be written

A value can be written where there is room for it (`Value.height`), unless an integer beyond the
limit is part of it (`Value.integers`). Both are told of all values at once in
`Value.exists_quotedWithin_iff`, and `Value.Blocked` says which of the two a fault of
`Value.quotedWithin` stands for.

The integer that such a value stands for (`Value.toInteger`), whatever its type, can be written as
well (`Value.natAbs_toInteger_lt`).

**Room.** `Value.WritableWithin` asks for both at once, and `Value.WritableAt` for the room that
there is at a place (`Depths.room`). A value that is `Value.Writable` can be written at every place,
as all values can that are no deeper than the reader of files allows. What goes wrong where a value
cannot be written is `Value.UnwritableAt`, and it is one of two faults
(`Value.exists_unwritableAt_iff`).
-/

namespace LoadLedger.Value

/-! ## The integers of a value -/

mutual

/-- The **integers of a value**, however deep they lie in it. Keys hold none, and neither do
floating-point numbers, whose text is never too long. -/
def integers : Value → List Int
  | .int i => [i]
  | .list items => integersOfItems items
  | .object entries => integersOfEntries entries
  | .brokenObject _ items => integersOfItems items
  | .null | .bool _ | .float _ | .text _ | .brokenText _ => []

/-- The integers of the items of a list. -/
def integersOfItems : List Value → List Int
  | [] => []
  | v :: items => integers v ++ integersOfItems items

/-- The integers of the values of an object. -/
def integersOfEntries : List (String × Value) → List Int
  | [] => []
  | (_, v) :: entries => integers v ++ integersOfEntries entries

end

/-- Has none of the integers `Number.digitLimit` digits or more? These are the integers that
`Number.writeInteger` writes. -/
def WithinLimit (integers : List Int) : Prop :=
  ∀ i ∈ integers, i.natAbs < Number.tenTo Number.digitLimit

theorem withinLimit_nil : WithinLimit [] :=
  List.forall_mem_nil _

/-- The limit is one for each integer by itself, so that `WithinLimit` of two lists is told from
each. -/
theorem withinLimit_append {is js : List Int} :
    WithinLimit (is ++ js) ↔ WithinLimit is ∧ WithinLimit js :=
  List.forall_mem_append

/-- What `integersOfItems` gathers is within the limit if the `integers` of each item are. -/
theorem withinLimit_integersOfItems_iff {items : List Value} :
    WithinLimit (integersOfItems items) ↔ ∀ v ∈ items, WithinLimit v.integers := by
  induction items with
  | nil =>
    rw [integersOfItems]
    exact iff_of_true withinLimit_nil (List.forall_mem_nil _)
  | cons v items ih => rw [integersOfItems, withinLimit_append, List.forall_mem_cons, ih]

/-- What `integersOfEntries` gathers is within the limit if the `integers` of the value of each
entry are; the keys do not matter. -/
theorem withinLimit_integersOfEntries_iff {entries : List (String × Value)} :
    WithinLimit (integersOfEntries entries) ↔ ∀ e ∈ entries, WithinLimit e.2.integers := by
  induction entries with
  | nil =>
    rw [integersOfEntries]
    exact iff_of_true withinLimit_nil (List.forall_mem_nil _)
  | cons e entries ih => rw [integersOfEntries, withinLimit_append, List.forall_mem_cons, ih]

/-! ## The height of a value -/

mutual

/-- The **height of a value**: how many values are nested in it at most, the value itself included.
`quotedWithin` goes down one level of calls for each. -/
def height : Value → Nat
  | .list items => heightOfItems items + 1
  | .object entries => heightOfEntries entries + 1
  | .brokenObject _ items => heightOfItems items + 1
  | .null | .bool _ | .int _ | .float _ | .text _ | .brokenText _ => 1

/-- The greatest height of the items of a list. -/
def heightOfItems : List Value → Nat
  | [] => 0
  | v :: items => max (height v) (heightOfItems items)

/-- The greatest height of the values of an object. -/
def heightOfEntries : List (String × Value) → Nat
  | [] => 0
  | (_, v) :: entries => max (height v) (heightOfEntries entries)

end

/-- Every value takes up one place at least, even a text: there is no `Value.height` of zero, and
nothing can be written without any room. -/
theorem height_pos (v : Value) : 0 < v.height := by
  cases v <;> simp only [height, Nat.succ_pos]

/-- `heightOfItems` is the least bound of the heights of the items. -/
theorem heightOfItems_le_iff {items : List Value} {n : Nat} :
    heightOfItems items ≤ n ↔ ∀ v ∈ items, v.height ≤ n := by
  induction items with
  | nil =>
    rw [heightOfItems]
    exact iff_of_true (Nat.zero_le n) (List.forall_mem_nil _)
  | cons v items ih => rw [heightOfItems, Nat.max_le, List.forall_mem_cons, ih]

/-- `heightOfEntries` is the least bound of the heights of the values of the entries. -/
theorem heightOfEntries_le_iff {entries : List (String × Value)} {n : Nat} :
    heightOfEntries entries ≤ n ↔ ∀ e ∈ entries, e.2.height ≤ n := by
  induction entries with
  | nil =>
    rw [heightOfEntries]
    exact iff_of_true (Nat.zero_le n) (List.forall_mem_nil _)
  | cons e entries ih => rw [heightOfEntries, Nat.max_le, List.forall_mem_cons, ih]

/-- What `Value.field?` finds stands in the object, be one of its other keys broken or not. A
`brokenObject` keeps keys and values apart, so that only the value is known to be among its
items. -/
theorem mem_of_field? {v : Value} {entries : List (String × Value)}
    (hentries : v.fields? = some entries) {key : String} {w : Value}
    (hw : field? entries key = some w) :
    (∃ members, v = .object members ∧ (key, w) ∈ members) ∨
      ∃ keys items, v = .brokenObject keys items ∧ w ∈ items := by
  have hmem : (key, w) ∈ entries := by
    rw [field?, List.lookup_eq_some_iff] at hw
    obtain ⟨front, back, rfl, -⟩ := hw
    exact List.mem_append_right _ List.mem_cons_self
  cases v with
  | object members =>
    cases hentries
    exact .inl ⟨_, rfl, hmem⟩
  | brokenObject keys items =>
    cases hentries
    obtain ⟨e, he, hwhole⟩ := List.mem_filterMap.mp hmem
    obtain ⟨_, -, hpair⟩ := Option.map_eq_some_iff.mp hwhole
    cases hpair
    exact .inr ⟨keys, items, rfl, (List.of_mem_zip he).2⟩
  | _ => cases hentries

/-- What can be looked up is nested one level deeper, so that its `height` is less. -/
theorem height_lt_of_field? {v : Value} {entries : List (String × Value)}
    (hentries : v.fields? = some entries) {key : String} {w : Value}
    (hw : field? entries key = some w) : w.height < v.height := by
  obtain ⟨members, rfl, hmem⟩ | ⟨keys, items, rfl, hmem⟩ := mem_of_field? hentries hw
  · rw [height]
    exact Nat.lt_succ_of_le (heightOfEntries_le_iff.mp (Nat.le_refl _) _ hmem)
  · rw [height]
    exact Nat.lt_succ_of_le (heightOfItems_le_iff.mp (Nat.le_refl _) _ hmem)

/-- The `integers` of what can be looked up are integers of the object: if those of the object are
within the limit, so are they. -/
theorem withinLimit_of_field? {v : Value} (h : WithinLimit v.integers)
    {entries : List (String × Value)} (hentries : v.fields? = some entries) {key : String}
    {w : Value} (hw : field? entries key = some w) : WithinLimit w.integers := by
  obtain ⟨members, rfl, hmem⟩ | ⟨keys, items, rfl, hmem⟩ := mem_of_field? hentries hw
  · rw [integers] at h
    exact withinLimit_integersOfEntries_iff.mp h _ hmem
  · rw [integers] at h
    exact withinLimit_integersOfItems_iff.mp h _ hmem

/-- A list that holds a list that holds a list, and so on: the shortest value of its `height`. -/
def nested : Nat → Value
  | 0 => .list []
  | n + 1 => .list [nested n]

/-- No integer is ever in the way of `nested` lists. -/
theorem integers_nested (n : Nat) : (nested n).integers = [] := by
  induction n with
  | zero => rw [nested, integers, integersOfItems]
  | succ n ih => rw [nested, integers, integersOfItems, integersOfItems, ih, List.append_nil]

/-- Every list of `nested` counts, the innermost one too. -/
theorem height_nested (n : Nat) : (nested n).height = n + 1 := by
  induction n with
  | zero => rw [nested, height, heightOfItems]
  | succ n ih => rw [nested, height, heightOfItems, heightOfItems, ih, Nat.max_zero]

/-! ## Room -/

/-- Can the value be written where there is `room` for so many nested values? Its `integers` must be
within the limit, and its `height` must not exceed the room. -/
def WritableWithin (room : Nat) (v : Value) : Prop :=
  WithinLimit v.integers ∧ v.height ≤ room

namespace WritableWithin

variable {room : Nat}

/-- More room does no harm. -/
theorem mono {v : Value} (h : v.WritableWithin room) {more : Nat} (hle : room ≤ more) :
    v.WritableWithin more :=
  ⟨h.1, Nat.le_trans h.2 hle⟩

/-- Where a value can be written there is some room (`height_pos`). -/
theorem pos {v : Value} (h : v.WritableWithin room) : 0 < room :=
  Nat.lt_of_lt_of_le v.height_pos h.2

end WritableWithin

section Room

variable {room : Nat}

/-- Scalars and texts hold no integer and nest nothing: one place of the room is enough for them. -/
theorem writableWithin_null : WritableWithin (room + 1) .null :=
  ⟨withinLimit_nil, Nat.le_add_left 1 room⟩

theorem writableWithin_bool (b : Bool) : WritableWithin (room + 1) (.bool b) :=
  ⟨withinLimit_nil, Nat.le_add_left 1 room⟩

theorem writableWithin_float (x : Float) : WritableWithin (room + 1) (.float x) :=
  ⟨withinLimit_nil, Nat.le_add_left 1 room⟩

theorem writableWithin_ofText (t : AnyText) : WritableWithin (room + 1) (.ofText t) := by
  cases t <;> exact ⟨withinLimit_nil, Nat.le_add_left 1 room⟩

/-- An integer needs one place too, and must not be too long itself. -/
theorem writableWithin_int {i : Int} :
    WritableWithin (room + 1) (.int i) ↔ i.natAbs < Number.tenTo Number.digitLimit := by
  rw [WritableWithin, integers, WithinLimit, List.forall_mem_singleton, height]
  exact and_iff_left (Nat.le_add_left 1 room)

/-- Whether all items can be written can be told from `integersOfItems` and `heightOfItems`, as
`quotedItems` will find it. -/
theorem forall_items_writableWithin_iff {items : List Value} :
    (∀ v ∈ items, v.WritableWithin room) ↔
      WithinLimit (integersOfItems items) ∧ heightOfItems items ≤ room := by
  rw [withinLimit_integersOfItems_iff, heightOfItems_le_iff, ← forall₂_and]
  rfl

/-- Whether the values of all entries can be written can be told from `integersOfEntries` and
`heightOfEntries`, as `quotedEntries` will find it. -/
theorem forall_entries_writableWithin_iff {entries : List (String × Value)} :
    (∀ e ∈ entries, e.2.WritableWithin room) ↔
      WithinLimit (integersOfEntries entries) ∧ heightOfEntries entries ≤ room := by
  rw [withinLimit_integersOfEntries_iff, heightOfEntries_le_iff, ← forall₂_and]
  rfl

/-- A list takes up one place of the room; its items share what remains, each of them all of it. -/
theorem writableWithin_list {items : List Value} :
    WritableWithin (room + 1) (.list items) ↔ ∀ v ∈ items, v.WritableWithin room := by
  rw [forall_items_writableWithin_iff, WritableWithin, integers, height, Nat.succ_le_succ_iff]

theorem writableWithin_object {entries : List (String × Value)} :
    WritableWithin (room + 1) (.object entries) ↔ ∀ e ∈ entries, e.2.WritableWithin room := by
  rw [forall_entries_writableWithin_iff, WritableWithin, integers, height, Nat.succ_le_succ_iff]

/-- An object with a broken key can be written as far as its values can: a lone surrogate is quoted
as an escape. -/
theorem writableWithin_brokenObject {keys : List AnyText} {items : List Value} :
    WritableWithin (room + 1) (.brokenObject keys items) ↔ ∀ v ∈ items, v.WritableWithin room := by
  rw [forall_items_writableWithin_iff, WritableWithin, integers, height, Nat.succ_le_succ_iff]

/-- What can be looked up in an object can be written if the object can, with one place less. -/
theorem WritableWithin.field? {v : Value} (h : v.WritableWithin (room + 1))
    {entries : List (String × Value)} (hentries : v.fields? = some entries) {key : String}
    {w : Value} (hw : Value.field? entries key = some w) : w.WritableWithin room :=
  ⟨withinLimit_of_field? h.1 hentries hw,
    Nat.le_of_lt_succ (Nat.lt_of_lt_of_le (height_lt_of_field? hentries hw) h.2)⟩

/-! ## Writing -/

mutual

/-- **A value can be written exactly if all of its integers can and there is room for it.** The
induction is that of `quotedWithin`, which calls `quotedItems` and `quotedEntries` with one place
less: a value without room fails whatever it is, a scalar with room never does unless it is an
integer, and for lists and objects `writableWithin_list` and its siblings say the same of the
room. -/
theorem exists_quotedWithin_iff (room : Nat) (v : Value) :
    (∃ s, v.quotedWithin room = .ok s) ↔ v.WritableWithin room := by
  cases room with
  -- Without room not even a scalar is written, and no value has the height zero.
  | zero =>
    rw [quotedWithin]
    exact iff_of_false (by rintro ⟨_, ⟨⟩⟩) fun h => Nat.lt_irrefl 0 h.pos
  | succ room =>
    cases v with
    | int i =>
      rw [writableWithin_int, quotedWithin]
      constructor
      · rintro ⟨s, h⟩
        exact (Number.writeInteger_eq_ok_iff.mp h).1
      · intro hlt
        exact ⟨_, Number.writeInteger_eq_ok_iff.mpr ⟨hlt, rfl⟩⟩
    | list items =>
      rw [writableWithin_list, quotedWithin, exists_bind_pure_eq_ok]
      exact exists_quotedItems_iff room items
    | object entries =>
      rw [writableWithin_object, quotedWithin, exists_bind_pure_eq_ok]
      exact exists_quotedEntries_iff room entries
    | brokenObject keys items =>
      rw [writableWithin_brokenObject, quotedWithin, exists_bind_pure_eq_ok]
      exact exists_quotedItems_iff room items
    | null | bool | float | text | brokenText =>
      rw [quotedWithin]
      exact iff_of_true ⟨_, rfl⟩ ⟨withinLimit_nil, Nat.le_add_left 1 room⟩

/-- Items can be written by `quotedItems` if each of them can. -/
theorem exists_quotedItems_iff (room : Nat) (items : List Value) :
    (∃ parts, quotedItems room items = .ok parts) ↔ ∀ v ∈ items, v.WritableWithin room := by
  cases items with
  | nil =>
    rw [quotedItems]
    exact iff_of_true ⟨_, rfl⟩ (List.forall_mem_nil _)
  | cons v items =>
    rw [quotedItems, List.forall_mem_cons, ← exists_quotedWithin_iff room v,
      ← exists_quotedItems_iff room items, exists_bind_eq_ok]
    simp only [exists_bind_pure_eq_ok, exists_and_right]

/-- Entries can be written by `quotedEntries` if the value of each of them can. -/
theorem exists_quotedEntries_iff (room : Nat) (entries : List (String × Value)) :
    (∃ parts, quotedEntries room entries = .ok parts) ↔ ∀ e ∈ entries, e.2.WritableWithin room := by
  cases entries with
  | nil =>
    rw [quotedEntries]
    exact iff_of_true ⟨_, rfl⟩ (List.forall_mem_nil _)
  | cons e entries =>
    obtain ⟨key, v⟩ := e
    rw [quotedEntries, List.forall_mem_cons, ← exists_quotedWithin_iff room v,
      ← exists_quotedEntries_iff room entries, exists_bind_eq_ok]
    simp only [exists_bind_pure_eq_ok, exists_and_right]

end

/-! ## Faults of writing -/

/-- Is the fault about **something that is in the way**: an integer beyond the limit, or values that
are nested deeper than there is room for? Which of the two it is where both are in the way depends
on the order of writing, and is left open. -/
def Blocked (room : Nat) (integers : List Int) (height : Nat) (cause : Fault) : Prop :=
  cause = .unwritableInteger ∧ ¬ WithinLimit integers ∨ cause = .tooDeepToWrite ∧ room < height

namespace Blocked

variable {is js : List Int} {m n : Nat} {cause : Fault}

/-- What is in the way of the first item is in the way of the list, whose integers are appended and
whose height is the greatest. -/
theorem left (h : Blocked room is m cause) : Blocked room (is ++ js) (max m n) cause := by
  refine h.imp ?_ ?_
  · rintro ⟨rfl, hlong⟩
    exact ⟨rfl, fun hall => hlong (withinLimit_append.mp hall).1⟩
  · rintro ⟨rfl, hdeep⟩
    exact ⟨rfl, Nat.lt_of_lt_of_le hdeep (Nat.le_max_left m n)⟩

/-- So is what is in the way of the items after it. -/
theorem right (h : Blocked room js n cause) : Blocked room (is ++ js) (max m n) cause := by
  refine h.imp ?_ ?_
  · rintro ⟨rfl, hlong⟩
    exact ⟨rfl, fun hall => hlong (withinLimit_append.mp hall).2⟩
  · rintro ⟨rfl, hdeep⟩
    exact ⟨rfl, Nat.lt_of_lt_of_le hdeep (Nat.le_max_right m n)⟩

/-- What is in the way inside is in the way outside, where there is one place more. -/
theorem succ (h : Blocked room is m cause) : Blocked (room + 1) is (m + 1) cause :=
  h.imp_right (And.imp_right Nat.succ_lt_succ)

end Blocked

mutual

/-- **Nothing but `Blocked` goes wrong** when a value is written: the fault of `quotedWithin` tells
what is in the way. With `exists_quotedWithin_iff` this describes writing completely. -/
theorem blocked_of_quotedWithin {cause : Fault} (room : Nat) (v : Value)
    (h : v.quotedWithin room = .error cause) : Blocked room v.integers v.height cause := by
  cases room with
  -- The room is used up before the value is looked at.
  | zero =>
    rw [quotedWithin] at h
    cases h
    exact .inr ⟨rfl, v.height_pos⟩
  | succ room =>
    cases v with
    | int i =>
      rw [quotedWithin, Number.writeInteger] at h
      split at h
      · rename_i hle
        cases h
        refine .inl ⟨rfl, fun hall => ?_⟩
        rw [integers] at hall
        exact absurd (hall i List.mem_cons_self) (Nat.not_lt.mpr hle)
      · cases h
    | list items =>
      rw [quotedWithin, bind_pure_eq_error] at h
      rw [integers, height]
      exact (blocked_of_quotedItems room items h).succ
    | object entries =>
      rw [quotedWithin, bind_pure_eq_error] at h
      rw [integers, height]
      exact (blocked_of_quotedEntries room entries h).succ
    | brokenObject keys items =>
      rw [quotedWithin, bind_pure_eq_error] at h
      rw [integers, height]
      exact (blocked_of_quotedItems room items h).succ
    | null | bool | float | text | brokenText =>
      rw [quotedWithin] at h
      cases h

/-- The same for the items of a list: the fault is that of the first item that cannot be written. -/
theorem blocked_of_quotedItems {cause : Fault} (room : Nat) (items : List Value)
    (h : quotedItems room items = .error cause) :
    Blocked room (integersOfItems items) (heightOfItems items) cause := by
  cases items with
  | nil =>
    rw [quotedItems] at h
    cases h
  | cons v items =>
    rw [quotedItems, bind_eq_error] at h
    rw [integersOfItems, heightOfItems]
    obtain hv | ⟨_, -, hitems⟩ := h
    · exact (blocked_of_quotedWithin room v hv).left
    · exact (blocked_of_quotedItems room items (bind_pure_eq_error.mp hitems)).right

/-- The same for the entries of an object. -/
theorem blocked_of_quotedEntries {cause : Fault} (room : Nat) (entries : List (String × Value))
    (h : quotedEntries room entries = .error cause) :
    Blocked room (integersOfEntries entries) (heightOfEntries entries) cause := by
  cases entries with
  | nil =>
    rw [quotedEntries] at h
    cases h
  | cons e entries =>
    obtain ⟨key, v⟩ := e
    rw [quotedEntries, bind_eq_error] at h
    rw [integersOfEntries, heightOfEntries]
    obtain hv | ⟨_, -, hentries⟩ := h
    · exact (blocked_of_quotedWithin room v hv).left
    · exact (blocked_of_quotedEntries room entries (bind_pure_eq_error.mp hentries)).right

end

/-- **What a value stands for can be written** if its integers can: a number that is read from a
text or cut off from a fraction is never beyond the limit. -/
theorem natAbs_toInteger_lt {v : Value} (h : WithinLimit v.integers) {i : Int}
    (hi : v.toInteger = .ok i) : i.natAbs < Number.tenTo Number.digitLimit := by
  have hone : 1 < Number.tenTo Number.digitLimit := by decide +kernel
  cases v with
  | int j =>
    cases hi
    exact h _ (by rw [integers]; exact List.mem_cons_self)
  | bool b =>
    cases hi
    cases b
    · exact Nat.lt_trans Nat.one_pos hone
    · exact hone
  | float x =>
    rw [toInteger] at hi
    split at hi
    · cases hi
    · cases hi
    · rename_i hparts
      cases hi
      exact Number.natAbs_truncate_lt hparts
  -- A literal is refused by `Number.readInteger` if it has too many digits.
  | text s => exact Number.natAbs_lt_of_readInteger hi
  | null | brokenText | list | object | brokenObject => cases hi

end Room

/-! ## Places -/

section Places

variable [Depths]

/-- Can the value be written at a place, where the calls that are under way leave `Depths.room`? -/
def WritableAt (place : Place) (v : Value) : Prop :=
  v.WritableWithin (Depths.room place)

/-- Can the value be written at every place, as those can that are read from a text? A text nests
`Depths.reading` lists and objects at most, and a scalar inside of them. -/
def Writable (v : Value) : Prop :=
  v.WritableWithin (Depths.reading + 1)

/-- `Writable` is enough everywhere, since every place has more room than the reader needs
(`Depths.reading_lt_room`). -/
theorem Writable.at {v : Value} (h : v.Writable) (place : Place) : v.WritableAt place :=
  WritableWithin.mono h (Depths.reading_lt_room place)

/-- What can be looked up in a writable object is writable; that it needs one place less is not
used. -/
theorem Writable.field? {v : Value} (h : v.Writable) {entries : List (String × Value)}
    (hentries : v.fields? = some entries) {key : String} {w : Value}
    (hw : Value.field? entries key = some w) : w.Writable :=
  (WritableWithin.field? h hentries hw).mono (Nat.le_succ _)

/-- A value that needs one place of the room can be written everywhere. -/
theorem WritableWithin.at {v : Value} (h : v.WritableWithin 1) (place : Place) :
    v.WritableAt place :=
  h.mono (Depths.room_pos place)

/-- A text can be written at every place, with lone surrogates or without. -/
theorem writableAt_ofText (t : AnyText) (place : Place) : (ofText t).WritableAt place :=
  (writableWithin_ofText t : WritableWithin (0 + 1) (ofText t)).at place

variable {place : Place} {v : Value} {cause : Fault}

/-- Within a list or a message a value is quoted (`quotedAt`), which goes well exactly if it is
`WritableAt` the place. -/
theorem exists_quotedAt_iff : (∃ s, v.quotedAt place = .ok s) ↔ v.WritableAt place :=
  exists_quotedWithin_iff _ v

/-- Standing by itself, a value can be written in the same cases: `shownAt` differs from `quotedAt`
for texts only, and these can always be written. -/
theorem exists_shownAt_iff : (∃ t, v.shownAt place = .ok t) ↔ v.WritableAt place := by
  have hmap : (∃ t, (v.quotedAt place).map AnyText.whole = .ok t) ↔ v.WritableAt place :=
    exists_map_eq_ok.trans exists_quotedAt_iff
  cases v with
  | text s => exact iff_of_true ⟨_, rfl⟩ (writableAt_ofText (.whole s) place)
  | brokenText t => exact iff_of_true ⟨_, rfl⟩ (writableAt_ofText (.broken t) place)
  | _ => exact hmap

/-- The value **cannot be written** at a place: the fault with which `quotedAt` ends, and what is in
the way. -/
structure UnwritableAt (place : Place) (v : Value) (cause : Fault) : Prop where
  /-- Writing it ends with the fault, -/
  fault : v.quotedAt place = .error cause
  /-- which is about something that is in the way there. -/
  blocked : Blocked (Depths.room place) v.integers v.height cause

/-- The second part of `UnwritableAt` follows from the first one (`blocked_of_quotedWithin`). -/
theorem unwritableAt_iff_quotedAt : v.UnwritableAt place cause ↔ v.quotedAt place = .error cause :=
  ⟨fun h => h.fault, fun h => ⟨h, blocked_of_quotedWithin _ v h⟩⟩

/-- Standing by itself, a value meets the same faults, since texts meet none in either form. -/
theorem unwritableAt_iff_shownAt : v.UnwritableAt place cause ↔ v.shownAt place = .error cause := by
  have hmap : v.UnwritableAt place cause ↔ (v.quotedAt place).map AnyText.whole = .error cause :=
    unwritableAt_iff_quotedAt.trans map_eq_error.symm
  have htext : ∀ t, ¬ (ofText t).UnwritableAt place cause := by
    intro t h
    obtain ⟨s, hs⟩ := exists_quotedAt_iff.mpr (writableAt_ofText t place)
    cases hs.symm.trans h.fault
  cases v with
  | text s => exact iff_of_false (htext (.whole s)) (by rintro ⟨⟩)
  | brokenText t => exact iff_of_false (htext (.broken t)) (by rintro ⟨⟩)
  | _ => exact hmap

/-- Nothing is too deep that nests nothing: of `Blocked` only the integer is left, because every
place has some room (`Depths.room_pos`). -/
theorem UnwritableAt.eq_unwritableInteger (h : v.UnwritableAt place cause)
    (hheight : v.height = 1) :
    cause = .unwritableInteger := by
  obtain ⟨rfl, -⟩ | ⟨-, hdeep⟩ := h.blocked
  · rfl
  · rw [hheight] at hdeep
    exact absurd hdeep (Nat.not_lt.mpr (Depths.room_pos place))

/-- **A value is written, or something is in the way.** There is no third case, such as a value
whose text is never finished. -/
theorem exists_unwritableAt_iff : (∃ cause, v.UnwritableAt place cause) ↔ ¬ v.WritableAt place := by
  simp only [unwritableAt_iff_quotedAt, ← exists_quotedAt_iff]
  cases v.quotedAt place with
  | error c => exact iff_of_true ⟨c, rfl⟩ (by rintro ⟨_, ⟨⟩⟩)
  | ok s => exact iff_of_false (by rintro ⟨_, ⟨⟩⟩) (fun h => h ⟨s, rfl⟩)

/-- Lists that are `nested` deeper than there is room for cannot be written, short as their text
would be. So every place has values that stop it, whatever `Depths` says. -/
theorem unwritableAt_nested (place : Place) :
    (nested (Depths.room place)).UnwritableAt place .tooDeepToWrite := by
  have hnot : ¬ (nested (Depths.room place)).WritableAt place := by
    rintro ⟨-, hheight⟩
    rw [height_nested] at hheight
    exact Nat.not_succ_le_self _ hheight
  obtain ⟨cause, h⟩ := exists_unwritableAt_iff.mpr hnot
  obtain ⟨-, hlong⟩ | ⟨rfl, -⟩ := h.blocked
  · rw [integers_nested] at hlong
    exact absurd withinLimit_nil hlong
  · exact h

end Places

end LoadLedger.Value
