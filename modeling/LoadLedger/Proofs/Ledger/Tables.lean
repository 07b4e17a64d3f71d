import LoadLedger.Machine
import LoadLedger.Proofs.Ledger.Reports
import LoadLedger.Proofs.Number.Numerals
import Mathlib.Data.List.Forall2

/-!
# What a table shows

The line of a row is cut at the end only, and what is cut off there are blanks. As the text of a
number holds no blank, it is complete in its line, however wide it is
(`Report.shows_rowLine`): it begins at the place of the counts and ends with the line or before the
next space. So the texts of the values can be read back from a table
(`Report.shown_eq_readCounts`), and a table tells just these texts
(`Snapshot.table_shows_rows`).

`Report.Shows` says what it means that a line shows a text: where the name ends, where the text
begins and where it ends. `Report.IsRow` is what is asked of a row: its value is a number, and its
labels have no line feed in them.
-/

namespace LoadLedger

/-! ## The texts of numbers -/

/-- Is the value a number, and no truth value? -/
def Value.IsNumber (v : Value) : Prop :=
  (∃ i, v = .int i) ∨ ∃ x, v = .float x

namespace Number

/-- No character of a numeral is blank. -/
theorem isBlank_of_isNumeralChar {c : Char} (h : isNumeralChar c = true) :
    Text.isBlank c = false := by
  have hrange : 33 ≤ c.toNat ∧ c.toNat ≤ 126 := by
    rw [isNumeralChar, Bool.or_eq_true, List.contains_iff_mem] at h
    rcases h with h | h
    · have hdigit : '0'.toNat ≤ c.toNat ∧ c.toNat ≤ '9'.toNat := by
        simpa [Char.isDigit, UInt32.le_iff_toNat_le] using h
      have hzero : '0'.toNat = 48 := rfl
      have hnine : '9'.toNat = 57 := rfl
      omega
    · simp only [List.mem_cons, List.not_mem_nil, or_false] at h
      rcases h with rfl | rfl | rfl | rfl | rfl | rfl | rfl | rfl <;> decide
  simp only [Text.isBlank, Bool.or_eq_false_iff, Bool.and_eq_false_iff, decide_eq_false_iff_not,
    beq_eq_false_iff_ne]
  omega

theorem toString_ne_nil (i : Int) : (toString i).toList ≠ [] := by
  rw [Int.toString_eq_repr, Int.repr_eq_if]
  split
  · rw [Nat.toList_repr]
    exact Nat.toDigits_ne_nil
  · rw [String.toList_append]
    exact List.append_ne_nil_of_left_ne_nil (by decide) _

theorem floatChars_ne_nil (x : Float) : floatChars x ≠ [] := by
  -- either layout writes a digit or a point
  have hlayOut : ∀ d : Decimal, d.layOut layout ≠ [] := by
    intro d
    rw [Decimal.layOut]
    split
    · rw [Decimal.positional]
      split
      · simp
      · split <;> simp
    · simp [Decimal.scientific]
  rw [floatChars]
  split
  · simp
  · split <;> simp
  · dsimp only
    split
    · simp
    · split
      · simp
      · exact hlayOut _

end Number

/-- `Value.shown` gives a numeral with at least one character for a number, if it gives anything. -/
theorem Value.IsNumber.shown [Depths] {v : Value} (hv : v.IsNumber) {t : AnyText}
    (h : v.shown = .ok t) : ∃ s, t = .whole s ∧ Number.IsNumeral s.toList ∧ s.toList ≠ [] := by
  obtain ⟨room, hroom⟩ := Nat.exists_eq_succ_of_ne_zero (Depths.room_pos .elsewhere).ne'
  obtain ⟨i, rfl⟩ | ⟨x, rfl⟩ := hv
  · change ((Value.int i).quotedAt .elsewhere).map AnyText.whole = .ok t at h
    rw [quotedAt, hroom, quotedWithin] at h
    obtain ⟨s, hs, rfl⟩ := map_eq_ok.mp h
    obtain ⟨-, rfl⟩ := Number.writeInteger_eq_ok_iff.mp hs
    exact ⟨_, rfl, Number.isNumeral_toString i, Number.toString_ne_nil i⟩
  · change ((Value.float x).quotedAt .elsewhere).map AnyText.whole = .ok t at h
    rw [quotedAt, hroom, quotedWithin] at h
    cases h
    refine ⟨_, rfl, ?_⟩
    rw [Number.floatText, String.toList_ofList]
    exact ⟨Number.isNumeral_floatChars x, Number.floatChars_ne_nil x⟩

/-! ## Padding -/

namespace Report

/-- What is padded is as wide as its column, or as its text if that is wider. -/
theorem length_padRight (width : Nat) (s : List Char) :
    (padRight width s).length = max width s.length := by
  rw [padRight, List.length_append, List.length_replicate]
  omega

/-- A space after a padded text is more padding. -/
theorem padRight_concat {width : Nat} {s : List Char} (h : s.length ≤ width) :
    padRight width s ++ [' '] = padRight (width + 1) s := by
  rw [padRight, padRight, List.append_assoc, ← List.replicate_succ', Nat.succ_sub h]

/-- The column of the names is wide enough for each of them. -/
theorem name_le_nameWidth {rows : List Row} {row : Row} (h : row ∈ rows) :
    row.name.toList.length ≤ nameWidth rows := by
  have hmem := List.mem_map_of_mem (f := fun row : Row => row.name.toList.length) h
  rw [nameWidth, List.foldl_max, Nat.zero_max]
  exact (List.le_max?_getD_of_mem hmem).trans (Nat.le_add_right _ 2)

/-! ## Lines of rows -/

/-- A line shows a row whose value has the given text, with the counts beginning at a place: the
name fills the line up to this place, the text follows as a whole, and after it come spaces and the
remark; the line ends in no blank. -/
structure Shows (place : Nat) (row : Row) (text : String) (line : List Char) : Prop where
  /-- The name fills the line up to the place. -/
  name : line.take place = padRight place row.name.toList
  /-- From there on comes the text, up to the first space. -/
  count : (line.drop place).takeWhile (· != ' ') = text.toList
  /-- What follows is a gap and the remark. -/
  remark : ∃ gap, (∀ c ∈ gap, c = ' ') ∧ line.drop place = text.toList ++ gap ++ row.note.toList
  /-- No blank is left at the end. -/
  trimmed : ∀ c ∈ line.getLast?, Text.isBlank c = false

/-- A row as tables have them: its value is a number, its name and its remark stay on one line, and
the remark does not end in a blank. -/
structure IsRow (row : Row) : Prop where
  number : row.value.IsNumber
  name : '\n' ∉ row.name.toList
  note : '\n' ∉ row.note.toList
  ends : row.note.toList.getLast?.any Text.isBlank = false

variable {width : Nat} {row : Row} {text : String}

/-- What is cut off of the line of a row are spaces, and none of its text. -/
theorem exists_rowLine_eq (width : Nat) (hnumeral : Number.IsNumeral text.toList)
    (hne : text.toList ≠ []) (hrow : IsRow row) :
    ∃ gap, (∀ c ∈ gap, c = ' ') ∧ (row.note.toList ≠ [] → gap ≠ []) ∧
      rowLine width row text =
        padRight width row.name.toList ++ [' '] ++ (text.toList ++ gap ++ row.note.toList) := by
  let padding := List.replicate (countWidth - text.toList.length) ' ' ++ [' ']
  have hpadding : ∀ c ∈ padding, c = ' ' := by
    intro c hc
    obtain hc | hc := List.mem_append.mp hc
    · exact List.eq_of_mem_replicate hc
    · exact List.mem_singleton.mp hc
  have hline : rowLine width row text = Text.dropTrailing Text.isBlank
      (padRight width row.name.toList ++ [' '] ++ (text.toList ++ padding ++ row.note.toList)) := by
    simp only [rowLine, padRight, padding, List.append_assoc]
  obtain ⟨last, hlast⟩ := Option.isSome_iff_exists.mp (List.getLast?_isSome.mpr hne)
  cases hnote : row.note.toList.getLast? with
  | none =>
    -- without a remark the padding goes, down to the last character of the text
    rw [List.getLast?_eq_none_iff] at hnote
    have hblank : ∀ c ∈ padding, Text.isBlank c = true := by
      intro c hc
      rw [hpadding c hc]
      decide
    have hlast' : Text.isBlank last = false :=
      Number.isBlank_of_isNumeralChar (hnumeral last (List.mem_of_getLast? hlast))
    refine ⟨[], fun c hc => absurd hc List.not_mem_nil, fun h => absurd hnote h, ?_⟩
    rw [hline, hnote, List.append_nil, List.append_nil, List.append_nil, ← List.append_assoc,
      Text.dropTrailing_append hblank]
    refine Text.dropTrailing_of_getLast? ?_ hlast'
    rw [List.getLast?_append_of_ne_nil _ hne, hlast]
  | some c =>
    -- a remark keeps the padding in its place
    have hne' : row.note.toList ≠ [] := by
      intro h
      rw [h] at hnote
      cases hnote
    refine ⟨padding, hpadding, fun _ => List.append_ne_nil_of_right_ne_nil _ (by decide), ?_⟩
    rw [hline]
    have hends := hrow.ends
    rw [hnote, Option.any_some] at hends
    refine Text.dropTrailing_of_getLast? ?_ hends
    rw [← List.append_assoc, List.getLast?_append_of_ne_nil _ hne', hnote]

/-- **The line of a row shows it**, however wide the text of its value is. -/
theorem shows_rowLine (hname : row.name.toList.length ≤ width)
    (hnumeral : Number.IsNumeral text.toList) (hne : text.toList ≠ []) (hrow : IsRow row) :
    Shows (width + 1) row text (rowLine width row text) := by
  obtain ⟨gap, hgap, hremark, hline⟩ := exists_rowLine_eq width hnumeral hne hrow
  rw [padRight_concat hname] at hline
  have hlength : (padRight (width + 1) row.name.toList).length = width + 1 := by
    rw [length_padRight]
    omega
  have hcell : (rowLine width row text).drop (width + 1) =
      text.toList ++ gap ++ row.note.toList := by
    rw [hline, List.drop_left' hlength]
  constructor
  case name => rw [hline, List.take_left' hlength]
  case count =>
    -- a numeral has no space in it, so that it ends where the first one comes
    have hnonspace : ∀ c ∈ text.toList, (c != ' ') = true := by
      intro c hc
      rw [bne_iff_ne]
      rintro rfl
      exact absurd (hnumeral ' ' hc) (by decide)
    -- what follows it begins with a space, or there is nothing
    have hrest : (gap ++ row.note.toList).takeWhile (· != ' ') = [] := by
      cases gap with
      | nil =>
        have hnote : row.note.toList = [] := by_contra fun h => hremark h rfl
        rw [hnote]
        rfl
      | cons c gap =>
        rw [hgap c List.mem_cons_self]
        rfl
    rw [hcell, List.append_assoc, List.takeWhile_append_of_pos hnonspace, hrest, List.append_nil]
  case remark => exact ⟨gap, hgap, hcell⟩
  case trimmed => exact Text.getLast?_dropTrailing

example : rowLine 33 ⟨"# Current CONSISTENCY/interval", .int 12345678901, "(4 requests per check)"⟩
    "12345678901" =
      "# Current CONSISTENCY/interval    12345678901 (4 requests per check)".toList := by
  decide +kernel

/-! ## Lines of tables -/

variable [Depths]
variable {rows : List Row} {lines : List (List Char)}

/-- The lines that `rowLines` gives are those of `rowLine`, with the texts of the numbers. A number
is never shown as a broken text. -/
theorem forall₂_of_rowLines (hrows : ∀ row ∈ rows, IsRow row)
    (h : rowLines width rows = .ok lines) :
    List.Forall₂ (fun row line => ∃ text : String, row.value.shown = .ok (.whole text) ∧
      (Number.IsNumeral text.toList ∧ text.toList ≠ []) ∧ line = rowLine width row text)
      rows lines := by
  induction rows generalizing lines with
  | nil =>
    cases h
    exact .nil
  | cons row rows ih =>
    obtain ⟨hrow, hrows⟩ := List.forall_mem_cons.mp hrows
    rw [rowLines] at h
    obtain ⟨shown, hshown, h⟩ := bind_eq_ok.mp h
    obtain ⟨rest, hrest, h⟩ := bind_eq_ok.mp h
    cases h
    obtain ⟨text, rfl, hnumeral⟩ := hrow.number.shown hshown
    exact .cons ⟨text, hshown, hnumeral, rfl⟩ (ih hrows hrest)

/-- The lines below the rule show the rows, in their order. -/
theorem shows_rowLines (hrows : ∀ row ∈ rows, IsRow row)
    (h : rowLines (nameWidth rows) rows = .ok lines) :
    List.Forall₂ (fun row line => ∃ text : String, row.value.shown = .ok (.whole text) ∧
      Shows (nameWidth rows + 1) row text line) rows lines := by
  have hforall := forall₂_of_rowLines hrows h
  rw [List.forall₂_iff_zip] at hforall ⊢
  refine ⟨hforall.1, ?_⟩
  intro row line hmem
  obtain ⟨text, htext, ⟨hnumeral, hne⟩, rfl⟩ := hforall.2 hmem
  obtain ⟨hrow, -⟩ := List.of_mem_zip hmem
  exact ⟨text, htext, shows_rowLine (name_le_nameWidth hrow) hnumeral hne (hrows row hrow)⟩

omit [Depths] in
theorem notMem_padRight {c : Char} {s : List Char} (hs : c ∉ s) (hc : c ≠ ' ') :
    c ∉ padRight width s := by
  rw [padRight, List.mem_append, not_or]
  exact ⟨hs, fun h => hc (List.eq_of_mem_replicate h)⟩

omit [Depths] in
/-- A row stays on one line. -/
theorem notMem_rowLine (hrow : IsRow row) (hnumeral : Number.IsNumeral text.toList) :
    '\n' ∉ rowLine width row text := by
  intro h
  have htext : '\n' ∉ text.toList := fun h => absurd (hnumeral _ h) (by decide)
  have hmem := Text.mem_of_mem_dropTrailing h
  simp only [List.mem_append, List.mem_singleton] at hmem
  rcases hmem with (((hmem | hmem) | hmem) | hmem) | hmem
  · exact notMem_padRight hrow.name (by decide) hmem
  · exact absurd hmem (by decide)
  · exact notMem_padRight htext (by decide) hmem
  · exact absurd hmem (by decide)
  · exact hrow.note hmem

/-- So no line of a table breaks off, and the table has as many lines as it seems to have. -/
theorem notMem_of_rowLines (hrows : ∀ row ∈ rows, IsRow row)
    (h : rowLines width rows = .ok lines) : ∀ line ∈ lines, '\n' ∉ line := by
  have hforall := forall₂_of_rowLines hrows h
  clear h
  induction hforall with
  | nil => exact List.forall_mem_nil _
  | cons hline _ ih =>
    obtain ⟨text, -, ⟨hnumeral, -⟩, rfl⟩ := hline
    obtain ⟨hrow, hrows⟩ := List.forall_mem_cons.mp hrows
    exact List.forall_mem_cons.mpr ⟨notMem_rowLine hrow hnumeral, ih hrows⟩

/-- **The lines of a table** are the header, the rule and the lines of its rows: at the line feeds
the text comes apart where it was put together. -/
theorem splitOn_table (hrows : ∀ row ∈ rows, IsRow row) {text : String}
    (h : table rows = .ok text) :
    ∃ lines, rowLines (nameWidth rows) rows = .ok lines ∧
      text.toList.splitOn '\n' = header (nameWidth rows) :: rule (nameWidth rows) :: lines := by
  rw [table, tableLines] at h
  cases hlines : rowLines (nameWidth rows) rows with
  | error cause =>
    rw [hlines] at h
    cases h
  | ok lines =>
    rw [hlines] at h
    cases h
    refine ⟨lines, rfl, ?_⟩
    rw [joinLines, String.toList_ofList]
    -- the lines are put together with line feeds, and have none of their own
    refine List.splitOn_intercalate '\n' ?_ (List.cons_ne_nil _ _)
    simp only [List.forall_mem_cons]
    refine ⟨?header, ?rule, ?rows⟩
    case header =>
      simp only [header, List.mem_append, List.mem_singleton, not_or]
      exact ⟨⟨notMem_padRight (by decide) (by decide), by decide⟩,
        notMem_padRight (by decide) (by decide)⟩
    case rule =>
      intro hmem
      exact absurd (List.eq_of_mem_replicate hmem) (by decide)
    case rows => exact notMem_of_rowLines hrows hlines

/-! ## Reading a table back -/

/-- The texts of the values of a table: what stands at the place of the counts in each line below
the rule. -/
def readCounts (place : Nat) (table : String) : List String :=
  ((table.toList.splitOn '\n').drop 2).map fun line =>
    String.ofList ((line.drop place).takeWhile (· != ' '))

/-- **The texts of the values can be read back** from a table. Each text is complete in its line,
and what follows it begins with a space (`Shows.count`). -/
theorem shown_eq_readCounts (hrows : ∀ row ∈ rows, IsRow row) {text : String}
    (h : table rows = .ok text) :
    rows.map (·.value.shown) = (readCounts (nameWidth rows + 1) text).map (.ok ∘ .whole) := by
  obtain ⟨lines, hlines, hsplit⟩ := splitOn_table hrows h
  rw [readCounts, hsplit, List.map_map, ← List.forall₂_eq_eq_eq, List.forall₂_map_left_iff,
    List.forall₂_map_right_iff]
  refine (shows_rowLines hrows hlines).imp ?_
  rintro row line ⟨text, htext, hshows⟩
  rw [htext, Function.comp_apply, Function.comp_apply, hshows.count, String.ofList_toList]

/-- A table tells no more than its labels and the texts of its values. With `shown_eq_readCounts` it
tells just these. -/
theorem table_congr {others : List Row}
    (hlabels : rows.map (fun row => (row.name, row.note)) =
      others.map fun row => (row.name, row.note))
    (hshown : rows.map (·.value.shown) = others.map (·.value.shown)) :
    table rows = table others := by
  have hwidth : nameWidth rows = nameWidth others := by
    have hnames := congrArg (List.map fun label => label.1.toList.length) hlabels
    rw [List.map_map, List.map_map] at hnames
    exact congrArg (fun lengths => lengths.foldl max 0 + 2) hnames
  have hlines : ∀ width, rowLines width rows = rowLines width others := by
    intro width
    clear hwidth
    -- the width is given by now, so that each line depends on its own row only
    induction rows generalizing others with
    | nil =>
      rw [List.map_nil, eq_comm, List.map_eq_nil_iff] at hlabels
      rw [hlabels]
    | cons row rows ih =>
      cases others with
      | nil => cases hlabels
      | cons other others =>
        simp only [List.map_cons, List.cons.injEq, Prod.mk.injEq] at hlabels hshown
        have hline : ∀ text, rowLine width row text = rowLine width other text := by
          intro text
          rw [rowLine, rowLine, hlabels.1.1, hlabels.1.2]
        simp only [rowLines, hshown.1, ih hlabels.2 hshown.2, hline]
  rw [table, table, tableLines, tableLines, hwidth, hlines]

end Report

/-! ## The table of a snapshot -/

namespace Snapshot

/-- The rows of a snapshot are of the sort that tables have: fixed labels, and numbers. -/
theorem isRow_of_mem_rows {s : Snapshot} {row : Row} (h : row ∈ s.rows) : Report.IsRow row := by
  have hlabels : ∀ label ∈ Report.labels, '\n' ∉ label.1.toList ∧ '\n' ∉ label.2.toList ∧
      label.2.toList.getLast?.any Text.isBlank = false := by decide +kernel
  have hnumbers : ∀ v ∈ s.shownValues, v.IsNumber := by
    simp [shownValues, Value.IsNumber]
  have hlabel : (row.name, row.note) ∈ Report.labels :=
    List.mem_map_of_mem (f := fun row : Row => (row.name, row.note)) h
  have hvalue : row.value ∈ s.shownValues := List.mem_map_of_mem (f := Row.value) h
  obtain ⟨hname, hnote, hends⟩ := hlabels _ hlabel
  exact ⟨hnumbers _ hvalue, hname, hnote, hends⟩

/-- The place of the counts in the table of a snapshot: behind the longest name, two spaces and the
one that divides the columns. -/
def countPlace : Nat := 34

theorem nameWidth_rows (s : Snapshot) : Report.nameWidth s.rows + 1 = countPlace := by
  have hnames : Report.nameWidth s.rows =
      (Report.labels.map (·.1.toList.length)).foldl max 0 + 2 := rfl
  have hwidth : (Report.labels.map (·.1.toList.length)).foldl max 0 + 2 + 1 = countPlace := by
    decide +kernel
  rw [hnames, hwidth]

theorem header_rows (s : Snapshot) : Report.header (Report.nameWidth s.rows) =
    Report.padRight countPlace "Metric".toList ++ Report.padRight 10 "Count".toList := by
  have hmetric : "Metric".toList.length ≤ Report.nameWidth s.rows := by
    have hplace := nameWidth_rows s
    have hsix : "Metric".toList.length = 6 := by decide
    rw [countPlace] at hplace
    omega
  rw [Report.header, Report.padRight_concat hmetric, nameWidth_rows]
  rfl

/-- Numbers are shown, which nest nothing. -/
theorem heightOfItems_shownValues {s : Snapshot} : Value.heightOfItems s.shownValues = 1 := by
  simp only [shownValues, Value.heightOfItems, Value.height, Nat.max_self, Nat.max_zero]

section

variable [Depths]

/-- A snapshot prints its table if no count of it is too long. -/
theorem exists_table_of_withinLimit {s : Snapshot}
    (h : Value.WithinLimit (Value.integersOfItems s.shownValues)) : ∃ text, s.table = .ok text := by
  rw [exists_table_iff]
  intro row hrow
  have hvalue : row.value ∈ s.shownValues := List.mem_map_of_mem (f := Row.value) hrow
  have hall : ∀ v ∈ s.shownValues, v.WritableWithin 1 :=
    Value.forall_items_writableWithin_iff.mpr ⟨h, heightOfItems_shownValues.le⟩
  exact (hall _ hvalue).at .elsewhere

/-- **Tables of equal text show equal values**, as far as these can be written. -/
theorem shown_eq_of_table_eq {s t : Snapshot} {text : String} (hs : s.table = .ok text)
    (ht : t.table = .ok text) :
    s.rows.map (·.value.shown) = t.rows.map (·.value.shown) := by
  rw [Report.shown_eq_readCounts (fun _ => isRow_of_mem_rows) hs,
    Report.shown_eq_readCounts (fun _ => isRow_of_mem_rows) ht, nameWidth_rows, nameWidth_rows]

/-- **A table loses nothing and stays aligned.** The table of a snapshot with counts that can be
written has sixteen lines: a header, a rule, and the fourteen rows in their order. The counts begin
at the same place in the header and in all rows, and each row shows the text of its value as a whole
and does not end in a blank. Another snapshot has the same table exactly if the texts of all of its
values are the same. -/
theorem table_shows_rows (s t : Snapshot)
    (hs : Value.WithinLimit (Value.integersOfItems s.shownValues)) :
    (∃ text header rule lines, s.table = .ok text ∧
      text.toList.splitOn '\n' = header :: rule :: lines ∧
      (s.rows.length = 14 ∧ lines.length = 14) ∧
      header = Report.padRight countPlace "Metric".toList ++ Report.padRight 10 "Count".toList ∧
      rule = List.replicate (countPlace + 10) '-' ∧
      List.Forall₂ (fun row line => ∃ text : String, row.value.shown = .ok (.whole text) ∧
        Report.Shows countPlace row text line) s.rows lines) ∧
    (s.table = t.table ↔ s.rows.map (·.value.shown) = t.rows.map (·.value.shown)) := by
  obtain ⟨text, htext⟩ := exists_table_of_withinLimit hs
  constructor
  · obtain ⟨lines, hlines, hsplit⟩ := Report.splitOn_table (fun _ => isRow_of_mem_rows) htext
    have hshows := Report.shows_rowLines (fun _ => isRow_of_mem_rows) hlines
    have hlength : s.rows.length = 14 := rfl
    rw [nameWidth_rows] at hshows
    refine ⟨text, _, _, lines, htext, hsplit, ⟨hlength, hshows.length_eq ▸ hlength⟩,
      header_rows s, ?rule, hshows⟩
    case rule =>
      rw [Report.rule, nameWidth_rows]
      rfl
  · constructor
    · intro h
      exact shown_eq_of_table_eq htext (h ▸ htext)
    · intro h
      exact Report.table_congr rfl h

end

open Machine

/-- Counts that fill their column and go beyond it, one of them with a remark, and an average that
is no number. -/
def wideCounts : Snapshot where
  requests := 1234567890
  successes := 123456789012345
  failures := 0
  throttled := -1
  serverErrors := 10 ^ 20
  gets := 0
  puts := 0
  deletes := 0
  consistency := 0
  current := ⟨7, 7, 1, 1, 1, 0, 12345678901⟩
  elapsedSeconds := 60.0
  averageRequests := 0.0 / 0.0
  averageSuccesses := 1e22
  intervals := 3

/-- The remark moves aside for a wide count, and one digit more or less shows in the table. -/
theorem table_wideCounts :
    (∃ text, wideCounts.table = .ok text ∧ (text.toList.splitOn '\n').length = 16) ∧
      wideCounts.table ≠
        { wideCounts with current := ⟨7, 7, 1, 1, 1, 0, 1234567890⟩ }.table := by
  have hwide : Value.WithinLimit (Value.integersOfItems wideCounts.shownValues) := by
    unfold Value.WithinLimit
    decide +kernel
  obtain ⟨⟨text, header, rule, lines, htext, hsplit, ⟨-, hlength⟩, -⟩, htables⟩ :=
    table_shows_rows wideCounts _ hwide
  refine ⟨⟨text, htext, ?_⟩, fun h => ?_⟩
  · rw [hsplit, List.length_cons, List.length_cons, hlength]
  · have hshown := congrArg (·[9]?) (htables.mp h)
    revert hshown
    decide +kernel

end Snapshot

end LoadLedger
