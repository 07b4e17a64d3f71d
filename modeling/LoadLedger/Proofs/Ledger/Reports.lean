import LoadLedger.Proofs.Ledger.RecentErrors
import LoadLedger.Proofs.Ledger.Windows
import LoadLedger.Proofs.Values
import LoadLedger.Report

/-!
# Reports that can be printed

A table can be printed if each of its values can be written (`Snapshot.exists_table_iff`), and a
list of errors if all of them are whole texts (`RecentErrors.report_of_texts`). So a ledger into
which plain outcomes were merged prints its errors unless a lone surrogate is left in a recent one
(`Ledger.report_foldl_merged`), and it prints its table unless a count is too large for a
floating-point number (`Ledger.exists_table_foldl_merged`).

The list of errors is put together first and refused as a whole, so that either all of it is printed
or nothing (`RecentErrors.sectionTexts`).
-/

namespace LoadLedger

/-! ## Tables -/

/-- Lines of rows can be made if each value can be written, at no place in particular
(`Place.elsewhere`). -/
theorem Report.exists_rowLines_iff [Depths] {width : Nat} {rows : List Row} :
    (∃ lines, rowLines width rows = .ok lines) ↔ ∀ row ∈ rows, row.value.WritableAt .elsewhere := by
  induction rows with
  | nil => exact iff_of_true ⟨[], rfl⟩ fun row hrow => absurd hrow List.not_mem_nil
  | cons row rows ih =>
    rw [rowLines, List.forall_mem_cons, ← ih, exists_bind_eq_ok, ← Value.exists_shownAt_iff]
    simp only [exists_bind_pure_eq_ok, exists_and_right]
    rfl

/-- A table can be printed exactly if each of its values can be written. -/
theorem Snapshot.exists_table_iff [Depths] {s : Snapshot} :
    (∃ text, s.table = .ok text) ↔ ∀ row ∈ s.rows, row.value.WritableAt .elsewhere := by
  rw [table, Report.table, exists_map_eq_ok, Report.tableLines, exists_bind_pure_eq_ok]
  exact Report.exists_rowLines_iff

/-- Of values that nest nothing, a long integer is all that keeps a line from being made. -/
theorem Report.fault_of_rowLines [Depths] {width : Nat} {rows : List Row}
    (hflat : ∀ row ∈ rows, row.value.height = 1) {cause : Fault}
    (h : rowLines width rows = .error cause) : cause = .unwritableInteger := by
  induction rows with
  | nil => cases h
  | cons row rows ih =>
    obtain ⟨hrow, hflat⟩ := List.forall_mem_cons.mp hflat
    rw [rowLines, bind_eq_error] at h
    obtain hvalue | ⟨_, -, hrows⟩ := h
    · exact (Value.unwritableAt_iff_shownAt.mpr hvalue).eq_unwritableInteger hrow
    · exact ih hflat (bind_pure_eq_error.mp hrows)

/-- A snapshot shows numbers, which nest nothing. -/
theorem Snapshot.height_of_mem_rows {s : Snapshot} : ∀ row ∈ s.rows, row.value.height = 1 := by
  simp only [rows, shownValues, Report.rowsOf, Report.labels, List.zipWith_cons_cons,
    List.zipWith_nil_left, List.forall_mem_cons, Value.height, true_and]
  exact fun row hrow => absurd hrow List.not_mem_nil

/-- A long integer is all that can go wrong with a table. -/
theorem Snapshot.fault_of_table [Depths] {s : Snapshot} {cause : Fault}
    (h : s.table = .error cause) :
    cause = .unwritableInteger := by
  rw [table, Report.table] at h
  cases hlines : Report.tableLines s.rows with
  | ok lines =>
    rw [hlines] at h
    cases h
  | error c =>
    rw [hlines] at h
    cases h
    exact Report.fault_of_rowLines height_of_mem_rows (bind_pure_eq_error.mp hlines)

/-! ## Errors -/

namespace RecentErrors

theorem textsFrom_map_ofText (index : Nat) (texts : List AnyText) :
    textsFrom index (texts.map .ofText) = .ok texts := by
  induction texts generalizing index with
  | nil => rfl
  | cons t texts ih =>
    cases t <;> exact bind_eq_ok.mpr ⟨texts, ih (index + 1), rfl⟩

/-- A surrogate in lines that are put together stands in one of the lines, since what is put between
them is none. -/
theorem exists_surrogate_mem_intercalate {s : Surrogate} (lines : List (List CodePoint)) :
    .surrogate s ∈ [CodePoint.char '\n'].intercalate lines ↔
      ∃ line ∈ lines, .surrogate s ∈ line := by
  induction lines with
  | nil => simp
  | cons line lines ih =>
    cases lines with
    | nil => simp
    | cons next lines =>
      rw [List.intercalate_cons_cons, List.mem_append, List.mem_append, ih, List.mem_singleton]
      simp only [reduceCtorEq, or_false, List.mem_cons, exists_eq_or_imp]

/-- The texts of the lines under a title: an empty line, the title, a rule, and the errors. -/
def sectionTexts (title : String) (texts : List AnyText) : List AnyText :=
  [.whole "", .whole title, .whole (String.ofList (List.replicate 45 '-'))] ++ texts

/-- As values these are the lines that `sectionLines` makes. -/
theorem map_ofText_sectionTexts (title : String) (texts : List AnyText) :
    (sectionTexts title texts).map .ofText = sectionLines title (texts.map .ofText) := rfl

/-- **A list of errors can be written exactly if all of them are whole.** A list with a broken text
is a text all the same, which is refused as a whole: nothing of it is printed. -/
theorem report_of_texts (http other : List AnyText) :
    (∃ text, report ⟨http.map .ofText, other.map .ofText⟩ = .ok text ∧
        ∀ t ∈ http ++ other, ∃ s, t = .whole s) ∨
      ∃ refusal, report ⟨http.map .ofText, other.map .ofText⟩ = .error (.unencodable refusal) ∧
        ¬ ∀ t ∈ http ++ other, ∃ s, t = .whole s := by
  have htext : ∃ t, text ⟨http.map .ofText, other.map .ofText⟩ = .ok t ∧
      ((∃ s, t = .whole s) ↔ ∀ t ∈ http ++ other, ∃ s, t = .whole s) := by
    rw [text, ← map_ofText_sectionTexts, ← map_ofText_sectionTexts, ← List.map_append,
      textsFrom_map_ofText]
    refine ⟨_, rfl, ?_⟩
    rw [AnyText.exists_whole_iff, AnyText.points_ofPoints]
    simp only [exists_surrogate_mem_intercalate, List.mem_map, exists_exists_and_eq_and,
      AnyText.exists_whole_iff, not_exists, not_and, sectionTexts]
    constructor
    · intro h t ht s
      refine h s t ?_
      simp only [List.mem_append] at ht ⊢
      exact ht.imp .inr .inr
    · intro h s t ht
      have hwhole : ∀ title : String, .surrogate s ∉ (AnyText.whole title).points :=
        fun title => not_mem_map_char title.toList s
      simp only [List.mem_append, List.mem_cons, List.not_mem_nil, or_false] at ht
      rcases ht with ((rfl | rfl | rfl) | ht) | ((rfl | rfl | rfl) | ht)
      · exact hwhole _
      · exact hwhole _
      · exact hwhole _
      · exact h t (List.mem_append_left _ ht) s
      · exact hwhole _
      · exact hwhole _
      · exact hwhole _
      · exact h t (List.mem_append_right _ ht) s
  obtain ⟨t, ht, hwhole⟩ := htext
  cases t with
  | whole s => exact .inl ⟨s, bind_eq_ok.mpr ⟨_, ht, rfl⟩, hwhole.mp ⟨s, rfl⟩⟩
  -- The text is put together before anybody asks whether it can be encoded.
  | broken t =>
    refine .inr ⟨t.refusal, bind_eq_error.mpr (.inr ⟨_, ht, rfl⟩), ?_⟩
    rw [← hwhole]
    rintro ⟨_, ⟨⟩⟩

end RecentErrors

/-! ## Ledgers -/

namespace Ledger

/-- A count that is too large is all that can go wrong with a snapshot, when a rate is computed of
it. -/
theorem fault_of_snapshot {l : Ledger} {now : Float} {cause : Fault}
    (h : l.snapshot now = .error cause) : cause = .integerTooLarge := by
  have hrate : ∀ {i : Int} {elapsed : Float}, lifetimeRate (.int i) elapsed = .error cause →
      cause = .integerTooLarge := by
    intro i elapsed hrate
    rw [lifetimeRate] at hrate
    split at hrate
    · cases hrate
    · simp only [Value.amount?] at hrate
      split at hrate
      · cases hrate
      · cases hrate
        rfl
  obtain hrequests | ⟨_, -, h⟩ := bind_eq_error.mp h
  · exact hrate hrequests
  · exact hrate (bind_pure_eq_error.mp h)

/-- **A table can be printed** of a ledger that nobody has sampled, if its requests can be
converted: they can be written then, and nothing else is greater. -/
theorem exists_table [Depths] {l : Ledger} (hbalanced : l.totals.Balanced)
    (hcurrent : l.current = .ofFn fun _ => 0) (hfew : l.totals.requests < Number.integerLimit)
    (now : Float) : ∃ s, l.snapshot now = .ok s ∧ ∃ text, s.table = .ok text := by
  obtain ⟨-, hserver, hanswered⟩ := hbalanced
  have hle : l.totals.successes ≤ l.totals.requests := by omega
  obtain ⟨s, hs⟩ : ∃ s, l.snapshot now = .ok s := (exists_snapshot_iff hle).mpr (.inr hfew)
  obtain ⟨hlists, -⟩ := snapshot_lists hs
  have hlimit : Number.integerLimit ≤ Number.tenTo Number.digitLimit := by decide +kernel
  -- all totals are at most the requests, which are few, and a rate of nothing is zero
  have hwritable : ∀ {n : Nat}, n ≤ l.totals.requests → Value.WritableAt .elsewhere (.int n) := by
    intro n hn
    refine (Value.writableWithin_int.mpr ?_).at _
    rw [Int.natAbs_natCast]
    omega
  have hfloat : ∀ x, Value.WritableAt .elsewhere (.float x) :=
    fun x => (Value.writableWithin_float x : Value.WritableWithin (0 + 1) _).at _
  have hrate : ∀ q, Value.WritableAt .elsewhere (.int (s.current.get q)) := by
    intro q
    rw [current_of_snapshot hs, hcurrent, PerQuantity.get_ofFn]
    exact hwritable (Nat.zero_le _)
  refine ⟨s, hs, Snapshot.exists_table_iff.mpr ?_⟩
  rw [Snapshot.rows, Snapshot.shownValues, hlists.requests, hlists.successes, hlists.failures,
    hlists.serverErrors, hlists.throttled]
  simp only [Report.rowsOf, Report.labels, List.zipWith_cons_cons, List.zipWith_nil_left,
    List.forall_mem_cons]
  refine ⟨?requests, ?successes, ?failures, ?serverErrors, ?throttled, hrate .throttled,
    hrate .gets, hrate .puts, hrate .deletes, hrate .consistency, hrate .requests,
    hrate .successes, hfloat _, hfloat _, ?none⟩
  case none => exact fun row hrow => absurd hrow List.not_mem_nil
  all_goals exact hwritable (by omega)

/-! ## Ledgers of plain outcomes -/

variable {outcomes : List Outcome}

theorem current_foldl_merged (outcomes : List Outcome) (l : Ledger) :
    (outcomes.foldl merged l).current = l.current := by
  induction outcomes generalizing l with
  | nil => rfl
  | cons o outcomes ih => exact ih (l.merged o)

/-- Outcomes that are merged in turn are remembered in turn. -/
theorem Remembers.foldl_merged {l : Ledger} {history : List Outcome} (h : l.Remembers history)
    (hplain : ∀ o ∈ outcomes, o.Plain) :
    (outcomes.foldl merged l).Remembers (history ++ outcomes) := by
  induction outcomes generalizing l history with
  | nil =>
    rw [List.append_nil]
    exact h
  | cons o outcomes ih =>
    obtain ⟨ho, houtcomes⟩ := List.forall_mem_cons.mp hplain
    rw [List.append_cons]
    exact ih (h.merge ho) houtcomes

/-- **The table of plain outcomes can be printed**, unless they count for more requests than a
floating-point number can stand for. -/
theorem exists_table_foldl_merged [Depths]
    (hfew : (Counters.ofOutcomes outcomes).requests < Number.integerLimit) (time now : Float) :
    ∃ s, (outcomes.foldl merged (start time)).snapshot now = .ok s ∧
      ∃ text, s.table = .ok text := by
  have htotals : (outcomes.foldl merged (start time)).totals = Counters.ofOutcomes outcomes := by
    rw [totals_foldl_merged, Counters.countsOf_eq_ofOutcomes]
    exact Counters.zero_add _
  refine exists_table ?_ (current_foldl_merged outcomes _) ?_ now
  · rw [htotals, ← Counters.countsOf_eq_ofOutcomes]
    exact Outcome.balanced_countsOf outcomes
  · rw [htotals]
    exact hfew

/-- The texts of the recent errors that outcomes leave: those of the HTTP errors, and then those of
the others. -/
def recentTexts (outcomes : List Outcome) : List AnyText :=
  newestTexts (outcomes.filterMap Outcome.httpText) ++
    newestTexts (outcomes.filterMap Outcome.otherText)
where
  /-- The newest texts of a history that are kept, the newest one first. -/
  newestTexts (history : List AnyText) : List AnyText :=
    (lastItems 5 history).reverse.take RecentLog.defaultCapacity

/-- **The errors of plain outcomes can be printed exactly if the recent ones are whole.** What has
been forgotten does not matter, be it broken or not. -/
theorem report_foldl_merged (hplain : ∀ o ∈ outcomes, o.Plain) (time : Float) :
    (∃ text, (outcomes.foldl merged (start time)).allRecentErrors.report = .ok text ∧
        ∀ t ∈ recentTexts outcomes, ∃ s, t = .whole s) ∨
      ∃ refusal, (outcomes.foldl merged (start time)).allRecentErrors.report =
          .error (.unencodable refusal) ∧
        ¬ ∀ t ∈ recentTexts outcomes, ∃ s, t = .whole s := by
  have hremembers := (remembers_start time).foldl_merged hplain
  rw [allRecentErrors, hremembers.recentErrors_eq]
  exact RecentErrors.report_of_texts _ _

end Ledger

end LoadLedger
