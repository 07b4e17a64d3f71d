import LoadLedger.Machine
import LoadLedger.Proofs.Ledger.Totals
import LoadLedger.Proofs.Replay.Runs
import LoadLedger.Tool.Run

/-!
# What the code 0 says

A run of the tool that ends with the code 0 has read its whole file and has printed the report of a
ledger. With a reporting interval that a job can be scheduled with, this is the ledger of all
outcomes of the file. With any other interval that passes for a positive one (NaN, infinity, one
that leads out of the calendar) ingestion dies at its start, which the main thread cannot tell from
an end in order: the report is that of an empty ledger, and the code is 0 nevertheless.

`Tool.Reports` says what the report of a ledger is: the table of a snapshot, and the recent errors.
`Tool.ledger_of_code_zero` finds the ledger of a run, and `Tool.report_of_code_zero` tells when its
totals are those of the file.
-/

namespace LoadLedger

/-! ## Reports -/

/-- The rows of a table that show totals of the whole test rather than rates. -/
def Counters.rows (c : Counters) : List Row :=
  [ ⟨"# Requests", .int c.requests, ""⟩,
    ⟨"# Test Success", .int c.successes, ""⟩,
    ⟨"# Test Failures", .int c.failures, ""⟩,
    ⟨"# 5XX Errors", .int c.serverErrors, ""⟩,
    ⟨"# Throttled", .int c.throttled, ""⟩ ]

/-- The table begins with the totals. -/
theorem Snapshot.take_rows {s : Snapshot} {c : Counters} (h : s.Lists c) :
    s.rows.take c.rows.length = c.rows := by
  rw [rows, shownValues, h.requests, h.successes, h.failures, h.serverErrors, h.throttled]
  rfl

namespace Tool

section Running

variable [Depths]

/-- The text is the report of a ledger at a moment: the table of a snapshot, and the recent
errors. -/
def Reports (l : Ledger) (now : Float) (text : String) : Prop :=
  ∃ snapshot table errors, l.snapshot now = .ok snapshot ∧ snapshot.table = .ok table ∧
    l.allRecentErrors.report = .ok errors ∧
    text = "\n" ++ (table ++ "\n") ++ (errors ++ "\n") ∧
    snapshot.rows.take l.totals.rows.length = l.totals.rows

/-- What is printed without a fault is the report. -/
theorem reports_of_finalReport {l : Ledger} {now : Float} {text : String}
    (h : finalReport l now = (.ok (), text)) : Reports l now text := by
  rw [finalReport] at h
  split at h
  · cases h
  · cases h
  · rename_i hprinted hlist
    cases h
    obtain ⟨snapshot, hsnapshot, hprinted⟩ := bind_eq_ok.mp hprinted
    obtain ⟨table, htable, hprinted⟩ := bind_eq_ok.mp hprinted
    cases hprinted
    obtain ⟨errors, herrors, hlist⟩ := bind_eq_ok.mp hlist
    cases hlist
    obtain ⟨hlists, -⟩ := Ledger.snapshot_lists hsnapshot
    exact ⟨snapshot, table, errors, hsnapshot, htable, herrors, rfl, Snapshot.take_rows hlists⟩

/-! ## Runs that end well -/

variable [Scheduler]

omit [Depths] in
/-- Without a job there are no live tables. -/
theorem liveTables_nil (table : String) (now : Int) (rounds : List Value) :
    (liveTables table now [] rounds).2 = "" := by
  induction rounds generalizing now with
  | nil => rw [liveTables]
  | cons seconds rounds ih =>
    rw [liveTables]
    split
    · rfl
    · rename_i moment _
      rw [Scheduler.runDue_nil]
      exact (String.empty_append ..).trans (ih moment)

/-- A replay without live tables that comes to its end has produced its whole file and has printed
nothing. -/
theorem replay_ok {tree : FileTree} {q : Request} {r : Replay} (hlive : q.printEvery = .null)
    (h : (replay tree q).result = .ok r) :
    Replay.ofFile tree q.settings q.input q.rate q.startTime = .ok r ∧
      (∃ count, r.produced = .ok count) ∧ (replay tree q).output = "" := by
  have hprinter : printerOf q.printEvery = .ok [] := by
    rw [hlive]
    rfl
  unfold replay at h ⊢
  rw [hprinter] at h ⊢
  cases hmade : Replay.ofFile tree q.settings q.input q.rate q.startTime with
  | error cause =>
    rw [hmade] at h
    cases h
  | ok made =>
    rw [hmade] at h
    dsimp only at h ⊢
    cases hproduced : made.produced with
    | error cause =>
      rw [hproduced] at h
      cases h
    | ok count =>
      rw [hproduced] at h
      dsimp only at h ⊢
      -- the end is not awaited, the table cannot be printed, or it can
      split at h
      · cases h
      · -- a table that cannot be printed is not missed as long as no round asks for it
        split at h
        · rename_i hrounds
          cases h
          refine ⟨rfl, ⟨count, hproduced⟩, ?_⟩
          rw [if_pos hrounds]
        · cases h
      · rename_i table _ _
        have hempty := liveTables_nil table 0 q.live
        generalize liveTables table 0 [] q.live = live at h hempty ⊢
        obtain ⟨result, output⟩ := live
        cases result with
        | error cause => cases h
        | ok _ =>
          cases h
          exact ⟨rfl, ⟨count, hproduced⟩, hempty⟩

/-- A run that ends with the code 0 has carried out a replay and printed the report of its ledger.
-/
theorem runReplay_code_zero {tree : FileTree} {q : Request}
    (h : (runReplay tree q).ending = .code 0) :
    ∃ r, (replay tree q).result = .ok r ∧
      ∃ text, Reports r.ledger q.endTime text ∧
        (runReplay tree q).output = (replay tree q).output ++ text := by
  unfold runReplay at h ⊢
  dsimp only at h ⊢
  cases hresult : (replay tree q).result with
  | error cause =>
    -- a fault of the replay leads to the code 1, or ends the run
    rw [hresult] at h
    dsimp only at h
    split at h
    · cases h
    · cases h
  | ok r =>
    rw [hresult] at h
    dsimp only at h
    cases hreport : finalReport r.ledger q.endTime with
    | mk result text =>
      rw [hreport] at h
      cases result with
      | error cause => cases h
      | ok _ =>
        refine ⟨r, rfl, text, reports_of_finalReport hreport, ?_⟩
        dsimp only
        rw [hreport]

variable [FileNames]

/-- A run that ends with the code 0 has read its settings and set up logging before the replay. -/
theorem runWith_code_zero {s : Surroundings} {a : Arguments} (h : (runWith s a).ending = .code 0) :
    ∃ settings tree logging, settingsOf s.tree a = .ok settings ∧
      Logging.setUp s.tree settings = .ok (tree, logging) ∧
      runWith s a = runReplay tree ⟨settings, a.input, a.printEvery, a.rate, s.live, s.startTime,
        s.endTime⟩ := by
  rw [runWith] at h ⊢
  cases hsettings : settingsOf s.tree a with
  | error cause =>
    rw [hsettings] at h
    dsimp only at h
    split at h
    · cases h
    · cases h
  | ok settings =>
    rw [hsettings] at h
    dsimp only at h ⊢
    -- a fault of the log ends the run, and then there is no code
    cases hlogging : Logging.setUp s.tree settings with
    | error cause =>
      rw [hlogging] at h
      cases h
    | ok ready =>
      obtain ⟨tree, logging⟩ := ready
      exact ⟨settings, tree, logging, rfl, hlogging, rfl⟩

/-- A run that ends with the code 0 has read its whole file and prints the report of a ledger: the
one into which all outcomes were merged, or an untouched one if ingestion died when its job was to
be scheduled. -/
theorem ledger_of_code_zero {s : Surroundings} {arguments : List String} {a : Arguments}
    (ha : Arguments.read Settings.defaultPath arguments = .ok a) (hrate : a.rate = .null)
    (hlive : a.printEvery = .null) (hcode : (run s arguments).ending = .code 0) :
    ∃ settings tree logging outcomes l,
      (settingsOf s.tree a = .ok settings ∧ Logging.setUp s.tree settings = .ok (tree, logging) ∧
        OutcomeFile.Holds tree a.input outcomes) ∧
      Reports l s.endTime (run s arguments).output ∧
      ((∃ job, Scheduler.every 0 (.float settings.reportInterval) = .ok job) →
        (Ledger.start s.startTime).mergeAll outcomes = (.ok (), l)) ∧
      ((¬∃ job, Scheduler.every 0 (.float settings.reportInterval) = .ok job) →
        l = .start s.startTime) := by
  have hrun : run s arguments = runWith s a := by
    rw [run, ha]
  rw [hrun] at hcode ⊢
  obtain ⟨settings, tree, logging, hsettings, hlogging, hwith⟩ := runWith_code_zero hcode
  rw [hwith] at hcode ⊢
  obtain ⟨r, hresult, text, hreports, houtput⟩ := runReplay_code_zero hcode
  obtain ⟨hfile, ⟨count, hproduced⟩, hnothing⟩ := replay_ok hlive hresult
  rw [hrate] at hfile
  obtain ⟨outcomes, hholds, hall, hnone⟩ := Replay.ledger_of_ofFile hfile hproduced
  refine ⟨settings, tree, logging, outcomes, r.ledger, ⟨hsettings, hlogging, hholds⟩, ?_, hall,
    hnone⟩
  rw [houtput, hnothing, String.empty_append]
  exact hreports

/-- **The code 0 stands for a report of everything, or of nothing.** A run without a rate and
without live tables that ends with the code 0 has read its whole file, and what it prints is the
report of a ledger. If the reporting interval allows a job to be scheduled, it is the ledger into
which the outcomes of all lines were merged, each once; if not, it is an empty one. So the totals
are those of the file exactly if a job can be scheduled or there is no outcome at all. What the
report of a ledger is says `Tool.Reports`. -/
theorem report_of_code_zero (s : Surroundings) (arguments : List String) (a : Arguments)
    (ha : Arguments.read Settings.defaultPath arguments = .ok a) (hrate : a.rate = .null)
    (hlive : a.printEvery = .null) (hcode : (run s arguments).ending = .code 0) :
    ∃ settings tree logging outcomes l,
      (settingsOf s.tree a = .ok settings ∧ Logging.setUp s.tree settings = .ok (tree, logging) ∧
        OutcomeFile.Holds tree a.input outcomes) ∧
      Reports l s.endTime (run s arguments).output ∧
      ((∃ job, Scheduler.every 0 (.float settings.reportInterval) = .ok job) →
        (Ledger.start s.startTime).mergeAll outcomes = (.ok (), l)) ∧
      ((¬∃ job, Scheduler.every 0 (.float settings.reportInterval) = .ok job) →
        l = .start s.startTime) ∧
      (l.totals = Counters.ofOutcomes outcomes ↔
        (∃ job, Scheduler.every 0 (.float settings.reportInterval) = .ok job) ∨ outcomes = []) := by
  obtain ⟨settings, tree, logging, outcomes, l, hread, hreports, hall, hnone⟩ :=
    ledger_of_code_zero ha hrate hlive hcode
  refine ⟨settings, tree, logging, outcomes, l, hread, hreports, hall, hnone, ?_⟩
  have hstart : (Ledger.start s.startTime).totals = 0 := rfl
  by_cases hscheduled : ∃ job, Scheduler.every 0 (.float settings.reportInterval) = .ok job
  · have hplain := hread.2.2.plain
    have hmerged := (Ledger.mergeAll_of_plain hplain _).symm.trans (hall hscheduled)
    have hledger := congrArg Ledger.totals (Prod.mk.inj hmerged).2
    rw [Ledger.totals_foldl_merged, hstart, Counters.countsOf_eq_ofOutcomes, zero_add] at hledger
    exact iff_of_true hledger.symm (.inl hscheduled)
  · rw [hnone hscheduled, hstart, or_iff_right hscheduled, eq_comm]
    exact Counters.ofOutcomes_eq_zero_iff

end Running

/-! ## A file with one outcome -/

open Machine

deriving instance DecidableEq for ToolEnding

/-- A line that tells of a successful `GET`. -/
def oneGetLine : String := "\x7b\"kind\": \"GET\", \"status\": \"success\"\x7d\n"

/-- A folder with one file, which has one line. -/
def oneGet : Surroundings where
  tree := FileTree.empty.add "outcomes" (some (Text.Utf8.encode oneGetLine))
  startTime := 0.0
  endTime := 0.0
  live := []

/-- The arguments that only name the file, with a reporting interval or without. -/
def oneGetArguments (interval : Value) : Arguments :=
  ⟨.ofString "outcomes", .text Settings.defaultPath, interval, .null, .null⟩

/-- Is it the outcome of a successful `GET` that was read? -/
def isSuccessfulGet : Except Fault Outcome → Bool
  | .ok ⟨.get, .success⟩ => true
  | _ => false

theorem eq_of_isSuccessfulGet {x : Except Fault Outcome} (h : isSuccessfulGet x = true) :
    x = .ok ⟨.get, .success⟩ := by
  rw [isSuccessfulGet.eq_def] at h
  split at h
  · rfl
  · cases h

/-- The file of the folder has one line, and nothing is wrong with it. -/
theorem holds_oneGet : OutcomeFile.Holds oneGet.tree (.ofString "outcomes") [⟨.get, .success⟩] := by
  refine ⟨Text.Utf8.encode oneGetLine, by decide +kernel, by decide +kernel, ?_⟩
  have hcontents : OutcomeFile.contents (Text.linesOf
      (Text.Utf8.readBlocks OutcomeFile.blockSize (Text.Utf8.encode oneGetLine)).text) =
        [oneGetLine.toList.dropLast] := by
    decide +kernel
  rw [OutcomeFile.HoldsText, hcontents]
  exact .cons (eq_of_isSuccessfulGet (by decide +kernel)) .nil

/-- With the default settings the outcome of the file is in the table. -/
theorem report_oneGet : (run oneGet ["outcomes"]).ending = .code 0 ∧
    ∃ l, Reports l 0.0 (run oneGet ["outcomes"]).output ∧
      l.totals = Counters.ofOutcomes [⟨.get, .success⟩] := by
  have hcode : (run oneGet ["outcomes"]).ending = .code 0 := by decide +kernel
  obtain ⟨settings, tree, logging, outcomes, l, ⟨hsettings, hlogging, hholds⟩, hreports, -, -,
    htotals⟩ := report_of_code_zero oneGet ["outcomes"] (oneGetArguments .null) rfl rfl rfl hcode
  have hdefault : settingsOf oneGet.tree (oneGetArguments .null) = .ok Settings.default := rfl
  cases hdefault.symm.trans hsettings
  cases hlogging
  rw [hholds.unique holds_oneGet] at htotals
  exact ⟨hcode, l, hreports, htotals.mpr (.inl (by decide +kernel))⟩

/-- With NaN for an interval the run ends with the code 0 as well, but the table is that of an empty
ledger. -/
theorem report_nanInterval : (run oneGet ["outcomes", "--interval", "nan"]).ending = .code 0 ∧
    OutcomeFile.Holds oneGet.tree (.ofString "outcomes") [⟨.get, .success⟩] ∧
    Reports (.start 0.0) 0.0 (run oneGet ["outcomes", "--interval", "nan"]).output ∧
    (Ledger.start 0.0).totals ≠ Counters.ofOutcomes [⟨.get, .success⟩] := by
  have hcode : (run oneGet ["outcomes", "--interval", "nan"]).ending = .code 0 := by decide +kernel
  obtain ⟨settings, tree, logging, outcomes, l, ⟨hsettings, hlogging, hholds⟩, hreports, -,
    hnone⟩ := ledger_of_code_zero (a := oneGetArguments (.float (0.0 / 0.0))) rfl rfl rfl hcode
  have hnan : settingsOf oneGet.tree (oneGetArguments (.float (0.0 / 0.0))) =
      .ok { Settings.default with reportInterval := 0.0 / 0.0 } := rfl
  cases hnan.symm.trans hsettings
  -- no job can be scheduled with NaN, so that nothing was merged
  rw [hnone (by decide +kernel)] at hreports
  exact ⟨hcode, holds_oneGet, hreports, by decide⟩

end Tool

end LoadLedger
