import LoadLedger.Machine
import LoadLedger.Proofs.Arguments
import LoadLedger.Proofs.Ledger.Reports
import LoadLedger.Proofs.Outcome.Lines
import LoadLedger.Proofs.Settings.Accepted
import LoadLedger.Proofs.Tool

/-!
# How input is answered

A file that can be opened is read to its end, or up to the first fault. What this fault is decides
how the run ends: one that tells of the content of a line is answered with the code 1, and one that
escapes from reading (`OutcomeFile.InputEscape`) ends the run (`Tool.ending_of_not_accepts`). A file
without a fault is answered in one of the ways that `Tool.Answer` lists (`Tool.answer_of_accepts`):
replays can be made, since their interval was checked when the settings were read, what they merge
is plain, and of the ledger of plain outcomes the table can be printed unless there are too many of
them. The recent errors may hold a lone surrogate, which no output can encode; then the table stands
alone, and the run ends with the fault (`Tool.ReportsTable`).

How a replay ends whose file is produced is said first, whatever the ledger is (`Tool.Concludes`).
What the ledger of plain outcomes rules out is left to `Tool.Concludes.answer`.
-/

namespace LoadLedger

/-! ## Replays that can be made -/

section Running

variable [Depths] [Scheduler]

/-- Replays are refused for an interval that is zero or less, and for nothing else. -/
theorem Replay.exists_make {settings : Settings} (h : ¬ settings.reportInterval ≤ 0.0)
    (production : Production) (time : Float) : ∃ r, make settings production time = .ok r := by
  have hpositive : (Value.float settings.reportInterval).isNotPositive = .ok false := by
    simp only [Value.isNotPositive, Value.amount?, h, decide_false]
  rw [make, exists_bind_pure_eq_ok, Ingestion.make, exists_bind_pure_eq_ok, SamplerSession.make,
    exists_bind_pure_eq_ok, Sampler.make, hpositive]
  exact ⟨_, rfl⟩

/-- The replay of a file is made and run, and ends as producing does: with the fault of reading, if
there is one. -/
theorem Replay.exists_ofFile {settings : Settings} (h : ¬ settings.reportInterval ≤ 0.0)
    (tree : FileTree) (path : FileTree.Path) (time : Float) :
    ∃ r, ofFile tree settings path .null time = .ok r ∧
      match (OutcomeFile.read tree path).fault with
      | none => ∃ count, r.produced = .ok count
      | some cause => r.produced = .error cause := by
  obtain ⟨first, hmake⟩ := exists_make h (Production.ofFile tree path .null) time
  have hproduced := produced_of_make hmake
  refine ⟨first.run, by rw [ofFile, hmake]; rfl, ?_⟩
  rw [hproduced, production_of_null]
  dsimp only
  cases (OutcomeFile.read tree path).fault with
  | none => exact ⟨_, rfl⟩
  | some cause => rfl

end Running

namespace Tool

section Reading

variable [Depths]

/-! ## Checked intervals -/

/-- Settings that are loaded have been checked, and so have the default ones. -/
theorem interval_of_settingsAt {tree : FileTree} {config : Value} {settings : Settings}
    (h : settingsAt tree config = .ok settings) : ¬ settings.reportInterval ≤ 0.0 := by
  rw [settingsAt.eq_def] at h
  split at h
  · split at h
    · cases h
      decide +kernel
    · obtain ⟨text, -, h⟩ := bind_eq_ok.mp h
      obtain ⟨v, -, h⟩ := bind_eq_ok.mp h
      rw [Settings.ofRoot] at h
      split at h
      · rename_i hobject
        obtain ⟨entries, hentries⟩ := Option.isSome_iff_exists.mp hobject
        exact ((Settings.ofValue_eq_ok hentries).mp h).intervalChecked
      · cases h
  · cases h
  · cases h

/-- The interval that a run is carried out with has passed a check. -/
theorem interval_of_settingsOf {tree : FileTree} {arguments : List String} {a : Arguments}
    {settings : Settings} (ha : Arguments.read Settings.defaultPath arguments = .ok a)
    (h : settingsOf tree a = .ok settings) : ¬ settings.reportInterval ≤ 0.0 := by
  obtain ⟨base, hbase, hoverride⟩ := bind_eq_ok.mp h
  obtain hnull | hlist | ⟨x, hx⟩ := Arguments.interval_of_read ha
  · rw [hnull] at hoverride
    cases hoverride
    exact interval_of_settingsAt hbase
  -- an option that was set to nothing holds a list, which is no number
  · rw [hlist] at hoverride
    cases hoverride
  · rw [hx] at hoverride
    -- an interval of the command line is checked like one of the settings
    obtain ⟨notPositive, hchecked, hoverride⟩ := bind_eq_ok.mp hoverride
    cases notPositive with
    | true =>
      obtain ⟨_, -, hoverride⟩ := bind_eq_ok.mp hoverride
      cases hoverride
    | false =>
      obtain ⟨_, hread, hoverride⟩ := bind_eq_ok.mp hoverride
      cases hread
      cases hoverride
      exact of_decide_eq_false (Except.ok.inj hchecked)

end Reading

/-! ## The stages of a replay -/

/-- The clock stays within the calendar while it moves on from a moment. -/
def ClockStays (now : Int) : List Value → Prop
  | [] => True
  | seconds :: rounds =>
    ∃ next, (Micros.ofValue seconds).bind (Micros.after now) = .ok next ∧ ClockStays next rounds

/-- Without a job nothing happens while the clock moves on. -/
theorem liveTables_of_clockStays [Scheduler] {now : Int} {rounds : List Value}
    (h : ClockStays now rounds)
    (table : String) : liveTables table now [] rounds = (.ok (), "") := by
  induction rounds generalizing now with
  | nil => rw [liveTables]
  | cons seconds rounds ih =>
    obtain ⟨next, hnext, hrounds⟩ := h
    rw [liveTables, hnext]
    dsimp only
    rw [Scheduler.runDue_nil]
    dsimp only
    rw [ih hrounds, String.empty_append]

section Running

variable {tree : FileTree} {q : Request} {r : Replay} {cause : Fault}

/-- Waiting for the end of ingestion comes to an end, unless the sampler never gets past its
start. -/
theorem awaitEnd_eq_ok [Scheduler]
    (h : Scheduler.every 0 (.float q.settings.reportInterval) ≠ .error .noProgress) :
    awaitEnd q.settings = .ok () := by
  rw [awaitEnd]
  split
  · rename_i hnoProgress
    exact absurd hnoProgress h
  · rfl

variable [Depths]

/-- A count that is too large is all that can go wrong with a table. -/
theorem fault_of_printedTable {l : Ledger} {now : Float}
    (h : printedTable l now = .error cause) :
    cause = .integerTooLarge ∨ cause = .unwritableInteger := by
  obtain hsnapshot | ⟨s, -, h⟩ := bind_eq_error.mp h
  · exact .inl (Ledger.fault_of_snapshot hsnapshot)
  · exact .inr (Snapshot.fault_of_table (bind_pure_eq_error.mp h))

/-- The text is what is left of the report of a ledger if its recent errors cannot be printed: the
table of a snapshot. -/
def ReportsTable (l : Ledger) (now : Float) (text : String) : Prop :=
  ∃ snapshot table, l.snapshot now = .ok snapshot ∧ snapshot.table = .ok table ∧
    text = "\n" ++ (table ++ "\n") ∧ snapshot.rows.take l.totals.rows.length = l.totals.rows

/-- A table that can be printed is what is left of the report. -/
theorem reportsTable_of_printedTable {l : Ledger} {now : Float} {printed : String}
    (h : printedTable l now = .ok printed) : ReportsTable l now ("\n" ++ printed) := by
  obtain ⟨snapshot, hsnapshot, h⟩ := bind_eq_ok.mp h
  obtain ⟨table, htable, h⟩ := bind_eq_ok.mp h
  cases h
  obtain ⟨hlists, -⟩ := Ledger.snapshot_lists hsnapshot
  exact ⟨snapshot, table, hsnapshot, htable, rfl, Snapshot.take_rows hlists⟩

/-- How a run ends after a replay that has come to its end and printed nothing: with a report, with
the table alone, or with neither. Which of them it is depends on the ledger; for the ledger of plain
outcomes see `Answer`. -/
inductive Concludes (l : Ledger) (now : Float) (run : ToolRun) : Prop
  /-- All of the report is printed. -/
  | reported {errors : String} (herrors : l.allRecentErrors.report = .ok errors)
    (hending : run.ending = .code 0) (houtput : Reports l now run.output)
  /-- The table is printed, and the recent errors cannot be. -/
  | brokenErrors {cause : Fault} (herrors : l.allRecentErrors.report = .error cause)
    (hending : run.ending = .fault cause) (houtput : ReportsTable l now run.output)
  /-- Not even the table can be made. -/
  | noTable {cause : Fault} (htable : printedTable l now = .error cause)
    (hending : run.ending = .fault cause)

variable [Scheduler]

/-- A replay whose file cannot be produced ends with the fault and prints nothing. -/
theorem replay_of_produced_error
    (hfile : Replay.ofFile tree q.settings q.input q.rate q.startTime = .ok r)
    (hlive : q.printEvery = .null) (hproduced : r.produced = .error cause) :
    replay tree q = ⟨.error cause, "", []⟩ := by
  have hprinter : printerOf q.printEvery = .ok [] := by
    rw [hlive]
    rfl
  rw [replay, hfile, hprinter]
  dsimp only
  rw [hproduced]

/-- A fault of the replay that nobody reports ends the run. -/
theorem runReplay_of_error {log : List LogRecord}
    (h : replay tree q = ⟨.error cause, "", log⟩) :
    (runReplay tree q).output = "" ∧
      (runReplay tree q).ending = if isReported cause then .code 1 else .fault cause := by
  rw [runReplay, h]
  dsimp only
  split
  · exact ⟨rfl, rfl⟩
  · exact ⟨rfl, rfl⟩

/-- After a replay that has a result the final report is printed, and the fault of the report, if it
has one, ends the run. -/
theorem runReplay_of_ok {log : List LogRecord} (h : replay tree q = ⟨.ok r, "", log⟩) :
    (runReplay tree q).output = (finalReport r.ledger q.endTime).2 ∧
      (runReplay tree q).ending =
        match (finalReport r.ledger q.endTime).1 with
        | .ok () => .code 0
        | .error cause => .fault cause := by
  rw [runReplay, h]
  exact ⟨String.empty_append, rfl⟩

/-- A replay whose file is produced waits for the end, and looks at the table if a round asks for
it. Nothing is printed on the way. -/
theorem replay_of_produced
    (hfile : Replay.ofFile tree q.settings q.input q.rate q.startTime = .ok r)
    (hlive : q.printEvery = .null) {count : Nat} (hproduced : r.produced = .ok count)
    (hclock : ClockStays 0 q.live) :
    replay tree q =
      ⟨match awaitEnd q.settings, printedTable r.ledger q.endTime with
        | .error cause, _ => .error cause
        | .ok (), .error cause => if q.live.isEmpty then .ok r else .error cause
        | .ok (), .ok _ => .ok r, "", [⟨.info, queuedMessage count q.input⟩]⟩ := by
  have hprinter : printerOf q.printEvery = .ok [] := by
    rw [hlive]
    rfl
  rw [replay, hfile, hprinter]
  dsimp only
  rw [hproduced]
  dsimp only
  -- the table of a round is the one that is printed in the end
  cases awaitEnd q.settings with
  | error cause => rfl
  | ok _ =>
    cases printedTable r.ledger q.endTime with
    | error cause =>
      dsimp only
      split <;> rfl
    | ok table =>
      dsimp only
      rw [liveTables_of_clockStays hclock table]
      rfl

/-- **How a replay ends whose file is produced**: it never gets past the start of its sampler, or it
concludes. What the loop has done by then is left open, since the ledger is that of the `Replay` at
its end. -/
theorem runReplay_of_produced
    (hfile : Replay.ofFile tree q.settings q.input q.rate q.startTime = .ok r)
    (hlive : q.printEvery = .null) {count : Nat} (hproduced : r.produced = .ok count)
    (hclock : ClockStays 0 q.live) :
    (Scheduler.every 0 (.float q.settings.reportInterval) = .error .noProgress ∧
        (runReplay tree q).ending = .fault .noProgress ∧ (runReplay tree q).output = "") ∨
      Concludes r.ledger q.endTime (runReplay tree q) := by
  have hreplay := replay_of_produced hfile hlive hproduced hclock
  by_cases hawait : Scheduler.every 0 (.float q.settings.reportInterval) = .error .noProgress
  · have hnever : awaitEnd q.settings = .error .noProgress := by
      rw [awaitEnd, hawait]
    rw [hnever] at hreplay
    obtain ⟨houtput, hending⟩ := runReplay_of_error hreplay
    exact .inl ⟨hawait, hending, houtput⟩
  rw [awaitEnd_eq_ok hawait] at hreplay
  refine .inr ?_
  cases htable : printedTable r.ledger q.endTime with
  | ok table =>
    rw [htable] at hreplay
    cases herrors : r.ledger.allRecentErrors.report with
    | ok errors =>
      have hreport :
          finalReport r.ledger q.endTime = (.ok (), "\n" ++ table ++ (errors ++ "\n")) := by
        rw [finalReport, htable, printedErrors, herrors]
        rfl
      obtain ⟨houtput, hending⟩ := runReplay_of_ok hreplay
      rw [hreport] at houtput hending
      exact .reported herrors hending (houtput ▸ reports_of_finalReport hreport)
    | error cause =>
      have hreport : finalReport r.ledger q.endTime = (.error cause, "\n" ++ table) := by
        rw [finalReport, htable, printedErrors, herrors]
        rfl
      obtain ⟨houtput, hending⟩ := runReplay_of_ok hreplay
      rw [hreport] at houtput hending
      exact .brokenErrors herrors hending (houtput ▸ reportsTable_of_printedTable htable)
  | error cause =>
    rw [htable] at hreplay
    refine .noTable htable ?_
    dsimp only at hreplay
    -- the table is missed at once if a round asks for it, and at the end if none does
    cases hrounds : q.live.isEmpty with
    | true =>
      have hreport : finalReport r.ledger q.endTime = (.error cause, "\n") := by
        rw [finalReport, htable]
      rw [hrounds, if_pos rfl] at hreplay
      rw [(runReplay_of_ok hreplay).2, hreport]
    | false =>
      have hreported : isReported cause = false := by
        obtain rfl | rfl := fault_of_printedTable htable
        · rfl
        · rfl
      rw [hrounds, if_neg Bool.false_ne_true] at hreplay
      rw [(runReplay_of_error hreplay).2, hreported]
      rfl

/-! ## Runs -/

/-- A run with settings and logging carries out a replay. -/
theorem run_of_settings [FileNames] {s : Surroundings} {arguments : List String} {a : Arguments}
    {settings : Settings} {tree : FileTree} {logging : Logging}
    (ha : Arguments.read Settings.defaultPath arguments = .ok a)
    (hsettings : settingsOf s.tree a = .ok settings)
    (hlogging : Logging.setUp s.tree settings = .ok (tree, logging)) :
    run s arguments = runReplay tree ⟨settings, a.input, a.printEvery, a.rate, s.live, s.startTime,
      s.endTime⟩ := by
  rw [run, ha]
  dsimp only
  rw [runWith, hsettings]
  dsimp only
  rw [hlogging]

section Endings

variable {octets : List UInt8}

/-- How a run ends that has come to the end of its file and has merged some outcomes into a ledger.
-/
inductive Answer (interval : Float) (merged : List Outcome) (l : Ledger) (now : Float)
    (run : ToolRun) : Prop
  /-- No recent error is broken, and the whole report is printed. -/
  | reported (hwhole : ∀ t ∈ Ledger.recentTexts merged, ∃ s, t = .whole s)
    (hending : run.ending = .code 0) (houtput : Reports l now run.output)
  /-- One of the recent errors is broken. The table is printed, and the errors are not. -/
  | brokenErrors (hbroken : ¬ ∀ t ∈ Ledger.recentTexts merged, ∃ s, t = .whole s)
    {refusal : Text.Unencodable} (hending : run.ending = .fault (.unencodable refusal))
    (houtput : ReportsTable l now run.output)
  /-- The interval is too short to be a period, and the run hangs. -/
  | neverStarts (hperiod : Scheduler.every 0 (.float interval) = .error .noProgress)
    (hending : run.ending = .fault .noProgress) (houtput : run.output = "")
  /-- There are more requests than a floating-point number can stand for. -/
  | tooMany (hmany : Number.integerLimit ≤ (Counters.ofOutcomes merged).requests) {cause : Fault}
    (hcause : cause = .integerTooLarge ∨ cause = .unwritableInteger)
    (hending : run.ending = .fault cause)

/-- A run that concludes with the ledger of plain outcomes is an answer: whether the errors can be
printed is a matter of the recent ones, and whether the table can is one of the requests. -/
theorem Concludes.answer {merged : List Outcome} (hplain : ∀ o ∈ merged, o.Plain) {time now : Float}
    {run : ToolRun} (h : Concludes (merged.foldl Ledger.merged (.start time)) now run)
    (interval : Float) :
    Answer interval merged (merged.foldl Ledger.merged (.start time)) now run := by
  have hreport := Ledger.report_foldl_merged hplain time
  cases h with
  | reported herrors hending houtput =>
    obtain ⟨-, -, hwhole⟩ | ⟨refusal, hfails, -⟩ := hreport
    · exact .reported hwhole hending houtput
    · cases hfails.symm.trans herrors
  | brokenErrors herrors hending houtput =>
    obtain ⟨text, hwritten, -⟩ | ⟨refusal, hfails, hbroken⟩ := hreport
    · cases hwritten.symm.trans herrors
    · cases hfails.symm.trans herrors
      exact .brokenErrors hbroken hending houtput
  | noTable htable hending =>
    -- with few outcomes the table could have been made
    refine .tooMany (Nat.not_lt.mp fun hfew => ?_) (fault_of_printedTable htable) hending
    obtain ⟨snapshot, hsnapshot, table, hprinted⟩ :=
      Ledger.exists_table_foldl_merged hfew time now
    obtain hmissing | ⟨taken, htaken, htable⟩ := bind_eq_error.mp htable
    · cases hmissing.symm.trans hsnapshot
    · cases htaken.symm.trans hsnapshot
      cases (bind_pure_eq_error.mp htable).symm.trans hprinted

/-- Input that is accepted is answered: all of its outcomes have been merged, or none of them if the
sampler could not be started. -/
theorem answer_of_accepts (hinterval : ¬ q.settings.reportInterval ≤ 0.0) (hrate : q.rate = .null)
    (hlive : q.printEvery = .null) (hread : tree.read q.input.toText = .ok octets)
    (hclock : ClockStays 0 q.live) {outcomes : List Outcome}
    (haccepts : OutcomeFile.Accepts octets outcomes) :
    ∃ merged l,
      ((∃ job, Scheduler.every 0 (.float q.settings.reportInterval) = .ok job) →
        merged = outcomes) ∧
      ((¬∃ job, Scheduler.every 0 (.float q.settings.reportInterval) = .ok job) → merged = []) ∧
      (Ledger.start q.startTime).mergeAll merged = (.ok (), l) ∧
      Answer q.settings.reportInterval merged l q.endTime (runReplay tree q) := by
  have hholds := (OutcomeFile.holds_iff hread).mpr haccepts
  obtain ⟨r, hfile, hproduced⟩ := Replay.exists_ofFile hinterval tree q.input q.startTime
  rw [← hrate] at hfile
  have hfault : (OutcomeFile.read tree q.input).fault = none := by
    rw [OutcomeFile.read, hread]
    exact OutcomeFile.fault_of_readOctets_eq_none.mpr ⟨outcomes, haccepts⟩
  rw [hfault] at hproduced
  obtain ⟨count, hproduced⟩ := hproduced
  obtain ⟨os, hos, hall, hnone⟩ := Replay.ledger_of_ofFile (hrate ▸ hfile) hproduced
  cases hos.unique hholds
  obtain ⟨merged, hplain, hmerged, hscheduled, hnever⟩ :
      ∃ merged : List Outcome, (∀ o ∈ merged, o.Plain) ∧
        (Ledger.start q.startTime).mergeAll merged = (.ok (), r.ledger) ∧
        ((∃ job, Scheduler.every 0 (.float q.settings.reportInterval) = .ok job) →
          merged = outcomes) ∧
        ((¬∃ job, Scheduler.every 0 (.float q.settings.reportInterval) = .ok job) →
          merged = []) := by
    -- the loop begins exactly if its job can be scheduled
    by_cases hjob : ∃ job, Scheduler.every 0 (.float q.settings.reportInterval) = .ok job
    · exact ⟨outcomes, hholds.plain, hall hjob, fun _ => rfl, fun hno => absurd hjob hno⟩
    · exact ⟨[], List.forall_mem_nil _, congrArg (Except.ok (), ·) (hnone hjob).symm,
        fun h => absurd h hjob, fun _ => rfl⟩
  refine ⟨merged, r.ledger, hscheduled, hnever, hmerged, ?_⟩
  obtain ⟨hperiod, hending, houtput⟩ | hconcludes :=
    runReplay_of_produced hfile hlive hproduced hclock
  · exact .neverStarts hperiod hending houtput
  · obtain hledger := (Prod.mk.inj ((Ledger.mergeAll_of_plain hplain _).symm.trans hmerged)).2
    rw [← hledger] at hconcludes ⊢
    exact hconcludes.answer hplain _

/-- Input that is not accepted is told, unless the fault is one of the listed escapes. -/
theorem ending_of_not_accepts (hinterval : ¬ q.settings.reportInterval ≤ 0.0)
    (hrate : q.rate = .null) (hlive : q.printEvery = .null)
    (hread : tree.read q.input.toText = .ok octets)
    (hrefused : ∀ outcomes, ¬ OutcomeFile.Accepts octets outcomes) :
    (runReplay tree q).output = "" ∧
      (((runReplay tree q).ending = .code 1 ∧ ∀ cause, ¬ OutcomeFile.InputEscape octets cause) ∨
        ∃ cause, OutcomeFile.InputEscape octets cause ∧
          (runReplay tree q).ending = .fault cause) := by
  obtain ⟨r, hfile, hproduced⟩ := Replay.exists_ofFile hinterval tree q.input q.startTime
  have hreading : OutcomeFile.read tree q.input =
      OutcomeFile.readOctets q.input.toText octets := by
    rw [OutcomeFile.read, hread]
  rw [← hrate] at hfile
  rw [hreading] at hproduced
  cases hfault : (OutcomeFile.readOctets q.input.toText octets).fault with
  | none =>
    obtain ⟨outcomes, haccepts⟩ := OutcomeFile.fault_of_readOctets_eq_none.mp hfault
    exact absurd haccepts (hrefused outcomes)
  | some cause =>
    rw [hfault] at hproduced
    obtain ⟨houtput, hending⟩ :=
      runReplay_of_error (replay_of_produced_error hfile hlive hproduced)
    refine ⟨houtput, ?_⟩
    obtain ⟨hfamily, hnone⟩ | ⟨hfamily, hnoFile, hescape⟩ := OutcomeFile.fault_of_readOctets hfault
    -- a fault of the file family is told, with the code 1
    · have hreported : isReported cause = true := by
        rw [isReported, hfamily]
        rfl
      rw [hreported, if_pos rfl] at hending
      exact .inl ⟨hending, hnone⟩
    -- and any other one passes through
    · have hpasses : isReported cause = false := by
        rw [isReported, hnoFile, Bool.or_false, beq_eq_false_iff_ne]
        exact hfamily
      rw [hpasses, if_neg Bool.false_ne_true] at hending
      exact .inr ⟨cause, hescape, hending⟩

end Endings

/-- **How input is answered.** A run without a rate and without live tables, on a file that can be
opened, with settings that are accepted and logging that can be set up, does one of these things. If
the octets decode as UTF-8 and each line that is not blank holds an outcome, all outcomes are merged
(or none, if no job can be scheduled with the reporting interval), and the run ends as `Answer`
lists it: with the code 0 and a report, unless a recent error is broken by a surrogate, or the
interval is too short, or there are too many requests. If not, it prints nothing, and it ends with
the code 1, unless the fault is one of the listed escapes (`OutcomeFile.InputEscape`), with which it
ends then. -/
theorem input_answered [FileNames] (s : Surroundings) (arguments : List String) (a : Arguments)
    (settings : Settings) (tree : FileTree) (logging : Logging) (octets : List UInt8)
    (ha : Arguments.read Settings.defaultPath arguments = .ok a) (hrate : a.rate = .null)
    (hlive : a.printEvery = .null) (hsettings : settingsOf s.tree a = .ok settings)
    (hlogging : Logging.setUp s.tree settings = .ok (tree, logging))
    (hread : tree.read a.input.toText = .ok octets) (hclock : ClockStays 0 s.live) :
    (∀ outcomes, OutcomeFile.Accepts octets outcomes → ∃ merged l,
      ((∃ job, Scheduler.every 0 (.float settings.reportInterval) = .ok job) →
        merged = outcomes) ∧
      ((¬∃ job, Scheduler.every 0 (.float settings.reportInterval) = .ok job) → merged = []) ∧
      (Ledger.start s.startTime).mergeAll merged = (.ok (), l) ∧
      Answer settings.reportInterval merged l s.endTime (run s arguments)) ∧
    ((∀ outcomes, ¬ OutcomeFile.Accepts octets outcomes) →
      (run s arguments).output = "" ∧
        (((run s arguments).ending = .code 1 ∧ ∀ cause, ¬ OutcomeFile.InputEscape octets cause) ∨
          ∃ cause, OutcomeFile.InputEscape octets cause ∧
            (run s arguments).ending = .fault cause)) := by
  let q : Request := ⟨settings, a.input, a.printEvery, a.rate, s.live, s.startTime, s.endTime⟩
  have hinterval : ¬ q.settings.reportInterval ≤ 0.0 := interval_of_settingsOf ha hsettings
  have hrun : run s arguments = runReplay tree q := run_of_settings ha hsettings hlogging
  rw [hrun]
  constructor
  · intro outcomes haccepts
    exact answer_of_accepts hinterval hrate hlive hread hclock haccepts
  · intro hrefused
    exact ending_of_not_accepts hinterval hrate hlive hread hrefused

end Running

open Machine

/-- A file with one outcome is accepted, and the outcome is reported. -/
theorem answered_oneGet : (run oneGet ["outcomes"]).ending = .code 0 ∧
    ∃ l, Reports l 0.0 (run oneGet ["outcomes"]).output ∧
      (Ledger.start 0.0).mergeAll [⟨.get, .success⟩] = (.ok (), l) := by
  have hread : oneGet.tree.read (FileTree.Path.ofString "outcomes").toText =
      .ok (Text.Utf8.encode oneGetLine) := by
    decide +kernel
  obtain ⟨haccepted, -⟩ := input_answered oneGet ["outcomes"] (oneGetArguments .null)
    Settings.default oneGet.tree ⟨.info, none⟩ _ rfl rfl rfl rfl rfl hread trivial
  obtain ⟨merged, l, hall, -, hmerged, hanswer⟩ :=
    haccepted _ ((OutcomeFile.holds_iff hread).mp holds_oneGet)
  rw [hall (by decide +kernel)] at hmerged hanswer
  cases hanswer with
  | reported _ hending houtput => exact ⟨hending, l, houtput, hmerged⟩
  | brokenErrors hbroken => exact absurd (List.forall_mem_nil _) hbroken
  | neverStarts hperiod => exact absurd hperiod (by decide +kernel)
  | tooMany hmany => exact absurd hmany (by decide +kernel)

/-- A folder with a file of one octet that no text can begin with. -/
def badOctet : Surroundings where
  tree := FileTree.empty.add "outcomes" (some [0xFF])
  startTime := 0.0
  endTime := 0.0
  live := []

/-- The file is not accepted, and the run neither reports this nor ends with a code. -/
theorem run_badOctet :
    badOctet.tree.read "outcomes" = .ok [0xFF] ∧
      (∀ outcomes, ¬ OutcomeFile.Accepts [0xFF] outcomes) ∧
      (run badOctet ["outcomes"]).ending = .fault (.undecodable ⟨0, [0xFF], .badStart⟩) := by
  refine ⟨by decide +kernel, ?_, by decide +kernel⟩
  rintro outcomes ⟨text, hdecode, -⟩
  cases hdecode

end Tool

end LoadLedger
