import LoadLedger.Machine
import LoadLedger.Proofs.Faults
import LoadLedger.Proofs.Number.Positive
import LoadLedger.Settings

/-!
# Settings that are accepted

Data is read as settings stage by stage (`Settings.ofValue_eq_ok`), and settings that pass the
checks can be written as data and are read back (`Settings.ofValue_toEntries`). So the settings that
are accepted are known exactly (`Settings.accepted_iff`): the size of the queue is never negative,
and the level is always the one that its name stands for. The interval may be infinity or NaN, which
are not zero or less either, and nothing is asked of the log folder, so that not all of them can be
used.

`Settings.ReadFrom` lists what the stages have found in the two sections, `Settings.Accepted` is
what the checks ask of settings, and `Settings.Usable` what a run needs.
-/

namespace LoadLedger

/-- The name of a level is written in upper case. -/
theorem Level.upper_of_ofName? {name : String} {level : Level} (h : ofName? name = some level) :
    Text.upper name = name := by
  have hname := List.find?_some h
  rw [Bool.or_eq_true, beq_iff_eq, beq_iff_eq] at hname
  rcases hname with rfl | halias
  · cases level <;> decide +kernel
  · cases level with
    | warning | critical =>
      cases halias
      decide +kernel
    | _ => cases halias

namespace Settings

/-! ## Stages -/

/-- What an object holds of a section. -/
def sectionValue (entries : List (String × Value)) (name : String) : Value :=
  let v := (Value.field? entries name).getD (.object [])
  if v.isGiven then v else .object []

/-- An object is asked for its members, by `Value.field?`. -/
theorem member_of_fields? {v : Value} {entries : List (String × Value)}
    (h : v.fields? = some entries) (key : String) :
    member v key = .ok (Value.field? entries key) := by
  rw [member, h]

/-- A section is a member, or an empty object if there is none. -/
theorem sectionOf_of_fields? {data : Value} {entries : List (String × Value)}
    (h : data.fields? = some entries) (name : String) :
    sectionOf data name = .ok (sectionValue entries name) := by
  rw [sectionOf, member_of_fields? h]
  rfl

theorem exists_fields?_of_sectionOf {data found : Value} {name : String}
    (h : sectionOf data name = .ok found) : ∃ entries, data.fields? = some entries := by
  obtain ⟨_, hmember, -⟩ := bind_eq_ok.mp h
  rw [member] at hmember
  split at hmember
  · exact ⟨_, ‹_›⟩
  · cases hmember

/-- An interval passes the check unless it is zero or less. NaN is neither. -/
theorem checkInterval_eq_ok {interval : Float} :
    checkInterval interval = .ok () ↔ ¬ interval ≤ 0.0 := by
  rw [checkInterval]
  split
  · rename_i h
    refine iff_of_false ?_ (not_not_intro h)
    rintro ⟨⟩
  · rename_i h
    exact iff_of_true rfl h

/-- A size passes the check unless it is negative. -/
theorem checkQueueSize_eq_ok {size : Int} : checkQueueSize size = .ok () ↔ 0 ≤ size := by
  rw [checkQueueSize]
  split
  · rename_i h
    refine iff_of_false ?_ (Int.not_le.mpr h)
    intro hok
    obtain ⟨_, -, hthrow⟩ := bind_eq_ok.mp hok
    cases hthrow
  · rename_i h
    exact iff_of_true rfl (Int.not_lt.mp h)

/-- A level is found by its name, and the check refuses a name that is not one. -/
theorem levelOf_eq_ok {name : String} {level : Level} :
    levelOf name = .ok level ↔ Level.ofName? name = some level := by
  rw [levelOf]
  cases Level.ofName? name with
  | none =>
    refine iff_of_false ?_ ?_
    · rintro ⟨⟩
    · rintro ⟨⟩
  | some found => rw [Except.ok.injEq, Option.some_inj]

section

variable [Depths]

/-- The settings are those of two sections, and they pass the checks. -/
structure ReadFrom (globalSettings aggregator : Value) (s : Settings) : Prop where
  /-- The interval and the size are read from one section, -/
  reportInterval : readInterval aggregator = .ok s.reportInterval
  failureQueueSize : readQueueSize aggregator = .ok s.failureQueueSize
  /-- and both have passed their checks. -/
  intervalChecked : ¬ s.reportInterval ≤ 0.0
  sizeChecked : 0 ≤ s.failureQueueSize
  /-- The level and the folder are read from the other one. -/
  levelName : readLevelName globalSettings = .ok s.levelName
  level : Level.ofName? s.levelName = some s.level
  /-- Nothing is asked of the folder. -/
  logFolder : ∃ found, member globalSettings "log_dir" = .ok found ∧ s.logFolder = found.getD .null

/-- **Settings are read from the two sections of an object.** -/
theorem ofValue_eq_ok {data : Value} {entries : List (String × Value)}
    (hdata : data.fields? = some entries) {s : Settings} :
    ofValue data = .ok s ↔
      s.ReadFrom (sectionValue entries "global_settings") (sectionValue entries "aggregator") := by
  rw [ofValue, sectionOf_of_fields? hdata, sectionOf_of_fields? hdata]
  constructor
  · intro h
    -- the two sections are there, and then the stages come in order
    obtain ⟨_, ⟨⟩, h⟩ := bind_eq_ok.mp h
    obtain ⟨_, ⟨⟩, h⟩ := bind_eq_ok.mp h
    obtain ⟨interval, hinterval, h⟩ := bind_eq_ok.mp h
    obtain ⟨size, hsize, h⟩ := bind_eq_ok.mp h
    obtain ⟨⟨⟩, hpositive, h⟩ := bind_eq_ok.mp h
    obtain ⟨⟨⟩, hnonneg, h⟩ := bind_eq_ok.mp h
    obtain ⟨name, hname, h⟩ := bind_eq_ok.mp h
    obtain ⟨level, hlevel, h⟩ := bind_eq_ok.mp h
    obtain ⟨found, hfound, h⟩ := bind_eq_ok.mp h
    cases h
    exact ⟨hinterval, hsize, checkInterval_eq_ok.mp hpositive, checkQueueSize_eq_ok.mp hnonneg,
      hname, levelOf_eq_ok.mp hlevel, found, hfound, rfl⟩
  · rintro ⟨hinterval, hsize, hpositive, hnonneg, hname, hlevel, found, hfound, hfolder⟩
    refine bind_eq_ok.mpr ⟨_, rfl, bind_eq_ok.mpr ⟨_, rfl, ?_⟩⟩
    refine bind_eq_ok.mpr ⟨_, hinterval, bind_eq_ok.mpr ⟨_, hsize, ?_⟩⟩
    refine bind_eq_ok.mpr ⟨(), checkInterval_eq_ok.mpr hpositive, ?_⟩
    refine bind_eq_ok.mpr ⟨(), checkQueueSize_eq_ok.mpr hnonneg, ?_⟩
    refine bind_eq_ok.mpr ⟨_, hname, bind_eq_ok.mpr ⟨_, levelOf_eq_ok.mpr hlevel, ?_⟩⟩
    refine bind_eq_ok.mpr ⟨found, hfound, ?_⟩
    rw [← hfolder]
    rfl

/-! ## The settings that come of it -/

/-- Settings as data. -/
def toEntries (s : Settings) : List (String × Value) :=
  [ ("aggregator", .object [
      ("report_interval_seconds", .float s.reportInterval),
      ("failure_queue_size", .int s.failureQueueSize)]),
    ("global_settings", .object [
      ("log_level", .text s.levelName),
      ("log_dir", s.logFolder)]) ]

/-- What the checks ask of settings. -/
structure Accepted (s : Settings) : Prop where
  /-- The interval is positive, or one of the two values that are not zero or less either. -/
  reportInterval : Number.IsPositive s.reportInterval ∨
    Number.partsOf s.reportInterval = .infinite false ∨ Number.partsOf s.reportInterval = .nan
  failureQueueSize : 0 ≤ s.failureQueueSize
  level : Level.ofName? s.levelName = some s.level

/-- Settings that a run can be carried out with. Its interval is a positive number
(`Number.IsPositive`), and its folder a path or nothing. -/
structure Usable (s : Settings) : Prop where
  reportInterval : Number.IsPositive s.reportInterval
  failureQueueSize : 0 ≤ s.failureQueueSize
  level : Level.ofName? s.levelName = some s.level
  logFolder : s.logFolder = .null ∨ ∃ folder, s.logFolder = .ofText folder

theorem ReadFrom.accepted {globalSettings aggregator : Value} {s : Settings}
    (h : s.ReadFrom globalSettings aggregator) : s.Accepted :=
  ⟨(Number.not_le_zero_iff _).mp h.intervalChecked, h.sizeChecked, h.level⟩

/-- **Settings that pass the checks are read back** from the data that they are written as. The data
is `Settings.toEntries`. -/
theorem ofValue_toEntries {s : Settings} (h : s.Accepted) :
    ofValue (.object s.toEntries) = .ok s := by
  refine (ofValue_eq_ok rfl).mpr ⟨rfl, rfl, (Number.not_le_zero_iff _).mpr h.reportInterval,
    h.failureQueueSize, ?_, h.level, _, rfl, rfl⟩
  have hname : readLevelName (sectionValue s.toEntries "global_settings") =
      .ok (Text.upper s.levelName) := rfl
  rw [hname, Level.upper_of_ofName? h.level]

/-- **The settings that are accepted, and those among them that can be used.** Some data is read as
the settings exactly if their interval is not zero or less, their size is not negative and their
level is that of their name; then they are read from what `toEntries` makes of them. They can be
used exactly if the interval is neither infinity nor NaN, and the log folder is a text or nothing,
which is never asked. -/
theorem accepted_iff (s : Settings) :
    (((∃ data, ofValue data = .ok s) ↔ s.Accepted) ∧
      (s.Accepted → ofValue (.object s.toEntries) = .ok s)) ∧
      (s.Usable ↔ s.Accepted ∧
        Number.partsOf s.reportInterval ≠ .infinite false ∧
        Number.partsOf s.reportInterval ≠ .nan ∧
        (s.logFolder = .null ∨ ∃ folder, s.logFolder = .ofText folder)) := by
  refine ⟨⟨⟨?_, fun h => ⟨_, ofValue_toEntries h⟩⟩, ofValue_toEntries⟩, ⟨?_, ?_⟩⟩
  · rintro ⟨data, h⟩
    obtain ⟨_, hsection, -⟩ := bind_eq_ok.mp h
    obtain ⟨entries, hdata⟩ := exists_fields?_of_sectionOf hsection
    exact ((ofValue_eq_ok hdata).mp h).accepted
  · rintro ⟨hinterval, hsize, hlevel, hfolder⟩
    refine ⟨⟨.inl hinterval, hsize, hlevel⟩, ?_, ?_, hfolder⟩
    · obtain ⟨_, _, -, hparts⟩ := hinterval
      rw [hparts]
      exact Number.Parts.noConfusion
    · obtain ⟨_, _, -, hparts⟩ := hinterval
      rw [hparts]
      exact Number.Parts.noConfusion
  · rintro ⟨haccepted, hinfinite, hnan, hfolder⟩
    refine ⟨?_, haccepted.failureQueueSize, haccepted.level, hfolder⟩
    -- an interval that was accepted is positive, infinite or NaN
    rcases haccepted.reportInterval with h | h | h
    · exact h
    · exact absurd h hinfinite
    · exact absurd h hnan

end

open Machine

/-- An interval that is NaN. -/
def nanInterval : List (String × Value) :=
  [("aggregator", .object [("report_interval_seconds", .float (0.0 / 0.0))])]

/-- A log folder that is a number. -/
def numberedFolder : List (String × Value) :=
  [("global_settings", .object [("log_dir", .int 5)])]

/-- Both are accepted, and neither leads to settings that can be used. -/
theorem accepted_nanInterval :
    (∃ s, ofValue (.object nanInterval) = .ok s ∧ ¬ s.Usable) ∧
      ∃ s, ofValue (.object numberedFolder) = .ok s ∧ ¬ s.Usable := by
  constructor
  · refine ⟨{ default with reportInterval := 0.0 / 0.0 }, ?_, ?_⟩
    · exact (ofValue_eq_ok rfl).mpr
        ⟨rfl, rfl, by decide +kernel, by decide, rfl, by decide, _, rfl, rfl⟩
    · rintro ⟨⟨_, _, -, hparts⟩, -, -, -⟩
      have hnan : Number.partsOf (0.0 / 0.0) = .nan := by decide +kernel
      cases hnan.symm.trans hparts
  · refine ⟨{ default with logFolder := .int 5 }, ?_, ?_⟩
    · exact (ofValue_eq_ok rfl).mpr
        ⟨rfl, rfl, by decide +kernel, by decide, rfl, by decide, _, rfl, rfl⟩
    · rintro ⟨-, -, -, ⟨⟨⟩⟩ | ⟨_ | _, ⟨⟩⟩⟩

end Settings

end LoadLedger
