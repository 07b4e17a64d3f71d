import LoadLedger.Proofs.Number.FloatRange
import LoadLedger.Proofs.Settings.Accepted
import LoadLedger.Proofs.Values

/-!
# What escapes from reading settings

Whoever reads settings is ready for faults of the settings family. Numbers of a wrong type or form
are reported as such, and so are those that do not pass the checks. What is left escapes: a section
that has no members, an interval that is too large for a floating-point number, and an infinite size
(`Settings.SettingsEscape`).

For each stage there is a lemma on what escapes from it (`escapes_readInterval_iff`,
`escapes_readQueueSize_iff`, `escapes_readLevelName_iff`). They are put together in
`Settings.escapes_ofValue_iff`, where a stage is reached only if the stages before it have
succeeded.
-/

namespace LoadLedger

namespace Settings

/-! ## Stages -/

/-- A fault escapes from the loading of settings. -/
abbrev Escapes (x : Except Fault α) (cause : Fault) : Prop :=
  EscapesFrom .settings x cause

/-- The value has no members, and this is the fault. -/
def MemberEscape (v : Value) (cause : Fault) : Prop :=
  v.fields? = none ∧ cause = .noMembers v.typeName

variable {v : Value} {key : String} {cause : Fault}

/-- Whoever asks for a member of something that has none gets a fault that nobody is ready for. -/
theorem escapes_member_iff : Escapes (member v key) cause ↔ MemberEscape v cause := by
  rw [member, MemberEscape]
  cases v.fields? with
  | some members => exact iff_of_false not_escapesFrom_ok (by rintro ⟨⟨⟩, -⟩)
  | none =>
    refine ⟨?_, ?_⟩
    · rintro ⟨⟨⟩, -⟩
      exact ⟨rfl, rfl⟩
    · rintro ⟨-, rfl⟩
      exact ⟨rfl, Fault.Family.noConfusion⟩

/-- What has members is an object. -/
theorem member_eq_ok {found : Option Value} :
    member v key = .ok found ↔ ∃ members, v.fields? = some members ∧
      Value.field? members key = found := by
  rw [member]
  cases v.fields? with
  | some members => simp only [Except.ok.injEq, Option.some.injEq, exists_eq_left']
  | none => exact iff_of_false (by rintro ⟨⟩) (by rintro ⟨_, ⟨⟩, -⟩)

/-- `asSetting` changes faults only. -/
theorem asSetting_eq_ok {x : Except Fault α} {a : α} : asSetting x = .ok a ↔ x = .ok a := by
  cases x with
  | ok b => rfl
  | error c =>
    refine iff_of_false ?_ (by rintro ⟨⟩)
    rw [asSetting]
    split
    · rintro ⟨⟩
    · rintro ⟨⟩
    · rintro ⟨⟩

theorem not_escapes_asSetting_ok {x : Except Fault α} {a : α} (h : x = .ok a) :
    ¬ Escapes (asSetting x) cause := by
  rw [h]
  exact not_escapesFrom_ok

/-- What is of a wrong type or form is reported. -/
theorem not_escapes_asSetting {x : Except Fault α} {c : Fault} (h : x = .error c)
    (hfamily : c.family = .wrongType ∨ c.family = .badValue) :
    ¬ Escapes (asSetting x) cause := by
  rw [h, asSetting]
  obtain hc | hc := hfamily
  · rw [hc]
    exact not_escapesFrom_of_family rfl
  · rw [hc]
    exact not_escapesFrom_of_family rfl

/-- Where a number is read from a section, the section may have no members, or the number may let a
fault escape. -/
theorem escapes_setting_iff {read : Value → Except Fault α} {a : α}
    {NumberEscape : Value → Fault → Prop}
    (h : ∀ w, Escapes (asSetting (read w)) cause ↔ NumberEscape w cause) :
    Escapes (member v key >>= fun
      | some w => asSetting (read w)
      | none => .ok a) cause ↔
      MemberEscape v cause ∨ ∃ members w, v.fields? = some members ∧
        Value.field? members key = some w ∧ NumberEscape w cause := by
  refine escapesFrom_bind_iff.trans (or_congr escapes_member_iff ?_)
  constructor
  · rintro ⟨found, hfound, hescape⟩
    obtain ⟨members, hmembers, hfield⟩ := member_eq_ok.mp hfound
    cases found with
    | none => exact absurd hescape not_escapesFrom_ok
    | some w => exact ⟨members, w, hmembers, hfield, (h w).mp hescape⟩
  · rintro ⟨members, w, hmembers, hfield, hescape⟩
    exact ⟨some w, member_eq_ok.mpr ⟨members, hmembers, hfield⟩, (h w).mpr hescape⟩

/-! ## The interval -/

/-- The intervals that let a fault escape: integers beyond the greatest floating-point number. -/
inductive IntervalEscape : Value → Fault → Prop
  | int {i : Int} (h : Number.integerLimit ≤ i.natAbs) : IntervalEscape (.int i) .integerTooLarge

/-- `Value.toDecimal` lets a fault escape for these intervals, and for no others. -/
theorem escapes_toDecimal_iff (v : Value) :
    Escapes (asSetting v.toDecimal) cause ↔ IntervalEscape v cause := by
  -- Each sort of value is converted in its own way.
  cases v with
  | int i =>
    have hrange := Number.ofInt?_isSome_iff i
    rw [Value.toDecimal]
    cases hi : Number.ofInt? i with
    | some x =>
      rw [hi] at hrange
      refine iff_of_false not_escapesFrom_ok ?_
      rintro ⟨h⟩
      exact Nat.not_le.mpr (hrange.mp rfl) h
    | none =>
      rw [hi] at hrange
      refine ⟨?_, ?_⟩
      · rintro ⟨⟨⟩, -⟩
        exact .int (Nat.not_lt.mp fun h => Bool.noConfusion (hrange.mpr h))
      · rintro ⟨-⟩
        exact ⟨rfl, by decide⟩
  | text s =>
    refine iff_of_false ?_ (by rintro ⟨⟩)
    cases hread : Value.toDecimal (.text s) with
    | ok x => exact not_escapes_asSetting_ok rfl
    | error c =>
      refine not_escapes_asSetting rfl (.inr ?_)
      rw [Value.toDecimal, Number.readDecimal] at hread
      split at hread
      · cases hread
      · cases hread
        rfl
  | bool | float => exact iff_of_false (not_escapes_asSetting_ok rfl) (by rintro ⟨⟩)
  | brokenText t => exact iff_of_false (not_escapes_asSetting rfl (.inr rfl)) (by rintro ⟨⟩)
  | null | list | object | brokenObject =>
    exact iff_of_false (not_escapes_asSetting rfl (.inl rfl)) (by rintro ⟨⟩)

theorem escapes_readInterval_iff :
    Escapes (readInterval v) cause ↔ MemberEscape v cause ∨ ∃ members w, v.fields? = some members ∧
      Value.field? members "report_interval_seconds" = some w ∧ IntervalEscape w cause :=
  escapes_setting_iff escapes_toDecimal_iff

/-! ## The size of the queue -/

/-- The sizes that let a fault escape: infinities. -/
inductive SizeEscape : Value → Fault → Prop
  | float {x : Float} {negative : Bool} (h : Number.partsOf x = .infinite negative) :
    SizeEscape (.float x) .infinityIsNoInteger

/-- `Value.toInteger` lets a fault escape for these sizes, and for no others. -/
theorem escapes_toInteger_iff (v : Value) :
    Escapes (asSetting v.toInteger) cause ↔ SizeEscape v cause := by
  -- Each sort of value is converted in its own way.
  cases v with
  | float x =>
    rw [Value.toInteger]
    cases hparts : Number.partsOf x with
    | nan =>
      refine iff_of_false (not_escapes_asSetting rfl (.inr rfl)) ?_
      rintro ⟨h⟩
      cases h.symm.trans hparts
    | infinite negative =>
      refine ⟨?_, ?_⟩
      · rintro ⟨⟨⟩, -⟩
        exact .float hparts
      · rintro ⟨-⟩
        exact ⟨rfl, by decide⟩
    | finite negative mantissa exponent =>
      refine iff_of_false not_escapesFrom_ok ?_
      rintro ⟨h⟩
      cases h.symm.trans hparts
  | text s =>
    refine iff_of_false ?_ (by rintro ⟨⟩)
    cases hread : Value.toInteger (.text s) with
    | ok i => exact not_escapes_asSetting_ok rfl
    | error c => exact not_escapes_asSetting rfl (.inr (Number.family_of_readInteger hread))
  | bool | int => exact iff_of_false (not_escapes_asSetting_ok rfl) (by rintro ⟨⟩)
  | brokenText t =>
    exact iff_of_false (not_escapes_asSetting rfl (.inr (Number.family_integerRefusal t)))
      (by rintro ⟨⟩)
  | null | list | object | brokenObject =>
    exact iff_of_false (not_escapes_asSetting rfl (.inl rfl)) (by rintro ⟨⟩)

theorem escapes_readQueueSize_iff :
    Escapes (readQueueSize v) cause ↔ MemberEscape v cause ∨ ∃ members w, v.fields? = some members ∧
      Value.field? members "failure_queue_size" = some w ∧ SizeEscape w cause :=
  escapes_setting_iff escapes_toInteger_iff

/-- The size is short enough to be written, if what it was read from is. -/
theorem natAbs_lt_of_readQueueSize [Depths] (hv : v.Writable) {size : Int}
    (h : readQueueSize v = .ok size) : size.natAbs < Number.tenTo Number.digitLimit := by
  obtain ⟨found, hfound, h⟩ := bind_eq_ok.mp h
  obtain ⟨members, hmembers, hfield⟩ := member_eq_ok.mp hfound
  cases found with
  | none =>
    cases h
    decide +kernel
  | some w => exact Value.natAbs_toInteger_lt (hv.field? hmembers hfield).1 (asSetting_eq_ok.mp h)

/-! ## Checks and the level -/

theorem not_escapes_checkInterval (interval : Float) :
    ¬ Escapes (checkInterval interval) cause := by
  rw [checkInterval]
  split
  · exact not_escapesFrom_of_family rfl
  · exact not_escapesFrom_ok

theorem not_escapes_checkQueueSize {size : Int}
    (h : size.natAbs < Number.tenTo Number.digitLimit) :
    ¬ Escapes (checkQueueSize size) cause := by
  rw [checkQueueSize]
  split
  · rw [Number.writeInteger_eq_ok_iff.mpr ⟨h, rfl⟩]
    exact not_escapesFrom_of_family rfl
  · exact not_escapesFrom_ok

/-- A broken name of a level is reported like any other that is unknown. -/
theorem not_escapes_levelNameOf (t : AnyText) : ¬ Escapes (levelNameOf t) cause := by
  cases t with
  | whole s => exact not_escapesFrom_ok
  | broken t => exact not_escapesFrom_of_family rfl

/-- The name of a level may be any value. It is written as a text first, which data from a file can
always be. -/
theorem escapes_readLevelName_iff [Depths] (hv : v.Writable) :
    Escapes (readLevelName v) cause ↔ MemberEscape v cause := by
  refine escapesFrom_bind_iff.trans (Iff.trans (or_iff_left ?_) escapes_member_iff)
  rintro ⟨found, hfound, h⟩
  obtain ⟨members, hmembers, hfield⟩ := member_eq_ok.mp hfound
  cases found with
  | none => exact not_escapesFrom_ok h
  | some w =>
    obtain ⟨t, ht⟩ := Value.exists_shownAt_iff.mpr ((hv.field? hmembers hfield).at .level)
    dsimp only at h
    rw [ht] at h
    exact not_escapes_levelNameOf t h

theorem not_escapes_levelOf (name : String) : ¬ Escapes (levelOf name) cause := by
  rw [levelOf]
  split
  · exact not_escapesFrom_ok
  · exact not_escapesFrom_of_family rfl

/-! ## Settings -/

/-- **Where and how faults escape from reading settings**, in the order of the stages. A stage is
reached only if the ones before it have a result. That a stage has no result is one of
`MemberEscape`, `IntervalEscape` and `SizeEscape`. -/
inductive SettingsEscape (entries : List (String × Value)) : Fault → Prop
  /-- The section of the numbers has no members. -/
  | aggregator {cause : Fault} (h : MemberEscape (sectionValue entries "aggregator") cause) :
    SettingsEscape entries cause
  /-- The interval is to be a floating-point number. -/
  | interval {members : List (String × Value)} {v : Value} {cause : Fault}
    (haggregator : (sectionValue entries "aggregator").fields? = some members)
    (hfield : Value.field? members "report_interval_seconds" = some v)
    (h : IntervalEscape v cause) : SettingsEscape entries cause
  /-- The size is to be an integer. -/
  | queueSize {members : List (String × Value)} {interval : Float} {v : Value} {cause : Fault}
    (haggregator : (sectionValue entries "aggregator").fields? = some members)
    (hinterval : readInterval (sectionValue entries "aggregator") = .ok interval)
    (hfield : Value.field? members "failure_queue_size" = some v)
    (h : SizeEscape v cause) : SettingsEscape entries cause
  /-- The numbers are right, and the section of the logging has no members. -/
  | globalSettings {interval : Float} {size : Int} {cause : Fault}
    (hinterval : readInterval (sectionValue entries "aggregator") = .ok interval)
    (hsize : readQueueSize (sectionValue entries "aggregator") = .ok size)
    (hpositive : ¬ interval ≤ 0.0) (hnonneg : 0 ≤ size)
    (h : MemberEscape (sectionValue entries "global_settings") cause) :
    SettingsEscape entries cause

/-- A section of data that can be written can be written. -/
theorem writable_sectionValue [Depths] {data : Value} (h : data.Writable)
    {entries : List (String × Value)} (hentries : data.fields? = some entries) (name : String) :
    (sectionValue entries name).Writable := by
  have hempty : Value.Writable (.object []) :=
    Value.writableWithin_object.mpr fun e he => absurd he List.not_mem_nil
  rw [sectionValue]
  split
  · cases hfield : Value.field? entries name with
    | none => exact hempty
    | some v => exact h.field? hentries hfield
  · exact hempty

/-- **From data that can be written**, faults escape where one of the stages lets them. -/
theorem escapes_ofValue_iff [Depths] {data : Value} (hdata : data.Writable)
    {entries : List (String × Value)} (hentries : data.fields? = some entries) :
    Escapes (ofValue data) cause ↔ SettingsEscape entries cause := by
  have haggregator := writable_sectionValue hdata hentries "aggregator"
  have hglobal := writable_sectionValue hdata hentries "global_settings"
  rw [ofValue, sectionOf_of_fields? hentries, sectionOf_of_fields? hentries]
  refine ⟨?_, ?_⟩
  · intro h
    -- stage by stage: a fault escapes here, or the stage succeeds and it escapes later
    obtain h | ⟨_, ⟨⟩, h⟩ := escapesFrom_bind_iff.mp h
    · exact absurd h not_escapesFrom_ok
    obtain h | ⟨_, ⟨⟩, h⟩ := escapesFrom_bind_iff.mp h
    · exact absurd h not_escapesFrom_ok
    obtain h | ⟨interval, hinterval, h⟩ := escapesFrom_bind_iff.mp h
    · obtain hmember | ⟨members, v, hsection, hfield, h⟩ := escapes_readInterval_iff.mp h
      · exact .aggregator hmember
      · exact .interval hsection hfield h
    obtain h | ⟨size, hsize, h⟩ := escapesFrom_bind_iff.mp h
    · obtain hmember | ⟨members, v, hsection, hfield, h⟩ := escapes_readQueueSize_iff.mp h
      · exact .aggregator hmember
      · exact .queueSize hsection hinterval hfield h
    obtain h | ⟨_, hpositive, h⟩ := escapesFrom_bind_iff.mp h
    · exact absurd h (not_escapes_checkInterval interval)
    obtain h | ⟨_, hnonneg, h⟩ := escapesFrom_bind_iff.mp h
    · exact absurd h (not_escapes_checkQueueSize (natAbs_lt_of_readQueueSize haggregator hsize))
    -- the section of the log settings is reached once the numbers have passed their checks
    have hreached : ∀ {c : Fault}, MemberEscape (sectionValue entries "global_settings") c →
        SettingsEscape entries c :=
      .globalSettings hinterval hsize (checkInterval_eq_ok.mp hpositive)
        (checkQueueSize_eq_ok.mp hnonneg)
    obtain h | ⟨name, -, h⟩ := escapesFrom_bind_iff.mp h
    · exact hreached ((escapes_readLevelName_iff hglobal).mp h)
    obtain h | ⟨level, -, h⟩ := escapesFrom_bind_iff.mp h
    · exact absurd h (not_escapes_levelOf name)
    · exact hreached (escapes_member_iff.mp (escapesFrom_bind_pure_iff.mp h))
  · intro h
    refine escapesFrom_bind_iff.mpr (.inr ⟨_, rfl, ?_⟩)
    refine escapesFrom_bind_iff.mpr (.inr ⟨_, rfl, escapesFrom_bind_iff.mpr ?_⟩)
    cases h with
    | aggregator h => exact .inl (escapes_readInterval_iff.mpr (.inl h))
    | interval hsection hfield h =>
      exact .inl (escapes_readInterval_iff.mpr (.inr ⟨_, _, hsection, hfield, h⟩))
    | queueSize hsection hinterval hfield h =>
      refine .inr ⟨_, hinterval, escapesFrom_bind_iff.mpr (.inl ?_)⟩
      exact escapes_readQueueSize_iff.mpr (.inr ⟨_, _, hsection, hfield, h⟩)
    | globalSettings hinterval hsize hpositive hnonneg h =>
      refine .inr ⟨_, hinterval, escapesFrom_bind_iff.mpr (.inr ⟨_, hsize, ?_⟩)⟩
      refine escapesFrom_bind_iff.mpr (.inr ⟨(), checkInterval_eq_ok.mpr hpositive, ?_⟩)
      refine escapesFrom_bind_iff.mpr (.inr ⟨(), checkQueueSize_eq_ok.mpr hnonneg, ?_⟩)
      exact escapesFrom_bind_iff.mpr (.inl ((escapes_readLevelName_iff hglobal).mpr h))

end Settings

end LoadLedger
