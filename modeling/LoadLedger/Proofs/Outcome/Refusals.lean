import LoadLedger.Machine
import LoadLedger.Proofs.Outcome.Records

/-!
# Faults of reading a record

What is wrong with a record is meant to be told as a fault of the outcome family. Other faults
escape where a stage of `Outcome.ofRecord` works on a field without a guard: a value is written that
cannot be, since it is too long or nested too deep (`Value.UnwritableAt`), a status that cannot be
looked up is looked up, an infinite code is to be an integer.

**The list.** `RecordEscape` lists the fields and the values that do this, stage by stage, and
`Outcome.escapes_ofRecord_iff` says that the list is complete and that every entry of it does. How
much room there is for nested values differs from place to place: a kind that can be written to be
compared with the names may still be too deep to be reported as unknown
(`RecordEscape.unknownKind`).

**Records from texts.** What `Json.read` gives can be written at every place. From such a record a
fault escapes only through a status that is a list or an object and through an infinite code
(`Outcome.escape_of_writable`).
-/

namespace LoadLedger

/-! ## Escapes -/

/-- Does a computation end with a fault that is **not of the outcome family**? Whoever reads records
is ready for that family only. -/
def Escapes (x : Except Fault α) (cause : Fault) : Prop :=
  x = .error cause ∧ cause.family ≠ .outcome

variable {cause : Fault} {entries : List (String × Value)}

theorem not_escapes_ok {a : α} : ¬ Escapes (.ok a) cause :=
  not_escapesFrom_ok

theorem not_escapes_outcome {c : Fault} (h : c.family = .outcome) :
    ¬ Escapes (.error c : Except Fault α) cause :=
  not_escapesFrom_of_family h

/-- A fault escapes from two stages in a row if it does from the first one or, with a result of the
first one, from the second one. -/
theorem escapes_bind_iff {x : Except Fault α} {f : α → Except Fault β} :
    Escapes (x >>= f) cause ↔ Escapes x cause ∨ ∃ a, x = .ok a ∧ Escapes (f a) cause :=
  escapesFrom_bind_iff

/-- What is only put into another form afterwards lets the same faults escape. -/
theorem escapes_bind_pure_iff {x : Except Fault α} {f : α → β} :
    Escapes (x >>= fun a => pure (f a)) cause ↔ Escapes x cause :=
  escapesFrom_bind_pure_iff

/-- A report of the outcome family escapes only while it is worded. -/
theorem escapes_report_iff {x : Except Fault β} {report : β → Fault}
    (h : ∀ s, (report s).family = .outcome) :
    Escapes (x >>= fun s => (throw (report s) : Except Fault α)) cause ↔ Escapes x cause := by
  rw [escapes_bind_iff, or_iff_left]
  rintro ⟨s, -, hreport⟩
  exact not_escapes_outcome (h s) hreport

/-- Is the value a list or an object? These are the values that cannot be looked up, and the only
ones that may be too deep. -/
def Value.Nests : Value → Prop
  | .list _ | .object _ | .brokenObject .. => True
  | _ => False

theorem Value.Nests.typeName {v : Value} (h : v.Nests) :
    v.typeName = "list" ∨ v.typeName = "dict" := by
  cases v with
  | list => exact .inl rfl
  | object | brokenObject => exact .inr rfl
  | _ => exact h.elim

section Places

variable [Depths]

/-! ## Writing -/

/-- What is in the way of writing is no matter of outcomes. -/
theorem Value.UnwritableAt.family_ne {place : Place} {v : Value} (h : v.UnwritableAt place cause) :
    cause.family ≠ .outcome := by
  obtain ⟨rfl, -⟩ | ⟨rfl, -⟩ := h.blocked <;> decide

/-- Whatever keeps a value from being written escapes: `Value.shownAt` has no other faults, and
these are not of the outcome family. -/
theorem escapes_shownAt_iff {place : Place} {v : Value} :
    Escapes (v.shownAt place) cause ↔ v.UnwritableAt place cause := by
  rw [Escapes, ← Value.unwritableAt_iff_shownAt]
  exact and_iff_left_of_imp Value.UnwritableAt.family_ne

theorem escapes_quotedAt_iff {place : Place} {v : Value} :
    Escapes (v.quotedAt place) cause ↔ v.UnwritableAt place cause := by
  rw [Escapes, ← Value.unwritableAt_iff_quotedAt]
  exact and_iff_left_of_imp Value.UnwritableAt.family_ne

/-- A value that can be written is in nobody's way. -/
theorem Value.WritableAt.not_unwritableAt {place : Place} {v : Value} (h : v.WritableAt place) :
    ¬ v.UnwritableAt place cause :=
  fun hnot => Value.exists_unwritableAt_iff.mp ⟨cause, hnot⟩ h

/-- Of what nests nothing, nothing but an integer can be in the way. -/
theorem Value.not_unwritableAt_scalar (place : Place) (cause : Fault) :
    ¬ Value.null.UnwritableAt place cause ∧ (∀ b, ¬ (Value.bool b).UnwritableAt place cause) ∧
      (∀ x, ¬ (Value.float x).UnwritableAt place cause) ∧
      ∀ t, ¬ (Value.ofText t).UnwritableAt place cause := by
  have hone : ∀ {v : Value}, v.WritableWithin (0 + 1) → ¬ v.UnwritableAt place cause :=
    fun hv => (Value.WritableWithin.at hv place).not_unwritableAt
  exact ⟨hone Value.writableWithin_null, fun b => hone (Value.writableWithin_bool b),
    fun x => hone (Value.writableWithin_float x), fun t => hone (Value.writableWithin_ofText t)⟩

/-! ## The kind and the message -/

/-- Is the value of a field in the way of being written at a place? -/
def UnwritableField (entries : List (String × Value)) (place : Place) (key : String)
    (cause : Fault) : Prop :=
  ∃ v, Value.field? entries key = some v ∧ v.UnwritableAt place cause

theorem unwritableField_iff {place : Place} {key : String} {v : Value}
    (h : Value.field? entries key = some v) :
    UnwritableField entries place key cause ↔ v.UnwritableAt place cause := by
  simp only [UnwritableField, h, Option.some.injEq, exists_eq_left']

theorem not_unwritableField {place : Place} {key : String} (h : Value.field? entries key = none) :
    ¬ UnwritableField entries place key cause := by
  rintro ⟨v, hv, -⟩
  cases h.symm.trans hv

/-- The value of the kind is shown as a text that names no kind. -/
def NamesNoKind (entries : List (String × Value)) : Prop :=
  ∃ v name, Value.field? entries "kind" = some v ∧ v.shownAt .kind = .ok name ∧
    Kind.ofText? name = none

/-- A kind lets a fault escape exactly if it cannot be written, be it to be compared with the names
or, if it is none of them, to be reported. -/
theorem escapes_readKind_iff :
    Escapes (readKind entries) cause ↔
      UnwritableField entries .kind "kind" cause ∨
        NamesNoKind entries ∧ UnwritableField entries .unknownKind "kind" cause := by
  rw [readKind]
  cases hfield : Value.field? entries "kind" with
  | none =>
    refine iff_of_false ?_ ?_
    · intro h
      obtain h | ⟨name, -, h⟩ := escapes_bind_iff.mp h
      · exact not_escapes_ok h
      · simp only [Option.getD_none] at h
        split at h
        · exact not_escapes_ok h
        · exact (Value.not_unwritableAt_scalar _ _).1
            (escapes_shownAt_iff.mp ((escapes_report_iff fun _ => rfl).mp h))
    · rintro (h | ⟨-, h⟩)
      · exact not_unwritableField hfield h
      · exact not_unwritableField hfield h
  -- A kind is written twice: to be looked up, and to be reported.
  | some v =>
    rw [unwritableField_iff hfield, unwritableField_iff hfield, ← escapes_shownAt_iff]
    refine escapes_bind_iff.trans (or_congr_right ?_)
    simp only [Option.getD_some]
    constructor
    · rintro ⟨name, hname, h⟩
      split at h
      · exact absurd h not_escapes_ok
      · rename_i hunknown
        exact ⟨⟨v, name, hfield, hname, hunknown⟩,
          escapes_shownAt_iff.mp ((escapes_report_iff fun _ => rfl).mp h)⟩
    · rintro ⟨⟨w, name, hw, hname, hunknown⟩, h⟩
      cases hfield.symm.trans hw
      refine ⟨name, hname, ?_⟩
      rw [hunknown]
      exact (escapes_report_iff fun _ => rfl).mpr (escapes_shownAt_iff.mpr h)

/-- A message lets a fault escape exactly if it cannot be written. Without a message there is an
empty text instead. -/
theorem escapes_readMessage_iff :
    Escapes (readMessage entries) cause ↔ UnwritableField entries .message "message" cause := by
  rw [readMessage]
  cases hfield : Value.field? entries "message" with
  | none => exact iff_of_false not_escapes_ok fun h => not_unwritableField hfield h
  | some v => rw [unwritableField_iff hfield, escapes_shownAt_iff]

/-! ## The status -/

/-- The values that let a fault escape when a status is looked up by them: a list and an object
cannot be looked up, and an integer is found nowhere and is reported, if it can be written. -/
inductive StatusEscape : Value → Fault → Prop
  /-- A list or an object cannot be looked up. -/
  | nests {v : Value} (h : v.Nests) : StatusEscape v (.unhashable v.typeName)
  /-- A status that is none of the names is to be reported, and is too long for this. -/
  | int {i : Int} {cause : Fault} (h : (Value.int i).UnwritableAt .unknownStatus cause) :
    StatusEscape (.int i) cause

/-- A status that is no text and nests nothing is reported. -/
theorem escapes_unknownStatus_iff {v : Value} :
    Escapes (v.shownAt .unknownStatus >>= fun shown =>
        (throw (.unknownStatus shown) : Except Fault StatusName)) cause ↔
      v.UnwritableAt .unknownStatus cause :=
  (escapes_report_iff fun _ => rfl).trans escapes_shownAt_iff

/-- A status lets a fault escape exactly if it is one of the values of `StatusEscape`. Texts that
name no status are reported, and so are the other scalars. -/
theorem escapes_readStatusName_iff :
    Escapes (readStatusName entries) cause ↔
      ∃ v, Value.field? entries "status" = some v ∧ StatusEscape v cause := by
  obtain ⟨hnull, hbool, hfloat, htext⟩ :=
    Value.not_unwritableAt_scalar .unknownStatus cause
  rw [readStatusName]
  cases hfield : Value.field? entries "status" with
  | none => exact iff_of_false (hnull ∘ escapes_unknownStatus_iff.mp) (by rintro ⟨_, ⟨⟩, -⟩)
  | some v =>
    -- only the value that is there matters
    have hreduce : (∃ w, some v = some w ∧ StatusEscape w cause) ↔ StatusEscape v cause := by
      simp only [Option.some.injEq, exists_eq_left']
    rw [hreduce, Option.getD_some]
    cases v with
    | text s =>
      refine iff_of_false ?_ (by rintro ⟨⟨⟩⟩)
      intro h
      dsimp only at h
      split at h
      · exact not_escapes_ok h
      · exact not_escapes_outcome rfl h
    -- whatever nests cannot be looked up, and that fault is of no family that callers expect
    | list | object | brokenObject =>
      refine ⟨?_, ?_⟩
      · rintro ⟨⟨⟩, -⟩
        exact .nests trivial
      · rintro ⟨-⟩
        exact ⟨rfl, Fault.Family.noConfusion⟩
    | int i =>
      refine escapes_unknownStatus_iff.trans ⟨.int, ?_⟩
      rintro (⟨⟨⟩⟩ | h)
      exact h
    | null => exact iff_of_false (hnull ∘ escapes_unknownStatus_iff.mp) (by rintro ⟨⟨⟩⟩)
    | bool b => exact iff_of_false (hbool b ∘ escapes_unknownStatus_iff.mp) (by rintro ⟨⟨⟩⟩)
    | float x => exact iff_of_false (hfloat x ∘ escapes_unknownStatus_iff.mp) (by rintro ⟨⟨⟩⟩)
    | brokenText t =>
      exact iff_of_false (htext (.broken t) ∘ escapes_unknownStatus_iff.mp) (by rintro ⟨⟨⟩⟩)

/-! ## The status code -/

/-- The values that let a fault escape when they are to be a status code: infinity, which no
integer can stand for, and a list or an object that is reported and cannot be written. -/
inductive CodeEscape : Value → Fault → Prop
  /-- There is no integer that an infinity stands for. -/
  | infinite {x : Float} {negative : Bool} (h : Number.partsOf x = .infinite negative) :
    CodeEscape (.float x) .infinityIsNoInteger
  /-- A list or an object is to be reported, and cannot be written. -/
  | nests {v : Value} {cause : Fault} (hv : v.Nests) (h : v.UnwritableAt .badStatusCode cause) :
    CodeEscape v cause

/-- A code of a wrong type or form lets a fault escape exactly if it cannot be written. -/
theorem escapes_badStatusCode_iff {v : Value} {c : Fault} (h : v.toInteger = .error c)
    (hfamily : c.family = .wrongType ∨ c.family = .badValue) :
    Escapes (readStatusCode v) cause ↔ v.UnwritableAt .badStatusCode cause := by
  rw [readStatusCode, h]
  obtain hc | hc := hfamily
  all_goals
    simp only [hc]
    rw [escapes_report_iff fun _ => rfl, escapes_quotedAt_iff]

/-- A status code lets a fault escape exactly if it is one of the values of `CodeEscape`: the guard
of `readStatusCode` is ready for values of a wrong type and for bad ones, and infinity is
neither. -/
theorem escapes_readStatusCode_iff {v : Value} :
    Escapes (readStatusCode v) cause ↔ CodeEscape v cause := by
  obtain ⟨hnull, -, hfloat, htext⟩ := Value.not_unwritableAt_scalar .badStatusCode cause
  cases v with
  | bool | int => exact iff_of_false not_escapes_ok (by rintro (_ | ⟨⟨⟩, -⟩))
  | null =>
    rw [escapes_badStatusCode_iff rfl (.inl rfl)]
    exact iff_of_false hnull (by rintro (_ | ⟨⟨⟩, -⟩))
  | text s =>
    refine iff_of_false ?_ (by rintro (_ | ⟨⟨⟩, -⟩))
    cases hread : Value.toInteger (.text s) with
    | ok i =>
      rw [readStatusCode, hread]
      exact not_escapes_ok
    | error c =>
      rw [escapes_badStatusCode_iff hread (.inr (Number.family_of_readInteger hread))]
      exact htext (.whole s)
  | brokenText t =>
    rw [escapes_badStatusCode_iff rfl (.inr (Number.family_integerRefusal t))]
    exact iff_of_false (htext (.broken t)) (by rintro (_ | ⟨⟨⟩, -⟩))
  | list | object | brokenObject =>
    rw [escapes_badStatusCode_iff rfl (.inl rfl)]
    refine ⟨.nests trivial, ?_⟩
    rintro (_ | ⟨-, h⟩)
    exact h
  -- Of the numbers that are no integers, NaN is told as a bad value, and infinity is not told.
  | float x =>
    cases hparts : Number.partsOf x with
    | nan =>
      have hread : Value.toInteger (.float x) = .error .nanIsNoInteger := by
        rw [Value.toInteger, hparts]
      rw [escapes_badStatusCode_iff hread (.inr rfl)]
      refine iff_of_false (hfloat x) ?_
      rintro (h | ⟨⟨⟩, -⟩)
      cases h.symm.trans hparts
    | infinite negative =>
      rw [readStatusCode, Value.toInteger, hparts]
      refine ⟨?_, ?_⟩
      · rintro ⟨⟨⟩, -⟩
        exact .infinite hparts
      · rintro (- | ⟨⟨⟩, -⟩)
        exact ⟨rfl, by decide⟩
    | finite negative mantissa exponent =>
      rw [readStatusCode, Value.toInteger, hparts]
      refine iff_of_false not_escapes_ok ?_
      rintro (h | ⟨⟨⟩, -⟩)
      cases h.symm.trans hparts

/-! ## Records -/

/-- Is the message of a record with this status written? That of an HTTP error follows the code, so
that a bad code is told first. -/
def ReachesMessage (entries : List (String × Value)) : StatusName → Prop
  | .testFailure | .otherError | .notFound => True
  | .httpError =>
    ∃ v code, Value.field? entries "status_code" = some v ∧ readStatusCode v = .ok code
  | .success | .throttled => False

/-- The details of a status let a fault escape through the code, if the status has one and the
record gives it, or through the message, if it is reached. -/
theorem escapes_readStatus_iff {name : StatusName} :
    Escapes (readStatus entries name) cause ↔
      ((name = .throttled ∨ name = .httpError) ∧
        ∃ v, Value.field? entries "status_code" = some v ∧ CodeEscape v cause) ∨
      (ReachesMessage entries name ∧ UnwritableField entries .message "message" cause) := by
  cases name with
  | success =>
    refine iff_of_false not_escapes_ok ?_
    rintro (⟨h | h, -⟩ | ⟨h, -⟩) <;> cases h
  | testFailure | otherError | notFound =>
    refine escapes_bind_pure_iff.trans (escapes_readMessage_iff.trans ?_)
    refine ⟨?_, ?_⟩
    · intro h
      exact .inr ⟨trivial, h⟩
    · rintro (⟨h | h, -⟩ | ⟨-, h⟩)
      · cases h
      · cases h
      · exact h
  | throttled =>
    rw [readStatus]
    cases hfield : Value.field? entries "status_code" with
    | none =>
      refine iff_of_false not_escapes_ok ?_
      rintro (⟨-, v, ⟨⟩, -⟩ | ⟨⟨⟩, -⟩)
    | some w =>
      refine escapes_bind_pure_iff.trans (escapes_readStatusCode_iff.trans ?_)
      refine ⟨?_, ?_⟩
      · intro h
        exact .inl ⟨.inl rfl, w, rfl, h⟩
      · rintro (⟨-, v, ⟨⟩, h⟩ | ⟨⟨⟩, -⟩)
        exact h
  | httpError =>
    rw [readStatus]
    cases hfield : Value.field? entries "status_code" with
    | none =>
      -- a missing code is reported, and then the message is not read
      refine iff_of_false (not_escapes_outcome rfl) ?_
      rintro (⟨-, v, ⟨⟩, -⟩ | ⟨⟨v, code, hv, -⟩, -⟩)
      cases hfield.symm.trans hv
    | some w =>
      refine escapes_bind_iff.trans ?_
      refine ⟨?_, ?_⟩
      -- the code is read first, and the message only if there is a code
      · rintro (h | ⟨code, hcode, h⟩)
        · exact .inl ⟨.inr rfl, w, rfl, escapes_readStatusCode_iff.mp h⟩
        · exact .inr ⟨⟨w, code, hfield, hcode⟩,
            escapes_readMessage_iff.mp (escapes_bind_pure_iff.mp h)⟩
      · rintro (⟨-, v, ⟨⟩, h⟩ | ⟨⟨v, code, hv, hcode⟩, h⟩)
        · exact .inl (escapes_readStatusCode_iff.mpr h)
        · cases hfield.symm.trans hv
          exact .inr ⟨code, hcode, escapes_bind_pure_iff.mpr (escapes_readMessage_iff.mpr h)⟩

/-- **Where and how faults escape from reading a record**, in the order of the stages. A stage is
reached only if the ones before it have a result. -/
inductive RecordEscape (entries : List (String × Value)) : Fault → Prop
  /-- The kind is written, to be compared with the names of the kinds. -/
  | kind {cause : Fault} (h : UnwritableField entries .kind "kind" cause) :
    RecordEscape entries cause
  /-- The kind is none of them, and it is written to be reported. -/
  | unknownKind {cause : Fault} (hunknown : NamesNoKind entries)
    (h : UnwritableField entries .unknownKind "kind" cause) : RecordEscape entries cause
  /-- The status is looked up. -/
  | status {kind : Kind} {v : Value} {cause : Fault} (hkind : readKind entries = .ok kind)
    (hfield : Value.field? entries "status" = some v) (h : StatusEscape v cause) :
    RecordEscape entries cause
  /-- The code is to be an integer. -/
  | code {kind : Kind} {name : StatusName} {v : Value} {cause : Fault}
    (hkind : readKind entries = .ok kind) (hname : readStatusName entries = .ok name)
    (hcode : name = .throttled ∨ name = .httpError)
    (hfield : Value.field? entries "status_code" = some v) (h : CodeEscape v cause) :
    RecordEscape entries cause
  /-- The message is written. -/
  | message {kind : Kind} {name : StatusName} {cause : Fault}
    (hkind : readKind entries = .ok kind) (hname : readStatusName entries = .ok name)
    (hmessage : ReachesMessage entries name)
    (h : UnwritableField entries .message "message" cause) : RecordEscape entries cause

namespace Outcome

variable {record : Value}

/-- From an object, faults escape where one of the stages lets them. -/
theorem escapes_of_fields?_iff (h : record.fields? = some entries) :
    Escapes (ofRecord record) cause ↔ RecordEscape entries cause := by
  rw [ofRecord_of_fields? h]
  refine ⟨?_, ?_⟩
  · intro h
    -- a stage is reached if all stages before it have succeeded
    obtain h | ⟨kind, hkind, h⟩ := escapes_bind_iff.mp h
    · obtain hfield | ⟨hunknown, hfield⟩ := escapes_readKind_iff.mp h
      · exact .kind hfield
      · exact .unknownKind hunknown hfield
    obtain h | ⟨name, hname, h⟩ := escapes_bind_iff.mp h
    · obtain ⟨v, hfield, hstatus⟩ := escapes_readStatusName_iff.mp h
      exact .status hkind hfield hstatus
    obtain ⟨hcode, v, hfield, h⟩ | ⟨hmessage, hfield⟩ :=
      escapes_readStatus_iff.mp (escapes_bind_pure_iff.mp h)
    · exact .code hkind hname hcode hfield h
    · exact .message hkind hname hmessage hfield
  · intro h
    refine escapes_bind_iff.mpr ?_
    cases h with
    | kind h => exact .inl (escapes_readKind_iff.mpr (.inl h))
    | unknownKind hunknown h => exact .inl (escapes_readKind_iff.mpr (.inr ⟨hunknown, h⟩))
    | status hkind hfield h =>
      refine .inr ⟨_, hkind, escapes_bind_iff.mpr (.inl ?_)⟩
      exact escapes_readStatusName_iff.mpr ⟨_, hfield, h⟩
    | code hkind hname hcode hfield h =>
      refine .inr ⟨_, hkind, escapes_bind_iff.mpr (.inr ⟨_, hname, ?_⟩)⟩
      exact escapes_bind_pure_iff.mpr (escapes_readStatus_iff.mpr (.inl ⟨hcode, _, hfield, h⟩))
    | message hkind hname hmessage h =>
      refine .inr ⟨_, hkind, escapes_bind_iff.mpr (.inr ⟨_, hname, ?_⟩)⟩
      exact escapes_bind_pure_iff.mpr (escapes_readStatus_iff.mpr (.inr ⟨hmessage, h⟩))

/-- Whatever is not even an object is told as a fault of the outcome family, so that only objects
let faults escape. -/
theorem exists_fields?_of_escapes (h : Escapes (ofRecord record) cause) :
    ∃ entries, record.fields? = some entries := by
  cases hfields : record.fields? with
  | some entries => exact ⟨entries, rfl⟩
  | none =>
    rw [ofRecord, hfields] at h
    exact absurd h (not_escapes_outcome rfl)

/-- **Reading a record ends with an outcome, with a fault of the outcome family, or in one of the
listed escapes.** No fault of another family is left out, and every record of the list ends with
the fault that it is listed with. -/
theorem escapes_ofRecord_iff (record : Value) (cause : Fault) :
    (ofRecord record = .error cause ∧ cause.family ≠ .outcome) ↔
      ∃ entries, record.fields? = some entries ∧ RecordEscape entries cause := by
  constructor
  · intro h
    obtain ⟨entries, hentries⟩ := exists_fields?_of_escapes h
    exact ⟨entries, hentries, (escapes_of_fields?_iff hentries).mp h⟩
  · rintro ⟨entries, hentries, h⟩
    exact (escapes_of_fields?_iff hentries).mpr h

/-- **From a record that can be written** a fault escapes only through a status that is a list or an
object and through an infinite code. -/
theorem escape_of_writable (hrecord : record.Writable) (hentries : record.fields? = some entries)
    (h : RecordEscape entries cause) :
    cause = .unhashable "list" ∨ cause = .unhashable "dict" ∨ cause = .infinityIsNoInteger := by
  -- no field of such a record is beyond a limit
  have hfields : ∀ place key, ¬ UnwritableField entries place key cause := by
    rintro place key ⟨v, hfield, hv⟩
    exact ((hrecord.field? hentries hfield).at place).not_unwritableAt hv
  cases h with
  | kind h => exact absurd h (hfields _ _)
  | unknownKind _ h => exact absurd h (hfields _ _)
  | message _ _ _ h => exact absurd h (hfields _ _)
  | status _ hfield h =>
    have hv := hrecord.field? hentries hfield
    cases h with
    | nests hnests => exact hnests.typeName.imp (congrArg _) fun h => .inl (congrArg _ h)
    | int h => exact absurd h (hv.at _).not_unwritableAt
  | code _ _ _ hfield h =>
    have hv := hrecord.field? hentries hfield
    cases h with
    | infinite => exact .inr (.inr rfl)
    | nests _ h => exact absurd h (hv.at _).not_unwritableAt

/-- The entries of a record whose message nests lists deeper than there is room for. -/
def nestedMessage : List (String × Value) :=
  [("kind", .text "GET"), ("status", .text "not_found"),
    ("message", Value.nested (Depths.room .message))]

/-- **A message that is nested too deep** escapes, however short its text would be, and however much
room there is (`Value.unwritableAt_nested`). -/
theorem ofRecord_nestedMessage :
    ofRecord (.object nestedMessage) = .error .tooDeepToWrite := by
  have hkind : readKind nestedMessage = .ok .get :=
    readKind_toRecord ⟨.get, .notFound (Value.nested (Depths.room .message))⟩
  have hname : readStatusName nestedMessage = .ok .notFound :=
    readStatusName_toRecord ⟨.get, .notFound (Value.nested (Depths.room .message))⟩
  have hmessage : UnwritableField nestedMessage .message "message" .tooDeepToWrite :=
    ⟨_, rfl, Value.unwritableAt_nested .message⟩
  exact ((escapes_of_fields?_iff rfl).mpr (.message hkind hname trivial hmessage)).1

end Outcome

end Places

namespace Outcome

open Machine

/-- A record whose status is a list. -/
def listStatus : List (String × Value) :=
  [("kind", .text "GET"), ("status", .list [])]

/-- The list cannot be looked up, and nobody has asked whether it can. -/
theorem ofRecord_listStatus : ofRecord (.object listStatus) = .error (.unhashable "list") := by
  have hkind : readKind listStatus = .ok .get := by decide +kernel
  exact ((escapes_ofRecord_iff _ _).mpr ⟨listStatus, rfl, .status hkind rfl (.nests trivial)⟩).1

/-- A record whose code is infinite. -/
def infiniteCode : List (String × Value) :=
  [("kind", .text "GET"), ("message", .text "m"), ("status", .text "http_error"),
    ("status_code", .float (1.0 / 0.0))]

/-- No integer can stand for the code, and this is told as it is: not as a fault of the outcome
family. -/
theorem ofRecord_infiniteCode :
    ofRecord (.object infiniteCode) = .error .infinityIsNoInteger ∧
      Fault.family .infinityIsNoInteger ≠ .outcome := by
  have hkind : readKind infiniteCode = .ok .get := by decide +kernel
  have hname : readStatusName infiniteCode = .ok .httpError := by decide +kernel
  have hparts : Number.partsOf (1.0 / 0.0) = .infinite false := by decide +kernel
  exact (escapes_of_fields?_iff rfl).mpr (.code hkind hname (.inr rfl) rfl (.infinite hparts))

end Outcome

end LoadLedger
