import LoadLedger.Machine
import LoadLedger.Proofs.Outcome.Reading

/-!
# Records as canonical forms

An outcome is typed if its status code is an integer and its message a text; truth values count as
the integers that they are equal to. Reading the record of such an outcome gives the outcome back,
with its code as a plain integer (`Outcome.ofRecord_toValue`). Two outcomes are equal exactly if
their records are (`Outcome.same_toValue`). What is read from a record is typed already and has a
plain code, so that normalizing a record a second time changes nothing
(`Outcome.normalize_of_normalize`).

`Outcome.canonical` is the outcome with a plain code, and `Outcome.normalize` reads a record and
writes it again. The results are put together in `Outcome.record_is_canonical`.
-/

namespace LoadLedger

namespace Value

/-- Is a value an integer, or a truth value, which is equal to one? These are the values that are
equal to what they read as. -/
def IsInteger (v : Value) : Prop :=
  ∃ i, v.amount? = some (.int i)

/-- The plain integer that a value is equal to, if there is one. -/
def plainInteger (v : Value) : Value :=
  match v.amount? with
  | some (.int i) => .int i
  | _ => v

/-- Such a value reads as the integer that it is equal to. -/
theorem readStatusCode_of_isInteger [Depths] {v : Value} (h : v.IsInteger) :
    ∃ i, readStatusCode v = .ok i ∧ v.plainInteger = .int i := by
  obtain ⟨i, hi⟩ := h
  refine ⟨i, ?_, by rw [plainInteger, hi]⟩
  cases v with
  | int j | bool b =>
    cases hi
    rfl
  | _ => cases hi

/-- To be read and written again makes no difference to equality, where a truth value is the same as
zero or one. -/
theorem same_plainInteger {v : Value} (h : v.IsInteger) : v.plainInteger.same v = true := by
  obtain ⟨i, hi⟩ := h
  cases v with
  | int j =>
    rw [plainInteger, hi]
    cases hi
    exact (same_int i i).trans (beq_self_eq_true i)
  | bool b =>
    cases hi
    cases b <;> decide
  | _ => cases hi

/-- A text, whole or broken, is the same as itself. -/
theorem same_ofText (t : AnyText) : (ofText t).same (ofText t) = true := by
  cases t with
  | whole s => exact (same_text s s).trans (beq_self_eq_true s)
  | broken t =>
    rw [ofText, same]
    exact beq_self_eq_true t

end Value

theorem Kind.name_beq_name (k k' : Kind) : (k.name == k'.name) = (k == k') := by
  cases k <;> cases k' <;> decide

namespace Status

/-- The status with a plain integer for its code. -/
def canonical : Status → Status
  | .throttled code => .throttled code.plainInteger
  | .httpError code message => .httpError code.plainInteger message
  | status => status

theorem name_canonical (s : Status) : s.canonical.name = s.name := by
  cases s <;> rfl

theorem statusCode?_canonical (s : Status) :
    s.canonical.statusCode? = s.statusCode?.map Value.plainInteger := by
  cases s <;> rfl

theorem message?_canonical (s : Status) : s.canonical.message? = s.message? := by
  cases s <;> rfl

end Status

namespace Outcome

/-- The outcome with a plain integer for its status code. -/
def canonical (o : Outcome) : Outcome :=
  { o with status := o.status.canonical }

/-- Is the status code of the outcome an integer, if it has one, and its message a text? Every
outcome that is read is typed (`typed_of_ofRecord`), but one that is put together by hand may not
be. -/
def Typed (o : Outcome) : Prop :=
  (∀ code ∈ o.status.statusCode?, code.IsInteger) ∧
    ∀ message ∈ o.status.message?, PlainMessage message

/-! ## The entries of a record -/

section Entries

variable (o : Outcome)

theorem field?_kind : Value.field? o.toRecord "kind" = some (.text o.kind.name) := rfl

theorem field?_status : Value.field? o.toRecord "status" = some (.text o.status.name.name) := rfl

theorem field?_statusCode : Value.field? o.toRecord "status_code" = o.status.statusCode? := by
  obtain ⟨kind, status⟩ := o
  cases status <;> rfl

theorem field?_message : Value.field? o.toRecord "message" = o.status.message? := by
  obtain ⟨kind, status⟩ := o
  cases status <;> rfl

variable [Depths]

/-- Each stage of reading finds what `toRecord` has put there: the kind and the status by their own
names, and the message as it is. -/
theorem readKind_toRecord : readKind o.toRecord = .ok o.kind := by
  rw [readKind, field?_kind]
  refine bind_eq_ok.mpr ⟨o.kind.name, rfl, ?_⟩
  simp only [Kind.ofText?, Kind.ofName?_canonicalKindName_name]
  rfl

theorem readStatusName_toRecord : readStatusName o.toRecord = .ok o.status.name := by
  rw [readStatusName, field?_status]
  simp only [Option.getD_some, StatusName.ofName?_name]

theorem readMessage_toRecord {t : AnyText} (h : o.status.message? = some (.ofText t)) :
    readMessage o.toRecord = .ok t := by
  rw [readMessage, field?_message, h]
  exact Value.shownAt_ofText .message t

end Entries

/-! ## Reading a record back -/

/-- The details of a typed status are read back, and its code is a plain integer afterwards. -/
theorem readStatus_toRecord [Depths] {o : Outcome} (h : o.Typed) :
    readStatus o.toRecord o.status.name = .ok o.canonical.status := by
  have hcode := o.field?_statusCode
  obtain ⟨kind, status⟩ := o
  cases status with
  | success => rfl
  | testFailure message | otherError message | notFound message =>
    obtain ⟨t, rfl⟩ := h.2 message rfl
    exact bind_eq_ok.mpr ⟨t, readMessage_toRecord _ rfl, rfl⟩
  | throttled code =>
    -- what is stored is a plain integer, and this is read as it is
    obtain ⟨i, hread, hplain⟩ := Value.readStatusCode_of_isInteger (h.1 code rfl)
    change readStatus _ .throttled = .ok (.throttled code.plainInteger)
    rw [readStatus, hcode, hplain]
    exact bind_eq_ok.mpr ⟨i, hread, rfl⟩
  | httpError code message =>
    obtain ⟨i, hread, hplain⟩ := Value.readStatusCode_of_isInteger (h.1 code rfl)
    obtain ⟨t, rfl⟩ := h.2 message rfl
    change readStatus _ .httpError = .ok (.httpError code.plainInteger (.ofText t))
    rw [readStatus, hcode, hplain]
    exact bind_eq_ok.mpr ⟨i, hread, bind_eq_ok.mpr ⟨t, readMessage_toRecord _ rfl, rfl⟩⟩

/-- **Reading the record of a typed outcome** gives the outcome with its code as a plain integer. -/
theorem ofRecord_toValue [Depths] {o : Outcome} (h : o.Typed) :
    ofRecord o.toValue = .ok o.canonical := by
  refine bind_eq_ok.mpr ⟨o.kind, readKind_toRecord o, ?_⟩
  refine bind_eq_ok.mpr ⟨o.status.name, readStatusName_toRecord o, ?_⟩
  exact bind_eq_ok.mpr ⟨o.canonical.status, readStatus_toRecord h, rfl⟩

/-- A plain integer for a code is as good as what it is equal to: the two outcomes differ nowhere
else. -/
theorem same_canonical {o : Outcome} (h : o.Typed) : o.canonical.same o = true := by
  have hcode : sameDetail (o.status.statusCode?.map Value.plainInteger) o.status.statusCode? =
      true := by
    cases hfield : o.status.statusCode? with
    | none => rfl
    | some code => exact Value.same_plainInteger (h.1 code hfield)
  have hmessage : sameDetail o.status.message? o.status.message? = true := by
    cases hfield : o.status.message? with
    | none => rfl
    | some message =>
      obtain ⟨t, rfl⟩ := h.2 message hfield
      exact Value.same_ofText t
  rw [Outcome.same, canonical, Status.name_canonical, Status.statusCode?_canonical,
    Status.message?_canonical, hcode, hmessage, beq_self_eq_true, beq_self_eq_true]
  rfl

/-- What is read from a record is typed, and its code is a plain integer. -/
theorem typed_of_ofRecord [Depths] {v : Value} {o : Outcome} (h : ofRecord v = .ok o) :
    o.Typed ∧ o.canonical = o := by
  obtain ⟨entries, name, -, hstatus⟩ := exists_readStatus_of_ofRecord h
  obtain ⟨hcode, hmessage⟩ := details_of_readStatus hstatus (P := fun _ => True)
    (fun _ _ _ _ => trivial) trivial
  refine ⟨⟨?_, hmessage⟩, ?_⟩
  · intro code h
    obtain ⟨i, rfl, -⟩ := hcode code h
    exact ⟨i, rfl⟩
  · obtain ⟨kind, status⟩ := o
    cases status with
    | throttled code | httpError code =>
      obtain ⟨i, rfl, -⟩ := hcode code rfl
      rfl
    | _ => rfl

/-! ## Equality -/

/-- **Two outcomes are equal exactly if their records are.** The name of the status says which
entries there are, so that records of unlike statuses differ there already. -/
theorem same_toValue (o p : Outcome) : o.toValue.same p.toValue = o.same p := by
  obtain ⟨kind, status⟩ := o
  obtain ⟨kind', status'⟩ := p
  rw [Outcome.same, ← Kind.name_beq_name]
  cases status <;> cases status' <;>
    simp [toValue, toRecord, Value.same, Value.sameEntries, List.lookup_cons, sameDetail,
      Status.name, StatusName.name, Status.statusCode?, Status.message?, Bool.and_assoc]

/-! ## Canonical records -/

/-- The canonical form of a record: it is read and written again. -/
def normalize [Depths] (record : Value) : Except Fault Value := do
  let o ← ofRecord record
  return o.toValue

/-- A second time changes nothing, since what was read is canonical already. -/
theorem normalize_of_normalize [Depths] {record written : Value}
    (h : normalize record = .ok written) :
    normalize written = .ok written := by
  obtain ⟨o, hread, hwritten⟩ := bind_eq_ok.mp h
  cases hwritten
  obtain ⟨htyped, hcanonical⟩ := typed_of_ofRecord hread
  refine bind_eq_ok.mpr ⟨o, ?_, rfl⟩
  rw [ofRecord_toValue htyped, hcanonical]

/-- **Records are a canonical form of outcomes.** An outcome with an integer for its code and a text
for its message, as every outcome that is read has them, is read back from its record; outcomes are
equal exactly if their records are; and a record is normalized once and for all. -/
theorem record_is_canonical [Depths] :
    (∀ o : Outcome, o.Typed → ∃ p, ofRecord o.toValue = .ok p ∧ p.same o = true) ∧
    (∀ (record : Value) (o : Outcome), ofRecord record = .ok o → o.Typed) ∧
    (∀ o p : Outcome, o.same p = true ↔ o.toValue.same p.toValue = true) ∧
    ∀ record written : Value, normalize record = .ok written →
      normalize written = .ok written := by
  refine ⟨?_, ?_, ?_, ?_⟩
  · intro o h
    exact ⟨o.canonical, ofRecord_toValue h, same_canonical h⟩
  · intro record o h
    exact (typed_of_ofRecord h).1
  · intro o p
    rw [same_toValue]
  · intro record written h
    exact normalize_of_normalize h

open Machine

/-- A throttled consistency check whose code is a truth value. -/
def oddlyThrottled : Outcome :=
  ⟨.consistency, .throttled (.bool true)⟩

/-- A record with another spelling of its kind and without a code. -/
def oddlySpelled : Value :=
  .object [("status", .text "throttled"), ("kind", .text "consistency-check")]

/-- The outcome is equal to what is read from its record, and the record has a canonical form. -/
theorem record_throttled :
    (∃ p, ofRecord oddlyThrottled.toValue = .ok p ∧ p.same oddlyThrottled = true) ∧
      ∃ written, normalize oddlySpelled = .ok written ∧ normalize written = .ok written := by
  obtain ⟨hread, -, -, hnormal⟩ := record_is_canonical
  have htyped : oddlyThrottled.Typed := by
    refine ⟨?_, ?_⟩
    · rintro _ ⟨⟩
      exact ⟨1, rfl⟩
    · rintro _ ⟨⟩
  obtain ⟨written, hwritten⟩ : ∃ written, normalize oddlySpelled = .ok written := by
    decide +kernel
  exact ⟨hread oddlyThrottled htyped, written, hwritten, hnormal oddlySpelled written hwritten⟩

end Outcome

end LoadLedger
