import LoadLedger.Ledger
import LoadLedger.Outcome.Text
import LoadLedger.Proofs.Values

/-!
# Plain outcomes

The details of a plain outcome are what they are meant to be: its status code, if it has one, is an
integer that can be written, and its message, if it has one, is a text. So whatever asks for them is
answered: the code can be compared (`Outcome.wasServerError_of_plain`), the line for the HTTP errors
can be written (`Outcome.httpLine_of_plain`), and the outcome can be printed
(`Outcome.quoted_of_plain`). Whether an outcome is plain can be decided.
-/

namespace LoadLedger.Outcome

/-! ## Deciding -/

/-- For an integer `PlainCode` is the limit of digits alone. -/
theorem plainCode_int {i : Int} :
    PlainCode (.int i) ↔ i.natAbs < Number.tenTo Number.digitLimit := by
  constructor
  · rintro ⟨j, hj, hlt⟩
    cases hj
    exact hlt
  · intro hlt
    exact ⟨i, rfl, hlt⟩

instance (code : Value) : Decidable (PlainCode code) :=
  match code with
  | .int _ => decidable_of_iff _ plainCode_int.symm
  | .null | .bool _ | .float _ | .text _ | .brokenText _ | .list _ | .object _ | .brokenObject .. =>
    isFalse fun ⟨_, h, _⟩ => Value.noConfusion h

instance (message : Value) : Decidable (PlainMessage message) :=
  match message with
  | .text s => isTrue ⟨.whole s, rfl⟩
  | .brokenText t => isTrue ⟨.broken t, rfl⟩
  | .null | .bool _ | .int _ | .float _ | .list _ | .object _ | .brokenObject .. =>
    isFalse <| by rintro ⟨_ | _, ⟨⟩⟩

instance (o : Outcome) : Decidable o.Plain :=
  inferInstanceAs (Decidable (_ ∧ _))

/-! ## Comparing, writing, printing -/

/-- The outcome met an HTTP error with an integer code of the server-error class: what
`wasServerError` answers for plain outcomes, which it can compare. -/
def isServerError (o : Outcome) : Bool :=
  match o.status with
  | .httpError (.int code) _ => 500 ≤ code && code < 600
  | _ => false

/-- The text that a message is, if it is one. -/
def messageText? : Value → Option AnyText
  | .text s => some (.whole s)
  | .brokenText t => some (.broken t)
  | _ => none

theorem messageText?_ofText (t : AnyText) : messageText? (.ofText t) = some t := by
  cases t <;> rfl

/-- The text that an outcome leaves among the HTTP errors, if its details are plain: the code in
digits, a colon, and the message as it is. -/
def httpText (o : Outcome) : Option AnyText :=
  match o.status with
  | .httpError (.int code) message =>
    (messageText? message).map ((toString code : AnyText) ++ ": " ++ ·)
  | _ => none

/-- With details spelled out, `httpText` is put together at once. -/
theorem httpText_httpError (kind : Kind) (code : Int) (t : AnyText) :
    httpText ⟨kind, .httpError (.int code) (.ofText t)⟩ =
      some ((toString code : AnyText) ++ ": " ++ t) :=
  congrArg (Option.map _) (messageText?_ofText t)

/-- Comparing the code of a plain outcome never fails. -/
theorem wasServerError_of_plain {o : Outcome} (h : o.Plain) :
    o.wasServerError = .ok o.isServerError := by
  obtain ⟨kind, status⟩ := o
  cases status with
  | httpError code message =>
    obtain ⟨i, rfl, -⟩ := h.1 code rfl
    rfl
  | _ => rfl

section Places

variable [Depths]

/-- A plain status code is written in digits, wherever it stands. -/
theorem PlainCode.quotedAt {code : Value} (h : PlainCode code) (place : Place) :
    ∃ i : Int, code = .int i ∧ code.quotedAt place = .ok (toString i) := by
  obtain ⟨i, rfl, hlt⟩ := h
  obtain ⟨room, hroom⟩ := Nat.exists_eq_add_one_of_ne_zero (Nat.ne_of_gt (Depths.room_pos place))
  refine ⟨i, rfl, ?_⟩
  rw [Value.quotedAt, hroom, Value.quotedWithin]
  exact Number.writeInteger_eq_ok_iff.mpr ⟨hlt, rfl⟩

/-- The line of a plain outcome can be written, and it is its `httpText`; all others have no line.
No `Depths` are too small for an integer and a text. -/
theorem httpLine_of_plain {o : Outcome} (h : o.Plain) :
    o.httpLine = .ok (o.httpText.map Value.ofText) := by
  obtain ⟨kind, status⟩ := o
  cases status with
  | httpError code message =>
    obtain ⟨i, rfl, hquoted⟩ := PlainCode.quotedAt (h.1 code rfl) .recentError
    obtain ⟨t, rfl⟩ := h.2 message rfl
    have hshown : (Value.int i).shownAt .recentError = .ok (toString i : AnyText) :=
      congrArg (Except.map AnyText.whole) hquoted
    rw [httpText_httpError, httpLine]
    simp only [hshown, Value.shownAt_ofText]
    rfl
  | _ => rfl

theorem PlainMessage.quotedAt {message : Value} (h : PlainMessage message) (place : Place) :
    ∃ s : String, message.quotedAt place = .ok s := by
  obtain ⟨t, rfl⟩ := h
  exact Value.exists_quotedAt_iff.mpr (Value.writableAt_ofText t place)

/-- A plain outcome can be printed: of each status every detail has a text. -/
theorem quoted_of_plain {o : Outcome} (h : o.Plain) : ∃ s, o.quoted = .ok s := by
  obtain ⟨kind, status⟩ := o
  -- a plain code has few digits, and a plain message is a text
  have hdetails : ∃ parts, status.quotedDetails = .ok parts := by
    cases status with
    | success => exact ⟨_, rfl⟩
    | throttled code =>
      obtain ⟨i, -, hcode⟩ := PlainCode.quotedAt (h.1 code rfl) .detail
      simp only [Status.quotedDetails, Status.statusCode?, Status.message?, hcode]
      exact ⟨_, rfl⟩
    | httpError code message =>
      obtain ⟨i, -, hcode⟩ := PlainCode.quotedAt (h.1 code rfl) .detail
      obtain ⟨s, hmessage⟩ := PlainMessage.quotedAt (h.2 message rfl) .detail
      simp only [Status.quotedDetails, Status.statusCode?, Status.message?, hcode, hmessage]
      exact ⟨_, rfl⟩
    | testFailure message | otherError message | notFound message =>
      obtain ⟨s, hmessage⟩ := PlainMessage.quotedAt (h.2 message rfl) .detail
      simp only [Status.quotedDetails, Status.statusCode?, Status.message?, hmessage]
      exact ⟨_, rfl⟩
  obtain ⟨parts, hparts⟩ := hdetails
  rw [quoted, Status.quoted, hparts]
  exact ⟨_, rfl⟩

end Places

end LoadLedger.Outcome
