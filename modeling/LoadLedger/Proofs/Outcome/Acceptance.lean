import LoadLedger.Proofs.Number.Numerals
import LoadLedger.Proofs.Outcome.Refusals

/-!
# Which records are accepted

A record is accepted if its kind is a text in one of the spellings, its status one of the names, its
code, where one is read, something that reads as an integer, and its message, where one is read,
something that can be written. The outcome is what these entries say (`Outcome.SaidBy`), and no
other entry matters (`Outcome.accepted_language`).

**Kinds.** A kind may be any value, since its text is what is looked up. Only a text is ever found:
every other value is written with a first character that no spelling begins with
(`eq_text_of_shown`).

**Messages.** A message may be any value as well, and there is no condition on it for records that
`Json.read` gives. A record put together by hand may nest a message deeper than there is room for
(`MessageFits`).

**Both directions.** `Outcome.SaidBy` ties an outcome to the entries of a record, field by field
(`NamesKind`, `NamesStatus`, `GivesCode`, `GivesMessage`). `Outcome.ofRecord_eq_ok_iff` says that
this is what reading comes to, and `Admissible` is the condition on the entries alone under which
there is such an outcome (`exists_givesDetails`, `SaidBy.admissible`).
-/

namespace LoadLedger

/-! ## Names of kinds and statuses -/

/-- A text as it is compared with the names of kinds: in upper case, with underscores for
hyphens. -/
def spelling (s : String) : String :=
  String.ofList ((Text.upper s).toList.map fun c => if c == '-' then '_' else c)

/-- The spellings of a kind: its name, and for consistency checks a longer one as well. -/
def Kind.spellings : Kind → List String
  | .get => ["GET"]
  | .put => ["PUT"]
  | .create => ["CREATE"]
  | .delete => ["DELETE"]
  | .consistency => ["CONSISTENCY", "CONSISTENCY_CHECK"]

theorem Kind.ofName?_eq_some {name : String} {k : Kind} :
    ofName? name = some k ↔ name = k.name := by
  constructor
  · intro h
    exact (eq_of_beq (List.find?_some (p := (Kind.name · == name)) h)).symm
  · rintro rfl
    exact k.ofName?_name

theorem StatusName.ofName?_eq_some {name : String} {n : StatusName} :
    ofName? name = some n ↔ name = n.name := by
  constructor
  · intro h
    exact (eq_of_beq (List.find?_some (p := (StatusName.name · == name)) h)).symm
  · rintro rfl
    exact n.ofName?_name

/-- **A text names a kind** exactly if it is one of its spellings, in upper case and with
underscores: `canonicalKindName` puts the longer spelling back to the name. -/
theorem ofName?_canonicalKindName {s : String} {k : Kind} :
    Kind.ofName? (canonicalKindName s) = some k ↔ spelling s ∈ k.spellings := by
  have hcanonical : canonicalKindName s =
      if spelling s == "CONSISTENCY_CHECK" then "CONSISTENCY" else spelling s := rfl
  rw [Kind.ofName?_eq_some, hcanonical]
  by_cases hlong : spelling s = "CONSISTENCY_CHECK"
  · rw [hlong]
    cases k <;> decide
  · rw [if_neg (by rwa [beq_iff_eq])]
    cases k with
    | consistency =>
      simp only [Kind.spellings, Kind.name, List.mem_cons, hlong, List.not_mem_nil, or_false]
    | _ => exact List.mem_singleton.symm

/-! ## Values that name a kind -/

/-- The characters that the names of kinds begin with. -/
def kindInitials : List Char :=
  ['G', 'P', 'C', 'D']

theorem head?_of_mem_spellings {k : Kind} {s : String} (h : s ∈ k.spellings) :
    ∃ c ∈ kindInitials, s.toList.head? = some c := by
  cases k with
  | consistency =>
    rcases List.mem_pair.mp h with rfl | rfl
    all_goals exact ⟨'C', by decide, rfl⟩
  | get | put | create | delete =>
    obtain rfl := List.mem_singleton.mp h
    exact ⟨_, by decide, rfl⟩

/-- The characters that values other than texts are written with at the beginning. -/
def isValueInitial (c : Char) : Bool :=
  Number.isNumeralChar c || ['N', 'T', 'F', '[', '\x7b'].contains c

/-- None of them is an initial of a kind, in whatever case. All are below 128, where the case of
every character can be looked up. -/
theorem upperChar_of_isValueInitial {c : Char} (h : isValueInitial c = true) :
    ∃ u, Text.upperChar c = [u] ∧ (if u == '-' then '_' else u) ∉ kindInitials := by
  -- these are few characters, all of them below 128
  have hascii : c.toNat < 128 := by
    rw [isValueInitial, Number.isNumeralChar, Bool.or_eq_true, Bool.or_eq_true,
      List.contains_iff_mem, List.contains_iff_mem] at h
    rcases h with (hdigit | hmark) | hother
    · rw [Char.isDigit, Bool.and_eq_true, decide_eq_true_iff, decide_eq_true_iff] at hdigit
      have hnine : c.toNat ≤ '9'.toNat := hdigit.2
      have hvalue : '9'.toNat = 57 := rfl
      omega
    · have hmarks : ['+', '-', '.', 'e', 'n', 'a', 'i', 'f'].all (·.toNat < 128) = true := rfl
      exact of_decide_eq_true (List.all_eq_true.mp hmarks c hmark)
    · have hothers : ['N', 'T', 'F', '[', '\x7b'].all (·.toNat < 128) = true := rfl
      exact of_decide_eq_true (List.all_eq_true.mp hothers c hother)
  -- so that they can be looked through one by one
  have hall : ∀ n < 128, isValueInitial (Char.ofNat n) = true →
      (Text.upperChar (Char.ofNat n)).length = 1 ∧ (Text.upperChar (Char.ofNat n)).all
        fun u => (if u == '-' then '_' else u) ∉ kindInitials := by
    decide +kernel
  rw [← Char.ofNat_toNat c] at h ⊢
  obtain ⟨hlength, hinitial⟩ := hall c.toNat hascii h
  obtain ⟨u, hu⟩ := List.length_eq_one_iff.mp hlength
  exact ⟨u, hu, of_decide_eq_true
    (List.all_eq_true.mp hinitial u (hu ▸ List.mem_singleton_self u))⟩

/-- A text that begins with such a character names no kind. -/
theorem not_mem_spellings_of_isValueInitial {s : String} {c : Char} {rest : List Char}
    (hs : s.toList = c :: rest) (hc : isValueInitial c = true) (k : Kind) :
    spelling s ∉ k.spellings := by
  intro h
  obtain ⟨i, hi, hhead⟩ := head?_of_mem_spellings h
  obtain ⟨u, hu, hinitial⟩ := upperChar_of_isValueInitial hc
  rw [spelling, Text.upper, hs, List.flatMap_cons, hu, String.toList_ofList, String.toList_ofList]
    at hhead
  obtain rfl := Option.some.inj hhead
  exact hinitial hi

theorem isValueInitial_braced (parts : List String) :
    ∀ c ∈ (Value.braced parts).toList.head?, isValueInitial c = true := by
  rw [Value.braced, String.append_assoc, String.toList_append]
  rintro _ ⟨⟩
  decide

/-- A value that is no text is written with such a character at the beginning, if at all: a digit or
a sign, the first letter of a word, a bracket or a brace. -/
theorem isValueInitial_of_quotedWithin {room : Nat} {v : Value} {s : String}
    (h : v.quotedWithin room = .ok s) (hv : ∀ t, v ≠ .ofText t) :
    ∀ c ∈ s.toList.head?, isValueInitial c = true := by
  -- numbers are written as numerals, and all else begins with a letter or a bracket
  have hnumeral : ∀ {t : List Char}, Number.IsNumeral t →
      ∀ c ∈ t.head?, isValueInitial c = true := by
    intro t ht c hc
    rw [isValueInitial, ht c (List.mem_of_mem_head? hc), Bool.true_or]
  obtain ⟨room, rfl⟩ : ∃ n, room = n + 1 := by
    cases room with
    | zero =>
      rw [Value.quotedWithin] at h
      cases h
    | succ room => exact ⟨room, rfl⟩
  rw [Value.quotedWithin.eq_def] at h
  cases v with
  | null =>
    cases h
    rintro _ ⟨⟩
    decide
  | bool b =>
    cases h
    cases b <;> rintro _ ⟨⟩ <;> decide
  | int i =>
    obtain ⟨-, rfl⟩ := Number.writeInteger_eq_ok_iff.mp h
    exact hnumeral (Number.isNumeral_toString i)
  | float x =>
    cases h
    rw [Number.floatText, String.toList_ofList]
    exact hnumeral (Number.isNumeral_floatChars x)
  | text t => exact absurd rfl (hv (.whole t))
  | brokenText t => exact absurd rfl (hv (.broken t))
  | list items =>
    obtain ⟨parts, -, h⟩ := bind_eq_ok.mp h
    cases h
    rw [String.append_assoc, String.toList_append]
    rintro _ ⟨⟩
    decide
  | object | brokenObject =>
    obtain ⟨parts, -, h⟩ := bind_eq_ok.mp h
    cases h
    exact isValueInitial_braced _

/-- **Nothing but a text names a kind.** Every other value is shown with a first character that no
spelling has. -/
theorem eq_text_of_shown [Depths] {place : Place} {v : Value} {s : String}
    (h : v.shownAt place = .ok (.whole s)) {k : Kind} (hs : spelling s ∈ k.spellings) :
    v = .text s := by
  by_cases hv : ∃ t, v = .ofText t
  · obtain ⟨t, rfl⟩ := hv
    rw [Value.shownAt_ofText] at h
    cases h
    rfl
  -- what is no text is quoted, and then it begins like no name of a kind
  · have hmap : (v.quotedAt place).map AnyText.whole = .ok (.whole s) := by
      cases v with
      | text t => exact absurd ⟨.whole t, rfl⟩ hv
      | brokenText t => exact absurd ⟨.broken t, rfl⟩ hv
      | _ => exact h
    obtain ⟨_, hquoted, ⟨⟩⟩ := map_eq_ok.mp hmap
    have hinitial := isValueInitial_of_quotedWithin hquoted fun t ht => hv ⟨t, ht⟩
    cases hchars : s.toList with
    | nil =>
      obtain rfl : s = "" := String.toList_eq_nil_iff.mp hchars
      exact absurd hs (by cases k <;> decide +kernel)
    | cons c rest =>
      rw [hchars] at hinitial
      exact absurd hs (not_mem_spellings_of_isValueInitial hchars (hinitial c rfl) k)

/-! ## What the entries say -/

section Entries

variable [Depths] (entries : List (String × Value))

/-- The entries **name a kind**: by a text, in one of its spellings. -/
def NamesKind (k : Kind) : Prop :=
  ∃ s, Value.field? entries "kind" = some (.text s) ∧ spelling s ∈ k.spellings

/-- The entries **name a status**: by its very name. -/
def NamesStatus (name : StatusName) : Prop :=
  Value.field? entries "status" = some (.text name.name)

/-- The entries **give a status code**: what their code reads as or, if they have none, the
default. -/
def GivesCode (default? : Option Int) (code : Int) : Prop :=
  match Value.field? entries "status_code" with
  | some v => v.toInteger = .ok code
  | none => default? = some code

/-- The entries **give a message**: the text of their message, empty if they have none. A message
that is no text gives the text that it is written with. -/
def GivesMessage (message : AnyText) : Prop :=
  match Value.field? entries "message" with
  | some v => v.shownAt .message = .ok message
  | none => message = .whole ""

/-- The entries give the details of a status. Which entries matter depends on the status. -/
def GivesDetails : Status → Prop
  | .success => True
  | .testFailure message | .otherError message | .notFound message =>
    ∃ t, message = .ofText t ∧ GivesMessage entries t
  | .throttled code => ∃ i, code = .int i ∧ GivesCode entries (some defaultThrottleCode) i
  | .httpError code message =>
    (∃ i, code = .int i ∧ GivesCode entries none i) ∧
      ∃ t, message = .ofText t ∧ GivesMessage entries t

/-- Is the outcome what the entries say? -/
structure Outcome.SaidBy (o : Outcome) : Prop where
  /-- The kind is named, -/
  kind : NamesKind entries o.kind
  /-- and so is the status. -/
  status : NamesStatus entries o.status.name
  /-- What the status takes along is given as far as it has to be. -/
  details : GivesDetails entries o.status

/-- Is the status one that has a code? -/
def StatusName.HasCode (name : StatusName) : Prop :=
  name = .throttled ∨ name = .httpError

/-- Is the status one that has a message? -/
def StatusName.HasMessage (name : StatusName) : Prop :=
  name ≠ .success ∧ name ≠ .throttled

instance (name : StatusName) : Decidable name.HasMessage :=
  inferInstanceAs (Decidable (_ ∧ _))

/-- The entries are those of a record that is accepted: a kind and a status are named, an HTTP error
has a code, and a code that is looked at reads as an integer. -/
def Admissible : Prop :=
  (∃ k, NamesKind entries k) ∧ ∃ name, NamesStatus entries name ∧
    (name = .httpError → (Value.field? entries "status_code").isSome) ∧
    (name.HasCode → ∀ v, Value.field? entries "status_code" = some v →
      ∃ i, v.toInteger = .ok i)

/-- There is room for the message, if the status has one. -/
def MessageFits : Prop :=
  ∀ name, NamesStatus entries name → name.HasMessage →
    ∀ v, Value.field? entries "message" = some v → v.height ≤ Depths.room .message

end Entries

section Reading

variable [Depths] {entries : List (String × Value)}

/-! ## The stages of reading -/

/-- The kind that is read is the one that is named. Without a kind an empty text is looked up, which
names none. -/
theorem readKind_eq_ok_iff {k : Kind} : readKind entries = .ok k ↔ NamesKind entries k := by
  have hempty : Kind.ofText? (.whole "") = none := by decide +kernel
  rw [readKind, NamesKind]
  cases hfield : Value.field? entries "kind" with
  | none =>
    refine bind_eq_ok.trans (iff_of_false ?_ (by rintro ⟨_, ⟨⟩, -⟩))
    -- without a kind the empty name is looked up, which none has
    rintro ⟨_, ⟨⟩, h⟩
    simp only [hempty] at h
    obtain ⟨_, -, ⟨⟩⟩ := bind_eq_ok.mp h
  | some v =>
    refine bind_eq_ok.trans ⟨?_, ?_⟩
    · rintro ⟨t, hshown, h⟩
      cases hname : Kind.ofText? t with
      | none =>
        simp only [hname] at h
        obtain ⟨_, -, ⟨⟩⟩ := bind_eq_ok.mp h
      | some k' =>
        simp only [hname] at h
        cases h
        cases t with
        | whole s =>
          have hspelled := ofName?_canonicalKindName.mp hname
          exact ⟨s, congrArg some (eq_text_of_shown hshown hspelled), hspelled⟩
        | broken t => cases hname
    · rintro ⟨s, ⟨⟩, hspelled⟩
      refine ⟨.whole s, rfl, ?_⟩
      simp only [Kind.ofText?, ofName?_canonicalKindName.mpr hspelled]
      rfl

/-- The status that is read is the one that is named: it is looked up by its very name, so that no
other spelling is known. -/
theorem readStatusName_eq_ok_iff {name : StatusName} :
    readStatusName entries = .ok name ↔ NamesStatus entries name := by
  rw [readStatusName, NamesStatus]
  cases hfield : Value.field? entries "status" with
  | none =>
    refine iff_of_false ?_ (by rintro ⟨⟩)
    intro h
    obtain ⟨_, -, ⟨⟩⟩ := bind_eq_ok.mp h
  | some v =>
    rw [Option.getD_some, Option.some.injEq]
    cases v with
    | text s =>
      rw [Value.text.injEq, ← StatusName.ofName?_eq_some]
      dsimp only
      cases StatusName.ofName? s with
      | none => exact iff_of_false (by rintro ⟨⟩) (by rintro ⟨⟩)
      | some name' => rw [Except.ok.injEq, Option.some.injEq]
    -- these cannot even be looked up
    | list | object | brokenObject => exact iff_of_false (by rintro ⟨⟩) (by rintro ⟨⟩)
    | null | bool | int | float | brokenText =>
      refine iff_of_false ?_ (by rintro ⟨⟩)
      intro h
      obtain ⟨_, -, ⟨⟩⟩ := bind_eq_ok.mp h

/-- A status code is what the value reads as; whatever else `readStatusCode` does is to word a
fault. -/
theorem readStatusCode_eq_ok_iff {v : Value} {code : Int} :
    readStatusCode v = .ok code ↔ v.toInteger = .ok code := by
  rw [readStatusCode]
  cases v.toInteger with
  | ok i => rfl
  | error cause =>
    refine iff_of_false ?_ (by rintro ⟨⟩)
    intro h
    dsimp only at h
    split at h
    · obtain ⟨_, -, ⟨⟩⟩ := bind_eq_ok.mp h
    · obtain ⟨_, -, ⟨⟩⟩ := bind_eq_ok.mp h
    · cases h

theorem givesCode_of_field {v : Value} (h : Value.field? entries "status_code" = some v)
    {default? : Option Int} {code : Int} :
    GivesCode entries default? code ↔ readStatusCode v = .ok code := by
  rw [GivesCode, h, readStatusCode_eq_ok_iff]

omit [Depths] in
theorem givesCode_of_missing (h : Value.field? entries "status_code" = none)
    {default? : Option Int} {code : Int} :
    GivesCode entries default? code ↔ default? = some code := by
  rw [GivesCode, h]

/-- The message that is read is the one that is given. -/
theorem readMessage_eq_ok_iff {t : AnyText} :
    readMessage entries = .ok t ↔ GivesMessage entries t := by
  rw [readMessage, GivesMessage]
  cases Value.field? entries "message" with
  | none =>
    refine ⟨?_, ?_⟩
    · rintro ⟨⟩
      rfl
    · rintro rfl
      rfl
  | some v => rfl

/-- A throttled status has the code that is given, or the default one. -/
theorem readStatus_throttled_eq_ok_iff {status : Status} :
    readStatus entries .throttled = .ok status ↔
      ∃ code, GivesCode entries (some defaultThrottleCode) code ∧
        status = .throttled (.int code) := by
  rw [readStatus]
  cases hfield : Value.field? entries "status_code" with
  | some v =>
    simp only [givesCode_of_field hfield]
    constructor
    · intro h
      obtain ⟨code, hcode, h⟩ := bind_eq_ok.mp h
      cases h
      exact ⟨code, hcode, rfl⟩
    · rintro ⟨code, hcode, rfl⟩
      exact bind_eq_ok.mpr ⟨code, hcode, rfl⟩
  | none =>
    -- without a code the default one is taken as it is
    simp only [givesCode_of_missing hfield]
    constructor
    · rintro ⟨⟩
      exact ⟨_, rfl, rfl⟩
    · rintro ⟨code, ⟨⟩, rfl⟩
      rfl

/-- The status of an HTTP error has the code that is given, and there has to be one. -/
theorem readStatus_httpError_eq_ok_iff {status : Status} :
    readStatus entries .httpError = .ok status ↔
      ∃ code message, GivesCode entries none code ∧ GivesMessage entries message ∧
        status = .httpError (.int code) (.ofText message) := by
  rw [readStatus]
  cases hfield : Value.field? entries "status_code" with
  | some v =>
    simp only [givesCode_of_field hfield, ← readMessage_eq_ok_iff]
    constructor
    · intro h
      obtain ⟨code, hcode, h⟩ := bind_eq_ok.mp h
      obtain ⟨message, hmessage, h⟩ := bind_eq_ok.mp h
      cases h
      exact ⟨code, message, hcode, hmessage, rfl⟩
    · rintro ⟨code, message, hcode, hmessage, rfl⟩
      exact bind_eq_ok.mpr ⟨code, hcode, bind_eq_ok.mpr ⟨message, hmessage, rfl⟩⟩
  | none =>
    -- without a code there is no HTTP error
    simp only [givesCode_of_missing hfield]
    refine iff_of_false (by rintro ⟨⟩) ?_
    rintro ⟨code, message, ⟨⟩, -⟩

/-- **The status that is read** is one of the given name whose details the entries give. The entries
that a status does not need are not looked at. -/
theorem readStatus_eq_ok_iff {name : StatusName} {status : Status} :
    readStatus entries name = .ok status ↔ status.name = name ∧ GivesDetails entries status := by
  constructor
  · intro h
    cases name with
    | success =>
      cases h
      exact ⟨rfl, trivial⟩
    | testFailure | otherError | notFound =>
      obtain ⟨message, hmessage, h⟩ := bind_eq_ok.mp h
      cases h
      exact ⟨rfl, message, rfl, readMessage_eq_ok_iff.mp hmessage⟩
    | throttled =>
      obtain ⟨code, hcode, rfl⟩ := readStatus_throttled_eq_ok_iff.mp h
      exact ⟨rfl, code, rfl, hcode⟩
    | httpError =>
      obtain ⟨code, message, hcode, hmessage, rfl⟩ := readStatus_httpError_eq_ok_iff.mp h
      exact ⟨rfl, ⟨code, rfl, hcode⟩, message, rfl, hmessage⟩
  · rintro ⟨rfl, h⟩
    cases status with
    | success => rfl
    | testFailure | otherError | notFound =>
      obtain ⟨message, rfl, hmessage⟩ := h
      exact bind_eq_ok.mpr ⟨message, readMessage_eq_ok_iff.mpr hmessage, rfl⟩
    | throttled =>
      obtain ⟨code, rfl, hcode⟩ := h
      exact readStatus_throttled_eq_ok_iff.mpr ⟨code, hcode, rfl⟩
    | httpError =>
      obtain ⟨⟨code, rfl, hcode⟩, message, rfl, hmessage⟩ := h
      exact readStatus_httpError_eq_ok_iff.mpr ⟨code, message, hcode, hmessage, rfl⟩

/-! ## Records -/

theorem exists_givesMessage_iff :
    (∃ t, GivesMessage entries t) ↔
      ∀ v, Value.field? entries "message" = some v → v.WritableAt .message := by
  simp only [GivesMessage]
  cases hfield : Value.field? entries "message" with
  | none => exact iff_of_true ⟨.whole "", rfl⟩ (by rintro _ ⟨⟩)
  | some v =>
    simp only [Option.some.injEq, forall_eq']
    exact Value.exists_shownAt_iff

/-- The entries of an accepted record give the details of the status that they name. -/
theorem exists_givesDetails {name : StatusName}
    (hmessage : name.HasMessage → ∀ v, Value.field? entries "message" = some v →
      v.WritableAt .message)
    (hgiven : name = .httpError → (Value.field? entries "status_code").isSome)
    (hcode : name.HasCode → ∀ v, Value.field? entries "status_code" = some v →
      ∃ i, v.toInteger = .ok i) :
    ∃ status : Status, status.name = name ∧ GivesDetails entries status := by
  -- a code that is there is read, whether there is a default or not
  have hread : name.HasCode → ∀ v, Value.field? entries "status_code" = some v →
      ∃ i, ∀ default?, GivesCode entries default? i := by
    intro hname v hfield
    obtain ⟨i, hi⟩ := hcode hname v hfield
    exact ⟨i, fun _ => (givesCode_of_field hfield).mpr (readStatusCode_eq_ok_iff.mpr hi)⟩
  cases name with
  | success => exact ⟨.success, rfl, trivial⟩
  | testFailure =>
    obtain ⟨message, hmessage⟩ := exists_givesMessage_iff.mpr (hmessage (by decide))
    exact ⟨.testFailure (.ofText message), rfl, message, rfl, hmessage⟩
  | otherError =>
    obtain ⟨message, hmessage⟩ := exists_givesMessage_iff.mpr (hmessage (by decide))
    exact ⟨.otherError (.ofText message), rfl, message, rfl, hmessage⟩
  | notFound =>
    obtain ⟨message, hmessage⟩ := exists_givesMessage_iff.mpr (hmessage (by decide))
    exact ⟨.notFound (.ofText message), rfl, message, rfl, hmessage⟩
  | throttled =>
    cases hfield : Value.field? entries "status_code" with
    | none =>
      exact ⟨.throttled (.int defaultThrottleCode), rfl, _, rfl,
        (givesCode_of_missing hfield).mpr rfl⟩
    | some v =>
      obtain ⟨i, hi⟩ := hread (.inl rfl) v hfield
      exact ⟨.throttled (.int i), rfl, i, rfl, hi _⟩
  | httpError =>
    obtain ⟨v, hfield⟩ := Option.isSome_iff_exists.mp (hgiven rfl)
    obtain ⟨i, hi⟩ := hread (.inr rfl) v hfield
    obtain ⟨message, hmessage⟩ := exists_givesMessage_iff.mpr (hmessage (by decide))
    exact ⟨.httpError (.int i) (.ofText message), rfl, ⟨i, rfl, hi _⟩, message, rfl, hmessage⟩

/-- A code that the entries give is the one that they have, whatever the default is. -/
theorem exists_toInteger_of_givesCode {default? : Option Int} {code : Int}
    (h : GivesCode entries default? code) {v : Value}
    (hfield : Value.field? entries "status_code" = some v) : v.toInteger = .ok code :=
  readStatusCode_eq_ok_iff.mp ((givesCode_of_field hfield).mp h)

namespace Outcome

/-- What can be said is said by an accepted record: the entries name what the outcome has. -/
theorem SaidBy.admissible {o : Outcome} (h : o.SaidBy entries) : Admissible entries := by
  refine ⟨⟨o.kind, h.kind⟩, o.status.name, h.status, ?_, ?_⟩
  · intro hname
    -- only an HTTP error needs a code
    have hdetails := h.details
    cases hstatus : o.status with
    | httpError code message =>
      rw [hstatus] at hdetails
      obtain ⟨⟨i, -, hi⟩, -⟩ := hdetails
      cases hfield : Value.field? entries "status_code" with
      | none => cases (givesCode_of_missing hfield).mp hi
      | some v => rfl
    | _ =>
      rw [hstatus] at hname
      cases hname
  · intro hname v hfield
    have hdetails := h.details
    cases hstatus : o.status with
    | httpError code message =>
      rw [hstatus] at hdetails
      obtain ⟨⟨i, -, hi⟩, -⟩ := hdetails
      exact ⟨i, exists_toInteger_of_givesCode hi hfield⟩
    | throttled code =>
      rw [hstatus] at hdetails
      obtain ⟨i, -, hi⟩ := hdetails
      exact ⟨i, exists_toInteger_of_givesCode hi hfield⟩
    | _ =>
      rw [hstatus] at hname
      obtain h | h := hname <;> cases h

/-- There is room for a message that is given, since its text was written. -/
theorem SaidBy.messageFits {o : Outcome} (h : o.SaidBy entries) : MessageFits entries := by
  intro name hname hhas v hfield
  obtain rfl : o.status.name = name :=
    StatusName.name_injective (Value.text.inj (Option.some.inj (h.status.symm.trans hname)))
  -- each status with a message has been given one
  have hgiven : ∃ t, GivesMessage entries t := by
    have hdetails := h.details
    cases hstatus : o.status with
    | success =>
      rw [hstatus] at hhas
      exact absurd rfl hhas.1
    | throttled =>
      rw [hstatus] at hhas
      exact absurd rfl hhas.2
    | testFailure message | otherError message | notFound message =>
      rw [hstatus] at hdetails
      obtain ⟨t, -, ht⟩ := hdetails
      exact ⟨t, ht⟩
    | httpError code message =>
      rw [hstatus] at hdetails
      obtain ⟨-, t, -, ht⟩ := hdetails
      exact ⟨t, ht⟩
  exact (exists_givesMessage_iff.mp hgiven v hfield).2

/-- **What is read from a record is what its entries say**, stage by stage, with nothing assumed of
the record. -/
theorem ofRecord_eq_ok_iff {record : Value} {o : Outcome} :
    ofRecord record = .ok o ↔ ∃ entries, record.fields? = some entries ∧ o.SaidBy entries := by
  constructor
  · intro h
    obtain ⟨entries, hentries⟩ := exists_fields?_of_ofRecord h
    rw [ofRecord_of_fields? hentries] at h
    obtain ⟨kind, hkind, h⟩ := bind_eq_ok.mp h
    obtain ⟨name, hname, h⟩ := bind_eq_ok.mp h
    obtain ⟨status, hstatus, h⟩ := bind_eq_ok.mp h
    cases h
    obtain ⟨rfl, hdetails⟩ := readStatus_eq_ok_iff.mp hstatus
    exact ⟨entries, hentries, readKind_eq_ok_iff.mp hkind, readStatusName_eq_ok_iff.mp hname,
      hdetails⟩
  · rintro ⟨entries, hentries, h⟩
    rw [ofRecord_of_fields? hentries]
    refine bind_eq_ok.mpr ⟨o.kind, readKind_eq_ok_iff.mpr h.kind, ?_⟩
    refine bind_eq_ok.mpr ⟨o.status.name, readStatusName_eq_ok_iff.mpr h.status, ?_⟩
    exact bind_eq_ok.mpr ⟨o.status, readStatus_eq_ok_iff.mpr ⟨rfl, h.details⟩, rfl⟩

/-- A record with entries that can be read, and with room for its message, is accepted. That the
integers of the message can be written is the one assumption. -/
theorem exists_ofRecord_iff {record : Value} (hrecord : record.fields? = some entries)
    (hmessage : ∀ v, Value.field? entries "message" = some v → Value.WithinLimit v.integers) :
    (∃ o, ofRecord record = .ok o) ↔ Admissible entries ∧ MessageFits entries := by
  constructor
  · rintro ⟨o, hread⟩
    obtain ⟨_, hentries, hsaid⟩ := ofRecord_eq_ok_iff.mp hread
    cases hrecord.symm.trans hentries
    exact ⟨hsaid.admissible, hsaid.messageFits⟩
  · rintro ⟨⟨⟨kind, hkind⟩, name, hname, hgiven, hcode⟩, hfits⟩
    obtain ⟨status, rfl, hdetails⟩ := exists_givesDetails
      (fun hhas v hv => ⟨hmessage v hv, hfits name hname hhas v hv⟩) hgiven hcode
    exact ⟨⟨kind, status⟩, ofRecord_eq_ok_iff.mpr ⟨entries, hrecord, hkind, hname, hdetails⟩⟩

/-- There is room for every message that was read from a text: it is lower than the record, and
reading goes no deeper than `Depths.reading`. -/
theorem messageFits_of_read {limits : Json.Limits} (hlimits : limits.nesting ≤ Depths.reading)
    {text : List Char} {record : Value} (h : Json.read limits text = .ok record)
    (hentries : record.fields? = some entries) : MessageFits entries := by
  intro name _ _ v hfield
  calc v.height ≤ record.height := (Value.height_lt_of_field? hentries hfield).le
    _ ≤ limits.nesting + 1 := Json.height_le_of_read h
    _ ≤ Depths.reading + 1 := Nat.succ_le_succ hlimits
    _ ≤ Depths.room .message := Depths.reading_lt_room .message

end Outcome

end Reading

namespace Outcome

open Machine

/-- The entries of an HTTP error, oddly written: a long s and a dotless i in the kind, a code with
blanks, a sign and an underscore, a list for a message, and an entry that nothing looks at. -/
def oddEntries : List (String × Value) :=
  [("message", .list [.int 1, .text "a"]), ("elapsed", .float 0.25),
    ("status_code", .text " +5_03 "), ("status", .text "http_error"),
    ("kind", .text "con\u017f\u0131stency-check")]

end Outcome

end LoadLedger
