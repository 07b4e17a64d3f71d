import LoadLedger.OutcomeFile
import LoadLedger.Proofs.Json.Writable
import Mathlib.Data.List.Forall2

/-!
# Outcomes that are read

The details of an outcome that is read from a record are an integer and a text by construction
(`Outcome.details_of_readStatus`), and the outcome is plain as long as the record can be written,
since its status code stands for something writable then (`Outcome.plain_of_ofRecord`). A file that
is read to its end has one outcome for each line that is not blank, in order, and all of them are
plain (`OutcomeFile.Holds`).

`OutcomeFile.contents` are the lines that are not blank, without the blanks around them;
`OutcomeFile.HoldsText` and `OutcomeFile.Holds` say of a text and of a file that these hold given
outcomes.
-/

namespace LoadLedger

/-! ## Records -/

variable [Depths]

/-- The status code that is read from something writable can be written: `readStatusCode` answers
what `Value.toInteger` does, whatever the type of the value is. -/
theorem natAbs_lt_of_readStatusCode {v : Value} (h : Value.WithinLimit v.integers)
    {code : Int} (hcode : readStatusCode v = .ok code) :
    code.natAbs < Number.tenTo Number.digitLimit := by
  rw [readStatusCode] at hcode
  split at hcode
  · rename_i hinteger
    cases hcode
    exact Value.natAbs_toInteger_lt h hinteger
  -- a code that is no integer is reported, in one way or another
  · split at hcode
    · obtain ⟨_, -, hcode⟩ := bind_eq_ok.mp hcode
      cases hcode
    · obtain ⟨_, -, hcode⟩ := bind_eq_ok.mp hcode
      cases hcode
    · cases hcode

namespace Outcome

/-- **The details of a status that is read**: its code is an integer, and its message a text. What
holds of the code of the record and of the code that stands in for a missing one holds of the code
of the status. -/
theorem details_of_readStatus {entries : List (String × Value)} {name : StatusName}
    {status : Status} (h : readStatus entries name = .ok status) {P : Int → Prop}
    (hgiven : ∀ v code, Value.field? entries "status_code" = some v →
      readStatusCode v = .ok code → P code)
    (hdefault : P defaultThrottleCode) :
    (∀ code ∈ status.statusCode?, ∃ i : Int, code = .int i ∧ P i) ∧
      ∀ message ∈ status.message?, PlainMessage message := by
  cases name with
  | success =>
    cases h
    exact ⟨by rintro _ ⟨⟩, by rintro _ ⟨⟩⟩
  | testFailure | otherError | notFound =>
    obtain ⟨message, -, h⟩ := bind_eq_ok.mp h
    cases h
    refine ⟨by rintro _ ⟨⟩, ?_⟩
    rintro _ ⟨⟩
    exact ⟨message, rfl⟩
  | throttled =>
    -- a throttled request may come without a code, and then has the default one
    have hthrottled : ∀ code, P code → ∀ v ∈ Status.statusCode? (.throttled (.int code)),
        ∃ i : Int, v = .int i ∧ P i := by
      rintro code hcode _ ⟨⟩
      exact ⟨code, rfl, hcode⟩
    rw [readStatus] at h
    split at h
    · rename_i hfield
      obtain ⟨code, hcode, h⟩ := bind_eq_ok.mp h
      cases h
      exact ⟨hthrottled code (hgiven _ code hfield hcode), by rintro _ ⟨⟩⟩
    · cases h
      exact ⟨hthrottled _ hdefault, by rintro _ ⟨⟩⟩
  | httpError =>
    rw [readStatus] at h
    split at h
    · rename_i hfield
      obtain ⟨code, hcode, h⟩ := bind_eq_ok.mp h
      obtain ⟨message, -, h⟩ := bind_eq_ok.mp h
      cases h
      constructor
      · rintro _ ⟨⟩
        exact ⟨code, rfl, hgiven _ code hfield hcode⟩
      · rintro _ ⟨⟩
        exact ⟨message, rfl⟩
    · cases h

/-- The stages of `Outcome.ofRecord` for an object: kind, name of the status, status. Each of them
looks at the entries only. -/
theorem ofRecord_of_fields? {record : Value} {entries : List (String × Value)}
    (h : record.fields? = some entries) :
    ofRecord record = readKind entries >>= fun kind => readStatusName entries >>= fun name =>
      readStatus entries name >>= fun status => pure ⟨kind, status⟩ := by
  rw [ofRecord, h]

theorem exists_fields?_of_ofRecord {record : Value} {o : Outcome}
    (h : ofRecord record = .ok o) : ∃ entries, record.fields? = some entries := by
  rw [ofRecord] at h
  split at h
  · exact ⟨_, ‹_›⟩
  · cases h

/-- An outcome that is read has a status that is read from the entries of an object. -/
theorem exists_readStatus_of_ofRecord {v : Value} {o : Outcome} (h : ofRecord v = .ok o) :
    ∃ entries name, v.fields? = some entries ∧ readStatus entries name = .ok o.status := by
  obtain ⟨entries, hentries⟩ := exists_fields?_of_ofRecord h
  rw [ofRecord_of_fields? hentries] at h
  obtain ⟨kind, -, h⟩ := bind_eq_ok.mp h
  obtain ⟨name, -, h⟩ := bind_eq_ok.mp h
  obtain ⟨status, hstatus, h⟩ := bind_eq_ok.mp h
  cases h
  exact ⟨entries, name, hentries, hstatus⟩

/-- **An outcome that is read from a record is plain** if the integers of the record can be written,
however deep it nests what does not matter. -/
theorem plain_of_ofRecord {v : Value} (hv : Value.WithinLimit v.integers) {o : Outcome}
    (h : ofRecord v = .ok o) : o.Plain := by
  obtain ⟨entries, name, hentries, hstatus⟩ := exists_readStatus_of_ofRecord h
  refine details_of_readStatus hstatus ?_ (by decide +kernel)
  intro w code hfield hcode
  exact natAbs_lt_of_readStatusCode (Value.withinLimit_of_field? hv hentries hfield) hcode

end Outcome

/-! ## Files -/

namespace OutcomeFile

/-- The contents of the lines that are not blank, without the blanks around them. -/
def contents (lines : List (List Char)) : List (List Char) :=
  (lines.map Text.trimBlanks).filter (!·.isEmpty)

/-- The outcomes are those of a text: one for each line that is not blank. -/
def HoldsText (text : List Char) (outcomes : List Outcome) : Prop :=
  List.Forall₂ (fun line o => readLine line = .ok o) (contents (Text.linesOf text)) outcomes

/-- The outcomes are those of a file, all of which decodes. -/
def Holds (tree : FileTree) (path : FileTree.Path) (outcomes : List Outcome) : Prop :=
  ∃ octets, tree.read path.toText = .ok octets ∧
    (Text.Utf8.readBlocks blockSize octets).refusal = none ∧
    HoldsText (Text.Utf8.readBlocks blockSize octets).text outcomes

/-- A line is read as JSON text first, so that its integers can be written
(`Json.withinLimit_of_read`). -/
theorem plain_of_readLine {line : List Char} {o : Outcome} (h : readLine line = .ok o) :
    o.Plain := by
  obtain ⟨v, hv, h⟩ := bind_eq_ok.mp h
  exact Outcome.plain_of_ofRecord (Json.writable_of_read hv).1 h

/-- **The outcomes of a file are plain**, since each of them was read from a line. -/
theorem Holds.plain {tree : FileTree} {path : FileTree.Path} {outcomes : List Outcome}
    (h : Holds tree path outcomes) : ∀ o ∈ outcomes, o.Plain := by
  obtain ⟨octets, -, -, hlines⟩ := h
  rw [HoldsText] at hlines
  generalize contents _ = lines at hlines
  induction hlines with
  | nil => exact fun o ho => absurd ho List.not_mem_nil
  | cons hline _ ih => exact List.forall_mem_cons.mpr ⟨plain_of_readLine hline, ih⟩

/-- A file holds the outcomes of one list only: the lines are known, and each line is read in one
way. -/
theorem Holds.unique {tree : FileTree} {path : FileTree.Path} {os os' : List Outcome}
    (h : Holds tree path os) (h' : Holds tree path os') : os = os' := by
  obtain ⟨octets, hoctets, -, hlines⟩ := h
  obtain ⟨octets', hoctets', -, hlines'⟩ := h'
  cases hoctets.symm.trans hoctets'
  -- a line is read in one way only, and the lines are the same
  have hfunctional : Relator.RightUnique fun line o => readLine line = .ok o :=
    fun line o o' ho ho' => Except.ok.inj (ho.symm.trans ho')
  exact hfunctional.forall₂ hlines hlines'

/-- What `readLines` has read when it stops is plain, wherever it stops. -/
theorem plain_of_mem_readLines {path : String} {atEnd : Option Fault} {number : Nat}
    {lines : List (List Char)} :
    ∀ o ∈ (readLines path atEnd number lines).outcomes, o.Plain := by
  induction lines generalizing number with
  | nil => exact fun o ho => absurd ho List.not_mem_nil
  | cons line lines ih =>
    rw [readLines]
    dsimp only
    split
    · exact ih
    · split
      · exact fun o ho => absurd ho List.not_mem_nil
      · rename_i o hread
        exact List.forall_mem_cons.mpr ⟨plain_of_readLine hread, ih⟩

/-- What is read of a file is plain, however far reading comes. -/
theorem plain_of_mem_read {tree : FileTree} {path : FileTree.Path} :
    ∀ o ∈ (read tree path).outcomes, o.Plain := by
  rw [read]
  split
  · exact fun o ho => absurd ho List.not_mem_nil
  · rw [readOctets]
    split <;> exact plain_of_mem_readLines

/-- Reading that comes to the end of the lines has read each of them that is not blank. -/
theorem forall₂_of_readLines {path : String} {atEnd : Option Fault} {number : Nat}
    {lines : List (List Char)} (h : (readLines path atEnd number lines).fault = none) :
    atEnd = none ∧ List.Forall₂ (fun line o => readLine line = .ok o) (contents lines)
      (readLines path atEnd number lines).outcomes := by
  induction lines generalizing number with
  | nil => exact ⟨h, .nil⟩
  | cons line lines ih =>
    rw [readLines] at h ⊢
    rw [contents, List.map_cons, List.filter_cons]
    dsimp only at h ⊢
    cases hblank : (Text.trimBlanks line).isEmpty with
    | true =>
      rw [hblank, if_pos rfl] at h
      exact ih h
    | false =>
      rw [hblank, if_neg Bool.false_ne_true] at h
      cases hread : readLine (Text.trimBlanks line) with
      | error cause =>
        rw [hread] at h
        cases h
      | ok o =>
        rw [hread] at h
        -- the line is one of those that have a content, and its outcome comes first
        obtain ⟨hend, hlines⟩ := ih h
        exact ⟨hend, .cons hread hlines⟩

/-- If nothing is wrong, all octets have been decoded, and the lines are those of the whole text. -/
theorem holdsText_of_readOctets {path : String} {octets : List UInt8}
    (h : (readOctets path octets).fault = none) :
    (Text.Utf8.readBlocks blockSize octets).refusal = none ∧
      HoldsText (Text.Utf8.readBlocks blockSize octets).text (readOctets path octets).outcomes := by
  rw [readOctets] at h ⊢
  cases hrefusal : (Text.Utf8.readBlocks blockSize octets).refusal with
  | some refusal =>
    -- the refused block awaits the reader after the last complete line
    rw [hrefusal] at h
    obtain ⟨hend, -⟩ := forall₂_of_readLines h
    cases hend
  | none =>
    rw [hrefusal] at h
    obtain ⟨-, hlines⟩ := forall₂_of_readLines h
    exact ⟨rfl, hlines⟩

/-- **A file that is read without a fault holds what was read.** -/
theorem holds_of_read {tree : FileTree} {path : FileTree.Path}
    (h : (read tree path).fault = none) : Holds tree path (read tree path).outcomes := by
  rw [read] at h ⊢
  split at h
  · cases h
  · rename_i octets hoctets
    obtain ⟨hrefusal, hlines⟩ := holdsText_of_readOctets h
    exact ⟨octets, hoctets, hrefusal, hlines⟩

end OutcomeFile

end LoadLedger
