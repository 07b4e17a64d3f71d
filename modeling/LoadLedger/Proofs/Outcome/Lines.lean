import LoadLedger.Proofs.Json.Limits
import LoadLedger.Proofs.Outcome.Reading
import LoadLedger.Proofs.Outcome.Refusals
import LoadLedger.Proofs.Text.Blocks

/-!
# Where reading a file of outcomes stops

Reading stops at the first line that holds no outcome (`OutcomeFile.firstBad?`), or else at the
block that does not decode. A fault of the content of a line is told as one of the outcome family,
with the number of the line. Everything else escapes: a line that passes a limit or that holds a
record from which faults escape (`OutcomeFile.LineEscape`), and the block itself
(`OutcomeFile.InputEscape`).

**Two views.** `OutcomeFile.ReadsUpTo` follows the lines from the first one on, up to a place where
reading stops, and `OutcomeFile.exists_readsUpTo` finds that place. `OutcomeFile.Accepts` asks of
the octets alone whether there is none. `OutcomeFile.fault_of_readOctets` connects the two: which
fault there is, and that it is told or escapes.
-/

namespace LoadLedger.OutcomeFile

variable [Depths]
variable {line : List Char} {lines : List (List Char)} {octets : List UInt8} {cause : Fault}

/-! ## Lines -/

/-- **The lines from which faults escape** that are neither of the JSON text nor of the outcome. -/
inductive LineEscape (line : List Char) : Fault → Prop
  /-- A numeral is too long, or values are nested too deep. -/
  | limit {cause : Fault} (hread : Json.read .ofFiles line = .error cause)
    (hlimit : Json.LimitFault .ofFiles cause) : LineEscape line cause
  /-- The record lets a fault escape. -/
  | record {v : Value} {entries : List (String × Value)} {cause : Fault}
    (hread : Json.read .ofFiles line = .ok v) (hentries : v.fields? = some entries)
    (hrecord : RecordEscape entries cause) : LineEscape line cause

/-- What escapes from a line is of none of the families that anybody is ready for: not the JSON
family, nor that of outcomes, nor a fault of the file. -/
theorem LineEscape.family_ne (h : LineEscape line cause) :
    cause.family ≠ .json ∧ cause.family ≠ .outcome ∧ cause.isFileFault = false := by
  cases h with
  | limit _ hlimit =>
    cases hlimit <;> exact ⟨Fault.Family.noConfusion, Fault.Family.noConfusion, rfl⟩
  | record hread hentries hrecord =>
    have hwritable := Json.writable_of_read hread
    obtain rfl | rfl | rfl := Outcome.escape_of_writable hwritable hentries hrecord
    all_goals exact ⟨Fault.Family.noConfusion, Fault.Family.noConfusion, rfl⟩

/-- **A line holds an outcome, or its fault is told, or it is one of the listed escapes.** -/
theorem escapes_readLine_iff :
    (readLine line = .error cause ∧ cause.family ≠ .json ∧ cause.family ≠ .outcome) ↔
      LineEscape line cause := by
  constructor
  · rintro ⟨h, hjson, houtcome⟩
    obtain h | ⟨v, hread, h⟩ := bind_eq_error.mp h
    · exact .limit h ((Json.fault_of_read h).resolve_left hjson)
    · obtain ⟨entries, hentries⟩ := Outcome.exists_fields?_of_escapes ⟨h, houtcome⟩
      exact .record hread hentries
        ((Outcome.escapes_of_fields?_iff hentries).mp ⟨h, houtcome⟩)
  · intro h
    obtain ⟨hjson, houtcome, -⟩ := h.family_ne
    refine ⟨?_, hjson, houtcome⟩
    cases h with
    | limit hread _ => exact bind_eq_error.mpr (.inl hread)
    | record hread hentries hrecord =>
      exact bind_eq_error.mpr
        (.inr ⟨_, hread, ((Outcome.escapes_of_fields?_iff hentries).mpr hrecord).1⟩)

/-! ## The first bad line -/

/-- Does the line hold an outcome? -/
def isGood (line : List Char) : Bool :=
  match readLine line with
  | .ok _ => true
  | .error _ => false

/-- A good line is one that `readLine` reads. -/
theorem isGood_iff : isGood line = true ↔ ∃ o, readLine line = .ok o := by
  rw [isGood]
  cases readLine line with
  | ok o => exact iff_of_true rfl ⟨o, rfl⟩
  | error cause => exact iff_of_false Bool.false_ne_true (by rintro ⟨_, ⟨⟩⟩)

/-- The first line that is not blank and holds no outcome. It is found without carrying anything
over from line to line. -/
def firstBad? (lines : List (List Char)) : Option (List Char) :=
  (contents lines).find? (!isGood ·)

/-- **The reader stops at the first bad line.** Without one it meets what awaits it at the end. -/
theorem fault_of_readLines (path : String) (atEnd : Option Fault) (number : Nat)
    (lines : List (List Char)) :
    (firstBad? lines = none ∧ (readLines path atEnd number lines).fault = atEnd) ∨
      ∃ line count cause, firstBad? lines = some line ∧ readLine line = .error cause ∧
        (readLines path atEnd number lines).fault = some (atLine path count cause) := by
  induction lines generalizing number with
  | nil => exact .inl ⟨rfl, rfl⟩
  | cons line lines ih =>
    rw [firstBad?, contents, List.map_cons, List.filter_cons, readLines]
    dsimp only
    -- a blank line is counted and not read
    cases hblank : (Text.trimBlanks line).isEmpty with
    | true => exact ih (number + 1)
    | false =>
      rw [Bool.not_false, if_pos rfl, if_neg Bool.false_ne_true, List.find?_cons]
      cases hread : readLine (Text.trimBlanks line) with
      | error cause =>
        have hbad : isGood (Text.trimBlanks line) = false := by
          rw [isGood, hread]
        rw [hbad]
        exact .inr ⟨_, number, cause, rfl, hread, rfl⟩
      | ok o =>
        rw [isGood_iff.mpr ⟨o, hread⟩]
        exact ih (number + 1)

/-- **What comes before a bad line is read**, wherever it stands, and nothing after it. -/
theorem readLines_of_bad {path : String} {atEnd : Option Fault} {number : Nat}
    {good rest : List (List Char)} {outcomes : List Outcome}
    (hlines : contents lines = good ++ line :: rest)
    (hgood : List.Forall₂ (fun line o => readLine line = .ok o) good outcomes)
    (hbad : readLine line = .error cause) :
    ∃ count, readLines path atEnd number lines = ⟨outcomes, some (atLine path count cause)⟩ := by
  induction lines generalizing number good outcomes with
  | nil => cases good <;> cases hlines
  | cons first lines ih =>
    rw [contents, List.map_cons, List.filter_cons] at hlines
    rw [readLines]
    dsimp only
    cases hblank : (Text.trimBlanks first).isEmpty with
    | true =>
      rw [hblank] at hlines
      exact ih hlines hgood
    | false =>
      rw [hblank, Bool.not_false, if_pos rfl] at hlines
      rw [if_neg Bool.false_ne_true]
      cases hgood with
      | nil =>
        -- no good line is left, so this is the bad one
        obtain ⟨rfl, -⟩ := List.cons.inj hlines
        rw [hbad]
        exact ⟨number, rfl⟩
      | cons hread hgood =>
        obtain ⟨hfirst, hmore⟩ := List.cons.inj hlines
        rw [hfirst, hread]
        obtain ⟨count, hrest⟩ := @ih (number + 1) _ _ hmore hgood
        exact ⟨count, by rw [hrest]⟩

/-- How far lines are read: to their end, or up to a line that is not blank and holds no outcome.
Then it is known how many lines stand before it, blank ones included, and what its fault is. -/
inductive ReadsUpTo (lines : List (List Char)) (outcomes : List Outcome) :
    Option (Nat × Fault) → Prop
  /-- All lines are read. -/
  | all (hgood : List.Forall₂ (fun line o => readLine line = .ok o) (contents lines) outcomes) :
    ReadsUpTo lines outcomes none
  /-- The line after some others is not blank and holds no outcome. -/
  | bad {before after : List (List Char)} {line : List Char} {cause : Fault}
    (hlines : lines = before ++ line :: after)
    (hgood : List.Forall₂ (fun line o => readLine line = .ok o) (contents before) outcomes)
    (hblank : Text.trimBlanks line ≠ []) (hbad : readLine (Text.trimBlanks line) = .error cause) :
    ReadsUpTo lines outcomes (some (before.length, cause))

omit [Depths] in
theorem contents_cons_of_blank {line : List Char} (h : Text.trimBlanks line = [])
    (lines : List (List Char)) : contents (line :: lines) = contents lines := by
  rw [contents, List.map_cons, List.filter_cons, h]
  rfl

omit [Depths] in
theorem contents_cons_of_ne {line : List Char} (h : Text.trimBlanks line ≠ [])
    (lines : List (List Char)) :
    contents (line :: lines) = Text.trimBlanks line :: contents lines := by
  rw [contents, List.map_cons, List.filter_cons, if_pos]
  · rfl
  · rw [List.isEmpty_eq_false_iff.mpr h]
    rfl

/-- One more line before the place where reading stops. -/
def nextStop : Option (Nat × Fault) → Option (Nat × Fault) :=
  Option.map fun (count, cause) => (count + 1, cause)

namespace ReadsUpTo

variable {outcomes : List Outcome} {stop : Option (Nat × Fault)}

theorem cons_of_blank (h : ReadsUpTo lines outcomes stop) (hblank : Text.trimBlanks line = []) :
    ReadsUpTo (line :: lines) outcomes (nextStop stop) := by
  cases h with
  | all hgood => exact .all (by rwa [contents_cons_of_blank hblank])
  | bad hlines hgood hnonblank hbad =>
    rename_i before after stopper cause
    have hsplit : line :: lines = (line :: before) ++ stopper :: after :=
      congrArg (line :: ·) hlines
    exact .bad hsplit (by rwa [contents_cons_of_blank hblank]) hnonblank hbad

theorem cons_of_good (h : ReadsUpTo lines outcomes stop) (hblank : Text.trimBlanks line ≠ [])
    {o : Outcome} (hread : readLine (Text.trimBlanks line) = .ok o) :
    ReadsUpTo (line :: lines) (o :: outcomes) (nextStop stop) := by
  cases h with
  | all hgood =>
    refine .all ?_
    rw [contents_cons_of_ne hblank]
    exact .cons hread hgood
  | bad hlines hgood hnonblank hbad =>
    rename_i before after stopper cause
    have hsplit : line :: lines = (line :: before) ++ stopper :: after :=
      congrArg (line :: ·) hlines
    refine .bad hsplit ?_ hnonblank hbad
    rw [contents_cons_of_ne hblank]
    exact .cons hread hgood

/-- Lines that are read to their end have one outcome each, unless they are blank. -/
theorem length_eq (h : ReadsUpTo lines outcomes none) :
    outcomes.length = (contents lines).length := by
  cases h with
  | all hgood => exact hgood.length_eq.symm

end ReadsUpTo

/-- The fault that reading ends with, given the number of the first line: what awaits the reader at
the end, or what is wrong with the line where it stops, told by `atLine`. -/
def faultAt (path : String) (atEnd : Option Fault) (number : Nat) :
    Option (Nat × Fault) → Option Fault
  | none => atEnd
  | some (count, cause) => some (atLine path (number + count) cause)

omit [Depths] in
/-- One line more before it has the same effect as counting from one more. -/
theorem faultAt_nextStop (path : String) (atEnd : Option Fault) (number : Nat)
    (stop : Option (Nat × Fault)) :
    faultAt path atEnd number (nextStop stop) = faultAt path atEnd (number + 1) stop := by
  cases stop with
  | none => rfl
  | some found =>
    change some (atLine path (number + (found.1 + 1)) found.2) =
      some (atLine path (number + 1 + found.1) found.2)
    rw [Nat.add_assoc, Nat.add_comm 1]

/-- **Reading stops where a line holds no outcome**, and tells the number of that line. By induction
on the lines, of which each is skipped, yields an outcome, or is the last one. -/
theorem exists_readsUpTo (path : String) (atEnd : Option Fault) (number : Nat)
    (lines : List (List Char)) :
    ∃ stop, ReadsUpTo lines (readLines path atEnd number lines).outcomes stop ∧
      (readLines path atEnd number lines).fault = faultAt path atEnd number stop := by
  induction lines generalizing number with
  | nil => exact ⟨none, .all .nil, rfl⟩
  | cons line lines ih =>
    obtain ⟨stop, hreads, hfault⟩ := ih (number + 1)
    -- a line that comes first moves the place of the fault by one
    rw [← faultAt_nextStop] at hfault
    rw [readLines]
    dsimp only
    by_cases hblank : Text.trimBlanks line = []
    · rw [if_pos (List.isEmpty_iff.mpr hblank)]
      exact ⟨_, hreads.cons_of_blank hblank, hfault⟩
    · rw [if_neg (by rwa [List.isEmpty_iff])]
      cases hread : readLine (Text.trimBlanks line) with
      | error cause =>
        have hsplit : line :: lines = [] ++ line :: lines := rfl
        exact ⟨_, .bad hsplit .nil hblank hread, rfl⟩
      | ok o => exact ⟨_, hreads.cons_of_good hblank hread, hfault⟩

theorem isGood_of_forall₂ {outcomes : List Outcome}
    (h : List.Forall₂ (fun line o => readLine line = .ok o) lines outcomes) :
    ∀ line ∈ lines, isGood line = true := by
  induction h with
  | nil => exact fun line hline => absurd hline List.not_mem_nil
  | cons hread _ ih => exact List.forall_mem_cons.mpr ⟨isGood_iff.mpr ⟨_, hread⟩, ih⟩

/-- A text holds outcomes exactly if it has no bad line. -/
theorem exists_holdsText_iff {text : List Char} :
    (∃ outcomes, HoldsText text outcomes) ↔ firstBad? (Text.linesOf text) = none := by
  constructor
  · rintro ⟨outcomes, h⟩
    rw [firstBad?, List.find?_eq_none]
    intro line hline
    rw [isGood_of_forall₂ h line hline]
    exact Bool.false_ne_true
  · intro h
    obtain ⟨-, hfault⟩ | ⟨line, _, _, hbad, -⟩ := fault_of_readLines "" none 1 (Text.linesOf text)
    · exact ⟨_, (forall₂_of_readLines hfault).2⟩
    · cases h.symm.trans hbad

/-! ## Files -/

/-- The octets decode, and each line that is not blank holds an outcome: what a file has to be like
to be replayed. -/
def Accepts (octets : List UInt8) (outcomes : List Outcome) : Prop :=
  ∃ text, Text.Utf8.decode octets = .ok text ∧ HoldsText text outcomes

/-- Whether a file is decoded in blocks or as a whole, it holds the same outcomes
(`Text.Utf8.readBlocks_eq_ok`). -/
theorem accepts_iff {outcomes : List Outcome} :
    Accepts octets outcomes ↔ (Text.Utf8.readBlocks blockSize octets).refusal = none ∧
      HoldsText (Text.Utf8.readBlocks blockSize octets).text outcomes := by
  have hblocks : ∀ {text}, Text.Utf8.readBlocks blockSize octets = ⟨text, none⟩ ↔
      Text.Utf8.decode octets = .ok text :=
    Text.Utf8.readBlocks_eq_ok (by decide)
  constructor
  · rintro ⟨text, hdecode, hlines⟩
    rw [hblocks.mpr hdecode]
    exact ⟨rfl, hlines⟩
  · rintro ⟨hrefusal, hlines⟩
    exact ⟨_, hblocks.mp (congrArg (Text.Utf8.Reading.mk _) hrefusal), hlines⟩

theorem holds_iff {tree : FileTree} {path : FileTree.Path} {outcomes : List Outcome}
    (hread : tree.read path.toText = .ok octets) :
    Holds tree path outcomes ↔ Accepts octets outcomes := by
  simp only [Holds, accepts_iff, hread, Except.ok.injEq, exists_eq_left']

/-- The lines of a file that the reader gets to see: those that are complete in the blocks before a
block that does not decode. -/
def seenLines (octets : List UInt8) : List (List Char) :=
  let reading := Text.Utf8.readBlocks blockSize octets
  match reading.refusal with
  | none => Text.linesOf reading.text
  | some _ => Text.completeLines reading.text

/-- `readOctets` reads the lines that it gets to see, and what awaits it at their end is the refusal
of a block, if there is one. -/
theorem readOctets_eq (path : String) (octets : List UInt8) :
    readOctets path octets =
      readLines path ((Text.Utf8.readBlocks blockSize octets).refusal.map .undecodable) 1
        (seenLines octets) := by
  rw [readOctets, seenLines]
  cases (Text.Utf8.readBlocks blockSize octets).refusal <;> rfl

/-- A file is read up to the first bad line that the reader gets to see. -/
theorem read_of_bad {tree : FileTree} {path : FileTree.Path} {good rest : List (List Char)}
    {outcomes : List Outcome} (hread : tree.read path.toText = .ok octets)
    (hlines : contents (seenLines octets) = good ++ line :: rest)
    (hgood : List.Forall₂ (fun line o => readLine line = .ok o) good outcomes)
    (hbad : readLine line = .error cause) :
    ∃ count, read tree path = ⟨outcomes, some (atLine path.toText count cause)⟩ := by
  rw [read, hread]
  dsimp only
  rw [readOctets_eq]
  exact readLines_of_bad hlines hgood hbad

/-- **Where and how faults escape from reading a file.** -/
inductive InputEscape (octets : List UInt8) : Fault → Prop
  /-- The first bad line lets a fault escape. -/
  | line {line : List Char} {cause : Fault} (hfirst : firstBad? (seenLines octets) = some line)
    (h : LineEscape line cause) : InputEscape octets cause
  /-- A block does not decode, and there is no bad line before it. -/
  | block {refusal : Text.Utf8.Refusal} (hfirst : firstBad? (seenLines octets) = none)
    (hrefusal : (Text.Utf8.readBlocks blockSize octets).refusal = some refusal) :
    InputEscape octets (.undecodable refusal)

/-- A file is read to its end exactly if it is accepted: no line that the reader sees is bad, and no
block is refused. -/
theorem fault_of_readOctets_eq_none {path : String} :
    (readOctets path octets).fault = none ↔ ∃ outcomes, Accepts octets outcomes := by
  constructor
  · intro h
    exact ⟨_, accepts_iff.mpr (holdsText_of_readOctets h)⟩
  · rintro ⟨outcomes, h⟩
    obtain ⟨hrefusal, hlines⟩ := accepts_iff.mp h
    have hgood : firstBad? (seenLines octets) = none := by
      rw [seenLines, hrefusal]
      exact exists_holdsText_iff.mp ⟨outcomes, hlines⟩
    rw [readOctets_eq, hrefusal]
    obtain ⟨-, hfault⟩ | ⟨line, _, _, hbad, -⟩ := fault_of_readLines path none 1 (seenLines octets)
    · exact hfault
    · cases hgood.symm.trans hbad

/-- A file without a fault is read to its end, and yields what it holds. -/
theorem Holds.read {tree : FileTree} {path : FileTree.Path} {outcomes : List Outcome}
    (h : Holds tree path outcomes) : OutcomeFile.read tree path = ⟨outcomes, none⟩ := by
  obtain ⟨octets, hoctets, -⟩ := id h
  have hfault : (OutcomeFile.read tree path).fault = none := by
    rw [OutcomeFile.read, hoctets]
    exact fault_of_readOctets_eq_none.mpr ⟨outcomes, (holds_iff hoctets).mp h⟩
  rw [h.unique (holds_of_read hfault), ← hfault]

/-- **A fault of reading is one of the outcome family, or it is one of the listed escapes**, and
never both. -/
theorem fault_of_readOctets {path : String} (h : (readOctets path octets).fault = some cause) :
    (cause.family = .outcome ∧ ∀ c, ¬ InputEscape octets c) ∨
      (cause.family ≠ .outcome ∧ cause.isFileFault = false ∧ InputEscape octets cause) := by
  rw [readOctets_eq] at h
  obtain ⟨hfirst, hfault⟩ | ⟨line, count, c, hfirst, hread, hfault⟩ :=
    fault_of_readLines path ((Text.Utf8.readBlocks blockSize octets).refusal.map .undecodable) 1
      (seenLines octets)
  · -- no bad line: it is the block
    obtain ⟨refusal, hrefusal, rfl⟩ := Option.map_eq_some_iff.mp (hfault.symm.trans h)
    exact .inr ⟨Fault.Family.noConfusion, rfl, .block hfirst hrefusal⟩
  · cases hfault.symm.trans h
    -- The first bad line decides: what is wrong with its content is told with its number, and all
    -- else escapes.
    by_cases hescape : LineEscape line c
    · obtain ⟨hjson, houtcome, hfile⟩ := hescape.family_ne
      have hpasses : atLine path count c = c := by
        rw [atLine]
        split
        · rename_i hfamily
          exact absurd hfamily hjson
        · rename_i hfamily
          exact absurd hfamily houtcome
        · rfl
      rw [hpasses]
      exact .inr ⟨houtcome, hfile, .line hfirst hescape⟩
    · have htold : atLine path count c = .atLine path count c := by
        rw [atLine]
        split
        · rfl
        · rfl
        · rename_i hjson houtcome
          exact absurd (escapes_readLine_iff.mp ⟨hread, hjson, houtcome⟩) hescape
      rw [htold]
      refine .inl ⟨rfl, ?_⟩
      intro c' hinput
      cases hinput with
      | line hfirst' h' =>
        cases hfirst.symm.trans hfirst'
        obtain ⟨hread', -⟩ := escapes_readLine_iff.mpr h'
        cases hread.symm.trans hread'
        exact hescape h'
      | block hfirst' => cases hfirst.symm.trans hfirst'

end LoadLedger.OutcomeFile
