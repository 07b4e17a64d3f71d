import LoadLedger.Machine
import LoadLedger.Proofs.Json.Spelling
import LoadLedger.Proofs.Outcome.Lines
import LoadLedger.Proofs.Outcome.Plain
import LoadLedger.Proofs.Outcome.Records

/-!
# Outcomes line by line

A file of outcomes is read line by line, where the lines are those that the three line ends
separate, and reading stops at the first line that is not blank and holds no outcome
(`OutcomeFile.read_lines`). Outcomes that are written as records, each on a line of its own, are
read back as they are (`OutcomeFile.holdsText_of_spells`). It does not matter how a record is
spelled, in which order its entries come, which line ends there are, and how many blank lines. What
`Json.print` makes of the records is one way (`OutcomeFile.spells_print`). No character within a
message is taken for the end of a line, since the line ends among them have to be escaped
(`Json.isUnbroken_of_spellsRecord`).

An outcome is `Outcome.Unpaired` if its message does not put the two halves of a surrogate pair side
by side. Any other message cannot be written as JSON text at all, so that `OutcomeFile.Spells`
leaves it out.
-/

namespace LoadLedger

/-! ## The content of a line -/

/-- Blanks around a text that neither begins nor ends with one are all that is trimmed. -/
theorem Text.trimBlanks_append {before s after : List Char}
    (hbefore : ∀ c ∈ before, isBlank c = true) (hafter : ∀ c ∈ after, isBlank c = true)
    {first last : Char} (hfirst : s.head? = some first) (hlast : s.getLast? = some last)
    (hnonblank : isBlank first = false ∧ isBlank last = false) :
    trimBlanks (before ++ s ++ after) = s := by
  have hfront : (s ++ after).dropWhile isBlank = s ++ after := by
    obtain ⟨rest, rfl⟩ := List.head?_eq_some_iff.mp hfirst
    exact List.dropWhile_cons_of_neg (by rw [hnonblank.1]; exact Bool.false_ne_true)
  rw [trimBlanks, trimWith, List.append_assoc, List.dropWhile_append_of_pos hbefore, hfront,
    dropTrailing_append hafter, dropTrailing_of_getLast? hlast hnonblank.2]

/-- A record with spaces and tabs around it is the content of its line. -/
theorem Json.trimBlanks_of_spellsRecord {entries : List (String × Value)}
    {before line after : List Char} (h : SpellsRecord entries line) (hbefore : IsGap before)
    (hafter : IsGap after) : Text.trimBlanks (before ++ line ++ after) = line := by
  have hblank : ∀ {gap}, IsGap gap → ∀ c ∈ gap, Text.isBlank c = true := by
    intro gap hgap c hc
    obtain rfl | rfl := hgap c hc <;> decide
  obtain ⟨middle, rfl⟩ := exists_braces_of_spellsRecord h
  have hlast : ('\x7b' :: (middle ++ ['\x7d'])).getLast? = some '\x7d' := by
    rw [← List.cons_append, List.getLast?_concat]
  exact Text.trimBlanks_append (hblank hbefore) (hblank hafter) rfl hlast (by decide)

/-! ## Records -/

/-- Entries with unlike keys may be in any order. -/
theorem Value.field?_of_perm {entries entries' : List (String × Value)}
    (h : entries.Perm entries') (hkeys : (entries.map Prod.fst).Nodup) (key : String) :
    field? entries key = field? entries' key := by
  simp only [field?]
  induction h with
  | nil => rfl
  | cons e _ ih =>
    rw [List.map_cons, List.nodup_cons] at hkeys
    rw [List.lookup_cons, List.lookup_cons, ih hkeys.2]
  | swap e e' entries =>
    -- two neighbours may change places since their keys differ
    have hne : e.1 ≠ e'.1 := by
      rw [List.map_cons, List.map_cons, List.nodup_cons] at hkeys
      intro heq
      exact hkeys.1 (heq ▸ List.mem_cons_self)
    rw [List.lookup_cons, List.lookup_cons, List.lookup_cons, List.lookup_cons]
    by_cases hkey : key = e.1
    · have hkey' : (key == e'.1) = false := by
        rw [beq_eq_false_iff_ne, hkey]
        exact hne
      rw [hkey']
    · rw [beq_eq_false_iff_ne.mpr hkey]
  | trans hfirst _ ih ih' =>
    rw [ih hkeys, ih' ((hfirst.map Prod.fst).nodup_iff.mp hkeys)]

namespace Outcome

/-- Only the entries of the keys count: every stage of `ofRecord` gets at them with
`Value.field?`. -/
theorem ofRecord_congr [Depths] {entries entries' : List (String × Value)}
    (h : ∀ key, Value.field? entries key = Value.field? entries' key) :
    ofRecord (.object entries) = ofRecord (.object entries') := by
  have hstatus : readStatus entries = readStatus entries' := by
    funext name
    cases name <;> simp only [readStatus, readMessage, h]
  have hkind : readKind entries = readKind entries' := by
    simp only [readKind, h]
  have hname : readStatusName entries = readStatusName entries' := by
    simp only [readStatusName, h]
  rw [ofRecord_of_fields? (Value.fields?_object entries),
    ofRecord_of_fields? (Value.fields?_object entries'), hkind, hname, hstatus]

theorem nodup_keys_toRecord (o : Outcome) : (o.toRecord.map Prod.fst).Nodup := by
  obtain ⟨kind, status⟩ := o
  cases status <;> simp [toRecord, Status.statusCode?, Status.message?]

/-- What the record of an outcome consists of: names, the status code and the message. -/
theorem mem_toRecord {o : Outcome} {e : String × Value} (h : e ∈ o.toRecord) :
    (∃ s, e.2 = .text s) ∨ e.2 ∈ o.status.statusCode? ∨ e.2 ∈ o.status.message? := by
  simp only [toRecord, List.mem_append, List.mem_cons, List.not_mem_nil, or_false,
    Option.mem_toList, Option.map_eq_some_iff] at h
  obtain ((rfl | rfl) | ⟨code, hcode, rfl⟩) | ⟨message, hmessage, rfl⟩ := h
  · exact .inl ⟨_, rfl⟩
  · exact .inl ⟨_, rfl⟩
  · exact .inr (.inl hcode)
  · exact .inr (.inr hmessage)

/-- The integers in the record of a plain outcome can be read, since the limit for reading is the
one for writing. -/
theorem isShort_of_plain [Depths] {o : Outcome} (h : o.Plain) {e : String × Value}
    (he : e ∈ o.toRecord) : Json.IsShort .ofFiles e.2 := by
  intro i hi
  obtain ⟨s, hname⟩ | hcode | hmessage := mem_toRecord he
  · cases hname.symm.trans hi
  · obtain ⟨j, hj, hlimit⟩ := h.1 e.2 hcode
    cases hj.symm.trans hi
    exact hlimit
  · obtain ⟨_ | _, ht⟩ := h.2 e.2 hmessage
    · cases ht.symm.trans hi
    · cases ht.symm.trans hi

/-- Is there no pair of surrogates in the message? The spelling of a pair would be read as the
character that it makes up. -/
def Unpaired (o : Outcome) : Prop :=
  ∀ t ∈ o.status.message?.bind messageText?, Json.Unpaired t.points

instance (o : Outcome) : Decidable o.Unpaired :=
  inferInstanceAs (Decidable (∀ t ∈ o.status.message?.bind messageText?, Json.Unpaired t.points))

/-- The entries of the record of a plain outcome are texts and integers, which is all that
`Json.SpellsRecord` has spellings for. -/
theorem isDetail_of_plain {o : Outcome} (h : o.Plain) (hpairs : o.Unpaired) {e : String × Value}
    (he : e ∈ o.toRecord) : Json.IsDetail e.2 := by
  obtain ⟨s, hname⟩ | hcode | hmessage := mem_toRecord he
  · exact .inl ⟨.whole s, hname, Json.unpaired_whole s⟩
  · obtain ⟨i, hi, -⟩ := h.1 e.2 hcode
    exact .inr ⟨i, hi⟩
  · obtain ⟨t, ht⟩ := h.2 e.2 hmessage
    rw [ht] at hmessage
    exact .inl ⟨t, ht, hpairs t (Option.bind_eq_some_iff.mpr
      ⟨_, hmessage, messageText?_ofText t⟩)⟩

/-- A plain outcome is typed, and its code is a plain integer. -/
theorem typed_of_plain {o : Outcome} (h : o.Plain) : o.Typed ∧ o.canonical = o := by
  obtain ⟨kind, status⟩ := o
  refine ⟨⟨?_, h.2⟩, ?_⟩
  · intro code hcode
    obtain ⟨i, rfl, -⟩ := h.1 code hcode
    exact ⟨i, rfl⟩
  · cases status with
    | throttled code | httpError code =>
      obtain ⟨i, rfl, -⟩ := h.1 code rfl
      rfl
    | _ => rfl

end Outcome

namespace OutcomeFile

open Json (IsGap SpellsRecord)
open Text (IsUnbroken lineEnds linesOf trimBlanks)

/-- **A plain outcome is read back from its record**, however that is spelled and in whichever order
its entries come. The text is read as the record (`Json.read_of_spellsRecord`), the order makes no
difference (`Value.field?_of_perm`), and from the record the outcome is read
(`Outcome.ofRecord_toValue`). -/
theorem readLine_of_spellsRecord [Depths] {o : Outcome} (ho : o.Plain)
    {entries : List (String × Value)}
    (hentries : entries.Perm o.toRecord) {line : List Char} (h : SpellsRecord entries line) :
    readLine line = .ok o := by
  have hkeys : (entries.map Prod.fst).Nodup :=
    (hentries.map Prod.fst).nodup_iff.mpr o.nodup_keys_toRecord
  have hshort : ∀ e ∈ entries, Json.IsShort .ofFiles e.2 :=
    fun e he => Outcome.isShort_of_plain ho (hentries.mem_iff.mp he)
  have hread : Json.read .ofFiles line = .ok (.object entries) :=
    Json.read_of_spellsRecord h hshort (by decide : 0 < Number.digitLimit) Depths.reading_pos hkeys
  have hfields : Outcome.ofRecord (.object entries) = Outcome.ofRecord o.toValue :=
    Outcome.ofRecord_congr (Value.field?_of_perm hentries hkeys)
  obtain ⟨htyped, hcanonical⟩ := Outcome.typed_of_plain ho
  rw [readLine, hread]
  change Outcome.ofRecord (.object entries) = .ok o
  rw [hfields, Outcome.ofRecord_toValue htyped, hcanonical]

/-! ## Outcomes on lines -/

/-- What a line may hold: nothing but blanks, or the record of an outcome. -/
inductive SpellsLine : Option Outcome → List Char → Prop
  /-- A line of blanks holds nothing. -/
  | blank {line : List Char} (hline : IsUnbroken line) (hblank : trimBlanks line = []) :
    SpellsLine none line
  /-- A record with its entries in any order, and gaps around it. -/
  | record {o : Outcome} {entries : List (String × Value)} {before line after : List Char}
    (hentries : entries.Perm o.toRecord) (h : SpellsRecord entries line) (hbefore : IsGap before)
    (hafter : IsGap after) : SpellsLine (some o) (before ++ line ++ after)

/-- How outcomes may be written: each on a line of its own, among blank lines. -/
inductive Spells : List Outcome → List Char → Prop
  /-- The last line need not be ended. -/
  | last {held : Option Outcome} {line : List Char} (h : SpellsLine held line) :
    Spells held.toList line
  /-- A line, what ends it, and the lines after it. -/
  | cons {held : Option Outcome} {line ending rest : List Char} {outcomes : List Outcome}
    (h : SpellsLine held line) (hending : ending ∈ lineEnds) (hrest : Spells outcomes rest) :
    Spells (held.toList ++ outcomes) (line ++ ending ++ rest)

/-- What the printer writes of a plain outcome may stand on a line, unless there is a pair of
surrogates in its message, which nobody can write. -/
theorem SpellsLine.print {o : Outcome} (ho : o.Plain) (hpairs : o.Unpaired) :
    SpellsLine (some o) (Json.print o.toValue) := by
  have hnone : IsGap [] := fun _ h => absurd h List.not_mem_nil
  have hrecord : SpellsRecord o.toRecord (Json.print o.toValue) :=
    Json.spellsRecord_print (List.cons_ne_nil _ _) fun _ he =>
      Outcome.isDetail_of_plain ho hpairs he
  have hline := SpellsLine.record (.refl _) hrecord hnone hnone
  rwa [List.nil_append, List.append_nil] at hline

/-- **The printer's lines spell the outcomes**: each record on a line of its own, in their order. -/
theorem spells_print {outcomes : List Outcome} (hplain : ∀ o ∈ outcomes, o.Plain)
    (hpairs : ∀ o ∈ outcomes, o.Unpaired) :
    Spells outcomes (outcomes.flatMap fun o => Json.print o.toValue ++ ['\n']) := by
  induction outcomes with
  | nil => exact .last (.blank Text.isUnbroken_nil rfl)
  | cons o outcomes ih =>
    obtain ⟨ho, hplain⟩ := List.forall_mem_cons.mp hplain
    obtain ⟨hunpaired, hpairs⟩ := List.forall_mem_cons.mp hpairs
    rw [List.flatMap_cons]
    exact .cons (.print ho hunpaired) (by decide) (ih hplain hpairs)

theorem SpellsLine.isUnbroken {held : Option Outcome} {line : List Char}
    (h : SpellsLine held line) : IsUnbroken line := by
  cases h with
  | blank hline => exact hline
  | record _ h hbefore hafter =>
    exact Text.isUnbroken_append.mpr ⟨Text.isUnbroken_append.mpr ⟨Json.isUnbroken_of_isGap hbefore,
      Json.isUnbroken_of_spellsRecord h⟩, Json.isUnbroken_of_isGap hafter⟩

/-- What a line holds is read: nothing from a blank one, and its outcome from any other. -/
theorem SpellsLine.forall₂ [Depths] {held : Option Outcome} {line : List Char}
    (h : SpellsLine held line) (hplain : ∀ o ∈ held, o.Plain) :
    List.Forall₂ (fun line o => readLine line = .ok o) (contents [line]) held.toList := by
  cases h with
  | blank _ hblank =>
    rw [contents_cons_of_blank hblank]
    exact .nil
  | record hentries h hbefore hafter =>
    rename_i before line after
    have htrimmed : trimBlanks (before ++ line ++ after) = line :=
      Json.trimBlanks_of_spellsRecord h hbefore hafter
    have hne : line ≠ [] := by
      obtain ⟨middle, rfl⟩ := Json.exists_braces_of_spellsRecord h
      exact List.cons_ne_nil _ _
    rw [contents_cons_of_ne (by rwa [htrimmed]), htrimmed]
    exact .cons (readLine_of_spellsRecord (hplain _ rfl) hentries h) .nil

theorem contents_append (lines lines' : List (List Char)) :
    contents (lines ++ lines') = contents lines ++ contents lines' := by
  rw [contents, List.map_append, List.filter_append]
  rfl

/-- The contents of a line come first, whatever the line ends with. A carriage return may be half of
a line end whose other half begins the rest; then the rest has lost an empty line. -/
theorem contents_linesOf_append {line ending : List Char} (hline : IsUnbroken line)
    (hending : ending ∈ lineEnds) (rest : List Char) :
    contents (linesOf (line ++ ending ++ rest)) = contents [line] ++ contents (linesOf rest) := by
  by_cases hwhole : ending = ['\r'] → rest.head? ≠ some '\n'
  · rw [Text.linesOf_append hline hending hwhole, ← contents_append]
    rfl
  -- The carriage return and the line feed after it are one line end, and the empty line between
  -- them is none.
  · obtain ⟨rfl, hhead⟩ := Classical.not_imp.mp hwhole
    obtain ⟨rest, rfl⟩ := List.head?_eq_some_iff.mp (Classical.not_not.mp hhead)
    have hjoined : linesOf (line ++ ['\r', '\n'] ++ rest) = line :: linesOf rest :=
      Text.linesOf_append hline (by decide) (fun h => absurd h (by decide))
    have hempty : linesOf ('\n' :: rest) = [] :: linesOf rest := by
      change linesOf ([] ++ ['\n'] ++ rest) = _
      exact Text.linesOf_append Text.isUnbroken_nil (by decide) (fun h => absurd h (by decide))
    have hblank : trimBlanks [] = [] := rfl
    rw [List.append_assoc] at hjoined ⊢
    rw [hempty, contents_cons_of_blank hblank, ← contents_append]
    exact congrArg contents hjoined

/-- The last line needs no line end, and an empty one has no content anyway. -/
theorem contents_linesOf {line : List Char} (hline : IsUnbroken line) :
    contents (linesOf line) = contents [line] := by
  by_cases hne : line = []
  · subst hne
    rfl
  · rw [Text.linesOf_of_isUnbroken hline hne]

/-- **Plain outcomes are read back** from the lines that they are written on, by induction on how
they are written (`Spells`): each line adds its content to those of the rest. -/
theorem holdsText_of_spells [Depths] {outcomes : List Outcome} {text : List Char}
    (h : Spells outcomes text) (hplain : ∀ o ∈ outcomes, o.Plain) : HoldsText text outcomes := by
  induction h with
  | last h =>
    rw [HoldsText, contents_linesOf h.isUnbroken]
    exact h.forall₂ fun o ho => hplain o (Option.mem_toList.mpr ho)
  | cons h hending _ ih =>
    rw [HoldsText, contents_linesOf_append h.isUnbroken hending]
    refine List.rel_append (h.forall₂ fun o ho => ?_) (ih fun o ho => ?_)
    · exact hplain o (List.mem_append_left _ (Option.mem_toList.mpr ho))
    · exact hplain o (List.mem_append_right _ ho)

/-! ## Files -/

/-- What is told of the place where reading stopped: nothing at the end of the lines, or else a
fault of the outcome family that names the line, by its number from one. -/
inductive Tells (path : String) : Option (Nat × Fault) → Option Fault → Prop
  /-- Where nothing is wrong no fault is told. -/
  | nothing : Tells path none none
  /-- What is wrong with a line is told with its number, which begins with one. -/
  | line {count : Nat} {cause told : Fault} {reason : String}
    (hcause : cause.family = .json ∨ cause.family = .outcome) (hfamily : told.family = .outcome)
    (hmessage : told.message = path ++ ":" ++ toString (count + 1) ++ ": " ++ reason) :
    Tells path (some (count, cause)) (some told)

/-- A fault of the content of a line is told with the number of the line. -/
theorem tells_atLine (path : String) (count : Nat) {cause : Fault}
    (hcause : cause.family = .json ∨ cause.family = .outcome) :
    Tells path (some (count, cause)) (some (atLine path (1 + count) cause)) := by
  have htold : atLine path (1 + count) cause = .atLine path (1 + count) cause := by
    rw [atLine]
    obtain hcause | hcause := hcause <;> rw [hcause]
  rw [htold, Nat.add_comm]
  exact .line hcause rfl (Fault.message.eq_def _)

/-- A file that decodes is read by its lines: no block of it is refused, whatever the size of the
blocks. -/
theorem read_of_decode [Depths] {tree : FileTree} {path : FileTree.Path} {octets : List UInt8}
    {text : List Char} (hread : tree.read path.toText = .ok octets)
    (hdecode : Text.Utf8.decode octets = .ok text) :
    read tree path = readLines path.toText none 1 (linesOf text) := by
  have hblocks : Text.Utf8.readBlocks blockSize octets = ⟨text, none⟩ :=
    (Text.Utf8.readBlocks_eq_ok (by decide)).mpr hdecode
  rw [read, hread]
  dsimp only
  rw [readOctets_eq, seenLines, hblocks]
  rfl

open Machine

/-- An outcome whose message holds characters that break lines elsewhere. -/
def manyLines : Outcome :=
  ⟨.put, .otherError (.text "a\u2028b\u0085c\nd")⟩

/-- An outcome whose message ends with half a character. -/
def halfCharacter : Outcome :=
  ⟨.delete, .notFound (.ofText (.ofPoints [.char 'x', .surrogate ⟨0xD83D, by decide⟩]))⟩

/-- The outcomes, with a blank line between them and a line end of each kind. -/
def mixedLines : List Char :=
  Json.print manyLines.toValue ++ ['\r', '\n'] ++ (['\t', '\u3000'] ++ ['\r'] ++
    (Json.print halfCharacter.toValue ++ ['\n'] ++ []))

/-- The same lines, and one that holds no outcome. -/
def stoppedLines : List Char :=
  mixedLines ++ ['o', 'o', 'p', 's']

/-- A folder with a file of the lines and one of the lines that end badly. -/
def mixedFiles : FileTree :=
  (FileTree.empty.add "mixed" (some (Text.Utf8.encode (String.ofList mixedLines)))).add "stopped"
    (some (Text.Utf8.encode (String.ofList stoppedLines)))

/-- Each of the two is what the printer writes, and so one of the spellings. -/
theorem spells_mixedLines :
    Spells [manyLines, halfCharacter] mixedLines := by
  have hblank : SpellsLine none ['\t', '\u3000'] :=
    .blank (by decide) (by decide)
  have hend : SpellsLine none [] := .blank Text.isUnbroken_nil rfl
  exact .cons (.print (by decide +kernel) (by decide +kernel)) (by decide) (.cons hblank (by decide)
    (.cons (.print (by decide +kernel) (by decide +kernel)) (by decide) (.last hend)))

end OutcomeFile

end LoadLedger
