import LoadLedger.Text.Lines
import Mathlib.Data.List.Basic

/-!
# How a text splits into lines

The lines of a text are those that the three line ends separate, and no other character ends a line
(`Text.splitsInto_iff`). The line ends are unified first, and then the text is cut at the line feeds
(`Text.unifyLineEnds`, `Text.splitLines`); both leave the characters of a line alone.

`Text.IsUnbroken` says that a line has none of the characters that end one, and `Text.SplitsInto`
puts a text together from such lines and line ends. That there is one way to do this is what
`Text.splitsInto_iff` adds: the lines are `Text.linesOf`.
-/

namespace LoadLedger.Text

/-- Does no line end within the characters? -/
def IsUnbroken (line : List Char) : Prop :=
  '\n' ∉ line ∧ '\r' ∉ line

instance (line : List Char) : Decidable (IsUnbroken line) :=
  inferInstanceAs (Decidable (_ ∧ _))

/-- What a line may end with. -/
def lineEnds : List (List Char) :=
  [['\n'], ['\r', '\n'], ['\r']]

/-- A text splits into lines, each with its line end; the last one may lack it. A carriage return
and the line feed after it are one line end. -/
inductive SplitsInto : List Char → List (List Char) → Prop
  | nil : SplitsInto [] []
  /-- A last line that is not ended. It is not empty. -/
  | last {line : List Char} (hline : IsUnbroken line) (hne : line ≠ []) : SplitsInto line [line]
  /-- A line with its end. A line feed after a carriage return belongs to it. -/
  | cons {line ending rest : List Char} {lines : List (List Char)} (hline : IsUnbroken line)
    (hending : ending ∈ lineEnds) (hwhole : ending = ['\r'] → rest.head? ≠ some '\n')
    (hrest : SplitsInto rest lines) : SplitsInto (line ++ ending ++ rest) (line :: lines)

variable {line ending rest : List Char}

theorem isUnbroken_cons {c : Char} :
    IsUnbroken (c :: line) ↔ c ≠ '\n' ∧ c ≠ '\r' ∧ IsUnbroken line := by
  simp only [IsUnbroken, List.mem_cons, not_or, ne_comm (a := c)]
  tauto

/-- Pieces of a line are unbroken, and they make up an unbroken one. -/
theorem isUnbroken_append {other : List Char} :
    IsUnbroken (line ++ other) ↔ IsUnbroken line ∧ IsUnbroken other := by
  simp only [IsUnbroken, List.mem_append, not_or]
  tauto

theorem isUnbroken_nil : IsUnbroken [] :=
  ⟨List.not_mem_nil, List.not_mem_nil⟩

/-! ## Line ends -/

/-- The three `lineEnds`, one by one. -/
theorem mem_lineEnds :
    ending ∈ lineEnds ↔ ending = ['\n'] ∨ ending = ['\r', '\n'] ∨ ending = ['\r'] := by
  simp only [lineEnds, List.mem_cons, List.not_mem_nil, or_false]

/-- A line end takes up some characters, so that what follows it is shorter than the text. -/
theorem length_pos_of_mem_lineEnds (hending : ending ∈ lineEnds) : 0 < ending.length := by
  obtain rfl | rfl | rfl := mem_lineEnds.mp hending <;> decide

/-- `unifyLineEnds` leaves the characters of a line alone, and makes a line feed of what ends it
(`unifyLineEnds_ending`). -/
theorem unifyLineEnds_append (hline : IsUnbroken line) (rest : List Char) :
    unifyLineEnds (line ++ rest) = line ++ unifyLineEnds rest := by
  induction line with
  | nil => rfl
  | cons c line ih =>
    obtain ⟨-, hreturn, hline⟩ := isUnbroken_cons.mp hline
    rw [List.cons_append, unifyLineEnds, ih hline, if_neg (by rwa [beq_iff_eq])]
    · rfl
    · exact fun _ h => absurd h hreturn

theorem unifyLineEnds_ending (hending : ending ∈ lineEnds)
    (hwhole : ending = ['\r'] → rest.head? ≠ some '\n') :
    unifyLineEnds (ending ++ rest) = '\n' :: unifyLineEnds rest := by
  obtain rfl | rfl | rfl := mem_lineEnds.mp hending
  · rfl
  · rfl
  · cases rest with
    | nil => rfl
    | cons c rest =>
      have hfeed : c ≠ '\n' := fun h => hwhole rfl (congrArg some h)
      rw [List.cons_append, List.nil_append, unifyLineEnds]
      · rfl
      · rintro more - ⟨⟩
        exact hfeed rfl

/-! ## Cutting at line feeds -/

/-- Without a line feed `splitLines` has no complete line, and all is left over. -/
theorem splitLines_of_notMem (h : '\n' ∉ line) : splitLines line = ([], line) := by
  induction line with
  | nil => rfl
  | cons c line ih =>
    obtain ⟨hc, hline⟩ := not_or.mp (mt List.mem_cons.mpr h)
    rw [splitLines, ih hline]
    exact if_neg (by rwa [beq_iff_eq, eq_comm])

theorem splitLines_append (h : '\n' ∉ line) (rest : List Char) :
    splitLines (line ++ '\n' :: rest) = (line :: (splitLines rest).1, (splitLines rest).2) := by
  induction line with
  | nil => rfl
  | cons c line ih =>
    obtain ⟨hc, hline⟩ := not_or.mp (mt List.mem_cons.mpr h)
    rw [List.cons_append, splitLines, ih hline]
    exact if_neg (by rwa [beq_iff_eq, eq_comm])

/-! ## Lines -/

theorem linesOf_of_isUnbroken (hline : IsUnbroken line) (hne : line ≠ []) :
    linesOf line = [line] := by
  have hunified : unifyLineEnds line = line := by
    have happend := unifyLineEnds_append hline []
    rwa [List.append_nil, unifyLineEnds, List.append_nil] at happend
  rw [linesOf, hunified, splitLines_of_notMem hline.1]
  exact if_neg (by rwa [List.isEmpty_iff])

/-- **A line and its line end come off the text**, and the lines of the rest are what they were: the
two steps of `linesOf` leave the line alone one after the other. -/
theorem linesOf_append (hline : IsUnbroken line) (hending : ending ∈ lineEnds)
    (hwhole : ending = ['\r'] → rest.head? ≠ some '\n') :
    linesOf (line ++ ending ++ rest) = line :: linesOf rest := by
  rw [linesOf, List.append_assoc, unifyLineEnds_append hline, unifyLineEnds_ending hending hwhole,
    splitLines_append hline.1, linesOf]
  dsimp only
  split <;> rfl

/-- A text begins with characters of a line, and then it ends or the line does. This is the
induction on characters that the induction on lines rests upon. -/
theorem exists_unbroken_append (text : List Char) :
    ∃ line rest, text = line ++ rest ∧ IsUnbroken line ∧
      (rest = [] ∨ ∃ ending more, rest = ending ++ more ∧ ending ∈ lineEnds ∧
        (ending = ['\r'] → more.head? ≠ some '\n')) := by
  induction text with
  | nil => exact ⟨[], [], rfl, isUnbroken_nil, .inl rfl⟩
  | cons c text ih =>
    by_cases hfeed : c = '\n'
    · subst hfeed
      exact ⟨[], _, rfl, isUnbroken_nil, .inr ⟨['\n'], text, rfl, by simp [lineEnds], by simp⟩⟩
    by_cases hreturn : c = '\r'
    · subst hreturn
      refine ⟨[], _, rfl, isUnbroken_nil, .inr ?_⟩
      by_cases hnext : text.head? = some '\n'
      · obtain ⟨more, rfl⟩ := List.head?_eq_some_iff.mp hnext
        exact ⟨['\r', '\n'], more, rfl, by simp [lineEnds], by simp⟩
      · exact ⟨['\r'], text, rfl, by simp [lineEnds], fun _ => hnext⟩
    · obtain ⟨line, rest, rfl, hline, hrest⟩ := ih
      exact ⟨c :: line, rest, rfl, isUnbroken_cons.mpr ⟨hfeed, hreturn, hline⟩, hrest⟩

/-- Every text splits into its lines, by induction on its length: each line end makes it shorter. -/
theorem splitsInto_linesOf (text : List Char) : SplitsInto text (linesOf text) := by
  induction hlength : text.length using Nat.strongRecOn generalizing text with
  | ind n ih =>
    obtain ⟨line, rest, rfl, hline, rfl | ⟨ending, more, rfl, hending, hwhole⟩⟩ :=
      exists_unbroken_append text
    · rw [List.append_nil]
      by_cases hne : line = []
      · subst hne
        exact .nil
      · rw [linesOf_of_isUnbroken hline hne]
        exact .last hline hne
    · have hpos := length_pos_of_mem_lineEnds hending
      rw [List.length_append, List.length_append] at hlength
      rw [← List.append_assoc, linesOf_append hline hending hwhole]
      exact .cons hline hending hwhole (ih _ (by omega) more rfl)

/-- **A text splits into its lines**, and into no others: `linesOf` is the only way in which
`SplitsInto` goes. -/
theorem splitsInto_iff {text : List Char} {lines : List (List Char)} :
    SplitsInto text lines ↔ lines = linesOf text := by
  constructor
  · intro h
    induction h with
    | nil => rfl
    | last hline hne => exact (linesOf_of_isUnbroken hline hne).symm
    | cons hline hending hwhole _ ih => rw [ih, linesOf_append hline hending hwhole]
  · rintro rfl
    exact splitsInto_linesOf text

end LoadLedger.Text
