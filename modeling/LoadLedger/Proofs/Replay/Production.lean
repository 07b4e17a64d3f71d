import LoadLedger.Machine
import LoadLedger.Proofs.Outcome.Lines
import LoadLedger.Proofs.Replay.Failure

/-!
# What the producer puts

The producer puts the outcomes of the lines before the first one that fails, and the end mark after
them, however it ends (`Production.items_ofFile`). A line fails if it holds no outcome
(`OutcomeFile.ReadsUpTo`), or if it is not complete in the blocks before the one that does not
decode (`OutcomeFile.Legible`). A pause that cannot be made is noticed after the first outcome.

There is one exception. The length of a pause is computed before anything is put, and a rate of
which it cannot be computed leaves the queue as it was, without an end mark
(`Production.items_hugeRate`).
-/

namespace LoadLedger

/-! ## Lines that can be read -/

namespace OutcomeFile

/-- The lines that can be read of some octets: all of them if the octets decode, and otherwise those
that are complete in the blocks before the one that is refused. The blocks are those of
`Text.Utf8.readBlocks`. -/
inductive Legible (octets : List UInt8) : List (List Char) → Prop
  /-- All octets decode, and the last line need not be ended. -/
  | whole {text : List Char} (hdecode : Text.Utf8.decode octets = .ok text) :
    Legible octets (Text.linesOf text)
  /-- Only lines that are complete before the refused block are seen. -/
  | cut {blocks : Nat} {text : List Char} {rest : List UInt8}
    (hdecode : ∀ text, Text.Utf8.decode octets ≠ .ok text)
    (hbegun : Text.Utf8.begun? (octets.take (blocks * blockSize)) = some (text, rest))
    (hrefused : Text.Utf8.RefusedAfter blockSize blocks octets rest) :
    Legible octets (Text.completeLines text)

/-- Octets decode exactly if no block is refused. -/
theorem refusal_eq_none_iff {octets : List UInt8} :
    (Text.Utf8.readBlocks blockSize octets).refusal = none ↔
      ∃ text, Text.Utf8.decode octets = .ok text := by
  have hsize : 0 < blockSize := by decide
  constructor
  · intro h
    exact ⟨_, (Text.Utf8.readBlocks_eq_ok hsize).mp (congrArg (Text.Utf8.Reading.mk _) h)⟩
  · rintro ⟨text, hdecode⟩
    rw [(Text.Utf8.readBlocks_eq_ok hsize).mpr hdecode]

/-- What a reader sees of some octets are the lines that can be read of them: those of all blocks,
or of the blocks before the one that is refused. -/
theorem legible_seenLines (octets : List UInt8) : Legible octets (seenLines octets) := by
  have hdecodes : (Text.Utf8.readBlocks blockSize octets).refusal = none ↔
      ∃ text, Text.Utf8.decode octets = .ok text := refusal_eq_none_iff
  rw [seenLines]
  cases hrefusal : (Text.Utf8.readBlocks blockSize octets).refusal with
  | none =>
    exact .whole ((Text.Utf8.readBlocks_eq_ok (by decide)).mp
      (congrArg (Text.Utf8.Reading.mk _) hrefusal))
  | some refusal =>
    obtain ⟨blocks, rest, hbegun, hrefused⟩ :=
      Text.Utf8.readBlocks_refused (congrArg (Text.Utf8.Reading.mk _) hrefusal)
    refine .cut (fun text hdecode => ?_) hbegun hrefused
    cases hrefusal.symm.trans (hdecodes.mpr ⟨text, hdecode⟩)

/-- **A file is read line by line**, up to a bad line, or else up to a block that is refused. -/
theorem exists_readsUpTo_readOctets [Depths] (path : String) (octets : List UInt8) :
    ∃ lines stop, Legible octets lines ∧ ReadsUpTo lines (readOctets path octets).outcomes stop ∧
      ((readOctets path octets).fault = none ↔
        (∃ text, Text.Utf8.decode octets = .ok text) ∧ stop = none) := by
  obtain ⟨stop, hreads, hfault⟩ := exists_readsUpTo path
    ((Text.Utf8.readBlocks blockSize octets).refusal.map .undecodable) 1 (seenLines octets)
  rw [readOctets_eq]
  refine ⟨seenLines octets, stop, legible_seenLines octets, hreads, ?_⟩
  rw [hfault, ← refusal_eq_none_iff]
  cases stop with
  | none => rw [faultAt, Option.map_eq_none_iff]; simp
  | some found => simp [faultAt]

end OutcomeFile

namespace Production

open OutcomeFile

/-! ## Pauses -/

/-- A rate of which no pause can be computed: an integer beyond the range of floating-point numbers,
or something that is no number and does not count as absent. -/
def Unpaceable (rate : Value) : Prop :=
  rate.isGiven = true ∧
    (rate.amount? = none ∨ ∃ i, rate.amount? = some (.int i) ∧ Number.ofInt? i = none)

/-- No pause can be computed of such a rate, and of any other one it can. -/
theorem exists_pauseOf_eq_error {rate : Value} :
    (∃ cause, pauseOf rate = .error cause) ↔ Unpaceable rate := by
  rw [pauseOf, Unpaceable]
  cases rate.isGiven with
  | false => simp
  | true =>
    cases rate.amount? with
    | none => simp
    | some amount =>
      cases amount with
      | float x => simp
      | int i => cases hfloat : Number.ofInt? i <;> simp [hfloat]

/-! ## Items -/

/-- **What is put of a reading**: all outcomes, or just the first one if no pause can be made, and
the end mark. -/
theorem ofReading_cases (reading : OutcomeReading) (pause : Float) :
    (ofReading reading pause).closed = true ∧
      (ofReading reading pause).outcomes =
        (match makePause pause with
          | .ok _ => reading.outcomes
          | .error _ => reading.outcomes.take 1) ∧
      ∀ count, (ofReading reading pause).result = .ok count ↔
        reading.fault = none ∧ (reading.outcomes = [] ∨ makePause pause = .ok ()) ∧
          count = reading.outcomes.length := by
  rw [ofReading]
  cases reading.outcomes with
  | nil =>
    cases makePause pause with
    | ok _ => cases reading.fault <;> simp [eq_comm]
    | error cause => cases reading.fault <;> simp [eq_comm]
  | cons o outcomes =>
    cases makePause pause with
    | ok _ => cases reading.fault <;> simp [eq_comm]
    | error cause => simp

/-- What is put of a file that can be opened, by its lines. -/
theorem exists_lines_of_readOctets [Depths] (path : String) (octets : List UInt8) (pause : Float) :
    let p := ofReading (readOctets path octets) pause
    ∃ lines valid stop, Legible octets lines ∧ ReadsUpTo lines valid stop ∧
      (makePause pause = .ok () → p.outcomes = valid) ∧
      (∀ cause, makePause pause = .error cause → p.outcomes = valid.take 1) ∧
      ∀ count, p.result = .ok count ↔
        ((∃ text, Text.Utf8.decode octets = .ok text) ∧ stop = none ∧
          (valid = [] ∨ makePause pause = .ok ())) ∧
        count = p.outcomes.length ∧ count = (contents lines).length := by
  intro p
  obtain ⟨-, houtcomes, hresult⟩ := ofReading_cases (readOctets path octets) pause
  obtain ⟨lines, stop, hlegible, hreads, hfault⟩ := exists_readsUpTo_readOctets path octets
  have hall : makePause pause = .ok () → p.outcomes = (readOctets path octets).outcomes :=
    fun hmade => by rw [houtcomes, hmade]
  refine ⟨lines, _, stop, hlegible, hreads, hall, fun cause hmade => by rw [houtcomes, hmade],
    fun count => ?_⟩
  rw [hresult, hfault, and_assoc, and_assoc, and_assoc]
  refine and_congr_right fun hdecode => and_congr_right fun hstop =>
    and_congr_right fun hmade => ?_
  -- without a pause that fails, or without an outcome, all that was read is put
  have hsame : p.outcomes = (readOctets path octets).outcomes := by
    obtain hnone | hmade := hmade
    · rw [houtcomes, hnone]
      cases makePause pause <;> rfl
    · exact hall hmade
  subst hstop
  rw [hsame, hreads.length_eq]
  exact (and_self_iff).symm

/-- **What the producer puts.** A rate of which no pause can be computed leaves the queue as it was.
At any other rate the producer puts the outcomes of the lines before the first one that fails, or
just the first of them if no pause can be made, and the end mark after them, whether it returns or
raises. It returns the number of these outcomes exactly if nothing has failed, and then there is one
for each line that is not blank. Up to where the lines are read says `OutcomeFile.ReadsUpTo`, and
which lines there are `Legible`. -/
theorem items_ofFile [Depths] (tree : FileTree) (path : FileTree.Path) (rate : Value) :
    let p := ofFile tree path rate
    let inboundAfter := fun i : Ingestion => (p.items.foldl Ingestion.put i).inbound
    ((∃ cause, pauseOf rate = .error cause) ↔ Unpaceable rate) ∧
    (∀ cause, pauseOf rate = .error cause →
      p.result = .error cause ∧ ∀ i, inboundAfter i = i.inbound) ∧
    ∀ pause, pauseOf rate = .ok pause →
      (∀ i, inboundAfter i = i.inbound ++ p.outcomes.map .outcome ++ [.finish]) ∧
      (∀ cause, tree.read path.toText = .error cause →
        p.result = .error cause ∧ p.outcomes = []) ∧
      ∀ octets, tree.read path.toText = .ok octets →
        ∃ lines valid stop, Legible octets lines ∧ ReadsUpTo lines valid stop ∧
          (makePause pause = .ok () → p.outcomes = valid) ∧
          (∀ cause, makePause pause = .error cause → p.outcomes = valid.take 1) ∧
          ∀ count, p.result = .ok count ↔
            ((∃ text, Text.Utf8.decode octets = .ok text) ∧ stop = none ∧
              (valid = [] ∨ makePause pause = .ok ())) ∧
            count = p.outcomes.length ∧ count = (contents lines).length := by
  intro p inboundAfter
  refine ⟨exists_pauseOf_eq_error, ?_, ?_⟩
  · intro cause hpause
    -- the pause is computed first, and nothing is put if that fails
    have hp : p = ⟨[], false, .error cause⟩ := by
      simp only [p, ofFile, hpause]
    refine ⟨by rw [hp], fun i => ?_⟩
    simp only [inboundAfter, hp]
    rfl
  · intro pause hpause
    have hp : p = ofReading (OutcomeFile.read tree path) pause := by
      simp only [p, ofFile, hpause]
    obtain ⟨hclosed, -⟩ := ofReading_cases (OutcomeFile.read tree path) pause
    refine ⟨fun i => ?_, ?_, ?_⟩
    · simp only [inboundAfter, Replay.foldl_put, items, hp, hclosed, if_true, List.append_assoc]
    · intro cause hread
      have hreading : OutcomeFile.read tree path = ⟨[], some cause⟩ := by
        rw [OutcomeFile.read, hread]
      rw [hp, hreading, ofReading]
      exact ⟨rfl, rfl⟩
    · intro octets hread
      have hreading : OutcomeFile.read tree path = readOctets path.toText octets := by
        rw [OutcomeFile.read, hread]
      rw [hp, hreading]
      exact exists_lines_of_readOctets path.toText octets pause

/-- An empty file. -/
def emptyFile : FileTree :=
  FileTree.empty.add "outcomes" (some [])

open Machine

/-- An integer that is too large for a floating-point number is a rate at which not even the end
mark of an empty file is put. -/
theorem items_hugeRate :
    (ofFile emptyFile (.ofString "outcomes") .null).items = [.finish] ∧
      (ofFile emptyFile (.ofString "outcomes") (.int (10 ^ 400))).items = [] := by
  refine ⟨?_, ?_⟩
  · rw [ofFile_of_canPace _ _ canPace_null]
    rfl
  · have hpause : pauseOf (.int (10 ^ 400)) = .error .integerTooLarge := by
      have hnone : Number.ofInt? (10 ^ 400) = none := by decide +kernel
      rw [pauseOf, if_pos (by decide +kernel)]
      dsimp only [Value.amount?]
      rw [hnone]
    rw [ofFile, hpause]
    rfl

end Production

end LoadLedger
