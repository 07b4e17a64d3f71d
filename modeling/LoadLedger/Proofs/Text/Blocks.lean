import LoadLedger.Text.Utf8
import Mathlib.Data.List.Basic

/-!
# Decoding in blocks

Blocks that are decoded one after the other give the text that decoding at once gives
(`Text.Utf8.readBlocks_eq_ok`): a text decodes in blocks of one size exactly if it decodes as a
whole. The argument goes through a decoder that knows neither positions nor what it has decoded
before (`Text.Utf8.scan?`), for which two pieces in a row are the two pieces (`scan?_append`), and
what is held back at the end of a block can be scanned again with the next one (`Resumes`).

Where a block is refused, the text before it is what the decoder makes of all blocks before as one
piece that may go on (`Text.Utf8.begun?`, `Text.Utf8.readBlocks_refused`).
-/

namespace LoadLedger.Text.Utf8

/-- The characters of octets that follow those held back, and what is held back at the end:
`decodeFrom` without positions and without what it has decoded before. It has no answer where the
decoder refuses an octet. -/
def scan? (held : List UInt8) : List UInt8 → Option (List Char × List UInt8)
  | [] => some ([], held)
  | b :: more =>
    if accepts held b then
      match whole? (held ++ [b]) with
      | some c => (scan? [] more).map fun (text, rest) => (c :: text, rest)
      | none => scan? (held ++ [b]) more
    else none

variable {held octets : List UInt8} {position size : Nat} {done text : List Char}

/-! ## Laws of scanning -/

/-- **Two pieces in a row** are scanned one after the other: what is held back of the first one goes
before the second one. So `scan?` may be applied octet by octet or block by block. -/
theorem scan?_append (held octets more : List UInt8) :
    scan? held (octets ++ more) = (scan? held octets).bind fun (text, rest) =>
      (scan? rest more).map fun (text', rest') => (text ++ text', rest') := by
  -- Along the octets of the first piece, with what is held back of them left open.
  induction octets generalizing held with
  | nil =>
    rw [List.nil_append, scan?, Option.bind_some]
    simp only [List.nil_append, Option.map_id']
  | cons b octets ih =>
    rw [List.cons_append, scan?, scan?]
    split
    · split
      · rw [ih, Option.map_bind, Option.bind_map]
        congr 1
        funext scanned
        simp only [Function.comp_apply, Option.map_map]
        rfl
      · exact ih _
    · rfl

/-- Octets that begin a character are held back in whole, whenever they are scanned. -/
def Resumes (held : List UInt8) : Prop :=
  ∀ text rest, scan? [] held = some (text, rest) → text = [] ∧ rest = held

theorem resumes_nil : Resumes [] := by
  rintro _ _ ⟨⟩
  exact ⟨rfl, rfl⟩

/-- What is held back can be scanned again, and is held back again: it is the beginning of a
character, whose octets `accepts` has let pass one by one. -/
theorem scan?_held (hheld : scan? [] held = some ([], held)) {rest : List UInt8}
    (h : scan? held octets = some (text, rest)) : scan? [] rest = some ([], rest) := by
  -- octets that are held are no character yet, and the next one is put after them
  induction octets generalizing held text with
  | nil =>
    cases h
    exact hheld
  | cons b octets ih =>
    rw [scan?] at h
    split at h
    · rename_i haccepts
      split at h
      · obtain ⟨⟨text', rest'⟩, hscan, ⟨⟩⟩ := Option.map_eq_some_iff.mp h
        exact ih rfl hscan
      · rename_i hwhole
        refine ih ?_ h
        rw [scan?_append, hheld, Option.bind_some]
        simp only [scan?, haccepts, if_true, hwhole, Option.map_some, List.nil_append]
    · cases h

/-! ## The decoder -/

/-- What can be scanned is decoded by `decodeFrom`, wherever it stands and whatever was decoded
before. -/
theorem decodeFrom_of_scan? {last : Bool} {tail : List Char} {rest : List UInt8}
    (h : scan? held octets = some (tail, rest)) :
    decodeFrom last position held done octets = .ok (done.reverse ++ tail, rest) := by
  -- both go octet by octet
  induction octets generalizing position held done tail with
  | nil =>
    cases h
    rw [decodeFrom, List.append_nil]
  | cons b octets ih =>
    rw [scan?] at h
    rw [decodeFrom]
    split at h
    · rename_i haccepts
      rw [if_pos haccepts]
      cases hwhole : whole? (held ++ [b]) with
      | some c =>
        rw [hwhole] at h
        obtain ⟨⟨tail', rest'⟩, hscan, ⟨⟩⟩ := Option.map_eq_some_iff.mp h
        dsimp only
        rw [ih hscan, List.reverse_cons, List.append_assoc, List.singleton_append]
      | none =>
        rw [hwhole] at h
        exact ih h
    · cases h

/-- No character begins like a surrogate, whose octets look like those of one: `accepts` refuses the
second one. -/
theorem scan?_surrogate {b : UInt8} (h : beginsSurrogate held b = true) :
    scan? [] (held ++ [b]) = none := by
  rw [beginsSurrogate, Bool.and_eq_true, Bool.and_eq_true, beq_iff_eq] at h
  obtain ⟨⟨rfl, hlow⟩, -⟩ := h
  have hfirst : accepts [] 0xED = true ∧ whole? [0xED] = none := by decide
  have hfollow : accepts [0xED] b = false := by
    have hhigh : ¬ b ≤ 0x9F :=
      UInt8.not_le.mpr (UInt8.lt_of_lt_of_le (by decide) (of_decide_eq_true hlow))
    simp [accepts, mayFollow, hhigh]
  simp only [List.singleton_append, scan?, List.nil_append, hfirst, hfollow, if_true,
    Bool.false_eq_true, if_false]

/-- What is decoded can be scanned, or else it ends with what begins like a surrogate and is held
back. The second case arises only where the octets may go on; with the next octet they are
refused. -/
theorem scan?_of_decodeFrom {last : Bool} {rest : List UInt8}
    (h : decodeFrom last position held done octets = .ok (text, rest)) :
    (∃ tail, scan? held octets = some (tail, rest) ∧ text = done.reverse ++ tail) ∨
      (last = false ∧ scan? held octets = none ∧ scan? [] rest = none) := by
  induction octets generalizing position held done with
  | nil =>
    cases h
    exact .inl ⟨[], rfl, (List.append_nil _).symm⟩
  | cons b octets ih =>
    rw [decodeFrom] at h
    rw [scan?]
    split at h
    · rename_i haccepts
      rw [if_pos haccepts]
      cases hwhole : whole? (held ++ [b]) with
      | some c =>
        rw [hwhole] at h
        obtain ⟨tail, hscan, htext⟩ | ⟨hlast, hscan, hrest⟩ := ih h
        · refine .inl ⟨c :: tail, ?_, ?_⟩
          · dsimp only
            rw [hscan, Option.map_some]
          · rw [htext, List.reverse_cons, List.append_assoc, List.singleton_append]
        · refine .inr ⟨hlast, ?_, hrest⟩
          dsimp only
          rw [hscan, Option.map_none]
      | none =>
        rw [hwhole] at h
        exact ih h
    · rename_i haccepts
      rw [if_neg haccepts]
      split at h
      · rename_i hsurrogate
        cases h
        -- the start of a surrogate is held back in the middle of a file, and never completed
        rw [Bool.and_eq_true, Bool.and_eq_true, Bool.not_eq_true'] at hsurrogate
        exact .inr ⟨hsurrogate.2, rfl, scan?_surrogate hsurrogate.1.1⟩
      · cases h

/-- Octets that are refused cannot be scanned, even if more may follow. -/
theorem scan?_of_decodeFrom_error {r : Refusal}
    (h : decodeFrom false 0 [] [] octets = .error r) : scan? [] octets = none := by
  cases hscan : scan? [] octets with
  | none => rfl
  | some scanned => cases (decodeFrom_of_scan? hscan).symm.trans h

/-- A whole text decodes if it can be scanned and nothing is held back at the end. For a whole text
the second case of `scan?_of_decodeFrom` does not arise. -/
theorem decode_eq_ok : decode octets = .ok text ↔ scan? [] octets = some (text, []) := by
  rw [decode]
  constructor
  · intro h
    split at h
    · cases h
    · rename_i hdecode
      cases h
      obtain ⟨tail, hscan, htext⟩ | ⟨hlast, -⟩ := scan?_of_decodeFrom hdecode
      · rw [hscan, htext]
        rfl
      · cases hlast
    · cases h
  · intro h
    rw [decodeFrom_of_scan? h]
    rfl

/-! ## Blocks -/

/-- What is held back is scanned in whole only if it is nothing. -/
theorem scan?_of_resumes (hheld : Resumes held) :
    scan? [] held = some (text, []) ↔ held = [] ∧ text = [] := by
  constructor
  · intro h
    obtain ⟨htext, hrest⟩ := hheld _ _ h
    exact ⟨hrest.symm, htext⟩
  · rintro ⟨rfl, rfl⟩
    rfl

section Block

variable {last : Bool} {front : List Char} {back more : List UInt8}

/-- What is held back at the end of a block is held back in whole again (`scan?_held`), or cannot be
scanned at all. -/
theorem resumes_of_decodeFrom (h : decodeFrom last 0 [] [] octets = .ok (front, back)) :
    Resumes back := by
  intro text rest hscan
  obtain ⟨tail, hblock, -⟩ | ⟨-, -, hback⟩ := scan?_of_decodeFrom h
  · cases (scan?_held rfl hblock).symm.trans hscan
    exact ⟨rfl, rfl⟩
  · cases hback.symm.trans hscan

/-- After a block it goes on with what was held back: the octets of the block and what follows are
scanned as if the block were gone, up to its characters. -/
theorem scan?_block (h : decodeFrom last 0 [] [] octets = .ok (front, back)) :
    scan? [] (octets ++ more) =
      (scan? [] (back ++ more)).map fun (text, rest) => (front ++ text, rest) := by
  rw [scan?_append, scan?_append]
  obtain ⟨tail, hblock, htext⟩ | ⟨-, hblock, hback⟩ := scan?_of_decodeFrom h
  · subst htext
    rw [hblock, scan?_held rfl hblock]
    simp only [Option.bind_some, List.nil_append, Option.map_id']
  · rw [hblock, hback]
    rfl

end Block

/-- Blocks are decoded without a refusal exactly if what is left can be scanned in whole. The
induction is on the blocks that remain, with what is held back of the blocks before left open. -/
theorem readBlocksFor_eq {fuel : Nat} (hsize : 0 < size) (hheld : Resumes held)
    (hfuel : octets.length < fuel) :
    readBlocksFor size fuel held octets = ⟨text, none⟩ ↔
      scan? [] (held ++ octets) = some (text, []) := by
  induction fuel generalizing held octets text with
  | zero => exact absurd hfuel (Nat.not_lt_zero _)
  | succ fuel ih =>
    rw [readBlocksFor.eq_def]
    dsimp only
    split
    · -- at the end nothing may be held back
      rw [List.append_nil, scan?_of_resumes hheld]
      cases held with
      | nil =>
        constructor
        · rintro ⟨⟩
          exact ⟨rfl, rfl⟩
        · rintro ⟨-, rfl⟩
          rfl
      | cons b more => exact iff_of_false (by rintro ⟨⟩) (by rintro ⟨⟨⟩, -⟩)
    · rename_i hmore
      have hlength : (octets.drop size).length < fuel := by
        have hpos := List.length_pos_of_ne_nil hmore
        rw [List.length_drop]
        omega
      -- the block, and then the rest of the octets
      have hsplit : held ++ octets = (held ++ octets.take size) ++ octets.drop size := by
        rw [List.append_assoc, List.take_append_drop]
      rw [hsplit]
      cases hblock : decodeFrom false 0 [] [] (held ++ octets.take size) with
      | error r =>
        rw [scan?_append, scan?_of_decodeFrom_error hblock]
        exact iff_of_false (by rintro ⟨⟩) (by rintro ⟨⟩)
      | ok decoded =>
        obtain ⟨front, back⟩ := decoded
        have hresumes := resumes_of_decodeFrom hblock
        rw [scan?_block hblock]
        constructor
        · intro h
          obtain ⟨rfl, hrefusal⟩ := Reading.mk.inj h
          rw [(ih hresumes hlength).mp (congrArg (Reading.mk _) hrefusal)]
          rfl
        · intro h
          obtain ⟨⟨text', rest'⟩, hnext, ⟨⟩⟩ := Option.map_eq_some_iff.mp h
          dsimp only
          rw [(ih hresumes hlength).mpr hnext]

/-- **A text decodes in blocks exactly if it decodes as a whole**, and it is the same text. The size
of the blocks does not matter, as long as they are not empty. -/
theorem readBlocks_eq_ok (hsize : 0 < size) :
    readBlocks size octets = ⟨text, none⟩ ↔ decode octets = .ok text := by
  rw [readBlocks, readBlocksFor_eq hsize resumes_nil (Nat.lt_succ_self _), decode_eq_ok,
    List.nil_append]

/-! ## Blocks that are refused -/

/-- What is decoded of octets that may go on, and what is held back of them; nothing if they are
refused already. -/
def begun? (octets : List UInt8) : Option (List Char × List UInt8) :=
  (decodeFrom false 0 [] [] octets).toOption

/-- Positions and what was decoded before make no difference. -/
theorem toOption_decodeFrom (last : Bool) (position : Nat) (held : List UInt8) (done : List Char)
    (octets : List UInt8) :
    (decodeFrom last position held done octets).toOption =
      ((decodeFrom last 0 held [] octets).toOption).map fun (text, rest) =>
        (done.reverse ++ text, rest) := by
  induction octets generalizing position held done with
  | nil =>
    simp only [decodeFrom, Except.toOption, Option.map_some, List.reverse_nil, List.append_nil]
  | cons b octets ih =>
    rw [decodeFrom, decodeFrom]
    split
    · split
      · rename_i c _
        rw [ih _ [] (c :: done), ih _ [] [c], Option.map_map]
        simp only [Function.comp_def, List.reverse_cons, List.append_assoc, List.reverse_nil,
          List.nil_append]
      · exact ih position _ done
    · split
      · simp only [Except.toOption, Option.map_some, List.reverse_nil, List.append_nil]
      · rfl

/-- A piece in which no character ends is held back in whole, and the decoder is where it would be
if it had begun with it. -/
theorem decodeFrom_append_of_scan? {last : Bool} {front back : List UInt8}
    (hback : scan? front back = some ([], front ++ back)) (more : List UInt8) :
    decodeFrom last position front done (back ++ more) =
      decodeFrom last position (front ++ back) done more := by
  induction back generalizing front with
  | nil => rw [List.nil_append, List.append_nil]
  | cons b back ih =>
    rw [scan?] at hback
    split at hback
    · rename_i haccepts
      cases hwhole : whole? (front ++ [b]) with
      | some c =>
        rw [hwhole] at hback
        -- a character that is complete would be in what was scanned
        obtain ⟨_, -, hchar⟩ := Option.map_eq_some_iff.mp hback
        cases hchar
      | none =>
        have hsplit : front ++ b :: back = front ++ [b] ++ back := by
          rw [List.append_assoc, List.singleton_append]
        rw [hwhole, hsplit] at hback
        rw [List.cons_append, decodeFrom, if_pos haccepts, hwhole, hsplit]
        exact ih hback
    · cases hback

/-- What is held back can be decoded again: this is how the next block begins. -/
theorem decodeFrom_held (hheld : scan? [] held = some ([], held)) (last : Bool)
    (more : List UInt8) :
    decodeFrom last position [] done (held ++ more) = decodeFrom last position held done more :=
  decodeFrom_append_of_scan? hheld more

/-- A piece that is decoded and what follows it: it goes on with what was held back. The induction
is on the piece, and its end is `decodeFrom_held`. -/
theorem toOption_decodeFrom_append {rest : List UInt8} (hheld : scan? [] held = some ([], held))
    (h : decodeFrom false position held done octets = .ok (text, rest)) (more : List UInt8) :
    (decodeFrom false position held done (octets ++ more)).toOption =
      (begun? (rest ++ more)).map fun (text', rest') => (text ++ text', rest') := by
  induction octets generalizing position held done with
  | nil =>
    cases h
    rw [List.nil_append, begun?, decodeFrom_held hheld, toOption_decodeFrom]
  | cons b octets ih =>
    rw [decodeFrom] at h
    rw [List.cons_append, decodeFrom]
    split at h
    · rename_i haccepts
      rw [if_pos haccepts]
      cases hwhole : whole? (held ++ [b]) with
      | some c =>
        rw [hwhole] at h
        exact ih rfl h
      | none =>
        rw [hwhole] at h
        refine ih ?_ h
        rw [scan?_append, hheld, Option.bind_some]
        simp only [scan?, haccepts, if_true, hwhole, Option.map_some, List.nil_append]
    · rename_i haccepts
      split at h
      · rename_i hsurrogate
        cases h
        rw [Bool.and_eq_true, Bool.and_eq_true, List.isEmpty_iff] at hsurrogate
        -- what is held back is read once more, before what follows
        obtain ⟨⟨-, rfl⟩, -⟩ := hsurrogate
        rw [begun?, List.append_assoc, List.singleton_append, decodeFrom_held hheld,
          ← toOption_decodeFrom false position, decodeFrom, List.nil_append, if_neg haccepts]
      · cases h

/-- **The decoder may stop between two pieces** and go on with what was held back. -/
theorem begun?_append {rest : List UInt8} (h : begun? octets = some (text, rest))
    (more : List UInt8) :
    begun? (octets ++ more) =
      (begun? (rest ++ more)).map fun (text', rest') => (text ++ text', rest') := by
  rw [begun?] at h
  cases hdecode : decodeFrom false 0 [] [] octets with
  | error r =>
    rw [hdecode] at h
    cases h
  | ok decoded =>
    rw [hdecode] at h
    cases h
    exact toOption_decodeFrom_append rfl hdecode more

/-- What blocks of one size are refused for after so many of them: the next one does not go on with
the blocks before, or there is no next one and something is held back. -/
def RefusedAfter (size blocks : Nat) (octets rest : List UInt8) : Prop :=
  begun? (octets.take ((blocks + 1) * size)) = none ∨
    (octets.length ≤ blocks * size ∧ rest ≠ [])

/-- From any block on: `blocks` counts those that are decoded already, and the decoder has been
keeping step with `begun?` of all of them as one piece (`begun?_append`). -/
theorem readBlocksFor_refused {fuel blocks : Nat} (hbegun :
      begun? (octets.take (blocks * size)) = some (done, held)) {r : Refusal}
    (h : readBlocksFor size fuel held (octets.drop (blocks * size)) = ⟨text, some r⟩) :
    ∃ blocks rest, begun? (octets.take (blocks * size)) = some (done ++ text, rest) ∧
      RefusedAfter size blocks octets rest := by
  -- The invariant: what is decoded and held back so far is what `begun?` answers for the blocks
  -- that are done.
  induction fuel generalizing blocks held done text with
  | zero => cases h
  | succ fuel ih =>
    have htake : octets.take ((blocks + 1) * size) =
        octets.take (blocks * size) ++ (octets.drop (blocks * size)).take size := by
      rw [Nat.succ_mul, List.take_add]
    have hnext := begun?_append hbegun ((octets.drop (blocks * size)).take size)
    rw [← htake] at hnext
    rw [readBlocksFor.eq_def] at h
    dsimp only at h
    split at h
    · rename_i hend
      obtain ⟨rfl, hrefusal⟩ := Reading.mk.inj h
      refine ⟨blocks, held, by rwa [List.append_nil], .inr ⟨List.drop_eq_nil_iff.mp hend, ?_⟩⟩
      rintro rfl
      cases hrefusal
    · cases hblock : decodeFrom false 0 [] [] (held ++ (octets.drop (blocks * size)).take size) with
      | error r' =>
        rw [hblock] at h
        obtain ⟨rfl, -⟩ := Reading.mk.inj h
        rw [begun?, begun?, hblock] at hnext
        exact ⟨blocks, held, by rwa [List.append_nil], .inl hnext⟩
      | ok decoded =>
        obtain ⟨front, back⟩ := decoded
        rw [hblock, List.drop_drop, ← Nat.succ_mul] at h
        obtain ⟨rfl, hrefusal⟩ := Reading.mk.inj h
        have hbegun' : begun? (octets.take ((blocks + 1) * size)) = some (done ++ front, back) := by
          rw [hnext, begun?, hblock]
          rfl
        obtain ⟨blocks', rest, hdone, hrefused⟩ := ih hbegun' (congrArg (Reading.mk _) hrefusal)
        exact ⟨blocks', rest, by rwa [← List.append_assoc], hrefused⟩

/-- **Where a block is refused**, the text is what can be decoded of the blocks before it. This is
what a reader of lines has seen when it meets an octet that is no text. -/
theorem readBlocks_refused {r : Refusal} (h : readBlocks size octets = ⟨text, some r⟩) :
    ∃ blocks rest, begun? (octets.take (blocks * size)) = some (text, rest) ∧
      RefusedAfter size blocks octets rest := by
  have hnone : begun? (octets.take (0 * size)) = some ([], []) := by
    rw [Nat.zero_mul, List.take_zero]
    rfl
  have hall : octets.drop (0 * size) = octets := by
    rw [Nat.zero_mul, List.drop_zero]
  rw [readBlocks, ← hall] at h
  exact readBlocksFor_refused hnone h

end LoadLedger.Text.Utf8
