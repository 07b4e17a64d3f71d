/-!
# UTF-8

A strict decoder that reads octets in blocks. Octets that can begin a character but do not complete
one are held back until the next block arrives; an octet that no character allows at its place is
refused, and a refusal points at the octets it concerns within the block (with what was held back
before it).
-/

namespace LoadLedger.Text.Utf8

/-- Why octets are refused. -/
inductive Reason
  /-- No character begins so. -/
  | badStart
  /-- The octets begin a character that the next octet does not go on with. -/
  | badContinuation
  /-- The octets begin a character and nothing follows. -/
  | endOfData
  deriving DecidableEq

/-- Octets that are refused: the position of the first one, the octets, and the reason. -/
structure Refusal where
  position : Nat
  octets : List UInt8
  reason : Reason
  deriving DecidableEq

/-- Does the octet continue a character? -/
def isTail (b : UInt8) : Bool :=
  0x80 ≤ b && b ≤ 0xBF

/-- May the second octet follow the first one? Some first octets exclude overlong forms, surrogates
or numbers beyond the last character. -/
def mayFollow (a b : UInt8) : Bool :=
  isTail b &&
    (a != 0xE0 || 0xA0 ≤ b) && (a != 0xED || b ≤ 0x9F) && (a != 0xF0 || 0x90 ≤ b) &&
    (a != 0xF4 || b ≤ 0x8F)

/-- May one more octet follow those that begin a character? -/
def accepts (held : List UInt8) (b : UInt8) : Bool :=
  match held with
  | [] => b ≤ 0x7F || (0xC2 ≤ b && b ≤ 0xF4)
  | [a] => mayFollow a b
  | _ => isTail b

/-- The bits that an octet after the first one contributes. -/
def tailBits (b : UInt8) : Nat :=
  b.toNat % 64

/-- The character that the octets complete, if they do. -/
def whole? : List UInt8 → Option Char
  | [a] => if a ≤ 0x7F then some (Char.ofNat a.toNat) else none
  | [a, b] => if a < 0xE0 then some (Char.ofNat (a.toNat % 32 * 64 + tailBits b)) else none
  | [a, b, c] =>
    if a < 0xF0 then some (Char.ofNat ((a.toNat % 16 * 64 + tailBits b) * 64 + tailBits c))
    else none
  | [a, b, c, d] =>
    some (Char.ofNat (((a.toNat % 8 * 64 + tailBits b) * 64 + tailBits c) * 64 + tailBits d))
  | _ => none

/-- Do the octets begin a surrogate? They are no character, but a block that ends with them leaves
the verdict to the next one. -/
def beginsSurrogate (held : List UInt8) (b : UInt8) : Bool :=
  held == [0xED] && 0xA0 ≤ b && b ≤ 0xBF

/-- The refusal of an octet after those that begin a character. -/
def refusal (position : Nat) (held : List UInt8) (b : UInt8) : Refusal :=
  if held.isEmpty then ⟨position, [b], .badStart⟩ else ⟨position, held, .badContinuation⟩

/-- Decodes octets, `held` being those already read of the character at `position` and `done` the
characters before it, last one first. Answers the characters and what is held back at the end. -/
def decodeFrom (last : Bool) (position : Nat) (held : List UInt8) (done : List Char) :
    List UInt8 → Except Refusal (List Char × List UInt8)
  | [] => .ok (done.reverse, held)
  | b :: more =>
    if accepts held b then
      match whole? (held ++ [b]) with
      | some c => decodeFrom last (position + held.length + 1) [] (c :: done) more
      | none => decodeFrom last position (held ++ [b]) done more
    else if beginsSurrogate held b && more.isEmpty && !last then
      .ok (done.reverse, held ++ [b])
    else
      .error (refusal position held b)

/-- The refusal of octets that begin a character when nothing follows them. -/
def refusalAtEnd (position : Nat) : List UInt8 → Refusal
  | [a, b] =>
    if mayFollow a b then ⟨position, [a, b], .endOfData⟩ else ⟨position, [a], .badContinuation⟩
  | held => ⟨position, held, .endOfData⟩

/-- Decodes a complete text. -/
def decode (octets : List UInt8) : Except Refusal (List Char) :=
  match decodeFrom true 0 [] [] octets with
  | .error r => .error r
  | .ok (text, []) => .ok text
  | .ok (_, held) => .error (refusalAtEnd (octets.length - held.length) held)

/-- What a reader in blocks has seen: the characters of the blocks before the one that is refused,
and the refusal. -/
structure Reading where
  text : List Char
  refusal : Option Refusal

/-- Reads `fuel` blocks at most, `held` being what the block before held back. -/
def readBlocksFor (size : Nat) : Nat → List UInt8 → List UInt8 → Reading
  | 0, _, _ => ⟨[], none⟩
  | fuel + 1, held, octets =>
    match octets with
    | [] => ⟨[], if held.isEmpty then none else some (refusalAtEnd 0 held)⟩
    | _ =>
      match decodeFrom false 0 [] [] (held ++ octets.take size) with
      | .error r => ⟨[], some r⟩
      | .ok (text, held) =>
        let next := readBlocksFor size fuel held (octets.drop size)
        ⟨text ++ next.text, next.refusal⟩

/-- Reads octets in blocks of `size`, which is positive. There are no more blocks than octets, and
the last round sees the end. -/
def readBlocks (size : Nat) (octets : List UInt8) : Reading :=
  readBlocksFor size (octets.length + 1) [] octets

/-- The octets of a text. -/
def encode (s : String) : List UInt8 :=
  s.toUTF8.toList

example : decode [0x63, 0xC3, 0xA9] = .ok ['c', 'é'] := by rfl
example : decode [0x61, 0xFF] = .error ⟨1, [0xFF], .badStart⟩ := by rfl
example : decode [0xE2, 0x82] = .error ⟨0, [0xE2, 0x82], .endOfData⟩ := by rfl
example : decode [0xE2, 0x28] = .error ⟨0, [0xE2], .badContinuation⟩ := by rfl

end LoadLedger.Text.Utf8
