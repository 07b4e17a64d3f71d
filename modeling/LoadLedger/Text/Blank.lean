/-!
# Blanks

The blank characters of Unicode: those whose bidirectional class is white space or a separator of
paragraphs or segments, and all of category Zs. They are what a line may carry around its content
without carrying anything.
-/

namespace LoadLedger.Text

/-- Is the character blank? -/
def isBlank (c : Char) : Bool :=
  let n := c.toNat
  (0x09 ≤ n && n ≤ 0x0d) || (0x1c ≤ n && n ≤ 0x20) || n == 0x85 || n == 0xa0 || n == 0x1680 ||
    (0x2000 ≤ n && n ≤ 0x200a) || n == 0x2028 || n == 0x2029 || n == 0x202f || n == 0x205f ||
    n == 0x3000

/-- Is the character one of the blanks that may surround a numeral? The four information
separators are blank, but not there. -/
def isNumeralBlank (c : Char) : Bool :=
  isBlank c && !(0x1c ≤ c.toNat && c.toNat ≤ 0x1f)

/-- What remains without the characters of a class at the end. -/
def dropTrailing (p : Char → Bool) (s : List Char) : List Char :=
  (s.reverse.dropWhile p).reverse

/-- What remains without the characters of a class at both ends. -/
def trimWith (p : Char → Bool) (s : List Char) : List Char :=
  dropTrailing p (s.dropWhile p)

/-- What remains without the blanks at both ends. -/
def trimBlanks (s : List Char) : List Char :=
  trimWith isBlank s

theorem dropTrailing_append {p : Char → Bool} {back : List Char} (h : ∀ c ∈ back, p c = true)
    (front : List Char) : dropTrailing p (front ++ back) = dropTrailing p front := by
  have hback : ∀ c ∈ back.reverse, p c = true := fun c hc => h c (List.mem_reverse.mp hc)
  rw [dropTrailing, List.reverse_append, List.dropWhile_append_of_pos hback, dropTrailing]

theorem dropTrailing_of_getLast? {p : Char → Bool} {s : List Char} {c : Char}
    (hlast : s.getLast? = some c) (hc : p c = false) : dropTrailing p s = s := by
  have hhead : s.reverse.head? = some c := by rw [List.head?_reverse, hlast]
  obtain ⟨rest, hrest⟩ := List.head?_eq_some_iff.mp hhead
  rw [dropTrailing, hrest, List.dropWhile_cons_of_neg (by rw [hc]; exact Bool.false_ne_true),
    ← hrest, List.reverse_reverse]

/-- What remains does not end in a character of the class. -/
theorem getLast?_dropTrailing {p : Char → Bool} {s : List Char} :
    ∀ c ∈ (dropTrailing p s).getLast?, p c = false := by
  intro c hc
  rw [dropTrailing, List.getLast?_reverse] at hc
  have hhead := List.head?_dropWhile_not p s.reverse
  rw [hc] at hhead
  exact hhead

theorem mem_of_mem_dropTrailing {p : Char → Bool} {s : List Char} {c : Char}
    (h : c ∈ dropTrailing p s) : c ∈ s :=
  List.mem_reverse.mp ((List.dropWhile_sublist p).mem (List.mem_reverse.mp h))

end LoadLedger.Text
