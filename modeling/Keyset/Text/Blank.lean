/-! # Blank characters and trimming

The characters with the Unicode property `White_Space`, and texts with the blank
characters at both ends removed (`Keyset.Text.trim`). The four blanks that separate
the tokens of a data format are a smaller set (`Keyset.Text.isGap`).
-/

namespace Keyset.Text

/-- The characters with the Unicode property `White_Space`. -/
def isBlank (c : Char) : Bool :=
  let n := c.toNat
  (0x09 ≤ n && n ≤ 0x0D) || n == 0x20 || n == 0x85 || n == 0xA0 || n == 0x1680 ||
    (0x2000 ≤ n && n ≤ 0x200A) || n == 0x2028 || n == 0x2029 || n == 0x202F || n == 0x205F ||
    n == 0x3000

/-- Space, tab, carriage return and line feed: the blanks between the tokens of a
data format. -/
def isGap (c : Char) : Bool :=
  c == ' ' || c == '\t' || c == '\r' || c == '\n'

/-- The text after the blanks between tokens at its start. -/
def skipGaps (text : List Char) : List Char :=
  text.dropWhile isGap

/-- The text from its first character that is not blank. -/
def trimStart (text : List Char) : List Char :=
  text.dropWhile isBlank

/-- The text up to its last character that is not blank. -/
def trimEnd (text : List Char) : List Char :=
  (text.reverse.dropWhile isBlank).reverse

/-- The text without the blank characters at its two ends. -/
def trimChars (text : List Char) : List Char :=
  trimEnd (trimStart text)

/-- A text without the blank characters at its two ends. -/
def trim (text : String) : String :=
  String.ofList (trimChars text.toList)

/-- The blanks between tokens are blank. -/
theorem isBlank_of_isGap {c : Char} (gap : isGap c) : isBlank c := by
  simp only [isGap, Bool.or_eq_true, beq_iff_eq] at gap
  rcases gap with ((rfl | rfl) | rfl) | rfl <;> decide

theorem dropWhile_isBlank_append {text more : List Char} (plain : ∀ c ∈ text, isBlank c = false)
    (blank : ∀ c ∈ more, isBlank c) :
    (text ++ more).dropWhile isBlank = if text.isEmpty then [] else text ++ more := by
  cases text with
  | nil =>
      rw [List.nil_append, ← List.append_nil more, List.dropWhile_append_of_pos blank]
      rfl
  | cons c rest =>
      have notBlank : ¬isBlank c = true := by simp [plain c List.mem_cons_self]
      rw [List.cons_append, List.dropWhile_cons_of_neg notBlank]
      rfl

/-- Trimming removes the blanks around a text without blanks, and nothing else. -/
theorem trimChars_around {front text back : List Char} (blankFront : ∀ c ∈ front, isBlank c)
    (plain : ∀ c ∈ text, isBlank c = false) (blankBack : ∀ c ∈ back, isBlank c) :
    trimChars (front ++ text ++ back) = text := by
  rw [trimChars, trimEnd, trimStart, List.append_assoc, List.dropWhile_append_of_pos blankFront,
    dropWhile_isBlank_append plain blankBack]
  cases text with
  | nil => rfl
  | cons c rest =>
      have trimmed := @dropWhile_isBlank_append (c :: rest).reverse []
        (fun d member => plain d (List.mem_reverse.mp member)) (List.forall_mem_nil _)
      rw [List.append_nil, if_neg (by simp)] at trimmed
      rw [if_neg (by simp), List.reverse_append,
        List.dropWhile_append_of_pos fun d member => blankBack d (List.mem_reverse.mp member),
        trimmed, List.reverse_reverse]

theorem length_skipGaps_le (text : List Char) : (skipGaps text).length ≤ text.length :=
  (List.dropWhile_suffix _).length_le

end Keyset.Text
