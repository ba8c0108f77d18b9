import Keyset.Json.Reader
import Keyset.Json.Writer
import Keyset.Proofs.Text.Run
import Mathlib.Tactic.SplitIfs

/-! # Reading literals back

The quoted text of any string reads back as the string (`Keyset.Json.readQuoted_escaped`), and
the digits of a whole number of 64 bits as the number (`Keyset.Json.readNumeral_integerChars`),
whatever follows, as long as it does not go on with the numeral.
-/

namespace Keyset.Json

/-! ## Quoted texts -/

/-- The control characters are written with the code that they are read by. -/
theorem hexCode?_control : ∀ n < 32,
    hexCode? '0' '0' (Nat.digitChar (n / 16)) (Nat.digitChar (n % 16)) = some n := by decide

theorem readQuoted_control {c : Char} (control : c.toNat < 0x20) (rest : List Char) :
    readQuoted ('\\' :: 'u' :: '0' :: '0' :: Nat.digitChar (c.toNat / 16) ::
        Nat.digitChar (c.toNat % 16) :: rest) =
      (readQuoted rest).map fun (chars, rest) => (c :: chars, rest) := by
  have high : isHighSurrogate c.toNat = false := by
    simp only [isHighSurrogate, Bool.and_eq_false_imp, decide_eq_true_eq]
    omega
  have low : isLowSurrogate c.toNat = false := by
    simp only [isLowSurrogate, Bool.and_eq_false_imp, decide_eq_true_eq]
    omega
  rw [readQuoted]
  simp only [hexCode?_control _ control, high, low, bind, Option.bind, Char.ofNat_toNat]
  cases readQuoted rest <;> rfl

theorem readQuoted_mark {mark c : Char} (known : unescape? mark = some c) (rest : List Char) :
    readQuoted ('\\' :: mark :: rest) =
      (readQuoted rest).map fun (chars, rest) => (c :: chars, rest) := by
  rw [readQuoted]
  · simp only [known, bind, Option.bind]
    cases readQuoted rest <;> rfl
  · intro _ _ _ _ _ unicode _
    subst unicode
    contradiction

theorem readQuoted_plain {c : Char} (notQuote : c ≠ '"') (notBackslash : c ≠ '\\')
    (printable : ¬c.toNat < 0x20) (rest : List Char) :
    readQuoted (c :: rest) = (readQuoted rest).map fun (chars, rest) => (c :: chars, rest) := by
  rw [readQuoted]
  · rw [if_neg (by simp [printable, notBackslash])]
  · exact notQuote
  · exact fun _ _ _ _ _ backslash _ => notBackslash backslash
  · exact fun _ _ backslash _ => notBackslash backslash

theorem readQuoted_escapeChar (c : Char) (rest : List Char) :
    readQuoted (escapeChar c ++ rest) =
      (readQuoted rest).map fun (chars, rest) => (c :: chars, rest) := by
  unfold escapeChar
  split_ifs with quote backslash backspace feed newline carriage tab control
  · rw [beq_iff_eq.mp quote]; exact readQuoted_mark rfl rest
  · rw [beq_iff_eq.mp backslash]; exact readQuoted_mark rfl rest
  · rw [beq_iff_eq.mp backspace]; exact readQuoted_mark rfl rest
  · rw [beq_iff_eq.mp feed]; exact readQuoted_mark rfl rest
  · rw [beq_iff_eq.mp newline]; exact readQuoted_mark rfl rest
  · rw [beq_iff_eq.mp carriage]; exact readQuoted_mark rfl rest
  · rw [beq_iff_eq.mp tab]; exact readQuoted_mark rfl rest
  · exact readQuoted_control control rest
  · exact readQuoted_plain (fun same => quote (beq_iff_eq.mpr same))
      (fun same => backslash (beq_iff_eq.mpr same)) control rest

theorem readQuoted_escaped (text rest : List Char) :
    readQuoted (text.flatMap escapeChar ++ '"' :: rest) = some (text, rest) := by
  induction text with
  | nil => rfl
  | cons c text ih =>
      rw [List.flatMap_cons, List.append_assoc, readQuoted_escapeChar, ih]
      rfl

/-! ## Whole numbers -/

/-- No numeral goes on into the text. -/
def EndsNumeral : List Char → Prop
  | [] => True
  | c :: _ => c.isDigit = false ∧ c ≠ '.' ∧ c ≠ 'e' ∧ c ≠ 'E'

theorem digitsValue_toDigits (n : Nat) : Decimal.digitsValue (Nat.toDigits 10 n) = n := by
  have folded : Decimal.digitsValue (Nat.toDigits 10 n) =
      Nat.ofDigitChars 10 (Nat.toDigits 10 n) 0 := by
    simp only [Decimal.digitsValue, Nat.ofDigitChars, Decimal.digitValue, Nat.mul_comm]
  rw [folded, Nat.ofDigitChars_ten_toDigits]

theorem isDigit_of_mem_toDigits {n : Nat} {c : Char} (member : c ∈ Nat.toDigits 10 n) :
    c.isDigit = true :=
  Nat.isDigit_of_mem_toDigits (by decide) (by decide) member

theorem toDigits_eq_digit_cons (n : Nat) :
    ∃ c rest, Nat.toDigits 10 n = c :: rest ∧ c.isDigit = true := by
  obtain ⟨c, rest, written⟩ := List.exists_cons_of_ne_nil (Nat.toDigits_ne_nil (n := n) (b := 10))
  exact ⟨c, rest, written, isDigit_of_mem_toDigits (n := n) (written ▸ List.mem_cons_self)⟩

theorem integerChars_eq_cons (n : Int) :
    ∃ c rest, integerChars n = c :: rest ∧ (c = '-' ∨ c.isDigit = true) := by
  unfold integerChars
  split
  · exact ⟨'-', _, rfl, Or.inl rfl⟩
  · obtain ⟨c, rest, written, digit⟩ := toDigits_eq_digit_cons n.natAbs
    exact ⟨c, rest, written, Or.inr digit⟩

theorem spanDigits_toDigits (n : Nat) {rest : List Char} (ends : EndsNumeral rest) :
    Decimal.spanDigits (Nat.toDigits 10 n ++ rest) = (Nat.toDigits 10 n, rest) := by
  have all : ∀ c ∈ Nat.toDigits 10 n, c.isDigit = true := fun c => isDigit_of_mem_toDigits
  have stops : ∀ c ∈ rest.head?, c.isDigit = false := by
    cases rest with
    | nil => exact nofun
    | cons c rest =>
        rintro _ ⟨⟩
        exact ends.1
  rw [Decimal.spanDigits, Text.takeWhile_run all stops, Text.dropWhile_run all stops]

/-- The digits of a positive number do not start with a zero. -/
theorem toDigits_eq_cons {n : Nat} (positive : 0 < n) :
    ∃ c rest, Nat.toDigits 10 n = c :: rest ∧ c ≠ '0' := by
  induction n using Nat.strongRecOn with
  | ind n ih =>
      rw [Nat.toDigits_eq_if (by decide)]
      split
      next small =>
        have nonzero : ∀ d < 10, 0 < d → Nat.digitChar d ≠ '0' := by decide
        exact ⟨_, [], rfl, nonzero n small positive⟩
      next large =>
        obtain ⟨c, rest, digits, nonzero⟩ := ih (n / 10) (by omega) (by omega)
        exact ⟨c, rest ++ [Nat.digitChar (n % 10)], by rw [digits, List.cons_append], nonzero⟩

theorem readWhole_toDigits (n : Nat) {rest : List Char} (ends : EndsNumeral rest) :
    readWhole (Nat.toDigits 10 n ++ rest) = some (Nat.toDigits 10 n, rest) := by
  rw [readWhole, spanDigits_toDigits n ends]
  rcases Nat.eq_zero_or_pos n with rfl | positive
  · rfl
  · obtain ⟨c, digits, written, nonzero⟩ := toDigits_eq_cons positive
    rw [written]
    split
    next empty => cases empty
    next zero => exact absurd (List.cons.inj (congrArg Prod.fst zero)).1 nonzero
    next same => cases same; rfl

theorem readFraction_of_ends {rest : List Char} (ends : EndsNumeral rest) :
    readFraction rest = some ([], rest) := by
  cases rest with
  | nil => rfl
  | cons c rest =>
      rw [readFraction]
      exact fun _ same => ends.2.1 (List.cons.inj same).1

theorem readExponent_of_ends {rest : List Char} (ends : EndsNumeral rest) :
    readExponent rest = some (none, rest) := by
  cases rest with
  | nil => rfl
  | cons c rest =>
      unfold readExponent
      exact if_neg (by simp [ends.2.2.1, ends.2.2.2])

theorem readUnsigned_toDigits (negative : Bool) (n : Nat) {rest : List Char}
    (ends : EndsNumeral rest) :
    readUnsigned negative (Nat.toDigits 10 n ++ rest) =
      some (⟨negative, Nat.toDigits 10 n, [], none⟩, rest) := by
  simp only [readUnsigned, readWhole_toDigits n ends, readFraction_of_ends ends,
    readExponent_of_ends ends, bind, Option.bind]

/-- The numeral that is written for a whole number. -/
def numeralOf (n : Int) : Numeral :=
  ⟨n < 0, Nat.toDigits 10 n.natAbs, [], none⟩

theorem readNumeral_integerChars (n : Int) {rest : List Char} (ends : EndsNumeral rest) :
    readNumeral (integerChars n ++ rest) = some (numeralOf n, rest) := by
  unfold integerChars numeralOf
  split
  next negative =>
    rw [List.cons_append, readNumeral, readUnsigned_toDigits true _ ends]
    simp [negative]
  next notNegative =>
    rw [readNumeral, readUnsigned_toDigits false _ ends]
    · simp [notNegative]
    · intro tail minus
      obtain ⟨c, digits, written, digit⟩ := toDigits_eq_digit_cons n.natAbs
      rw [written] at minus
      cases minus
      contradiction

/-- A whole number of 64 bits, with a sign if it is negative. -/
def IsWord (n : Int) : Prop :=
  -(Decimal.twoTo 63 : Int) ≤ n ∧ n < Decimal.twoTo 64

theorem number?_numeralOf {n : Int} (word : IsWord n) :
    (numeralOf n).number? = some (.integer n) := by
  obtain ⟨low, high⟩ := word
  simp only [Numeral.number?, numeralOf, digitsValue_toDigits, List.isEmpty_nil,
    Option.isNone_none, Bool.and_self, ↓reduceIte, Int.ofNat_eq_natCast]
  by_cases negative : n < 0
  · rw [if_pos (by simpa using negative), if_pos (by simp; omega)]
    congr 2
    omega
  · rw [if_neg (by simpa using negative), if_pos (by omega)]
    congr 2
    omega

end Keyset.Json
