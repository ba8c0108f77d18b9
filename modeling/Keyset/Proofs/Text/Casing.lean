import Keyset.Text.Casing

/-! # Lower case, character by character

A text is lowered character by character, each in the place where it stands
(`Keyset.Text.lowerFrom_cons`). Only `İ` becomes more than one character
(`Keyset.Text.exists_lowerIn_eq`), and no character but `%` becomes a `%`
(`Keyset.Text.not_mem_lowerIn`).
-/

namespace Keyset.Text

/-- The small letters of a character in front of the rest of a text. -/
def lowerIn (inWord : Bool) (c : Char) (rest : List Char) : List Char :=
  if c == 'Σ' then if inWord && !startsCased rest then ['ς'] else ['σ'] else lowerChar c

/-- Whether the place behind a character is inside a word. -/
def inWordAfter (inWord : Bool) (c : Char) : Bool :=
  if isCaseIgnorable c then inWord else isCased c

variable {c : Char} {inWord : Bool} {rest text : List Char}

theorem lowerFrom_cons (inWord : Bool) (c : Char) (rest : List Char) :
    lowerFrom inWord (c :: rest) =
      lowerIn inWord c rest ++ lowerFrom (inWordAfter inWord c) rest := rfl

/-- A text that follows other characters is lowered as before, but for what they say of the word. -/
theorem exists_lowerFrom_append (inWord : Bool) (first rest : List Char) :
    ∃ front later, lowerFrom inWord (first ++ rest) = front ++ lowerFrom later rest := by
  induction first generalizing inWord with
  | nil => exact ⟨[], inWord, rfl⟩
  | cons c first ih =>
      obtain ⟨front, later, append⟩ := ih (inWordAfter inWord c)
      refine ⟨lowerIn inWord c (first ++ rest) ++ front, later, ?_⟩
      rw [List.cons_append, lowerFrom_cons, append, List.append_assoc]

theorem exists_lowerChar_eq (notDotted : c ≠ 'İ') : ∃ d, lowerChar c = [d] := by
  unfold lowerChar
  split
  · exact ⟨_, rfl⟩
  · split
    next dotted => exact absurd (Char.toNat_inj.mp (beq_iff_eq.mp dotted)) notDotted
    next => split <;> exact ⟨_, rfl⟩

theorem exists_lowerIn_eq (notDotted : c ≠ 'İ') (inWord : Bool) (rest : List Char) :
    ∃ d, lowerIn inWord c rest = [d] := by
  unfold lowerIn
  split
  · split <;> exact ⟨_, rfl⟩
  · exact exists_lowerChar_eq notDotted

theorem lowerIn_ne_nil (inWord : Bool) (c : Char) (rest : List Char) :
    lowerIn inWord c rest ≠ [] := by
  by_cases dotted : c = 'İ'
  · subst dotted
    exact List.cons_ne_nil _ _
  · obtain ⟨d, single⟩ := exists_lowerIn_eq dotted inWord rest
    exact single ▸ List.cons_ne_nil d []

/-! ## No further runs -/

theorem toLower_ne (notRun : c ≠ '%') : c.toLower ≠ '%' := by
  by_cases capital : c.val ≥ 'A'.val ∧ c.val ≤ 'Z'.val
  · intro same
    rw [show c.toLower = ⟨c.val + ('a'.val - 'A'.val), _⟩ from dif_pos capital] at same
    have atLeast : 0x41 ≤ c.val.toNat := UInt32.le_iff_toNat_le.mp capital.1
    have atMost : c.val.toNat ≤ 0x5A := UInt32.le_iff_toNat_le.mp capital.2
    have sum : (c.val.toNat + 0x20) % 2 ^ 32 = 0x25 :=
      (UInt32.toNat_add _ _).symm.trans (congrArg Char.toNat same)
    omega
  · rw [show c.toLower = c from dif_neg capital]
    exact notRun

theorem ofNat_ne {code : Nat} (letter : 0x61 ≤ code) : Char.ofNat code ≠ '%' := by
  intro same
  by_cases valid : code.isValidChar
  · rw [show Char.ofNat code = Char.ofNatAux code valid from dif_pos valid] at same
    have code_eq : code = 0x25 := congrArg Char.toNat same
    omega
  · rw [show Char.ofNat code = '\x00' from dif_neg valid] at same
    exact absurd same (by decide)

/-- Small letters lie behind all marks of ASCII. -/
theorem le_small_of_mem : ∀ run ∈ capitalRuns, 0x61 ≤ run.small := by decide +kernel

theorem le_of_lower? {code small : Nat}
    (lowered : capitalRuns.findSome? (·.lower? code) = some small) : 0x61 ≤ small := by
  obtain ⟨run, inRuns, found⟩ := List.exists_of_findSome?_eq_some lowered
  have least := le_small_of_mem run inRuns
  unfold CapitalRun.lower? at found
  split at found
  · have sum := Option.some.inj found
    omega
  · nomatch found

theorem not_mem_lowerChar (notRun : c ≠ '%') : '%' ∉ lowerChar c := by
  unfold lowerChar
  split
  · exact fun present => toLower_ne notRun (List.mem_singleton.mp present).symm
  · split
    · decide
    · split
      next small lowered =>
        exact fun present => ofNat_ne (le_of_lower? lowered) (List.mem_singleton.mp present).symm
      next => exact fun present => notRun (List.mem_singleton.mp present).symm

theorem not_mem_lowerIn (notRun : c ≠ '%') (inWord : Bool) (rest : List Char) :
    '%' ∉ lowerIn inWord c rest := by
  unfold lowerIn
  split
  · split <;> decide
  · exact not_mem_lowerChar notRun

theorem head?_lowerFrom_ne (noMark : text.head? ≠ some '%') (inWord : Bool) :
    (lowerFrom inWord text).head? ≠ some '%' := by
  cases text with
  | nil => exact nofun
  | cons c rest =>
      rw [lowerFrom_cons]
      obtain ⟨d, more, cons⟩ := List.exists_cons_of_ne_nil (lowerIn_ne_nil inWord c rest)
      have absent := not_mem_lowerIn (fun same => noMark (same ▸ rfl)) inWord rest
      rw [cons] at absent ⊢
      exact fun starts => absent (List.mem_of_mem_head? (Option.mem_def.mpr starts))

end Keyset.Text
