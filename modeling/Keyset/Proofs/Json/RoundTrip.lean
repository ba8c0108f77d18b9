import Keyset.Proofs.Json.Literal

/-! # Reading trees back

A written tree reads back as the tree (`Keyset.Json.ofText?_text`) if its whole numbers have 64
bits, it holds no doubles, and it is nested no deeper than a text from outside may be.
-/

namespace Keyset.Json

open Text (isGap skipGaps)

mutual

/-- Nested at most so deep, with whole numbers of 64 bits and no doubles. -/
def Fits : (depth : Nat) → Json → Prop
  | _, null => True
  | _, bool _ => True
  | _, number (.integer n) => IsWord n
  | _, number (.real _) => False
  | _, string _ => True
  | 0, array _ => False
  | depth + 1, array items => FitsItems depth items
  | 0, object _ => False
  | depth + 1, object members => FitsMembers depth members

def FitsItems (depth : Nat) : List Json → Prop
  | [] => True
  | item :: rest => Fits depth item ∧ FitsItems depth rest

def FitsMembers (depth : Nat) : List (String × Json) → Prop
  | [] => True
  | (_, value) :: rest => Fits depth value ∧ FitsMembers depth rest

end

theorem fitsItems_iff {depth : Nat} {items : List Json} :
    FitsItems depth items ↔ ∀ item ∈ items, Fits depth item := by
  induction items with
  | nil => simp [FitsItems]
  | cons item rest ih => simp only [FitsItems, ih, List.forall_mem_cons]

theorem fitsMembers_iff {depth : Nat} {members : List (String × Json)} :
    FitsMembers depth members ↔ ∀ member ∈ members, Fits depth member.2 := by
  induction members with
  | nil => simp [FitsMembers]
  | cons member rest ih => simp only [FitsMembers, ih, List.forall_mem_cons]

/-! ## Sequences -/

section Sequence

variable {α : Type} (write : α → List Char)

/-- The texts of a list with commas between them. -/
def separated : List α → List Char
  | [] => []
  | first :: rest => write first ++ (if rest.isEmpty then [] else ',' :: separated rest)

theorem itemsChars_eq (items : List Json) : itemsChars items = separated chars items := by
  induction items with
  | nil => rfl
  | cons item rest ih => rw [itemsChars, separated, ih]

/-- The text of a member. -/
def memberChars (member : String × Json) : List Char :=
  stringChars member.1 ++ ':' :: chars member.2

theorem membersChars_eq (members : List (String × Json)) :
    membersChars members = separated memberChars members := by
  induction members with
  | nil => rfl
  | cons member rest ih => rw [membersChars, separated, ih, memberChars]

/-- The text starts with neither a gap nor the closing mark. -/
def Opens (close : Char) (text : List Char) : Prop :=
  ∃ c rest, text = c :: rest ∧ isGap c = false ∧ c ≠ close

theorem Opens.append {close : Char} {text : List Char} (opens : Opens close text)
    (more : List Char) : Opens close (text ++ more) := by
  obtain ⟨c, rest, rfl, notGap, notClose⟩ := opens
  exact ⟨c, rest ++ more, rfl, notGap, notClose⟩

theorem skipGaps_of_opens {close : Char} {text : List Char} (opens : Opens close text) :
    skipGaps text = text := by
  obtain ⟨c, rest, rfl, notGap, -⟩ := opens
  exact List.dropWhile_cons_of_neg (by simp [notGap])

/-- The mark is told from gaps, commas and the characters of a numeral. -/
structure Closes (close : Char) : Prop where
  notGap : isGap close = false
  notComma : ',' ≠ close
  ends : EndsNumeral [close]

theorem closes_array : Closes ']' :=
  ⟨by decide, by decide, by decide, by decide, by decide, by decide⟩

theorem closes_object : Closes '\x7d' :=
  ⟨by decide, by decide, by decide, by decide, by decide, by decide⟩

variable {write} {item : List Char → Option (α × List Char)} {close : Char}

theorem readSequence_separated (closes : Closes close) {items : List α} (rest : List Char)
    (opens : ∀ x ∈ items, Opens close (write x))
    (reads : ∀ x ∈ items, ∀ rest, EndsNumeral rest → item (write x ++ rest) = some (x, rest))
    (present : items ≠ []) (room : Nat) (enough : items.length ≤ room) :
    readSequence item close room (separated write items ++ close :: rest) = some (items, rest) := by
  have stop : ∀ c rest, isGap c = false → skipGaps (c :: rest) = c :: rest :=
    fun c rest notGap => List.dropWhile_cons_of_neg (by simp [notGap])
  induction items generalizing room with
  | nil => contradiction
  | cons first others ih =>
      obtain ⟨opensFirst, opensOthers⟩ := List.forall_mem_cons.mp opens
      obtain ⟨readsFirst, readsOthers⟩ := List.forall_mem_cons.mp reads
      cases room with
      | zero => exact absurd enough (Nat.not_succ_le_zero _)
      | succ room =>
          cases others with
          | nil =>
              have readFirst := readsFirst (close :: rest) closes.ends
              simp only [separated, List.isEmpty_nil, ↓reduceIte, List.append_nil, readSequence,
                readFirst, stop close rest closes.notGap, beq_self_eq_true, bind, Option.bind]
          | cons second more =>
              have comma :
                  EndsNumeral (',' :: (separated write (second :: more) ++ close :: rest)) :=
                ⟨by decide, by decide, by decide, by decide⟩
              have opensRest : Opens close (separated write (second :: more) ++ close :: rest) :=
                ((opensOthers second List.mem_cons_self).append _).append _
              have readRest := ih opensOthers readsOthers (List.cons_ne_nil _ _) room
                (Nat.le_of_succ_le_succ enough)
              rw [separated]
              simp only [List.isEmpty_cons, Bool.false_eq_true, ↓reduceIte, List.append_assoc,
                List.cons_append, readSequence, readsFirst _ comma, stop ',' _ (by decide),
                beq_iff_eq, closes.notComma, skipGaps_of_opens opensRest, readRest, bind,
                Option.bind]

theorem length_le_length_separated {items : List α} (opens : ∀ x ∈ items, Opens close (write x)) :
    items.length ≤ (separated write items).length := by
  induction items with
  | nil => exact Nat.zero_le _
  | cons first others ih =>
      obtain ⟨⟨c, rest, written, -⟩, opensOthers⟩ := List.forall_mem_cons.mp opens
      have shorter := ih opensOthers
      simp only [separated, written, List.length_cons, List.length_append]
      cases others with
      | nil => simp
      | cons second more =>
          simp only [List.isEmpty_cons, Bool.false_eq_true, ↓reduceIte,
            List.length_cons] at shorter ⊢
          omega

/-- The items up to the closing mark read back. -/
theorem readItems_separated (closes : Closes close) {items : List α} (rest : List Char)
    (opens : ∀ x ∈ items, Opens close (write x))
    (reads : ∀ x ∈ items, ∀ rest, EndsNumeral rest → item (write x ++ rest) = some (x, rest)) :
    readItems item close (separated write items ++ close :: rest) = some (items, rest) := by
  cases items with
  | nil =>
      have stop : skipGaps (close :: rest) = close :: rest :=
        List.dropWhile_cons_of_neg (by simp [closes.notGap])
      simp only [separated, List.nil_append, readItems, stop, beq_self_eq_true, ↓reduceIte]
  | cons first others =>
      have opensText : Opens close (separated write (first :: others) ++ close :: rest) :=
        ((opens first List.mem_cons_self).append _).append _
      have enough := length_le_length_separated opens
      rw [readItems, skipGaps_of_opens opensText]
      obtain ⟨c, more, text, -, notClose⟩ := opensText
      have read := readSequence_separated closes rest opens reads (List.cons_ne_nil _ _)
        (c :: more).length (by rw [← text, List.length_append]; omega)
      rw [text] at read ⊢
      simp only [beq_iff_eq, notClose, ↓reduceIte]
      exact read

end Sequence

/-! ## Trees -/

theorem opens_integerChars (n : Int) : Opens ']' (integerChars n) := by
  obtain ⟨c, rest, written, minus | digit⟩ := integerChars_eq_cons n
  · subst minus
    exact ⟨'-', rest, written, by decide, by decide⟩
  · refine ⟨c, rest, written, ?_, ?_⟩
    · cases gap : isGap c with
      | false => rfl
      | true =>
          simp only [isGap, Bool.or_eq_true, beq_iff_eq] at gap
          rcases gap with ((rfl | rfl) | rfl) | rfl <;> contradiction
    · rintro rfl
      contradiction

theorem opens_chars {json : Json} {depth : Nat} (fits : Fits depth json) :
    Opens ']' (chars json) := by
  cases json with
  | null => exact ⟨'n', _, rfl, by decide, by decide⟩
  | bool b =>
      cases b with
      | false => exact ⟨'f', _, rfl, by decide, by decide⟩
      | true => exact ⟨'t', _, rfl, by decide, by decide⟩
  | number n =>
      cases n with
      | integer n => exact opens_integerChars n
      | real x => cases depth <;> exact fits.elim
  | string s => exact ⟨'"', _, rfl, by decide, by decide⟩
  | array items => exact ⟨'[', _, rfl, by decide, by decide⟩
  | object members => exact ⟨'\x7b', _, rfl, by decide, by decide⟩

theorem opens_memberChars (member : String × Json) : Opens '\x7d' (memberChars member) :=
  ⟨'"', _, rfl, by decide, by decide⟩

theorem readScalar_integerChars {n : Int} (word : IsWord n) {rest : List Char}
    (ends : EndsNumeral rest) :
    readScalar (integerChars n ++ rest) = some (number (.integer n), rest) := by
  obtain ⟨c, digits, written, first⟩ := integerChars_eq_cons n
  have read := readNumeral_integerChars n ends
  rw [written, List.cons_append] at read ⊢
  rw [readScalar]
  · simp only [read, number?_numeralOf word, bind, Option.bind]
  all_goals
    intro more same
    obtain rfl := (List.cons.inj same).1
    rcases first with minus | digit <;> contradiction

theorem readValue_of_scalar {passes : String → Bool} (depth : Nat) {text : List Char}
    (notArray : ∀ rest, text ≠ '[' :: rest) (notObject : ∀ rest, text ≠ '\x7b' :: rest) :
    readValue passes depth text = readScalar text := by
  cases depth with
  | zero => rfl
  | succ depth => rw [readValue] <;> assumption

/-- Reading a text from outside passes over no member. -/
abbrev keepsAll : String → Bool := fun _ => false

theorem readMember_memberChars {value : List Char → Option (Json × List Char)} (name : String)
    {json : Json} {rest : List Char} (opens : Opens ']' (chars json))
    (reads : value (chars json ++ rest) = some (json, rest)) :
    readMember keepsAll value (memberChars (name, json) ++ rest) = some ((name, json), rest) := by
  have colon : skipGaps (':' :: (chars json ++ rest)) = ':' :: (chars json ++ rest) :=
    List.dropWhile_cons_of_neg (by decide)
  simp only [memberChars, stringChars, List.cons_append, List.append_assoc, List.nil_append,
    readMember, readQuoted_escaped, String.ofList_toList, colon, bind, Option.bind,
    Bool.false_eq_true, ↓reduceIte, skipGaps_of_opens (opens.append rest), reads]

mutual

/-- A written tree reads back, whatever follows it. -/
theorem readValue_chars : ∀ (json : Json) (depth : Nat) (rest : List Char), Fits depth json →
    EndsNumeral rest → readValue keepsAll depth (chars json ++ rest) = some (json, rest)
  | null, depth, rest, _, _ => by
      exact readValue_of_scalar depth (by rintro _ ⟨⟩) (by rintro _ ⟨⟩)
  | bool true, depth, rest, _, _ => by
      exact readValue_of_scalar depth (by rintro _ ⟨⟩) (by rintro _ ⟨⟩)
  | bool false, depth, rest, _, _ => by
      exact readValue_of_scalar depth (by rintro _ ⟨⟩) (by rintro _ ⟨⟩)
  | number (.integer n), depth, rest, fits, ends => by
      have word : IsWord n := by simpa only [Fits] using fits
      obtain ⟨c, digits, written, first⟩ := integerChars_eq_cons n
      have number := readScalar_integerChars word ends
      rw [chars, Number.chars]
      rw [readValue_of_scalar depth, number]
      all_goals
        intro more same
        rw [written] at same
        obtain rfl := (List.cons.inj same).1
        rcases first with minus | digit <;> contradiction
  | number (.real x), depth, rest, fits, _ => by
      cases depth <;> exact fits.elim
  | string s, depth, rest, _, _ => by
      rw [readValue_of_scalar depth (by rintro _ ⟨⟩) (by rintro _ ⟨⟩), chars, stringChars,
        List.cons_append, List.append_assoc, List.singleton_append, readScalar,
        readQuoted_escaped, Option.map_some]
      simp only [String.ofList_toList]
  | array items, 0, _, fits, _ => fits.elim
  | array items, depth + 1, rest, fits, _ => by
      have opens : ∀ item ∈ items, Opens ']' (chars item) := fun item member =>
        opens_chars (fitsItems_iff.mp fits item member)
      rw [chars, List.cons_append, List.append_assoc, List.singleton_append, itemsChars_eq,
        readValue, readItems_separated closes_array rest opens (readValue_items items depth fits),
        Option.map_some]
  | object members, 0, _, fits, _ => fits.elim
  | object members, depth + 1, rest, fits, _ => by
      rw [chars, List.cons_append, List.append_assoc, List.singleton_append, membersChars_eq,
        readValue, readItems_separated closes_object rest (fun member _ => opens_memberChars member)
          (readValue_members members depth fits), Option.map_some]

theorem readValue_items : ∀ (items : List Json) (depth : Nat), FitsItems depth items →
    ∀ item ∈ items, ∀ rest, EndsNumeral rest →
      readValue keepsAll depth (chars item ++ rest) = some (item, rest)
  | [], _, _ => fun _ absent => absurd absent List.not_mem_nil
  | item :: others, depth, fits => List.forall_mem_cons.mpr
      ⟨fun rest ends => readValue_chars item depth rest fits.1 ends,
        readValue_items others depth fits.2⟩

theorem readValue_members : ∀ (members : List (String × Json)) (depth : Nat),
    FitsMembers depth members → ∀ member ∈ members, ∀ rest, EndsNumeral rest →
      readMember keepsAll (readValue keepsAll depth) (memberChars member ++ rest) =
        some (member, rest)
  | [], _, _ => fun _ absent => absurd absent List.not_mem_nil
  | (name, json) :: others, depth, fits => List.forall_mem_cons.mpr
      ⟨fun rest ends => readMember_memberChars name (opens_chars fits.1)
          (readValue_chars json depth rest fits.1 ends),
        readValue_members others depth fits.2⟩

end

/-- **Reading back what was written.** -/
theorem ofText?_text {json : Json} (fits : Fits depthLimit json) :
    ofText? json.text = some json := by
  have whole := readValue_chars json depthLimit [] fits trivial
  rw [List.append_nil] at whole
  rw [ofText?, text, read?, readPassing?, String.toList_ofList,
    skipGaps_of_opens (opens_chars fits), whole]
  rfl

end Keyset.Json
