import Keyset.Proofs.Order.Parser

/-! # Where the reading of an order stops

A text that is no order may start with one. No reader stops before the end of a sentence of the
grammar: a level that a comma follows is read as it stands, and the last level is read at least to
its end (`Keyset.Order.readLevel?_takes_further`). So what is read of a text is the longest sentence
that starts it, and nothing is read iff no sentence does. Hence the error about a text points right
behind that sentence, counted in bytes, and tells what follows (`Keyset.Order.error_of_parse`).
-/

namespace Keyset.Order

variable {name front rest source : List Char}

/-- A text of the grammar. -/
def IsSentence (text : List Char) : Prop :=
  ∃ reading : Reading, reading.IsSound ∧ reading.chars = text

/-- A sentence at the start of a text, than which no other one there is longer. -/
structure IsLongestSentence (front text : List Char) : Prop where
  sentence : IsSentence front
  isPrefix : front <+: text
  longest : ∀ other, IsSentence other → other <+: text → other.length ≤ front.length

theorem IsSentence.ne_nil (sentence : IsSentence front) : front ≠ [] := by
  obtain ⟨⟨first, further⟩, sound, rfl⟩ := sentence
  apply List.append_ne_nil_of_left_ne_nil
  have level := sound.first
  cases first with
  | rising name => exact List.cons_ne_nil _ _
  | falling name => exact List.cons_ne_nil _ _
  | bare name => exact level.1
  | directed name mark direction => exact List.append_ne_nil_of_left_ne_nil level.1.1 _

/-! ## No reader stops before the end of a sentence -/

theorem readField?_takes (named : IsName name) (more : List Char) :
    ∃ field rest, readField? (name ++ more) = some (field, rest) ∧ rest.length ≤ more.length := by
  refine ⟨String.ofList (name ++ more.takeWhile isFieldChar), more.dropWhile isFieldChar, ?_,
    (List.dropWhile_suffix _).length_le⟩
  obtain ⟨c, others, rfl, -⟩ := named.exists_cons
  rw [readField?, List.takeWhile_append_of_pos named.2, List.dropWhile_append_of_pos named.2]
  rfl

section Levels

variable {spelling : Spelling} {further : List (List Char × Spelling)}

theorem readLevel?_takes (sound : spelling.IsSound) (more : List Char) :
    ∃ entry rest, readLevel? (spelling.chars ++ more) = some (entry, rest) ∧
      rest.length ≤ more.length := by
  cases spelling with
  | rising name =>
      obtain ⟨field, rest, read, shorter⟩ := readField?_takes sound more
      refine ⟨⟨field, .asc⟩, rest, ?_, shorter⟩
      change readLevel? ('^' :: (name ++ more)) = _
      rw [readLevel?_rising sound, read]
      rfl
  | falling name =>
      obtain ⟨field, rest, read, shorter⟩ := readField?_takes sound more
      refine ⟨⟨field, .desc⟩, rest, ?_, shorter⟩
      change (readField? (name ++ more)).map _ = _
      rw [read]
      rfl
  | bare name =>
      -- A longer name or a direction behind it may be read.
      obtain ⟨field, rest, read, shorter⟩ := readField?_takes sound more
      rw [Spelling.chars, readLevel?_name sound, read, Option.map_some]
      dsimp only
      split
      next direction after marked =>
        exact ⟨_, _, rfl, Nat.le_trans (length_of_readMarkedDirection? marked) shorter⟩
      next => exact ⟨_, _, rfl, shorter⟩
  | directed name mark direction =>
      exact ⟨_, more, readLevel?_directed sound.1 sound.2 direction more, Nat.le_refl _⟩

theorem length_readMore_le (source : List Char) : (readMore source).2.length ≤ source.length := by
  obtain ⟨further, -, -, parts⟩ := exists_of_readMore source
  rw [congrArg List.length parts, List.length_append]
  exact Nat.le_add_left _ _

/-- A level that a comma follows is read as it stands, so that the comma and the levels behind it
are read in their turn. -/
theorem readLevel?_takes_further (sound : spelling.IsSound) (later : Reading.FurtherSound further)
    (more : List Char) :
    ∃ entry rest,
      readLevel? (spelling.chars ++ (Reading.furtherChars further ++ more)) = some (entry, rest) ∧
        (readMore rest).2.length ≤ more.length := by
  induction further generalizing spelling with
  | nil =>
      obtain ⟨entry, rest, read, shorter⟩ := readLevel?_takes sound more
      exact ⟨entry, rest, read, Nat.le_trans (length_readMore_le rest) shorter⟩
  | cons next further ih =>
      obtain ⟨comma, following⟩ := next
      obtain ⟨⟨isComma, isSound⟩, later⟩ := List.forall_mem_cons.mp later
      obtain ⟨entry, rest, read, shorter⟩ := ih isSound later
      rw [Reading.furtherChars_cons, List.append_assoc, List.append_assoc]
      refine ⟨_, _, readLevel?_append sound (endsLevel_comma isComma _), ?_⟩
      rw [readMore_of_some ((readNext?_comma isComma isSound _).trans read)]
      exact shorter

end Levels

/-! ## What is read of a text -/

/-- A text that a sentence starts is read at least to the end of the sentence. -/
theorem readPrefix?_takes (sentence : IsSentence front) (more : List Char) :
    ∃ order rest, readPrefix? (front ++ more) = some (order, rest) ∧
      rest.length ≤ more.length := by
  obtain ⟨⟨first, further⟩, sound, rfl⟩ := sentence
  obtain ⟨entry, rest, read, shorter⟩ := readLevel?_takes_further sound.first sound.further more
  refine ⟨entry :: (readMore rest).1, (readMore rest).2, ?_, shorter⟩
  rw [Reading.chars, List.append_assoc, readPrefix?, read]
  rfl

theorem readPrefix?_eq_none_iff :
    readPrefix? source = none ↔ ¬∃ front, IsSentence front ∧ front <+: source := by
  constructor
  · rintro none ⟨front, sentence, more, rfl⟩
    obtain ⟨order, rest, read, -⟩ := readPrefix?_takes sentence more
    rw [none] at read
    cases read
  · intro noSentence
    by_contra some
    obtain ⟨⟨order, rest⟩, read⟩ := Option.ne_none_iff_exists'.mp some
    obtain ⟨reading, sound, -, parts⟩ := exists_of_readPrefix? read
    exact noSentence ⟨reading.chars, ⟨reading, sound, rfl⟩, rest, parts.symm⟩

theorem exists_longest_of_readPrefix? {order : Order}
    (read : readPrefix? source = some (order, rest)) :
    ∃ front, source = front ++ rest ∧ IsLongestSentence front source := by
  obtain ⟨reading, sound, -, parts⟩ := exists_of_readPrefix? read
  refine ⟨reading.chars, parts, ⟨reading, sound, rfl⟩, ⟨rest, parts.symm⟩, ?_⟩
  rintro other sentence ⟨more, split⟩
  obtain ⟨_, _, readAgain, shorter⟩ := readPrefix?_takes sentence more
  rw [split, read] at readAgain
  cases readAgain
  have lengths := congrArg List.length (parts.symm.trans split.symm)
  rw [List.length_append, List.length_append] at lengths
  omega

/-- The bytes of a text before its rest. -/
theorem utf8ByteSize_sub_rest (front rest : List Char) :
    (String.ofList (front ++ rest)).utf8ByteSize - (String.ofList rest).utf8ByteSize =
      (String.ofList front).utf8ByteSize := by
  rw [String.ofList_append, String.utf8ByteSize_append, Nat.add_sub_cancel]

theorem isValid_utf8ByteSize (front rest : List Char) :
    String.Pos.Raw.IsValid (String.ofList (front ++ rest))
      ⟨(String.ofList front).utf8ByteSize⟩ :=
  String.Pos.Raw.isValid_iff_exists_append.mpr
    ⟨String.ofList front, String.ofList rest, String.ofList_append, rfl⟩

/-- **An error points behind the longest sentence.** Of a text that is no order, without the blanks
around it, either some sentence is a start: then the position of the error is the number of bytes
of the longest one, which is between two characters, and the error tells all that follows. Or none
is, and the error tells the whole text at position zero. -/
theorem error_of_parse {input : String} {error : ParseError}
    (rejected : parse input = .error error) :
    let text := Text.trimChars input.toList
    ((∃ start, start ≠ [] ∧ IsSentence start ∧ start <+: text) →
      ∃ front rest, IsLongestSentence front text ∧ text = front ++ rest ∧ rest ≠ [] ∧
        let position := (String.ofList front).utf8ByteSize
        String.Pos.Raw.IsValid (String.ofList text) ⟨position⟩ ∧
          error = .trailing position (String.ofList rest) ∧
          error.message = "Parse error at position " ++ toString position ++
            ": Unexpected trailing content: '" ++ String.ofList rest ++ "'") ∧
    ((¬∃ start, start ≠ [] ∧ IsSentence start ∧ start <+: text) →
      error = .nothing (String.ofList text) ∧
        error.message = "Parse error at position 0: Parse failed: Error(Error \x7b input: " ++
          Text.display (String.ofList text) ++ ", code: TakeWhile1 \x7d)") := by
  intro text
  change ParseError.whole text (readPrefix? text) = .error error at rejected
  cases read : readPrefix? text with
  | none =>
      have noSentence := readPrefix?_eq_none_iff.mp read
      rw [read] at rejected
      obtain rfl := Except.error.inj rejected
      refine ⟨?_, fun _ => ⟨rfl, rfl⟩⟩
      rintro ⟨start, -, sentence, isPrefix⟩
      exact absurd ⟨start, sentence, isPrefix⟩ noSentence
  | some result =>
      obtain ⟨order, rest⟩ := result
      obtain ⟨front, parts, longest⟩ := exists_longest_of_readPrefix? read
      refine ⟨fun _ => ⟨front, rest, longest, parts, ?_⟩, fun noSentence => ?_⟩
      · rw [read] at rejected
        cases rest with
        | nil => cases rejected
        | cons c more =>
            obtain rfl := Except.error.inj rejected
            rw [parts, utf8ByteSize_sub_rest]
            exact ⟨List.cons_ne_nil _ _, isValid_utf8ByteSize _ _, rfl, rfl⟩
      · exact absurd ⟨front, longest.sentence.ne_nil, longest.sentence, longest.isPrefix⟩ noSentence

/-- Letters of two bytes before the direction that is not read. -/
theorem error_of_parse_two_bytes :
    parse " größe|DESC,\tñ asc" = .error (.trailing 16 " asc") ∧
      ∃ front, IsLongestSentence front "größe|DESC,\tñ asc".toList ∧
        (String.ofList front).utf8ByteSize = 16 := by
  have rejected : parse " größe|DESC,\tñ asc" = .error (.trailing 16 " asc") := by decide +kernel
  have trimmed : Text.trimChars " größe|DESC,\tñ asc".toList = "größe|DESC,\tñ asc".toList := by
    decide +kernel
  have sentence : IsSentence "größe".toList :=
    ⟨⟨.bare "größe".toList, []⟩, ⟨⟨by decide, List.all_eq_true.mp rfl⟩, nofun⟩, rfl⟩
  obtain ⟨front, rest, longest, -, -, -, error, -⟩ := (error_of_parse rejected).1
    ⟨"größe".toList, by decide, sentence, by rw [trimmed]; exact ⟨_, rfl⟩⟩
  obtain ⟨position, -⟩ := ParseError.trailing.inj error
  exact ⟨rejected, front, trimmed ▸ longest, position.symm⟩

end Keyset.Order
