import Keyset.Filter.ToPredicate
import Keyset.Proofs.Predicate.Eval
import Keyset.Proofs.Predicate.Strings

/-! # What is found in a delimited list

The patterns of a value find it in the text of a list if the value is written like the whole list,
or if the value, read as a pattern, reads some items that stand together
(`Keyset.Containment.block_of_finds`). So a value without marks is only found where it is an item,
while one with marks may be found where it is none (`Keyset.Containment.eval_contained`,
`Keyset.Containment.eval_contained_mark`).
-/

namespace Keyset.Containment

/-- The text of a list whose items have these texts. -/
def listText (items : List String) : String :=
  "[" ++ ",".intercalate items ++ "]"

/-- A text in double quotes, as the items of lists of strings are stored. -/
def quoted (text : String) : String :=
  "\"" ++ text ++ "\""

theorem quoted_inj {first second : String} : quoted first = quoted second ↔ first = second := by
  simp [quoted]

/-! ## Items that stand together -/

section Blocks

variable {items : List String} {s rest before : List Char}

theorem toList_listText (items : List String) :
    (listText items).toList = '[' :: ((",".intercalate items).toList ++ [']']) := by
  simp [listText]

theorem splitOn_intercalate (present : items ≠ []) (noComma : ∀ item ∈ items, ',' ∉ item.toList) :
    (",".intercalate items).toList.splitOn ',' = items.map String.toList := by
  have pieces : ∀ piece ∈ items.map String.toList, ',' ∉ piece := by
    intro piece inPieces
    obtain ⟨item, inItems, rfl⟩ := List.mem_map.mp inPieces
    exact noComma item inItems
  rw [String.toList_intercalate]
  exact List.splitOn_intercalate ',' pieces (by simpa using present)

theorem toList_intercalate_of_map (same : items.map String.toList = s.splitOn ',') :
    (",".intercalate items).toList = s := by
  rw [String.toList_intercalate, same]
  exact List.intercalate_splitOn ','

/-- The text of items without commas says which they are. -/
theorem eq_of_intercalate {others : List String} (present : items ≠ [])
    (noComma : ∀ item ∈ items, ',' ∉ item.toList) (othersPresent : others ≠ [])
    (othersNoComma : ∀ item ∈ others, ',' ∉ item.toList)
    (same : ",".intercalate items = ",".intercalate others) : items = others := by
  have pieces := splitOn_intercalate present noComma
  rw [same, splitOn_intercalate othersPresent othersNoComma] at pieces
  exact ((List.map_inj_right fun _ _ => String.toList_injective).mp pieces).symm

/-- A text without commas is the text of one item only. -/
theorem eq_singleton_of_intercalate (present : items ≠ [])
    (noComma : ∀ item ∈ items, ',' ∉ item.toList) {text : String}
    (same : ",".intercalate items = text) (single : ',' ∉ text.toList) : items = [text] :=
  eq_of_intercalate present noComma (List.cons_ne_nil _ _) (List.forall_mem_singleton.mpr single)
    (same.trans String.intercalate_singleton.symm)

/-- The characters are the text of some of the items, but not all, that stand together. -/
def IsBlock (items : List String) (s : List Char) : Prop :=
  ∃ front block back, items = front ++ block ++ back ∧ block ≠ [] ∧ (front ≠ [] ∨ back ≠ []) ∧
    (",".intercalate block).toList = s

theorem isBlock_of_cut (start rest : List (List Char))
    (cut : items.map String.toList = start ++ s.splitOn ',' ++ rest)
    (proper : start ≠ [] ∨ rest ≠ []) : IsBlock items s := by
  obtain ⟨frontBlock, back, rfl, joined, after⟩ := List.map_eq_append_iff.mp cut
  obtain ⟨front, block, rfl, before, middle⟩ := List.map_eq_append_iff.mp joined
  refine ⟨front, block, back, rfl, ?_, ?_, toList_intercalate_of_map middle⟩
  · rintro rfl
    exact List.splitOn_ne_nil ',' s middle.symm
  · rcases proper with start | rest
    · exact Or.inl fun none => start (by rw [← before, none]; rfl)
    · exact Or.inr fun none => rest (by rw [← after, none]; rfl)

/-- Up to a comma, the text of a list after its bracket is the text of its first items. -/
theorem exists_cut (present : items ≠ []) (noComma : ∀ item ∈ items, ',' ∉ item.toList)
    (same : (",".intercalate items).toList ++ [']'] = s ++ ',' :: rest) :
    ∃ after, after ≠ [] ∧ items.map String.toList = s.splitOn ',' ++ after := by
  -- The bracket is the last character, and no comma, so that it belongs to what follows the comma.
  rcases List.eq_nil_or_concat rest with rfl | ⟨rest, last, rfl⟩
  · have last := (List.append_inj' same rfl).2
    exact absurd (List.cons.inj last).1 (by decide)
  · rw [List.concat_eq_append, ← List.cons_append, ← List.append_assoc] at same
    have joined := (List.append_inj' same rfl).1
    refine ⟨rest.splitOn ',', List.splitOn_ne_nil ',' rest, ?_⟩
    rw [← splitOn_intercalate present noComma, joined, List.splitOn_append_cons_self]

theorem isBlock_of_first (present : items ≠ []) (noComma : ∀ item ∈ items, ',' ∉ item.toList)
    (same : (listText items).toList = '[' :: (s ++ ',' :: rest)) : IsBlock items s := by
  rw [toList_listText] at same
  obtain ⟨after, nonempty, cut⟩ := exists_cut present noComma (List.cons.inj same).2
  exact isBlock_of_cut [] after cut (Or.inr nonempty)

theorem exists_bracket (same : (listText items).toList = before ++ ',' :: rest) :
    ∃ more, (",".intercalate items).toList ++ [']'] = more ++ ',' :: rest := by
  rw [toList_listText] at same
  cases before with
  | nil => exact absurd (List.cons.inj same).1 (by decide)
  | cons c more => exact ⟨more, (List.cons.inj same).2⟩

theorem isBlock_of_middle (present : items ≠ []) (noComma : ∀ item ∈ items, ',' ∉ item.toList)
    (same : (listText items).toList = before ++ ',' :: (s ++ ',' :: rest)) : IsBlock items s := by
  obtain ⟨more, same⟩ := exists_bracket same
  rw [← List.cons_append, ← List.append_assoc] at same
  obtain ⟨after, nonempty, cut⟩ := exists_cut present noComma same
  rw [List.splitOn_append_cons_self] at cut
  exact isBlock_of_cut (more.splitOn ',') after cut (Or.inr nonempty)

theorem isBlock_of_last (present : items ≠ []) (noComma : ∀ item ∈ items, ',' ∉ item.toList)
    (same : (listText items).toList = before ++ ',' :: (s ++ [']'])) : IsBlock items s := by
  obtain ⟨more, same⟩ := exists_bracket same
  rw [← List.cons_append, ← List.append_assoc] at same
  have cut := splitOn_intercalate present noComma
  rw [(List.append_inj' same rfl).1, List.splitOn_append_cons_self] at cut
  refine isBlock_of_cut (more.splitOn ',') [] ?_ (Or.inl (List.splitOn_ne_nil ',' more))
  rw [← cut, List.append_nil]

end Blocks

/-! ## Patterns -/

/-- Whether one of the patterns finds its element in a text. -/
def Patterns.finds (patterns : Patterns) (text : String) : Bool :=
  decide (text = patterns.sole) || Like.matchChars text.toList patterns.first.toList ||
    Like.matchChars text.toList patterns.middle.toList ||
    Like.matchChars text.toList patterns.last.toList

section Patterns

variable {element : String} {text : List Char}

theorem exists_of_reads_comma {pattern : List Char}
    (reads : Like.Reads (element.toList ++ ',' :: pattern) text) :
    ∃ s rest, text = s ++ ',' :: rest ∧ Like.Reads element.toList s := by
  obtain ⟨s, more, rfl, here, later⟩ := reads.of_append
  obtain ⟨rest, rfl, -⟩ := (Like.reads_char_iff (by decide) (by decide)).mp later
  exact ⟨s, rest, rfl, here⟩

theorem exists_of_reads_run {pattern : List Char}
    (reads : Like.Reads ('%' :: ',' :: pattern) text) :
    ∃ before rest, text = before ++ ',' :: rest ∧ Like.Reads pattern rest := by
  obtain ⟨before, more, rfl, later⟩ := Like.reads_run_iff.mp reads
  obtain ⟨rest, rfl, here⟩ := (Like.reads_char_iff (by decide) (by decide)).mp later
  exact ⟨before, rest, rfl, here⟩

/-- **What the patterns find in a list.** An element is written like the whole list, or it reads,
as a pattern, some of the items that stand together. -/
theorem block_of_finds {items : List String} (present : items ≠ [])
    (noComma : ∀ item ∈ items, ',' ∉ item.toList)
    (found : (Patterns.ofElement element).finds (listText items) = true) :
    ",".intercalate items = element ∨ ∃ s, IsBlock items s ∧ Like.Reads element.toList s := by
  simp only [Patterns.finds, Bool.or_eq_true, decide_eq_true_eq] at found
  rcases found with ((isSole | isFirst) | isMiddle) | isLast
  · left
    simpa [listText, Patterns.ofElement] using isSole
  · right
    have reads := Like.reads_of_matchChars isFirst
    simp only [Patterns.ofElement, String.toList_append] at reads
    obtain ⟨more, same, later⟩ := (Like.reads_char_iff (by decide) (by decide)).mp reads
    obtain ⟨s, rest, rfl, here⟩ := exists_of_reads_comma later
    exact ⟨s, isBlock_of_first present noComma same, here⟩
  · right
    have reads := Like.reads_of_matchChars isMiddle
    simp only [Patterns.ofElement, String.toList_append] at reads
    obtain ⟨before, more, same, later⟩ := exists_of_reads_run reads
    obtain ⟨s, rest, rfl, here⟩ := exists_of_reads_comma later
    exact ⟨s, isBlock_of_middle present noComma same, here⟩
  · right
    have reads := Like.reads_of_matchChars isLast
    simp only [Patterns.ofElement, String.toList_append] at reads
    obtain ⟨before, more, same, later⟩ := exists_of_reads_run reads
    obtain ⟨s, bracket, rfl, here, closing⟩ := later.of_append
    rw [closing.eq_of_plain (by decide) (by decide)] at same
    exact ⟨s, isBlock_of_last present noComma same, here⟩

end Patterns

/-! ## Membership and its opposite -/

section Membership

variable {record : Record} {field text : String}

theorem eval_membership (kept : record.value field = .string text) (patterns : Patterns) :
    (patterns.membership field).eval record = .ok (patterns.finds text) := by
  have each : [comparison field .eq patterns.sole, comparison field .like patterns.first,
        comparison field .like patterns.middle, comparison field .like patterns.last].map
          (Predicate.eval record) =
      [decide (text = patterns.sole), Like.matchChars text.toList patterns.first.toList,
        Like.matchChars text.toList patterns.middle.toList,
        Like.matchChars text.toList patterns.last.toList].map Except.ok := by
    simp [comparison, Predicate.eval_eq kept, Predicate.eval_like kept]
  rw [Patterns.membership, Predicate.eval, Predicate.evalAny_of_map_eq record each]
  simp [Patterns.finds, Bool.or_assoc]

theorem eval_exclusion (kept : record.value field = .string text) (patterns : Patterns) :
    (patterns.exclusion field).eval record = .ok (!patterns.finds text) := by
  have each : [comparison field .ne patterns.sole, comparison field .notLike patterns.first,
        comparison field .notLike patterns.middle, comparison field .notLike patterns.last].map
          (Predicate.eval record) =
      [!decide (text = patterns.sole), !Like.matchChars text.toList patterns.first.toList,
        !Like.matchChars text.toList patterns.middle.toList,
        !Like.matchChars text.toList patterns.last.toList].map Except.ok := by
    simp [comparison, Predicate.eval_ne kept, Predicate.eval_notLike kept]
  rw [Patterns.exclusion, Predicate.eval, Predicate.evalAll_of_map_eq record each]
  simp [Patterns.finds, Bool.and_assoc]

variable {declarations : Declarations} {type : AttributeType}

/-- Membership in a declared list, and its opposite, are spelled out by patterns. -/
theorem toPredicate_of_predicate? {op : Operator} {value : Value} {predicate : Predicate}
    (declared : declarations.type? field = some type) (isList : type.isList = true)
    (spelled : predicate? field op value type = some predicate) :
    (Filter.leaf field op value).toPredicate declarations .delimited = .ok predicate := by
  change Filter.leafPredicate declarations .delimited field op value = _
  simp only [Filter.leafPredicate, Filter.containment?, declared, isList, if_true, spelled]

theorem toPredicate_isIn (declared : declarations.type? field = some type)
    (isList : type.isList = true) (value : Value) :
    (Filter.leaf field .isIn value).toPredicate declarations .delimited =
      .ok ((Patterns.ofElement (elementText type.element value)).membership field) :=
  toPredicate_of_predicate? declared isList rfl

theorem toPredicate_notIn (declared : declarations.type? field = some type)
    (isList : type.isList = true) (value : Value) :
    (Filter.leaf field .notIn value).toPredicate declarations .delimited =
      .ok ((Patterns.ofElement (elementText type.element value)).exclusion field) :=
  toPredicate_of_predicate? declared isList rfl

end Membership

/-! ## Lists of strings -/

section Strings

variable {stored : List String} {value : String}

theorem not_mem_quoted {c : Char} (notQuote : c ≠ '"') (absent : c ∉ value.toList) :
    c ∉ (quoted value).toList := by
  simp [quoted, notQuote, absent]

theorem quoted_of_noComma (noComma : ∀ x ∈ stored, ',' ∉ x.toList) :
    ∀ item ∈ stored.map quoted, ',' ∉ item.toList := by
  intro item present
  obtain ⟨x, inStored, rfl⟩ := List.mem_map.mp present
  exact not_mem_quoted (by decide) (noComma x inStored)

/-- Strings whose quoted texts, with commas between them, are that of one value without commas are
that value only. -/
theorem eq_singleton_of_quoted (present : stored ≠ []) (noComma : ∀ x ∈ stored, ',' ∉ x.toList)
    (single : ',' ∉ value.toList)
    (same : ",".intercalate (stored.map quoted) = quoted value) : stored = [value] := by
  have one := eq_singleton_of_intercalate (by simpa using present) (quoted_of_noComma noComma)
    same (not_mem_quoted (by decide) single)
  obtain ⟨x, rfl, alike⟩ := List.map_eq_singleton_iff.mp one
  rw [quoted_inj.mp alike]

/-- Some strings of a list that stand together, but not all, are read by the value in quotes. -/
def ReadsBlock (value : String) (stored : List String) : Prop :=
  ∃ front block back, stored = front ++ block ++ back ∧ block ≠ [] ∧ (front ≠ [] ∨ back ≠ []) ∧
    Like.Reads (quoted value).toList (",".intercalate (block.map quoted)).toList

theorem readsBlock_of_isBlock {s : List Char} (block : IsBlock (stored.map quoted) s)
    (reads : Like.Reads (quoted value).toList s) : ReadsBlock value stored := by
  obtain ⟨front, block, back, cut, nonempty, proper, rfl⟩ := block
  obtain ⟨_, back, rfl, joined, rfl⟩ := List.map_eq_append_iff.mp cut
  obtain ⟨front, block, rfl, rfl, rfl⟩ := List.map_eq_append_iff.mp joined
  exact ⟨front, block, back, rfl, by simpa using nonempty, by simpa using proper, reads⟩

/-- A value without marks and commas reads no strings but itself. -/
theorem mem_of_readsBlock (noComma : ∀ x ∈ stored, ',' ∉ x.toList) (single : ',' ∉ value.toList)
    (noRun : '%' ∉ value.toList) (noAny : '_' ∉ value.toList)
    (reads : ReadsBlock value stored) : value ∈ stored := by
  obtain ⟨front, block, back, rfl, nonempty, -, reads⟩ := reads
  have plain := reads.eq_of_plain (not_mem_quoted (by decide) noAny)
    (not_mem_quoted (by decide) noRun)
  have inBlock : ∀ x ∈ block, ',' ∉ x.toList := fun x present =>
    noComma x (List.mem_append_left _ (List.mem_append_right _ present))
  rw [eq_singleton_of_quoted nonempty inBlock single (String.toList_inj.mp plain)]
  simp

variable {declarations : Declarations} {field : String} {record : Record}

/-- **What is found in a stored list of strings.** Membership of a value and its opposite have
opposite answers. A value is found only in the list of it alone, or where it reads, as a pattern,
some of the strings that stand together. So a value without marks is found only where it is one of
the strings. -/
theorem eval_contained (declared : declarations.get? field = some "[String]")
    (present : stored ≠ []) (noComma : ∀ x ∈ stored, ',' ∉ x.toList)
    (kept : record.value field = .string (listText (stored.map quoted)))
    (single : ',' ∉ value.toList) :
    ∃ member absent found,
      (Filter.leaf field .isIn (.string value)).toPredicate declarations .delimited = .ok member ∧
      (Filter.leaf field .notIn (.string value)).toPredicate declarations .delimited = .ok absent ∧
      member.eval record = .ok found ∧ absent.eval record = .ok (!found) ∧
      (found = true → stored = [value] ∨ ReadsBlock value stored) ∧
      (found = true → '%' ∉ value.toList → '_' ∉ value.toList → value ∈ stored) := by
  have type : declarations.type? field = some ⟨"String", true⟩ := by
    rw [Declarations.type?, declared]
    decide
  have contained : (Patterns.ofElement (quoted value)).finds (listText (stored.map quoted)) = true →
      stored = [value] ∨ ReadsBlock value stored := by
    intro found
    rcases block_of_finds (by simpa using present) (quoted_of_noComma noComma) found with
      sole | ⟨s, block, reads⟩
    · exact Or.inl (eq_singleton_of_quoted present noComma single sole)
    · exact Or.inr (readsBlock_of_isBlock block reads)
  refine ⟨_, _, _, toPredicate_isIn type rfl _, toPredicate_notIn type rfl _,
    eval_membership kept _, eval_exclusion kept _, contained, ?_⟩
  intro found noRun noAny
  rcases contained found with rfl | reads
  · exact List.mem_singleton.mpr rfl
  · exact mem_of_readsBlock noComma single noRun noAny reads

end Strings

/-- Marks and brackets in the strings of a list are strings like others: the last one is found. -/
theorem eval_contained_last :
    let declarations : Declarations := FieldMap.ofList [("tags", "[String]")]
    let stored := ["50%", "a_b", "[c]"]
    let record : Record := FieldMap.ofList [("tags", .string (listText (stored.map quoted)))]
    declarations.get? "tags" = some "[String]" ∧ stored ≠ [] ∧
      (∀ x ∈ stored, ',' ∉ x.toList) ∧
      ∃ member absent,
        (Filter.leaf "tags" .isIn (.string "[c]")).toPredicate declarations .delimited =
          .ok member ∧
        (Filter.leaf "tags" .notIn (.string "[c]")).toPredicate declarations .delimited =
          .ok absent ∧
        member.eval record = .ok true ∧ absent.eval record = .ok false ∧ "[c]" ∈ stored := by
  intro declarations stored record
  have declared : declarations.get? "tags" = some "[String]" := rfl
  have present : stored ≠ [] := List.cons_ne_nil _ _
  have noComma : ∀ x ∈ stored, ',' ∉ x.toList := by decide
  have kept : record.value "tags" = .string (listText (stored.map quoted)) := rfl
  have single : ',' ∉ "[c]".toList := by decide
  obtain ⟨member, absent, found, isIn, notIn, finds, opposite, -, contained⟩ :=
    eval_contained declared present noComma kept single
  have hit : found = true := by
    have type : declarations.type? "tags" = some ⟨"String", true⟩ := by decide
    obtain rfl := Except.ok.inj (isIn.symm.trans (toPredicate_isIn type rfl _))
    have same := Except.ok.inj (finds.symm.trans (eval_membership kept _))
    rw [same]
    cbv
  subst hit
  exact ⟨declared, present, noComma, member, absent, isIn, notIn, finds, opposite,
    contained rfl (by decide) (by decide)⟩

/-- A value with a mark is found in a list that lacks it: `_` stands for any one character. -/
theorem eval_contained_mark :
    let declarations : Declarations := FieldMap.ofList [("tags", "[String]")]
    let record : Record :=
      FieldMap.ofList [("tags", .string (listText (["a", "b"].map quoted)))]
    "_" ∉ ["a", "b"] ∧
      ∃ member absent,
        (Filter.leaf "tags" .isIn (.string "_")).toPredicate declarations .delimited =
          .ok member ∧
        (Filter.leaf "tags" .notIn (.string "_")).toPredicate declarations .delimited =
          .ok absent ∧
        member.eval record = .ok true ∧ absent.eval record = .ok false := by
  intro declarations record
  have type : declarations.type? "tags" = some ⟨"String", true⟩ := by decide
  have kept : record.value "tags" = .string (listText (["a", "b"].map quoted)) := rfl
  have found : (Patterns.ofElement (quoted "_")).finds (listText (["a", "b"].map quoted)) =
      true := by cbv
  refine ⟨by decide, _, _, toPredicate_isIn type rfl _, toPredicate_notIn type rfl _, ?_, ?_⟩
  · exact (eval_membership kept _).trans (congrArg Except.ok found)
  · exact (eval_exclusion kept _).trans (congrArg (fun hit => Except.ok (!hit)) found)

end Keyset.Containment
