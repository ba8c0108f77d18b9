import Keyset.Proofs.Containment

/-! # Items that stand together in a delimited list

The patterns of several items without commas and marks find them in the text of a list exactly where
they stand together in the list (`Keyset.Containment.finds_iff_infix`). So membership in a list that
is stored as text, and its opposite, are exact for such items (`Keyset.Containment.eval_block_iff`).
Empty items, brackets and quotes are items like others.
-/

namespace Keyset.Containment

/-- A text that can be an item of a list and has no run. -/
def IsPlain (item : String) : Prop :=
  ',' ∉ item.toList ∧ '%' ∉ item.toList

instance : DecidablePred IsPlain :=
  fun item => inferInstanceAs (Decidable (',' ∉ item.toList ∧ '%' ∉ item.toList))

section Texts

variable {items searched front back : List String} {element : String}

theorem not_mem_intercalate {c : Char} (notComma : c ≠ ',')
    (absent : ∀ item ∈ items, c ∉ item.toList) : c ∉ (",".intercalate items).toList := by
  induction items with
  | nil => simp
  | cons item rest ih =>
      obtain ⟨here, later⟩ := List.forall_mem_cons.mp absent
      by_cases none : rest = []
      · subst none
        simpa using here
      · rw [String.intercalate_cons_of_ne_nil none]
        simp only [String.toList_append, List.mem_append, not_or]
        exact ⟨⟨here, by simpa using notComma⟩, ih later⟩

theorem not_mem_listText (plain : ∀ item ∈ items, '%' ∉ item.toList) :
    '%' ∉ (listText items).toList := by
  simp only [toList_listText, List.mem_cons, List.mem_append, not_or]
  exact ⟨by decide, not_mem_intercalate (by decide) plain, by decide, List.not_mem_nil⟩

/-! ## Where the patterns find their items -/

theorem reads_first (nonempty : back ≠ []) (present : searched ≠ []) :
    Like.Reads (Patterns.ofElement (",".intercalate searched)).first.toList
      (listText (searched ++ back)).toList := by
  simp only [Patterns.ofElement, listText, String.intercalate_append_of_ne_nil present nonempty,
    String.toList_append, List.append_assoc]
  exact .self_append _ (.self_append _ (.self ',' (Like.reads_rest _)))

theorem reads_middle (frontNonempty : front ≠ []) (present : searched ≠ [])
    (backNonempty : back ≠ []) :
    Like.Reads (Patterns.ofElement (",".intercalate searched)).middle.toList
      (listText (front ++ (searched ++ back))).toList := by
  simp only [Patterns.ofElement, listText, String.intercalate_append_of_ne_nil present backNonempty,
    String.intercalate_append_of_ne_nil frontNonempty (List.append_ne_nil_of_left_ne_nil present _),
    String.toList_append, List.append_assoc]
  change Like.Reads ('%' :: ',' :: ((",".intercalate searched).toList ++ [',', '%']))
    ('[' :: ((",".intercalate front).toList ++ ',' :: ((",".intercalate searched).toList ++ _)))
  exact Like.reads_run_iff.mpr ⟨'[' :: (",".intercalate front).toList, _, rfl,
    .self ',' (.self_append _ (.self ',' (Like.reads_rest _)))⟩

theorem reads_last (nonempty : front ≠ []) (present : searched ≠ []) :
    Like.Reads (Patterns.ofElement (",".intercalate searched)).last.toList
      (listText (front ++ searched)).toList := by
  simp only [Patterns.ofElement, listText, String.intercalate_append_of_ne_nil nonempty present,
    String.toList_append, List.append_assoc]
  change Like.Reads ('%' :: ',' :: ((",".intercalate searched).toList ++ [']']))
    ('[' :: ((",".intercalate front).toList ++ ',' :: ((",".intercalate searched).toList ++ _)))
  exact Like.reads_run_iff.mpr ⟨'[' :: (",".intercalate front).toList, _, rfl,
    .self ',' (.self_append _ (.self ']' .nil))⟩

theorem finds_of_infix (plain : ∀ item ∈ items, IsPlain item) (present : searched ≠ [])
    (inside : searched <:+: items) :
    (Patterns.ofElement (",".intercalate searched)).finds (listText items) = true := by
  have noMark := not_mem_listText fun item inItems => (plain item inItems).2
  obtain ⟨front, back, rfl⟩ := inside
  rw [List.append_assoc] at noMark ⊢
  have found := fun {pattern : List Char} (reads : Like.Reads pattern _) =>
    Like.matchChars_of_reads reads (Or.inr noMark)
  simp only [Patterns.finds, Bool.or_eq_true, decide_eq_true_eq]
  by_cases noFront : front = [] <;> by_cases noBack : back = []
  · subst noFront noBack
    exact Or.inl (Or.inl (Or.inl (by simp [listText, Patterns.ofElement])))
  · subst noFront
    exact Or.inl (Or.inl (Or.inr (found (reads_first noBack present))))
  · subst noBack
    rw [List.append_nil] at found ⊢
    exact Or.inr (found (reads_last noFront present))
  · exact Or.inl (Or.inr (found (reads_middle noFront present noBack)))

theorem infix_of_finds (itemsPresent : items ≠ []) (plain : ∀ item ∈ items, IsPlain item)
    (present : searched ≠ []) (searchedPlain : ∀ item ∈ searched, IsPlain item)
    (noAny : ∀ item ∈ searched, '_' ∉ item.toList)
    (found : (Patterns.ofElement (",".intercalate searched)).finds (listText items) = true) :
    searched <:+: items := by
  have noComma : ∀ item ∈ items, ',' ∉ item.toList := fun item inItems => (plain item inItems).1
  have same := fun {block : List String} (blockPresent : block ≠ [])
    (inItems : ∀ item ∈ block, item ∈ items) =>
      eq_of_intercalate blockPresent (fun item inBlock => noComma item (inItems item inBlock))
        present fun item inSearched => (searchedPlain item inSearched).1
  rcases block_of_finds itemsPresent noComma found with whole | ⟨s, block, reads⟩
  · exact (same itemsPresent (fun _ => id) whole) ▸ List.infix_rfl
  · obtain ⟨front, block, back, rfl, blockPresent, -, rfl⟩ := block
    have plainText := reads.eq_of_plain (not_mem_intercalate (by decide) noAny)
      (not_mem_intercalate (by decide) fun item inSearched => (searchedPlain item inSearched).2)
    refine ⟨front, back, ?_⟩
    rw [← same blockPresent (fun item inBlock => by simp [inBlock]) (String.toList_inj.mp plainText)]

/-- **The patterns are exact.** Items without commas and marks are found in the text of a list iff
they stand together in the list, in their order. -/
theorem finds_iff_infix (itemsPresent : items ≠ []) (plain : ∀ item ∈ items, IsPlain item)
    (present : searched ≠ []) (searchedPlain : ∀ item ∈ searched, IsPlain item)
    (noAny : ∀ item ∈ searched, '_' ∉ item.toList) :
    (Patterns.ofElement (",".intercalate searched)).finds (listText items) = true ↔
      searched <:+: items :=
  ⟨infix_of_finds itemsPresent plain present searchedPlain noAny, finds_of_infix plain present⟩

end Texts

/-! ## Membership and its opposite -/

section Values

/-- The values that are searched for: the items of a list, or one value. -/
def searchedItems : Value → List Value
  | .array items => items
  | value => [value]

/-- The text of a value in the text of a list is that of the values that are searched for. -/
theorem elementText_eq (type : AttributeType) (value : Value) :
    elementText type value =
      ",".intercalate ((searchedItems value).map (itemText type.isQuoted)) := by
  cases value with
  | array => rfl
  | _ => exact String.intercalate_singleton.symm

variable {declarations : Declarations} {field : String} {type : AttributeType} {record : Record}
  {stored : List Value} {value : Value}

/-- **Membership of plain items is exact.** In a field that is declared a list and holds the text of
one, one value or the items of a list are found iff their texts stand together in it, and the
opposite of membership has the opposite answer. -/
theorem eval_block_iff (declared : declarations.type? field = some type)
    (isList : type.isList = true) (present : stored ≠ []) (searched : searchedItems value ≠ [])
    (storedPlain : ∀ item ∈ stored, IsPlain (itemText type.element.isQuoted item))
    (plain : ∀ item ∈ searchedItems value, IsPlain (itemText type.element.isQuoted item))
    (noAny : ∀ item ∈ searchedItems value,
      '_' ∉ (itemText type.element.isQuoted item).toList)
    (kept : record.value field =
      .string (listText (stored.map (itemText type.element.isQuoted)))) :
    ∃ member absent found,
      (Filter.leaf field .isIn value).toPredicate declarations .delimited = .ok member ∧
      (Filter.leaf field .notIn value).toPredicate declarations .delimited = .ok absent ∧
      member.eval record = .ok found ∧ absent.eval record = .ok (!found) ∧
      (found = true ↔ (searchedItems value).map (itemText type.element.isQuoted) <:+:
        stored.map (itemText type.element.isQuoted)) := by
  refine ⟨_, _, _, toPredicate_isIn declared isList value, toPredicate_notIn declared isList value,
    eval_membership kept _, eval_exclusion kept _, ?_⟩
  rw [elementText_eq]
  exact finds_iff_infix (by simpa using present) (by simpa using storedPlain)
    (by simpa using searched) (by simpa using plain) (by simpa using noAny)

/-- An item in brackets and the number after it, in a list that starts with an empty item. -/
theorem eval_block_iff_brackets :
    let declarations : Declarations := FieldMap.ofList [("tags", "[Any]")]
    let stored : List Value := [.string "", .string "[x]", .int 3, .string "a_b"]
    let value : Value := .array [.string "[x]", .int 3]
    let record : Record := FieldMap.ofList [("tags", .string "[,[x],3,a_b]")]
    declarations.type? "tags" = some ⟨"Any", true⟩ ∧
      listText (stored.map (itemText false)) = "[,[x],3,a_b]" ∧
      ∃ member absent,
        (Filter.leaf "tags" .isIn value).toPredicate declarations .delimited = .ok member ∧
        (Filter.leaf "tags" .notIn value).toPredicate declarations .delimited = .ok absent ∧
        member.eval record = .ok true ∧ absent.eval record = .ok false := by
  intro declarations stored value record
  have declared : declarations.type? "tags" = some ⟨"Any", true⟩ := by decide
  have text : listText (stored.map (itemText false)) = "[,[x],3,a_b]" := by decide
  have kept : record.value "tags" = .string (listText (stored.map (itemText false))) :=
    text ▸ rfl
  have searched : searchedItems value ≠ [] := List.cons_ne_nil _ _
  have storedPlain : ∀ item ∈ stored, IsPlain (itemText false item) := by decide
  have plain : ∀ item ∈ searchedItems value, IsPlain (itemText false item) := by decide
  have noAny : ∀ item ∈ searchedItems value, '_' ∉ (itemText false item).toList := by decide
  obtain ⟨member, absent, found, isIn, notIn, finds, opposite, iff⟩ :=
    eval_block_iff declared rfl (List.cons_ne_nil _ _) searched storedPlain plain noAny kept
  obtain rfl : found = true := iff.mpr ⟨[""], ["a_b"], by decide⟩
  exact ⟨declared, text, member, absent, isIn, notIn, finds, opposite⟩

end Values

end Keyset.Containment
