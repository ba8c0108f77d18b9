import Keyset.Proofs.Predicate.Strings
import Keyset.Proofs.Text.Casing

/-! # Patterns without regard to case

A pattern is compared without regard to case by lowering both the pattern and the text. What is
found with regard to case is then found without it (`Keyset.Predicate.eval_iLike_of_like`), but for
two kinds of patterns (`Keyset.Predicate.eval_iLike_missed`). A `_` stands for one character, and
`İ` becomes two. A capital sigma becomes one of two small letters by what stands around it in its
word: this is not the same in the pattern and the text if a mark of the pattern stands there. The
pattern alone says where the letter is the same (`Keyset.Like.sigmasKnown`).
-/

namespace Keyset.Like

open Text (isCased isCaseIgnorable startsCased lowerIn inWordAfter lowerFrom)

/-- The characters of a pattern that stand for others. -/
def isMark (c : Char) : Bool :=
  c == '_' || c == '%'

/-- What a pattern says of whether the place behind a character is inside a word: behind a mark,
nothing. -/
def inWordAfter? (inWord : Option Bool) (c : Char) : Option Bool :=
  if isMark c then none else if isCaseIgnorable c then inWord else some (isCased c)

/-- What the rest of a pattern says of whether the word goes on: in front of a mark, nothing. -/
def startsCased? (rest : List Char) : Option Bool :=
  match rest.dropWhile isCaseIgnorable with
  | c :: _ => if isMark c then none else some (isCased c)
  | [] => some false

/-- Whether it is known which small letter a capital sigma becomes. It becomes the final one inside
a word that does not go on. -/
def sigmaKnown (inWord goesOn : Option Bool) : Bool :=
  inWord == some false || goesOn == some true || (inWord.isSome && goesOn.isSome)

/-- Whether a pattern says of all its capital sigmas which small letter they become. -/
def sigmasKnown : (inWord : Option Bool) → List Char → Bool
  | _, [] => true
  | inWord, c :: rest =>
    (c != 'Σ' || sigmaKnown inWord (startsCased? rest)) && sigmasKnown (inWordAfter? inWord c) rest

variable {pattern text : List Char}

theorem sigmasKnown_of_not_mem (absent : 'Σ' ∉ pattern) (inWord : Option Bool) :
    sigmasKnown inWord pattern = true := by
  induction pattern generalizing inWord with
  | nil => rfl
  | cons c pattern ih =>
      rw [sigmasKnown, ih (List.not_mem_of_not_mem_cons absent), Bool.and_true, Bool.or_eq_true]
      exact Or.inl (bne_iff_ne.mpr (List.ne_of_not_mem_cons absent).symm)

/-- A mark is lowered to itself, and no word goes on behind it. -/
theorem lowerFrom_mark {mark : Char} (isMark : mark = '_' ∨ mark = '%') (inWord : Bool)
    (rest : List Char) : lowerFrom inWord (mark :: rest) = mark :: lowerFrom false rest := by
  rcases isMark with rfl | rfl <;> rfl

theorem isMark_eq_false {c : Char} (notAny : c ≠ '_') (notRun : c ≠ '%') : isMark c = false := by
  simp [isMark, notAny, notRun]

/-- What a pattern says of the word that follows holds of the pattern and of the text. -/
theorem Takes.startsCased_eq (takes : Takes pattern text) {goesOn : Bool}
    (known : startsCased? pattern = some goesOn) :
    startsCased pattern = goesOn ∧ startsCased text = goesOn := by
  induction takes with
  | nil => exact ⟨Option.some.inj known, Option.some.inj known⟩
  | any | mark | run => nomatch known
  | @char c notAny notRun pattern text later ih =>
      cases ignorable : isCaseIgnorable c with
      | true =>
          simp only [startsCased?, startsCased, List.dropWhile_cons, ignorable, ↓reduceIte]
            at known ih ⊢
          exact ih known
      | false =>
          simp only [startsCased?, startsCased, List.dropWhile_cons, ignorable,
            isMark_eq_false notAny notRun, Bool.false_eq_true, ↓reduceIte] at known ⊢
          exact ⟨Option.some.inj known, Option.some.inj known⟩

section Lower

/-- What a pattern says of whether a place is inside a word holds in the pattern and in the text. -/
def Agrees (inWord : Option Bool) (inPattern inText : Bool) : Prop :=
  ∀ known ∈ inWord, inPattern = known ∧ inText = known

variable {inWord : Option Bool} {inPattern inText : Bool}

theorem agrees_none (inPattern inText : Bool) : Agrees none inPattern inText :=
  nofun

theorem agrees_some (known : Bool) : Agrees (some known) known known := by
  rintro _ ⟨⟩
  exact ⟨rfl, rfl⟩

/-- A character that stands for itself is lowered alike in the pattern and in the text. -/
theorem Takes.lowerIn_eq (takes : Takes pattern text)
    (agree : Agrees inWord inPattern inText) (c : Char)
    (sigma : (c != 'Σ' || sigmaKnown inWord (startsCased? pattern)) = true) :
    lowerIn inPattern c pattern = lowerIn inText c text := by
  unfold lowerIn
  split
  next isSigma =>
    obtain rfl := beq_iff_eq.mp isSigma
    suffices same : (inPattern && !startsCased pattern) = (inText && !startsCased text) by
      rw [same]
    rw [bne_self_eq_false, Bool.false_or] at sigma
    unfold sigmaKnown at sigma
    cases goesOn : startsCased? pattern with
    | some goesOn' =>
        obtain ⟨ofPattern, ofText⟩ := takes.startsCased_eq goesOn
        cases inWord with
        | some known =>
            obtain ⟨rfl, rfl⟩ := agree known rfl
            rw [ofPattern, ofText]
        | none =>
            rw [goesOn] at sigma
            obtain rfl : goesOn' = true := by simpa using sigma
            rw [ofPattern, ofText, Bool.not_true, Bool.and_false, Bool.and_false]
    | none =>
        rw [goesOn] at sigma
        have outside : inWord = some false := by simpa using sigma
        obtain ⟨rfl, rfl⟩ := agree false outside
        rfl
  next => rfl

theorem Agrees.after {c : Char} (agree : Agrees inWord inPattern inText) (notAny : c ≠ '_')
    (notRun : c ≠ '%') :
    Agrees (inWordAfter? inWord c) (inWordAfter inPattern c) (inWordAfter inText c) := by
  simp only [inWordAfter?, inWordAfter, isMark_eq_false notAny notRun, Bool.false_eq_true,
    ↓reduceIte]
  split
  · exact agree
  · exact agrees_some _

/-- **Lowering keeps what is taken.** The induction is on the reading; what stands before is only
known as far as the pattern says it. -/
theorem Takes.lowerFrom (takes : Takes pattern text) (agree : Agrees inWord inPattern inText)
    (sigmas : sigmasKnown inWord pattern = true) (single : '_' ∉ pattern ∨ 'İ' ∉ text) :
    Takes (lowerFrom inPattern pattern) (lowerFrom inText text) := by
  induction takes generalizing inWord inPattern inText with
  | nil => exact .nil
  | any c _ ih =>
      have noDots := single.resolve_left fun absent => absent List.mem_cons_self
      obtain ⟨d, one⟩ := Text.exists_lowerIn_eq (List.ne_of_not_mem_cons noDots).symm inText _
      rw [lowerFrom_mark (Or.inl rfl), Text.lowerFrom_cons, one]
      exact .any d (ih (agrees_none _ _) (Bool.and_eq_true_iff.mp sigmas).2
        (Or.inr (List.not_mem_of_not_mem_cons noDots)))
  | mark _ ih =>
      rw [lowerFrom_mark (Or.inr rfl), lowerFrom_mark (Or.inr rfl)]
      exact .mark (ih (agrees_none _ _) (Bool.and_eq_true_iff.mp sigmas).2
        (single.imp (mt (List.mem_cons_of_mem _)) (mt (List.mem_cons_of_mem _))))
  | run skipped noMark _ ih =>
      have noMark := Text.head?_lowerFrom_ne noMark inText
      obtain ⟨front, later, append⟩ := Text.exists_lowerFrom_append inText skipped _
      rw [append] at noMark
      rw [lowerFrom_mark (Or.inr rfl), append]
      exact .run front noMark (ih (agrees_none _ _) (Bool.and_eq_true_iff.mp sigmas).2
        (single.imp (mt (List.mem_cons_of_mem _)) (mt (List.mem_append_right _))))
  | char notAny notRun later ih =>
      obtain ⟨sigma, sigmas⟩ := Bool.and_eq_true_iff.mp sigmas
      rw [Text.lowerFrom_cons, Text.lowerFrom_cons, later.lowerIn_eq agree _ sigma]
      exact .self_append _ (ih (agree.after notAny notRun) sigmas
        (single.imp (mt (List.mem_cons_of_mem _)) (mt (List.mem_cons_of_mem _))))

end Lower

/-- A pattern and a text both start outside of any word. -/
theorem matchChars_lower {pattern text : String} (sigmas : sigmasKnown (some false) pattern.toList)
    (single : '_' ∉ pattern.toList ∨ 'İ' ∉ text.toList)
    (matched : matchChars text.toList pattern.toList = true) :
    matchChars (Text.lower text).toList (Text.lower pattern).toList = true := by
  have takes := matchChars_eq_true_iff.mp matched
  rw [matchChars_eq_true_iff, Text.lower, Text.lower, String.toList_ofList, String.toList_ofList]
  exact takes.lowerFrom (agrees_some false) sigmas single

end Keyset.Like

namespace Keyset.Predicate

variable {record : Record} {field text pattern : String}

/-- **What is found with regard to case is found without it**, if the pattern says which small
letters its capital sigmas become, and no `_` can stand for an `İ`. -/
theorem eval_iLike_of_like (kept : record.value field = .string text)
    (sigmas : Like.sigmasKnown (some false) pattern.toList)
    (single : '_' ∉ pattern.toList ∨ 'İ' ∉ text.toList) :
    ((compare field .like (.string pattern)).eval record = .ok true →
      (compare field .iLike (.string pattern)).eval record = .ok true) ∧
    ((compare field .notILike (.string pattern)).eval record = .ok true →
      (compare field .notLike (.string pattern)).eval record = .ok true) := by
  have lower := Like.matchChars_lower sigmas single
  rw [eval_like kept, eval_iLike kept, eval_notLike kept, eval_notILike kept]
  refine ⟨fun found => congrArg Except.ok (lower (Except.ok.inj found)), fun missed => ?_⟩
  cases found : Like.matchChars text.toList pattern.toList with
  | true => rw [lower found] at missed; nomatch missed
  | false => rfl

/-- A sigma at the end of a word is lowered alike behind a run, if a letter stands between them; and
a pattern without sigmas that misses a text without regard to case misses it with regard to case. -/
theorem eval_iLike_of_like_sigma :
    let record : Record := FieldMap.ofList [("word", .string "ΟΔΟΣ")]
    let other : Record := FieldMap.ofList [("word", .string "β")]
    Like.sigmasKnown (some false) "_%ΟΣ".toList ∧ 'İ' ∉ "ΟΔΟΣ".toList ∧
      (compare "word" .like (.string "_%ΟΣ")).eval record = .ok true ∧
      (compare "word" .iLike (.string "_%ΟΣ")).eval record = .ok true ∧
      Like.sigmasKnown (some false) "Β_".toList ∧ 'İ' ∉ "β".toList ∧
      (compare "word" .notILike (.string "Β_")).eval other = .ok true ∧
      (compare "word" .notLike (.string "Β_")).eval other = .ok true := by
  intro record other
  have kept : record.value "word" = .string "ΟΔΟΣ" := rfl
  have sigmas : Like.sigmasKnown (some false) "_%ΟΣ".toList := by decide
  have noDots : 'İ' ∉ "ΟΔΟΣ".toList := by decide
  have takes : Like.Takes "_%ΟΣ".toList "ΟΔΟΣ".toList :=
    .any 'Ο' (.run ['Δ'] (by decide) (.self_append ['Ο', 'Σ'] .nil))
  have like : (compare "word" .like (.string "_%ΟΣ")).eval record = .ok true := by
    rw [eval_like kept, Like.matchChars_eq_true_iff.mpr takes]
  have otherKept : other.value "word" = .string "β" := rfl
  have noSigmas := Like.sigmasKnown_of_not_mem (show 'Σ' ∉ "Β_".toList by decide) (some false)
  have otherNoDots : 'İ' ∉ "β".toList := by decide
  have notILike : (compare "word" .notILike (.string "Β_")).eval other = .ok true := by
    rw [eval_notILike otherKept, Except.ok.injEq]
    decide
  exact ⟨sigmas, noDots, like, (eval_iLike_of_like kept sigmas (Or.inr noDots)).1 like, noSigmas,
    otherNoDots, notILike,
    (eval_iLike_of_like otherKept noSigmas (Or.inr otherNoDots)).2 notILike⟩

/-- Without regard to case, a `_` misses an `İ` that it finds with regard to case, and a capital
sigma behind a `_` the same letter at the end of a word. -/
theorem eval_iLike_missed :
    let dotted : Record := FieldMap.ofList [("word", .string "İ")]
    let ended : Record := FieldMap.ofList [("word", .string "ΑΣ")]
    (compare "word" .like (.string "_")).eval dotted = .ok true ∧
      (compare "word" .iLike (.string "_")).eval dotted = .ok false ∧
      (compare "word" .notILike (.string "_")).eval dotted = .ok true ∧
      (compare "word" .notLike (.string "_")).eval dotted = .ok false ∧
      (compare "word" .like (.string "_Σ")).eval ended = .ok true ∧
      (compare "word" .iLike (.string "_Σ")).eval ended = .ok false := by
  intro dotted ended
  have dottedKept : dotted.value "word" = .string "İ" := rfl
  have endedKept : ended.value "word" = .string "ΑΣ" := rfl
  rw [eval_like dottedKept, eval_iLike dottedKept, eval_notILike dottedKept, eval_notLike dottedKept,
    eval_like endedKept, eval_iLike endedKept]
  simp only [Except.ok.injEq]
  decide

end Keyset.Predicate
