import Keyset.Proofs.Value.Order
import Keyset.Proofs.Value.Rounding

/-! # Where sorting is transitive

Values fall into blocks, and only values of one block are compared by more than their kinds. Within
the blocks of numbers and of texts with instants the comparisons are of different sorts: by whole
numbers or by doubles, by characters or by instants. Sorting swaps its answer with its arguments
everywhere, and it is transitive at three values iff they are none of the triples in which such
comparisons clash (`Keyset.Value.Clash`, `Keyset.Value.sortCompare_isLE_trans`). There are clashes
of every sort, so it is no order of all values (`Keyset.Value.sortCompare_not_trans`).
-/

namespace Keyset.Value

open Std Double

attribute [local instance] lexOrd

variable {a b c : Value}

/-- The values that sorting compares by more than their kinds have one block. -/
def block : Value → Nat
  | bool _ => 0
  | int _ => 1
  | float _ => 1
  | string _ => 2
  | timestamp _ => 2
  | array _ => 3
  | null => 4

theorem sortCompare_eq_getD (a b : Value) :
    a.sortCompare b = (a.compare b).getD (Ord.compare a.rank b.rank) := by
  unfold sortCompare
  cases a.compare b <;> rfl

theorem sortCompare_of_block_ne (apart : a.block ≠ b.block) :
    a.sortCompare b = Ord.compare a.block b.block := by
  cases a <;> cases b <;> first | rfl | exact absurd rfl apart

theorem block_le_of_isLE (atMost : (a.sortCompare b).isLE) : a.block ≤ b.block := by
  by_cases apart : a.block = b.block
  · exact Nat.le_of_eq apart
  · rw [sortCompare_of_block_ne apart] at atMost
    exact Nat.isLE_compare.mp atMost

theorem not_mixes_of_block (notOne : a.block ≠ 1) (notTwo : a.block ≠ 2)
    (same : a.block = b.block) : mixes a b = false := by
  cases a <;> cases b <;>
    first | rfl | exact absurd rfl notOne | exact absurd rfl notTwo | cases same

/-- Where two of the three values have different blocks, the blocks decide. -/
theorem isLE_of_block_ne (atMost : (a.sortCompare b).isLE) (further : (b.sortCompare c).isLE)
    (apart : ¬(a.block = b.block ∧ b.block = c.block)) : (a.sortCompare c).isLE := by
  have first := block_le_of_isLE atMost
  have second := block_le_of_isLE further
  rw [sortCompare_of_block_ne (by omega)]
  exact Nat.isLE_compare.mpr (Nat.le_trans first second)

theorem isLE_trans_of_not_mixes (atMost : (a.sortCompare b).isLE) (further : (b.sortCompare c).isLE)
    (firstSecond : mixes a b = false) (secondThird : mixes b c = false)
    (firstThird : mixes a c = false) : (a.sortCompare c).isLE := by
  rw [sortCompare_eq_place firstSecond] at atMost
  rw [sortCompare_eq_place secondThird] at further
  rw [sortCompare_eq_place firstThird]
  exact TransCmp.isLE_trans atMost further

/-! ## Numbers -/

section Numbers

variable {x y z : Float}

/-- How sorting compares two doubles. -/
def compareDoubles (x y : Float) : Ordering :=
  (compareFloat x y).getD .eq

theorem compareDoubles_of_isNaN (notNumber : x.isNaN = true ∨ y.isNaN = true) :
    compareDoubles x y = .eq := by
  rw [compareDoubles, compareFloat_eq_none notNumber]
  rfl

theorem compareDoubles_eq (number : x.isNaN = false) (alsoNumber : y.isNaN = false) :
    compareDoubles x y = compareNumbers x y := by
  rw [compareDoubles, compareFloat_eq number alsoNumber]
  rfl

theorem compareDoubles_swap (x y : Float) : compareDoubles y x = (compareDoubles x y).swap := by
  by_cases numbers : x.isNaN = true ∨ y.isNaN = true
  · rw [compareDoubles_of_isNaN numbers, compareDoubles_of_isNaN numbers.symm]
    rfl
  · simp only [not_or, Bool.not_eq_true] at numbers
    rw [compareDoubles_eq numbers.1 numbers.2, compareDoubles_eq numbers.2 numbers.1]
    exact OrientedCmp.eq_swap

/-- A NaN ties with every double, so it must not stand between two. -/
theorem compareDoubles_isLE_trans (number : y.isNaN = false)
    (atMost : (compareDoubles x y).isLE) (further : (compareDoubles y z).isLE) :
    (compareDoubles x z).isLE := by
  by_cases ends : x.isNaN = true ∨ z.isNaN = true
  · rw [compareDoubles_of_isNaN ends]
    rfl
  · simp only [not_or, Bool.not_eq_true] at ends
    rw [compareDoubles_eq ends.1 number] at atMost
    rw [compareDoubles_eq number ends.2] at further
    rw [compareDoubles_eq ends.1 ends.2]
    exact TransCmp.isLE_trans atMost further

/-- The double of a number. -/
def double? : Value → Option Float
  | int n => some (floatOfInt n)
  | float x => some x
  | _ => none

theorem exists_double (number : a.block = 1) : ∃ x, a.double? = some x := by
  cases a <;> cases number <;> exact ⟨_, rfl⟩

theorem block_of_double (double : a.double? = some x) : a.block = 1 := by
  cases a <;> cases double <;> rfl

theorem sortCompare_float_left (double : a.double? = some y) (x : Float) :
    (float x).sortCompare a = compareDoubles x y := by
  rw [sortCompare_eq_getD]
  cases a <;> cases double <;> rfl

theorem sortCompare_float_right (double : a.double? = some x) (y : Float) :
    a.sortCompare (float y) = compareDoubles x y := by
  rw [sortCompare_eq_getD]
  cases a <;> cases double <;> rfl

theorem sortCompare_int (m n : Int64) : (int m).sortCompare (int n) = Ord.compare m n := rfl

/-- Whole numbers have no other order as doubles, but for ties. -/
theorem isLE_compareDoubles (first : a.double? = some x) (second : b.double? = some y)
    (atMost : (a.sortCompare b).isLE) : (compareDoubles x y).isLE := by
  cases a with
  | float x =>
      cases first
      rwa [sortCompare_float_left second] at atMost
  | int m =>
      cases b with
      | float y =>
          cases second
          rwa [sortCompare_float_right first] at atMost
      | int n =>
          cases first
          cases second
          rw [compareDoubles_eq (isNaN_floatOfInt m) (isNaN_floatOfInt n)]
          exact floatOfInt_mono (isLE_compare.mp atMost)
      | _ => cases second
  | _ => cases first

end Numbers

/-! ## Texts and instants -/

section Instants

open Time

/-- Where an instant stands, before all instants if it is none. -/
def instantPlace : Option Instant → Nat × Int × Nat
  | none => (0, 0, 0)
  | some t => (1, t.seconds, t.nanos)

/-- The order of instants, with none before them. -/
def compareInstants (s t : Option Instant) : Ordering :=
  Ord.compare (instantPlace s) (instantPlace t)

instance : TransCmp compareInstants :=
  inferInstanceAs (TransCmp (compareOn instantPlace))

/-- A text that is no instant has a lower rank than every instant. -/
theorem sortCompare_string_timestamp (s : String) (t : Instant) :
    (string s).sortCompare (timestamp t) = compareInstants (Instant.ofText? s) (some t) := by
  rw [sortCompare_eq_getD, compare]
  cases Instant.ofText? s <;> rfl

theorem sortCompare_timestamp_string (s : String) (t : Instant) :
    (timestamp t).sortCompare (string s) = compareInstants (some t) (Instant.ofText? s) := by
  rw [sortCompare_eq_getD, compare]
  cases Instant.ofText? s <;> rfl

theorem sortCompare_string (s t : String) :
    (string s).sortCompare (string t) = Ord.compare s t := rfl

theorem sortCompare_timestamp (s t : Instant) :
    (timestamp s).sortCompare (timestamp t) = compareInstants (some s) (some t) := rfl

end Instants

/-! ## Clashes -/

/-- Three values in the wrong order that no two neighbours show: two numbers around a NaN; two whole
numbers around a double that both are rounded to; and two texts with an instant, where the texts are
compared by their characters, and each of them is compared with the instant by what it reads as. -/
inductive Clash : Value → Value → Value → Prop
  | nan {a c : Value} {x : Float} (number : a.block = 1) (alsoNumber : c.block = 1)
      (isNaN : x.isNaN = true) (behind : a.sortCompare c = .gt) : Clash a (float x) c
  | rounding {m n : Int64} {x : Float} (behind : n < m)
      (tie : compareFloat (floatOfInt m) x = some .eq)
      (alsoTie : compareFloat x (floatOfInt n) = some .eq) : Clash (int m) (float x) (int n)
  | textsFirst {s s' : String} {t : Time.Instant} (characters : (Ord.compare s s').isLE)
      (reading : (compareInstants (Time.Instant.ofText? s') (some t)).isLE)
      (behind : compareInstants (Time.Instant.ofText? s) (some t) = .gt) :
      Clash (string s) (string s') (timestamp t)
  | textsLast {s s' : String} {t : Time.Instant} (characters : (Ord.compare s s').isLE)
      (reading : (compareInstants (some t) (Time.Instant.ofText? s)).isLE)
      (behind : compareInstants (some t) (Time.Instant.ofText? s') = .gt) :
      Clash (timestamp t) (string s) (string s')
  | textsAround {s s' : String} {t : Time.Instant} (behind : Ord.compare s s' = .gt)
      (reading : (compareInstants (Time.Instant.ofText? s) (some t)).isLE)
      (alsoReading : (compareInstants (some t) (Time.Instant.ofText? s')).isLE) :
      Clash (string s) (timestamp t) (string s')

/-- Every clash is one of the failures of transitivity. -/
theorem Clash.breaks (clash : Clash a b c) :
    (a.sortCompare b).isLE ∧ (b.sortCompare c).isLE ∧ a.sortCompare c = .gt := by
  cases clash with
  | @nan _ _ x number alsoNumber isNaN behind =>
      obtain ⟨y, first⟩ := exists_double number
      obtain ⟨z, third⟩ := exists_double alsoNumber
      refine ⟨?_, ?_, behind⟩
      · rw [sortCompare_float_right first, compareDoubles_of_isNaN (.inr isNaN)]
        rfl
      · rw [sortCompare_float_left third, compareDoubles_of_isNaN (.inl isNaN)]
        rfl
  | @rounding m n x behind tie alsoTie =>
      refine ⟨?_, ?_, ?_⟩
      · rw [@sortCompare_float_right (int m) _ rfl, compareDoubles, tie]
        rfl
      · rw [@sortCompare_float_left (int n) _ rfl, compareDoubles, alsoTie]
        rfl
      · rw [sortCompare_int, compare_eq_gt]
        exact behind
  | textsFirst characters reading behind =>
      rw [sortCompare_string, sortCompare_string_timestamp, sortCompare_string_timestamp]
      exact ⟨characters, reading, behind⟩
  | textsLast characters reading behind =>
      rw [sortCompare_string, sortCompare_timestamp_string, sortCompare_timestamp_string]
      exact ⟨reading, characters, behind⟩
  | textsAround behind reading alsoReading =>
      rw [sortCompare_string, sortCompare_string_timestamp, sortCompare_timestamp_string]
      exact ⟨reading, alsoReading, behind⟩

theorem Clash.behind_of_string {s s' : String}
    (clash : Clash (string s) b (string s')) : Ord.compare s s' = .gt := by
  cases clash with
  | nan number => cases number
  | textsAround behind => exact behind

theorem Clash.lt_of_int {m n : Int64} (clash : Clash (int m) b (int n)) : n < m := by
  cases clash with
  | nan number alsoNumber isNaN behind => exact compare_eq_gt.mp behind
  | rounding behind => exact behind

/-! ## The blocks -/

section Blocks

variable {x y z : Float}

/-- The doubles of the whole numbers are ordered both ways, and the double stands between them. -/
theorem clash_of_rounding {m n : Int64} (number : y.isNaN = false)
    (firstSecond : (compareDoubles (floatOfInt m) y).isLE)
    (secondThird : (compareDoubles y (floatOfInt n)).isLE) (behind : n < m) :
    Clash (int m) (float y) (int n) := by
  have back := floatOfInt_mono (Int64.le_of_lt behind)
  rw [compareDoubles_eq (isNaN_floatOfInt m) number] at firstSecond
  rw [compareDoubles_eq number (isNaN_floatOfInt n)] at secondThird
  refine .rounding behind ?_ ?_
  · rw [compareFloat_eq (isNaN_floatOfInt m) number, OrientedCmp.isLE_antisymm
      firstSecond (TransCmp.isLE_trans secondThird back)]
  · rw [compareFloat_eq number (isNaN_floatOfInt n), OrientedCmp.isLE_antisymm
      secondThird (TransCmp.isLE_trans back firstSecond)]

theorem clash_of_numbers (first : a.double? = some x) (second : b.double? = some y)
    (third : c.double? = some z) (atMost : (a.sortCompare b).isLE)
    (further : (b.sortCompare c).isLE) (behind : a.sortCompare c = .gt) : Clash a b c := by
  have firstSecond := isLE_compareDoubles first second atMost
  have secondThird := isLE_compareDoubles second third further
  by_cases isNaN : y.isNaN = true
  · cases b with
    | float y =>
        cases second
        exact .nan (block_of_double first) (block_of_double third) isNaN behind
    | int k =>
        cases second
        rw [isNaN_floatOfInt] at isNaN
        cases isNaN
    | _ => cases second
  · rw [Bool.not_eq_true] at isNaN
    have notBehind := Ordering.ne_gt_iff_isLE.mpr
      (compareDoubles_isLE_trans isNaN firstSecond secondThird)
    cases a with
    | float x =>
        cases first
        rw [sortCompare_float_left third] at behind
        exact absurd behind notBehind
    | int m =>
        cases c with
        | float z =>
            cases third
            rw [sortCompare_float_right first] at behind
            exact absurd behind notBehind
        | int n =>
            cases b with
            | int k =>
                have order := isLE_trans_of_not_mixes atMost further rfl rfl rfl
                exact absurd behind (Ordering.ne_gt_iff_isLE.mpr order)
            | float y =>
                cases first
                cases second
                cases third
                rw [sortCompare_int, Std.compare_eq_gt] at behind
                exact clash_of_rounding isNaN firstSecond secondThird behind
            | _ => cases second
        | _ => cases third
    | _ => cases first

theorem clash_of_texts (first : a.block = 2) (second : b.block = 2) (third : c.block = 2)
    (atMost : (a.sortCompare b).isLE) (further : (b.sortCompare c).isLE)
    (behind : a.sortCompare c = .gt) : Clash a b c := by
  cases a <;> cases first <;> cases b <;> cases second <;> cases c <;> cases third <;>
    simp only [sortCompare_string, sortCompare_timestamp, sortCompare_string_timestamp,
      sortCompare_timestamp_string] at atMost further behind
  case string.refl.string.refl.timestamp.refl => exact .textsFirst atMost further behind
  case timestamp.refl.string.refl.string.refl => exact .textsLast further atMost behind
  case string.refl.timestamp.refl.string.refl => exact .textsAround behind atMost further
  all_goals exact absurd behind (Ordering.ne_gt_iff_isLE.mpr (TransCmp.isLE_trans atMost further))

theorem clash_of_block (same : a.block = b.block) (alsoSame : b.block = c.block)
    (atMost : (a.sortCompare b).isLE) (further : (b.sortCompare c).isLE)
    (behind : a.sortCompare c = .gt) : Clash a b c := by
  by_cases isOne : a.block = 1
  · obtain ⟨x, first⟩ := exists_double isOne
    obtain ⟨y, second⟩ := exists_double (same.symm.trans isOne)
    obtain ⟨z, third⟩ := exists_double (alsoSame.symm.trans (same.symm.trans isOne))
    exact clash_of_numbers first second third atMost further behind
  · by_cases isTwo : a.block = 2
    · exact clash_of_texts isTwo (same.symm.trans isTwo)
        (alsoSame.symm.trans (same.symm.trans isTwo)) atMost further behind
    · have alsoNotOne : b.block ≠ 1 := same ▸ isOne
      have alsoNotTwo : b.block ≠ 2 := same ▸ isTwo
      have order := isLE_trans_of_not_mixes atMost further (not_mixes_of_block isOne isTwo same)
        (not_mixes_of_block alsoNotOne alsoNotTwo alsoSame)
        (not_mixes_of_block isOne isTwo (same.trans alsoSame))
      exact absurd behind (Ordering.ne_gt_iff_isLE.mpr order)

theorem swap_of_numbers (first : a.double? = some x) (second : b.double? = some y) :
    b.sortCompare a = (a.sortCompare b).swap := by
  cases a with
  | float x =>
      cases first
      rw [sortCompare_float_left second, sortCompare_float_right second, compareDoubles_swap]
  | int m =>
      cases b with
      | float y =>
          cases second
          rw [sortCompare_float_left first, sortCompare_float_right first, compareDoubles_swap]
      | int n => exact sortCompare_swap rfl
      | _ => cases second
  | _ => cases first

theorem swap_of_texts (first : a.block = 2) (second : b.block = 2) :
    b.sortCompare a = (a.sortCompare b).swap := by
  cases a <;> cases first <;> cases b <;> cases second
  · exact sortCompare_swap rfl
  · rw [sortCompare_string_timestamp, sortCompare_timestamp_string]
    exact OrientedCmp.eq_swap
  · rw [sortCompare_string_timestamp, sortCompare_timestamp_string]
    exact OrientedCmp.eq_swap
  · exact sortCompare_swap rfl

theorem sortCompare_eq_swap (a b : Value) : b.sortCompare a = (a.sortCompare b).swap := by
  by_cases same : a.block = b.block
  · by_cases isOne : a.block = 1
    · obtain ⟨x, first⟩ := exists_double isOne
      obtain ⟨y, second⟩ := exists_double (same.symm.trans isOne)
      exact swap_of_numbers first second
    · by_cases isTwo : a.block = 2
      · exact swap_of_texts isTwo (same.symm.trans isTwo)
      · exact sortCompare_swap (not_mixes_of_block isOne isTwo same)
  · rw [sortCompare_of_block_ne same, sortCompare_of_block_ne (Ne.symm same), Nat.compare_swap]

end Blocks

/-- Sorting swaps its answer with its arguments, and it is transitive at three values iff they do not
clash. -/
theorem sortCompare_isLE_trans (a b c : Value) :
    b.sortCompare a = (a.sortCompare b).swap ∧
      (((a.sortCompare b).isLE → (b.sortCompare c).isLE → (a.sortCompare c).isLE) ↔
        ¬Clash a b c) := by
  refine ⟨sortCompare_eq_swap a b, fun transitive clash => ?_, fun clear atMost further => ?_⟩
  · obtain ⟨atMost, further, behind⟩ := clash.breaks
    exact Ordering.ne_gt_iff_isLE.mpr (transitive atMost further) behind
  · by_cases same : a.block = b.block ∧ b.block = c.block
    · rw [← Ordering.ne_gt_iff_isLE]
      exact fun behind => clear (clash_of_block same.1 same.2 atMost further behind)
    · exact isLE_of_block_ne atMost further same

/-- Two texts around the instant that the second one reads as, and a double between two whole
numbers. -/
theorem sortCompare_isLE_trans_around :
    ((string "2024-05-01 00:00:00Z").sortCompare (string "2024-05-01T01:00:00+01:00")).isLE ∧
      ((int 9007199254740992).sortCompare (int 9007199254740994)).isLE := by
  constructor
  · refine (sortCompare_isLE_trans _ (timestamp ⟨1714521600, 0, by decide +kernel⟩) _).2.mpr
      (fun clash => ?_) (by decide +kernel) (by decide +kernel)
    exact absurd clash.behind_of_string (by decide +kernel)
  · refine (sortCompare_isLE_trans _ (float 9007199254740993) _).2.mpr
      (fun clash => ?_) (by decide +kernel) (by decide +kernel)
    exact absurd clash.lt_of_int (by decide)

/-- Around a NaN, around a double that two whole numbers are rounded to, and with a text that is no
instant, a value lies strictly behind one that lies behind the value. -/
theorem sortCompare_not_trans :
    (((int 2).sortCompare (float (0 / 0))).isLE ∧ ((float (0 / 0)).sortCompare (int 1)).isLE ∧
      (int 2).sortCompare (int 1) = .gt) ∧
    (((int 9007199254740993).sortCompare (float 9007199254740992)).isLE ∧
      ((float 9007199254740992).sortCompare (int 9007199254740992)).isLE ∧
      (int 9007199254740993).sortCompare (int 9007199254740992) = .gt) ∧
    (((timestamp ⟨1717200000, 0, by decide +kernel⟩).sortCompare
        (string "2025-01-01T00:00:00Z")).isLE ∧
      ((string "2025-01-01T00:00:00Z").sortCompare (string "a")).isLE ∧
      (timestamp ⟨1717200000, 0, by decide +kernel⟩).sortCompare (string "a") = .gt) := by
  decide +kernel

end Keyset.Value
