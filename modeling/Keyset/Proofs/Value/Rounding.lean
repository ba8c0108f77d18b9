import Mathlib.Algebra.Group.Int.Defs
import Mathlib.Algebra.Group.Nat.Defs
import Keyset.Proofs.Value.Double

/-! # Whole numbers as doubles

A whole number becomes the double nearest to it, the one with an even mantissa of two. Rounding
keeps the order, so the doubles of whole numbers are in the order of these numbers, and only ties
are new (`Keyset.Double.floatOfInt_mono`).

The proof follows the conversion: a mantissa is shifted until 53 bits are left and rounded by the
bits that it lost (`Keyset.Double.roundWithAccuracy_isNormal`), and storing the result loses
nothing more (`Keyset.Double.IsNormal.unpack_pack`). Small numbers and large ones are converted in
different ways, which agree in the code of the result (`Keyset.Double.codeOf`).
-/

namespace Keyset.Double

open Float.Model UnpackedFloat

/-! ## Rounding to even -/

/-- The whole number nearest to `n / 2 ^ k`, and the even one of two that are. -/
def nearest (n k : Nat) : Nat :=
  if n % 2 ^ k * 2 < 2 ^ k then n / 2 ^ k
  else if n % 2 ^ k * 2 = 2 ^ k then n / 2 ^ k + n / 2 ^ k % 2
  else n / 2 ^ k + 1

theorem nearest_mono {m n : Nat} (atMost : m ≤ n) (k : Nat) : nearest m k ≤ nearest n k := by
  have quotients : m / 2 ^ k ≤ n / 2 ^ k := Nat.div_le_div_right atMost
  have atM := Nat.div_add_mod m (2 ^ k)
  have atN := Nat.div_add_mod n (2 ^ k)
  unfold nearest
  by_cases same : m / 2 ^ k = n / 2 ^ k
  · rw [same] at atM ⊢
    split <;> split <;> (try split) <;> (try split) <;> omega
  · split <;> split <;> (try split) <;> (try split) <;> omega

theorem nearest_mul (n k : Nat) : nearest (n * 2 ^ k) k = n := by
  have positive : 0 < 2 ^ k := Nat.two_pow_pos k
  rw [nearest, Nat.mul_mod_left, Nat.zero_mul, if_pos positive, Nat.mul_div_cancel n positive]

theorem nearest_between {low high n k : Nat} (atLeast : low * 2 ^ k ≤ n)
    (atMost : n ≤ high * 2 ^ k) : low ≤ nearest n k ∧ nearest n k ≤ high := by
  have above := nearest_mono atLeast k
  have below := nearest_mono atMost k
  rw [nearest_mul] at above below
  exact ⟨above, below⟩

theorem shiftRight_succ (n k : Nat) :
    ExtendedMantissa.ofMantissaAndAccuracy n .exact >>> (k + 1) =
      ⟨n / 2 ^ (k + 1), n / 2 ^ k % 2 != 0, n % 2 ^ k != 0⟩ := by
  induction k with
  | zero =>
      change ExtendedMantissa.mk (n / 2) (n % 2 != 0) false = _
      rw [Nat.pow_zero, Nat.div_one, Nat.mod_one]
      rfl
  | succ k ih =>
      change ExtendedMantissa.shiftRightOne
        (ExtendedMantissa.ofMantissaAndAccuracy n .exact >>> (k + 1)) = _
      have rests := Nat.mod_pow_succ (x := n) (b := 2) (k := k)
      rw [ih, ExtendedMantissa.shiftRightOne]
      congr 1
      · rw [Nat.div_div_eq_div_mul, ← Nat.pow_succ]
      · have positive : 0 < 2 ^ k := Nat.two_pow_pos k
        rw [rests]
        rcases Nat.mod_two_eq_zero_or_one (n / 2 ^ k) with even | odd
        · simp [even]
        · rw [odd]
          simp

theorem roundedMantissa_shiftRight (n k : Nat) :
    (ExtendedMantissa.ofMantissaAndAccuracy n .exact >>> k).roundedMantissa = nearest n k := by
  cases k with
  | zero =>
      unfold nearest
      rw [Nat.pow_zero, Nat.mod_one, Nat.zero_mul, if_pos Nat.one_pos, Nat.div_one]
      rfl
  | succ k =>
      have rests := Nat.mod_pow_succ (x := n) (b := 2) (k := k)
      have below : n % 2 ^ k < 2 ^ k := Nat.mod_lt n (Nat.two_pow_pos k)
      rw [shiftRight_succ, nearest, rests, Nat.pow_succ]
      rcases Nat.mod_two_eq_zero_or_one (n / 2 ^ k) with even | odd
      · rw [even, Nat.mul_zero, Nat.add_zero, if_pos (by omega)]
        cases n % 2 ^ k != 0 <;> rfl
      · rw [odd, if_neg (by omega)]
        by_cases nothing : n % 2 ^ k = 0
        · rw [nothing, if_pos (by omega)]
          rfl
        · rw [if_neg (by omega)]
          have sticky : (n % 2 ^ k != 0) = true := by simp [nothing]
          rw [sticky]
          rfl

theorem mantissa_shiftRight (n k : Nat) :
    (ExtendedMantissa.ofMantissaAndAccuracy n .exact >>> k).mantissa = n / 2 ^ k := by
  cases k with
  | zero =>
      rw [Nat.pow_zero, Nat.div_one]
      rfl
  | succ k => rw [shiftRight_succ]

/-! ## Doubles in normal form -/

/-- A double with a mantissa of 53 bits. Its code counts the doubles of this form upwards from
zero. -/
def IsNormal (x : UnpackedFloat) (sign : Sign) (code : Int) : Prop :=
  ∃ mantissa exponent positive, x = .finite sign mantissa exponent positive ∧
    2 ^ 52 ≤ mantissa ∧ mantissa < 2 ^ 53 ∧ exponent * 2 ^ 52 + mantissa = code

section Normal

variable {x y : UnpackedFloat} {sign : Sign} {code otherCode : Int}

theorem targetExponent_eq (total : Int) :
    Format.binary64.targetExponent total = max (total - 53) (-1074) := rfl

/-- A mantissa of at least 53 bits is cut down to 53 bits. -/
theorem shiftToTargetExponent_eq {mantissa : Nat} {exponent : Int} (long : 52 ≤ mantissa.log2)
    (range : -1074 ≤ exponent) :
    shiftToTargetExponent Format.binary64 mantissa exponent .exact =
      (ExtendedMantissa.ofMantissaAndAccuracy mantissa .exact >>> (mantissa.log2 - 52),
        exponent + (mantissa.log2 - 52 : Nat)) := by
  have target : Format.binary64.targetExponent (totalExponent mantissa exponent) - exponent =
      (mantissa.log2 - 52 : Nat) := by
    rw [targetExponent_eq, totalExponent]
    omega
  rw [shiftToTargetExponent, shiftToExponent, target, Int.toNat_natCast]

/-- Rounding up may lead to `2 ^ 53`, which is one bit too long. -/
theorem isNormal_shiftToTargetExponent {rounded : Nat} {exponent : Int} (sign : Sign)
    (atLeast : 2 ^ 52 ≤ rounded) (atMost : rounded ≤ 2 ^ 53) (range : -1074 ≤ exponent) :
    IsNormal
      (if nothing :
          (shiftToTargetExponent Format.binary64 rounded exponent .exact).1.mantissa = 0 then
        .zero sign
      else
        .finite sign (shiftToTargetExponent Format.binary64 rounded exponent .exact).1.mantissa
          (shiftToTargetExponent Format.binary64 rounded exponent .exact).2
          (Nat.pos_of_ne_zero nothing))
      sign (exponent * 2 ^ 52 + rounded) := by
  obtain ⟨cut, isCut⟩ : ∃ cut, cut = rounded.log2 - 52 := ⟨_, rfl⟩
  have long : 52 ≤ rounded.log2 := (Nat.le_log2 (by omega)).mpr atLeast
  have mantissa : (shiftToTargetExponent Format.binary64 rounded exponent .exact).1.mantissa =
      rounded / 2 ^ cut := by
    rw [shiftToTargetExponent_eq long range, mantissa_shiftRight, isCut]
  have raised : (shiftToTargetExponent Format.binary64 rounded exponent .exact).2 =
      exponent + cut := by
    rw [shiftToTargetExponent_eq long range, isCut]
  by_cases carried : rounded = 2 ^ 53
  · subst carried
    rw [Nat.log2_two_pow] at isCut
    subst isCut
    rw [dif_neg (by rw [mantissa]; decide)]
    refine ⟨_, _, _, rfl, ?_⟩
    rw [mantissa, raised]
    omega
  · have short : rounded.log2 < 53 := (Nat.log2_lt (by omega)).mpr (by omega)
    have none : cut = 0 := by omega
    subst none
    rw [Nat.pow_zero, Nat.div_one] at mantissa
    rw [dif_neg (by omega)]
    refine ⟨_, _, _, rfl, ?_⟩
    rw [mantissa, raised]
    omega

theorem roundWithAccuracy_isNormal (sign : Sign) (mantissa : Nat) (exponent : Int)
    (long : 52 ≤ mantissa.log2) (range : -1074 ≤ exponent) :
    IsNormal (roundWithAccuracy Format.binary64 sign mantissa exponent .exact) sign
      ((exponent + (mantissa.log2 - 52 : Nat)) * 2 ^ 52 +
        nearest mantissa (mantissa.log2 - 52)) := by
  have positive : mantissa ≠ 0 := by
    rintro rfl
    contradiction
  obtain ⟨cut, isCut⟩ : ∃ cut, mantissa.log2 = 52 + cut := ⟨_, (Nat.add_sub_cancel' long).symm⟩
  have low : 2 ^ 52 * 2 ^ cut ≤ mantissa := by
    rw [← Nat.pow_add, ← isCut]
    exact Nat.log2_self_le positive
  have high : mantissa < 2 ^ 53 * 2 ^ cut := by
    rw [← Nat.pow_add, ← Nat.log2_lt positive]
    omega
  obtain ⟨atLeast, atMost⟩ := nearest_between low (Nat.le_of_lt high)
  have shifted := shiftToTargetExponent_eq long range
  rw [isCut, Nat.add_sub_cancel_left] at shifted ⊢
  unfold roundWithAccuracy
  rw [shifted]
  dsimp only
  rw [roundedMantissa_shiftRight]
  exact isNormal_shiftToTargetExponent sign atLeast atMost (by omega)

theorem toNat_implicit_append {mantissa : Nat} (atLeast : 2 ^ 52 ≤ mantissa)
    (below : mantissa < 2 ^ 53) : (1#1 ++ BitVec.ofNat 52 mantissa).toNat = mantissa := by
  rw [BitVec.toNat_append, ← Nat.shiftLeft_add_eq_or_of_lt (BitVec.isLt _), BitVec.toNat_ofNat]
  change 2 ^ 52 + mantissa % 2 ^ 52 = mantissa
  omega

/-- The first bit of a stored double is its sign. -/
theorem ofBitVec_unpackSign (sign : Sign) (exponent : BitVec 11) (mantissa : BitVec 52) :
    Sign.ofBitVec (unpackSign (packComponents Format.binary64 sign exponent mantissa)) = sign := by
  have bit : unpackSign (packComponents Format.binary64 sign exponent mantissa) =
      sign.toBitVec := by
    change BitVec.extractLsb 63 63 (sign.toBitVec ++ exponent ++ mantissa) = sign.toBitVec
    apply BitVec.eq_of_getLsbD_eq
    intro i inBit
    obtain rfl := Nat.lt_one_iff.mp inBit
    rw [BitVec.getLsbD_extractLsb, BitVec.getLsbD_append, BitVec.getLsbD_append]
    rfl
  rw [bit]
  cases sign <;> rfl

/-- Bits with an exponent that is neither all ones nor all zeros are those of a double of normal
form. -/
theorem unpack_eq_finite {bits : BitVec Format.binary64.numBits} {sign : Sign} {mantissa : Nat}
    {exponent : Int} (positive : 0 < mantissa) (notOnes : unpackExponent bits ≠ -1#11)
    (notZeros : unpackExponent bits ≠ 0#11) (signRead : Sign.ofBitVec (unpackSign bits) = sign)
    (mantissaRead : (1#1 ++ unpackMantissa bits).toNat = mantissa)
    (exponentRead : ((unpackExponent bits).toNat : Int) - 1075 = exponent) :
    UnpackedFloat.unpack Format.binary64 bits = .finite sign mantissa exponent positive := by
  subst signRead mantissaRead exponentRead
  unfold UnpackedFloat.unpack
  exact (if_neg notOnes).trans (if_neg notZeros)

/-- A double of normal form is stored without the first bit of its mantissa, which is 1. -/
theorem unpack_packComponents {mantissa biased : Nat} (sign : Sign) (atLeast : 2 ^ 52 ≤ mantissa)
    (below : mantissa < 2 ^ 53) (above : 0 < biased) (small : biased < 2047) :
    UnpackedFloat.unpack Format.binary64
        (packComponents Format.binary64 sign (BitVec.ofNat 11 biased) (BitVec.ofNat 52 mantissa)) =
      .finite sign mantissa (biased - 1075) (Nat.lt_of_lt_of_le (by decide) atLeast) := by
  have toNat : (BitVec.ofNat 11 biased).toNat = biased := by
    rw [BitVec.toNat_ofNat]
    omega
  have notOnes : BitVec.ofNat 11 biased ≠ -1#11 := by
    intro same
    rw [same] at toNat
    change 2047 = biased at toNat
    omega
  have notZeros : BitVec.ofNat 11 biased ≠ 0#11 := by
    intro same
    rw [same] at toNat
    change 0 = biased at toNat
    omega
  apply unpack_eq_finite
  · rwa [unpackExponent_packComponents]
  · rwa [unpackExponent_packComponents]
  · exact ofBitVec_unpackSign sign _ _
  · rw [unpackMantissa_packComponents]
    exact toNat_implicit_append atLeast below
  · rw [unpackExponent_packComponents, toNat]

/-- Doubles of normal form are stored without loss. -/
theorem IsNormal.unpack_pack (normal : IsNormal x sign code) (low : -900 * 2 ^ 52 ≤ code)
    (high : code < 900 * 2 ^ 52) : (pack x).unpack = x := by
  obtain ⟨mantissa, exponent, positive, rfl, atLeast, below, isCode⟩ := normal
  obtain ⟨biased, isBiased⟩ : ∃ biased : Nat, exponent = biased - 1075 :=
    ⟨(exponent + 1075).toNat, by omega⟩
  have bits : mantissa.log2 + 1 = Format.binary64.mantissaBits := by
    have long := (Nat.le_log2 (Nat.ne_of_gt positive)).mpr atLeast
    have short := (Nat.log2_lt (Nat.ne_of_gt positive)).mpr below
    change _ = 53
    omega
  have sum : (exponent + Format.binary64.exponentBias +
      Format.binary64.mantissaBitsWithoutImplicit).toNat = biased := by
    change (exponent + 1023 + 52).toNat = biased
    omega
  have packed : UnpackedFloat.pack Format.binary64 (.finite sign mantissa exponent positive) =
      packComponents Format.binary64 sign (BitVec.ofNat 11 biased) (BitVec.ofNat 52 mantissa) := by
    unfold UnpackedFloat.pack
    simp only [sum]
    rw [if_neg (by change ¬2048 ≤ biased + 1; omega), if_pos bits]
  change UnpackedFloat.unpack Format.binary64
    (UnpackedFloat.pack Format.binary64 (.finite sign mantissa exponent positive)) = _
  subst isBiased
  rw [packed]
  exact unpack_packComponents sign atLeast below (by omega) (by omega)

theorem IsNormal.neg (normal : IsNormal x sign code) : IsNormal x.neg (-sign) code := by
  obtain ⟨mantissa, exponent, positive, rfl, bounds⟩ := normal
  exact ⟨mantissa, exponent, positive, rfl, bounds⟩

theorem IsNormal.isNaN_eq_false (normal : IsNormal x sign code) : x.isNaN = false := by
  obtain ⟨mantissa, exponent, positive, rfl, -⟩ := normal
  rfl

theorem comparePlaces_of_lt {first second : Place} (less : first.1 < second.1) :
    comparePlaces first second = .lt := by
  rw [comparePlaces_eq, Int.compare_eq_lt.mpr less]
  rfl

theorem isLE_comparePlaces {exponent otherExponent mantissa otherMantissa : Int}
    (atMost : exponent < otherExponent ∨ exponent = otherExponent ∧ mantissa ≤ otherMantissa)
    (sign : Int) :
    (comparePlaces (sign, exponent, mantissa) (sign, otherExponent, otherMantissa)).isLE := by
  rw [comparePlaces_eq, Std.ReflOrd.compare_self]
  obtain less | ⟨rfl, mantissas⟩ := atMost
  · rw [Int.compare_eq_lt.mpr less]
    rfl
  · rw [Std.ReflOrd.compare_self]
    exact Int.isLE_compare.mpr mantissas

theorem IsNormal.place_fst (normal : IsNormal x sign code) : (place x).1 = sign.apply 1 := by
  obtain ⟨mantissa, exponent, positive, rfl, -⟩ := normal
  cases sign <;> rfl

theorem IsNormal.isLE_of_positive (normal : IsNormal x .positive code)
    (otherNormal : IsNormal y .positive otherCode) (atMost : code ≤ otherCode) :
    (comparePlaces (place x) (place y)).isLE := by
  obtain ⟨mantissa, exponent, _, rfl, bounds⟩ := normal
  obtain ⟨otherMantissa, otherExponent, _, rfl, otherBounds⟩ := otherNormal
  exact isLE_comparePlaces (by omega) 1

theorem IsNormal.isLE_of_negative (normal : IsNormal x .negative code)
    (otherNormal : IsNormal y .negative otherCode) (atLeast : otherCode ≤ code) :
    (comparePlaces (place x) (place y)).isLE := by
  obtain ⟨mantissa, exponent, _, rfl, bounds⟩ := normal
  obtain ⟨otherMantissa, otherExponent, _, rfl, otherBounds⟩ := otherNormal
  exact isLE_comparePlaces (by omega) (-1)

end Normal

/-! ## The double nearest to a whole number -/

section Whole

variable {m n : Nat}

/-- The code of the double nearest to a whole number above zero. -/
def codeOf (n : Nat) : Int :=
  ((n.log2 : Int) - 52) * 2 ^ 52 + nearest (n * 2 ^ 53) (n.log2 + 1)

theorem nearest_bounds (positive : 0 < n) :
    2 ^ 52 ≤ nearest (n * 2 ^ 53) (n.log2 + 1) ∧ nearest (n * 2 ^ 53) (n.log2 + 1) ≤ 2 ^ 53 := by
  apply nearest_between
  · have power := Nat.log2_self_le (Nat.ne_of_gt positive)
    rw [Nat.pow_succ]
    omega
  · have power := Nat.lt_log2_self (n := n)
    omega

theorem codeOf_mono (positive : 0 < m) (atMost : m ≤ n) : codeOf m ≤ codeOf n := by
  have logs : m.log2 ≤ n.log2 :=
    (Nat.le_log2 (by omega)).mpr (Nat.le_trans (Nat.log2_self_le (by omega)) atMost)
  unfold codeOf
  by_cases same : m.log2 = n.log2
  · have rounded := nearest_mono (Nat.mul_le_mul_right (2 ^ 53) atMost) (n.log2 + 1)
    rw [same]
    omega
  · have first := nearest_bounds positive
    have second := nearest_bounds (Nat.lt_of_lt_of_le positive atMost)
    omega

theorem codeOf_bounds (positive : 0 < n) (small : n < 2 ^ 64) :
    -900 * 2 ^ 52 ≤ codeOf n ∧ codeOf n < 900 * 2 ^ 52 := by
  have bounds := nearest_bounds positive
  have short : n.log2 < 64 := (Nat.log2_lt (Nat.ne_of_gt positive)).mpr small
  unfold codeOf
  omega

theorem unpack_one : (Float.ofBits 0x3FF0000000000000).toModel.unpack =
    .finite .positive (2 ^ 52) (-52) (by decide) := by
  rfl

theorem log2_mul_two_pow (positive : 0 < n) (k : Nat) : (n * 2 ^ k).log2 = n.log2 + k := by
  rw [Nat.log2_eq_iff (Nat.ne_of_gt (Nat.mul_pos positive (Nat.two_pow_pos k)))]
  have power : 0 < 2 ^ k := Nat.two_pow_pos k
  have low := Nat.log2_self_le (Nat.ne_of_gt positive)
  have high := Nat.lt_log2_self (n := n)
  constructor
  · rw [Nat.pow_add]
    exact Nat.mul_le_mul_right _ low
  · rw [Nat.add_right_comm, Nat.pow_add]
    exact Nat.mul_lt_mul_of_pos_right high power

/-- A number of at most 53 bits is a double. -/
theorem nearest_of_lt (positive : 0 < n) (short : n < 2 ^ 53) :
    nearest (n * 2 ^ 53) (n.log2 + 1) = n * 2 ^ (52 - n.log2) := by
  have few : n.log2 < 53 := (Nat.log2_lt (Nat.ne_of_gt positive)).mpr short
  have exact' : n * 2 ^ 53 = n * 2 ^ (52 - n.log2) * 2 ^ (n.log2 + 1) := by
    rw [Nat.mul_assoc, ← Nat.pow_add]
    congr 2
    omega
  rw [exact', nearest_mul]

theorem ofNat_isNormal (positive : 0 < n) (short : n < 2 ^ 53) :
    IsNormal (UnpackedFloat.ofNat Format.binary64 n) .positive (codeOf n) := by
  have few : n.log2 < 53 := (Nat.log2_lt (Nat.ne_of_gt positive)).mpr short
  have sign : Ord.compare (n : Int) 0 = .gt := Int.compare_eq_gt.mpr (by omega)
  have target : -Format.binary64.targetExponent (totalExponent n 0) = (52 - n.log2 : Nat) := by
    rw [targetExponent_eq, totalExponent]
    omega
  have long : (n * 2 ^ (52 - n.log2)).log2 = 52 := by
    rw [log2_mul_two_pow positive]
    omega
  have rounded := roundWithAccuracy_isNormal .positive (n * 2 ^ (52 - n.log2))
    (-(52 - n.log2 : Nat)) (Nat.le_of_eq long.symm) (by omega)
  unfold UnpackedFloat.ofNat UnpackedFloat.ofInt UnpackedFloat.normalize
  rw [sign]
  simp only [UnpackedFloat.round, decreaseExponent, Int.toNat_natCast, Int.zero_sub, target,
    Nat.shiftLeft_eq]
  have kept := nearest_mul (n * 2 ^ (52 - n.log2)) 0
  rw [Nat.pow_zero, Nat.mul_one] at kept
  rw [long, Nat.sub_self, kept] at rounded
  have codes : (-(52 - n.log2 : Nat) + ((0 : Nat) : Int)) * 2 ^ 52 +
      (n * 2 ^ (52 - n.log2) : Nat) = codeOf n := by
    rw [codeOf, nearest_of_lt positive short]
    omega
  rw [codes] at rounded
  exact rounded

theorem mul_isNormal {x : UnpackedFloat} {sign : Sign} {code : Int} (normal : IsNormal x sign code)
    (low : -900 * 2 ^ 52 ≤ code) :
    IsNormal (UnpackedFloat.mul Format.binary64 x (.finite .positive (2 ^ 52) (-52) (by decide)))
      sign code := by
  obtain ⟨mantissa, exponent, positive, rfl, atLeast, below, isCode⟩ := normal
  have long : mantissa.log2 = 52 :=
    (Nat.log2_eq_iff (Nat.ne_of_gt positive)).mpr ⟨atLeast, below⟩
  have longer := log2_mul_two_pow positive 52
  have same : sign * .positive = sign := by cases sign <;> rfl
  have rounded := roundWithAccuracy_isNormal (sign * .positive) (mantissa * 2 ^ 52)
    (exponent + -52) (by omega) (by omega)
  rw [longer, long, Nat.add_sub_cancel_left, nearest_mul, same] at rounded
  have codes : (exponent + -52 + (52 : Nat)) * 2 ^ 52 + mantissa = code := by omega
  rw [codes] at rounded
  change IsNormal (roundWithAccuracy Format.binary64 (sign * .positive) (mantissa * 2 ^ 52)
    (exponent + -52) .exact) sign code
  rw [same]
  exact rounded

theorem ofScientific_isNormal (positive : 0 < n) :
    IsNormal (UnpackedFloat.ofScientific Format.binary64 n 0) .positive (codeOf n) := by
  have longer := log2_mul_two_pow positive 53
  have rounded := roundWithAccuracy_isNormal .positive (n * 2 ^ 53) (-53) (by omega) (by omega)
  have cut : (n * 2 ^ 53).log2 - 52 = n.log2 + 1 := by omega
  rw [cut] at rounded
  unfold UnpackedFloat.ofScientific
  have large : ¬(0 : Int) < -(2 ^ Format.binary64.exponentBits + n.log2) := by
    change ¬(0 : Int) < -(2 ^ 11 + n.log2)
    omega
  rw [dif_neg (Nat.ne_of_gt positive), if_neg (by decide), if_neg large, if_pos (by decide)]
  have bits : Format.binary64.mantissaBits = 53 := rfl
  unfold UnpackedFloat.mul
  simp only [bits, Nat.shiftLeft_eq, Int.toNat_zero, Nat.pow_zero, Nat.mul_one, Int.add_zero]
  have codes : (-53 + ((n.log2 + 1 : Nat) : Int)) * 2 ^ 52 +
      nearest (n * 2 ^ 53) (n.log2 + 1) = codeOf n := by
    rw [codeOf]
    omega
  rw [codes] at rounded
  exact rounded

theorem unpack_ofNat (positive : 0 < n) (small : n < 2 ^ 64) :
    IsNormal (Float.ofNat n).toModel.unpack .positive (codeOf n) := by
  have bounds := codeOf_bounds positive small
  by_cases short : n < 2 ^ 53
  · have stored : (Float.ofNat n).toModel.unpack =
        (pack (UnpackedFloat.mul Format.binary64 n.toUInt64.toFloat.toModel.unpack
          (Float.ofBits 0x3FF0000000000000).toModel.unpack)).unpack := by
      change (Float.ofScientific n false 0).toModel.unpack = _
      unfold Float.ofScientific
      rw [dif_pos ⟨short, by decide⟩]
      rfl
    have whole : n.toUInt64.toFloat.toModel.unpack =
        (pack (UnpackedFloat.ofNat Format.binary64 n)).unpack := by
      change (pack (UnpackedFloat.ofNat Format.binary64 n.toUInt64.toNat)).unpack = _
      rw [Nat.toUInt64_eq, UInt64.toNat_ofNat_of_lt' small]
    have normal := ofNat_isNormal positive short
    have product := mul_isNormal normal bounds.1
    rw [stored, whole, normal.unpack_pack bounds.1 bounds.2, unpack_one,
      product.unpack_pack bounds.1 bounds.2]
    exact product
  · have stored : (Float.ofNat n).toModel.unpack =
        (pack (UnpackedFloat.ofScientific Format.binary64 n 0)).unpack := by
      change (Float.ofScientific n false 0).toModel.unpack = _
      unfold Float.ofScientific
      rw [dif_neg fun both => short both.1]
      rfl
    have normal := ofScientific_isNormal positive
    rw [stored, normal.unpack_pack bounds.1 bounds.2]
    exact normal

/-- The three ways in which a whole number is a double. -/
inductive IsWhole (n : Int) (x : UnpackedFloat) : Prop
  | zero (isZero : n = 0) (same : x = .zero .positive)
  | positive (above : 0 < n) (normal : IsNormal x .positive (codeOf n.natAbs))
  | negative (below : n < 0) (normal : IsNormal x .negative (codeOf n.natAbs))

theorem unpack_ofInt (n : Int) (small : n.natAbs < 2 ^ 64) :
    IsWhole n (Float.ofInt n).toModel.unpack := by
  match n with
  | .ofNat 0 => exact .zero rfl rfl
  | .ofNat (k + 1) =>
      exact .positive (Int.natCast_pos.mpr k.succ_pos) (unpack_ofNat k.succ_pos small)
  | .negSucc k =>
      have normal := (unpack_ofNat (Nat.succ_pos k) small).neg
      have bounds := codeOf_bounds (Nat.succ_pos k) small
      have stored := normal.unpack_pack bounds.1 bounds.2
      refine .negative (Int.negSucc_lt_zero k) ?_
      change IsNormal (pack (Float.ofNat (k + 1)).toModel.unpack.neg).unpack .negative _
      rw [stored]
      exact normal

theorem IsWhole.isNaN_eq_false {n : Int} {x : UnpackedFloat} (whole : IsWhole n x) :
    x.isNaN = false := by
  cases whole with
  | zero isZero same => rw [same]; rfl
  | positive above normal => exact normal.isNaN_eq_false
  | negative below normal => exact normal.isNaN_eq_false

theorem IsWhole.isLE {m n : Int} {x y : UnpackedFloat} (whole : IsWhole m x)
    (otherWhole : IsWhole n y) (atMost : m ≤ n) : (comparePlaces (place x) (place y)).isLE := by
  have ordered : (place x).1 < (place y).1 → (comparePlaces (place x) (place y)).isLE :=
    fun less => by rw [comparePlaces_of_lt less]; rfl
  cases whole with
  | zero isZero same =>
      cases otherWhole with
      | zero otherIsZero otherSame =>
          rw [same, otherSame]
          rfl
      | positive above normal =>
          apply ordered
          rw [same, normal.place_fst]
          decide
      | negative below normal => omega
  | positive above normal =>
      cases otherWhole with
      | zero isZero same => omega
      | positive otherAbove otherNormal =>
          exact normal.isLE_of_positive otherNormal (codeOf_mono (by omega) (by omega))
      | negative below otherNormal => omega
  | negative below normal =>
      cases otherWhole with
      | zero isZero same =>
          apply ordered
          rw [same, normal.place_fst]
          decide
      | positive above otherNormal =>
          apply ordered
          rw [normal.place_fst, otherNormal.place_fst]
          decide
      | negative otherBelow otherNormal =>
          exact normal.isLE_of_negative otherNormal (codeOf_mono (by omega) (by omega))

end Whole

theorem isWhole_floatOfInt (n : Int64) :
    IsWhole n.toInt (Value.floatOfInt n).toModel.unpack := by
  have low := n.le_toInt
  have high := n.toInt_lt
  exact unpack_ofInt n.toInt (by omega)

theorem isNaN_floatOfInt (n : Int64) : (Value.floatOfInt n).isNaN = false :=
  (isWhole_floatOfInt n).isNaN_eq_false

/-- Rounding to doubles keeps the order of whole numbers. -/
theorem floatOfInt_mono {m n : Int64} (atMost : m ≤ n) :
    (compareNumbers (Value.floatOfInt m) (Value.floatOfInt n)).isLE :=
  (isWhole_floatOfInt m).isLE (isWhole_floatOfInt n) (Int64.le_iff_toInt_le.mp atMost)

end Keyset.Double
