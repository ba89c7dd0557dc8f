import Mathlib
import FilterQuery.Value.Basic

/-!
Doubles as far as values need them: their order, and the doubles of whole numbers of 64 bits. Every
number of at most 53 bits has a double of its own. A longer one shares its double with its neighbours,
but never with a number of at most 53 bits.
-/

namespace FilterQuery.Double

open Float.Model Float.Model.UnpackedFloat
open Float.Model (UnpackedFloat Format)

/-! The order of doubles is the order of what their bits stand for. -/

theorem compare_swap (a b : UnpackedFloat) : b.compare a = (a.compare b).map Ordering.swap := by
  -- Each side matches on the signs of both numbers, so both are split down to them.
  rcases a with ⟨_ | _⟩ | _ | ⟨_ | _⟩ | ⟨_ | _, m, e, _⟩ <;>
    rcases b with ⟨_ | _⟩ | _ | ⟨_ | _⟩ | ⟨_ | _, n, f, _⟩ <;>
    first
      | rfl
      | simp [UnpackedFloat.compare, Ordering.swap_then, Int.compare_swap, Nat.compare_swap]

theorem compareFloats_eq (x y : Float) :
    Value.compareFloats x y = x.toModel.unpack.compare y.toModel.unpack := by
  have less (a b : Float) : a < b ↔ a.toModel.unpack.compare b.toModel.unpack = some .lt := by
    show Float.lt a b = true ↔ _
    simp [Float.lt, LT.lt, Float.Model.lt, UnpackedFloat.lt]
  have equal : (x == y) = (x.toModel.unpack.compare y.toModel.unpack == some .eq) := rfl
  unfold Value.compareFloats
  simp only [less, equal, compare_swap x.toModel.unpack]
  rcases x.toModel.unpack.compare y.toModel.unpack with _ | _ | _ | _ <;> rfl

theorem compareFloats_swap (x y : Float) :
    Value.compareFloats y x = (Value.compareFloats x y).map Ordering.swap := by
  rw [compareFloats_eq, compareFloats_eq, compare_swap]

theorem beq_eq_true {x y : Float} :
    (x == y) = true ↔ x.toModel.unpack.compare y.toModel.unpack = some .eq := by
  show (x.toModel.unpack.compare y.toModel.unpack == some .eq) = true ↔ _
  exact beq_iff_eq

theorem compareFloats_eq_some_eq (x y : Float) :
    Value.compareFloats x y = some .eq ↔ (x == y) = true := by
  rw [compareFloats_eq, beq_eq_true]

theorem beq_neg_zero (y : Float) : (y == -Float.ofNat 0) = (y == Float.ofInt 0) := by
  have negative : (-Float.ofNat 0).toModel.unpack = .zero .negative := rfl
  have positive : (Float.ofInt 0).toModel.unpack = .zero .positive := rfl
  rw [Bool.eq_iff_iff, beq_eq_true, beq_eq_true, negative, positive]
  rcases y.toModel.unpack with ⟨_ | _⟩ | _ | ⟨_ | _⟩ | ⟨_ | _, m, e, _⟩ <;> rfl

/-! The bits of the double of a whole number. -/

theorem toNat_withLeadingBit {m : Nat} (low : 2 ^ 52 ≤ m) (high : m < 2 ^ 53) :
    (1#1 ++ BitVec.ofNat 52 m).toNat = m := by
  rw [BitVec.toNat_append, ← Nat.shiftLeft_add_eq_or_of_lt (BitVec.isLt _), BitVec.toNat_ofNat]
  simp only [Nat.shiftLeft_eq, BitVec.toNat_ofNat]
  omega

theorem unpack_pack_normal (s : Sign) {m : Nat} {e : Int} (positive : 0 < m)
    (low : 2 ^ 52 ≤ m) (high : m < 2 ^ 53) (least : -1074 ≤ e) (most : e ≤ 970) :
    (Float.Model.pack (.finite s m e positive)).unpack = .finite s m e positive := by
  have bits : m.log2 = 52 := (Nat.log2_eq_iff (by omega)).2 ⟨low, high⟩
  have shifted : ((e + 1075).toNat : Int) = e + 1075 := Int.toNat_of_nonneg (by omega)
  have inside : ¬ 2 ^ 11 ≤ (e + 1075).toNat + 1 := by omega
  have held : (BitVec.ofNat 11 (e + 1075).toNat).toNat = (e + 1075).toNat := by
    rw [BitVec.toNat_ofNat, Nat.mod_eq_of_lt (by omega)]
  have nonzero : BitVec.ofNat 11 (e + 1075).toNat ≠ 0#11 := by
    intro zero
    have := congrArg BitVec.toNat zero
    rw [held] at this
    simp only [BitVec.toNat_ofNat, Nat.zero_mod] at this
    omega
  have finite : BitVec.ofNat 11 (e + 1075).toNat ≠ -1#11 := by
    intro full
    have := congrArg BitVec.toNat full
    rw [held, show (-1#11).toNat = 2047 from rfl] at this
    omega
  have packed : UnpackedFloat.pack Format.binary64 (.finite s m e positive) =
      packComponents Format.binary64 s (BitVec.ofNat 11 (e + 1075).toNat) (BitVec.ofNat 52 m) := by
    have bias : e + (Format.binary64.exponentBias : Int) + (52 : Nat) = e + 1075 := by
      show e + 1023 + 52 = e + 1075
      omega
    unfold UnpackedFloat.pack
    simp only [bias]
    rw [if_neg inside, if_pos (by rw [bits]; rfl)]
  show UnpackedFloat.unpack Format.binary64 (UnpackedFloat.pack Format.binary64 _) = _
  rw [packed]
  unfold UnpackedFloat.unpack
  simp only [unpackMantissa_packComponents, unpackExponent_packComponents,
    unpackSign_packComponents, held, finite, nonzero, if_false, toNat_withLeadingBit low high]
  have unshifted : ((e + 1075).toNat : Int) - ((Format.binary64.exponentBias : Int) + (52 : Nat)) = e := by
    rw [shifted]
    show e + 1075 - (1023 + 52) = e
    omega
  simp only [Sign.ofBitVec_toBitVec, unshifted]

theorem mantissa_shiftRight (em : ExtendedMantissa) (k : Nat) :
    (em >>> k).mantissa = em.mantissa / 2 ^ k := by
  induction k with
  | zero => exact (Nat.div_one _).symm
  | succ k ih =>
    show (em >>> k).mantissa / 2 = _
    rw [ih, Nat.div_div_eq_div_mul, Nat.pow_succ]

theorem shiftRight_exact (m k : Nat) :
    (⟨m * 2 ^ k, false, false⟩ : ExtendedMantissa) >>> k = ⟨m, false, false⟩ := by
  induction k generalizing m with
  | zero =>
    rw [Nat.pow_zero, Nat.mul_one]
    rfl
  | succ k ih =>
    have split : m * 2 ^ (k + 1) = (m * 2) * 2 ^ k := by rw [Nat.pow_succ]; ac_rfl
    show ((⟨m * 2 ^ (k + 1), false, false⟩ : ExtendedMantissa) >>> k).shiftRightOne = _
    rw [split, ih]
    simp [ExtendedMantissa.shiftRightOne]

theorem roundedMantissa_bounds (em : ExtendedMantissa) :
    em.mantissa ≤ em.roundedMantissa ∧ em.roundedMantissa ≤ em.mantissa + 1 := by
  rcases em with ⟨m, _ | _, _ | _⟩ <;>
    simp only [ExtendedMantissa.roundedMantissa, ExtendedMantissa.accuracy,
      Accuracy.roundToNearestEven] <;> omega

theorem shiftToTargetExponent_eq {n k : Nat} {e : Int} (bits : n.log2 = 52 + k)
    (least : -1074 ≤ e + k) :
    shiftToTargetExponent Format.binary64 n e .exact =
      ((⟨n, false, false⟩ : ExtendedMantissa) >>> k, e + k) := by
  have target : Format.binary64.targetExponent (totalExponent n e) = e + k := by
    simp only [Format.targetExponent, totalExponent, bits]
    show max (((52 + k : Nat) : Int) + 1 + e - 53) (-1074) = e + k
    omega
  have amount : (e + k - e).toNat = k := by omega
  simp only [shiftToTargetExponent, shiftToExponent, target, amount]
  rfl

theorem log2_of_normal {m : Nat} (low : 2 ^ 52 ≤ m) (high : m < 2 ^ 53) (k : Nat) :
    (m * 2 ^ k).log2 = 52 + k := by
  have power : 0 < 2 ^ k := Nat.two_pow_pos k
  refine (Nat.log2_eq_iff (Nat.ne_of_gt (Nat.mul_pos (by omega) power))).2 ⟨?_, ?_⟩
  · rw [Nat.pow_add]
    exact Nat.mul_le_mul_right _ low
  · rw [show 52 + k + 1 = 53 + k by omega, Nat.pow_add]
    exact Nat.mul_lt_mul_of_pos_right high power

section Rounding

variable (s : Sign) {n k : Nat} {e f : Int} {em : ExtendedMantissa}

theorem roundWithAccuracy_settled
    (first : shiftToTargetExponent Format.binary64 n e .exact = (em, f)) (least : -1074 ≤ f)
    (low : 2 ^ 52 ≤ em.roundedMantissa) (high : em.roundedMantissa < 2 ^ 53) :
    roundWithAccuracy Format.binary64 s n e .exact =
      .finite s em.roundedMantissa f (by omega) := by
  have bits : em.roundedMantissa.log2 = 52 + 0 := (Nat.log2_eq_iff (by omega)).2 ⟨low, high⟩
  have second := shiftToTargetExponent_eq (e := f) bits (by omega)
  have stays (m : Nat) : ((⟨m, false, false⟩ : ExtendedMantissa) >>> 0).mantissa = m := rfl
  have same : f + (0 : Nat) = f := by omega
  simp only [roundWithAccuracy, first, second, stays, same]
  rw [dif_neg (by omega)]

theorem roundWithAccuracy_carry
    (first : shiftToTargetExponent Format.binary64 n e .exact = (em, f)) (least : -1074 ≤ f)
    (full : em.roundedMantissa = 2 ^ 53) :
    roundWithAccuracy Format.binary64 s n e .exact = .finite s (2 ^ 52) (f + 1) (by decide) := by
  have second := shiftToTargetExponent_eq (n := 2 ^ 53) (k := 1) (e := f) Nat.log2_two_pow (by omega)
  have halved : ((⟨2 ^ 53, false, false⟩ : ExtendedMantissa) >>> 1).mantissa = 2 ^ 52 := rfl
  have same : f + (1 : Nat) = f + 1 := rfl
  simp only [roundWithAccuracy, first, full, second, halved, same]
  rw [dif_neg (by decide)]

theorem roundWithAccuracy_exact {m : Nat} (low : 2 ^ 52 ≤ m) (high : m < 2 ^ 53)
    (least : -1074 ≤ e + k) :
    roundWithAccuracy Format.binary64 s (m * 2 ^ k) e .exact =
      .finite s m (e + k) (by omega) := by
  have first := shiftToTargetExponent_eq (log2_of_normal low high k) least
  rw [shiftRight_exact] at first
  exact roundWithAccuracy_settled s first least low high

theorem roundWithAccuracy_normal (bits : n.log2 = 52 + k) (least : -1074 ≤ e + k) :
    ∃ m f, ∃ positive : 0 < m,
      roundWithAccuracy Format.binary64 s n e .exact = .finite s m f positive ∧
        2 ^ 52 ≤ m ∧ m < 2 ^ 53 ∧ e + k ≤ f ∧ f ≤ e + k + 1 := by
  have first := shiftToTargetExponent_eq bits least
  have power : 0 < 2 ^ k := Nat.two_pow_pos k
  have positive : n ≠ 0 := by
    rintro rfl
    rw [Nat.log2_zero] at bits
    omega
  obtain ⟨atLeast, below⟩ := (Nat.log2_eq_iff positive).1 bits
  have low : 2 ^ 52 ≤ n / 2 ^ k := (Nat.le_div_iff_mul_le power).2 (by rwa [← Nat.pow_add])
  have high : n / 2 ^ k < 2 ^ 53 :=
    (Nat.div_lt_iff_lt_mul power).2 (by rwa [← Nat.pow_add, show 53 + k = 52 + k + 1 by omega])
  obtain ⟨down, up⟩ := roundedMantissa_bounds ((⟨n, false, false⟩ : ExtendedMantissa) >>> k)
  rw [mantissa_shiftRight] at down up
  dsimp only at down up
  rcases Nat.lt_or_ge (((⟨n, false, false⟩ : ExtendedMantissa) >>> k).roundedMantissa) (2 ^ 53) with
    settled | carried
  · exact ⟨_, _, _, roundWithAccuracy_settled s first least (by omega) settled, by omega, settled,
      by omega, by omega⟩
  · exact ⟨_, _, _, roundWithAccuracy_carry s first least (by omega), by omega, by decide,
      by omega, by omega⟩

end Rounding

/-- How a positive whole number of at most 64 bits is stored: exactly if it has at most 53 bits, and
otherwise with an exponent that no smaller number has. -/
structure Stores (n m : Nat) (e : Int) : Prop where
  low : 2 ^ 52 ≤ m
  high : m < 2 ^ 53
  range : -52 ≤ e ∧ e ≤ 12
  small : n < 2 ^ 53 → m = n * 2 ^ (52 - n.log2) ∧ e = n.log2 - 52
  large : 2 ^ 53 ≤ n → 1 ≤ e

theorem stores_small {n : Nat} (nonzero : n ≠ 0) (small : n < 2 ^ 53) :
    Stores n (n * 2 ^ (52 - n.log2)) (n.log2 - 52) := by
  have bits := (Nat.log2_lt nonzero).2 small
  obtain ⟨atLeast, below⟩ := (Nat.log2_eq_iff nonzero).1 (rfl : n.log2 = n.log2)
  have power : 0 < 2 ^ (52 - n.log2) := Nat.two_pow_pos _
  refine ⟨?_, ?_, by omega, fun _ => ⟨rfl, rfl⟩, by omega⟩
  · calc
      2 ^ 52 = 2 ^ n.log2 * 2 ^ (52 - n.log2) := by rw [← Nat.pow_add]; congr 1; omega
      _ ≤ n * 2 ^ (52 - n.log2) := Nat.mul_le_mul_right _ atLeast
  · calc
      n * 2 ^ (52 - n.log2) < 2 ^ (n.log2 + 1) * 2 ^ (52 - n.log2) :=
        Nat.mul_lt_mul_of_pos_right below power
      _ = 2 ^ 53 := by rw [← Nat.pow_add]; congr 1; omega

theorem Stores.positive {n m : Nat} {e : Int} (stores : Stores n m e) : 0 < m := by
  have := stores.low
  omega

theorem Stores.unpack_pack {n m : Nat} {e : Int} (stores : Stores n m e) (s : Sign) :
    (Float.Model.pack (.finite s m e stores.positive)).unpack = .finite s m e stores.positive :=
  unpack_pack_normal s _ stores.low stores.high (by have := stores.range; omega)
    (by have := stores.range; omega)

theorem ofNat_small {n : Nat} (nonzero : n ≠ 0) (small : n < 2 ^ 53) :
    UnpackedFloat.ofNat Format.binary64 n =
      .finite .positive (n * 2 ^ (52 - n.log2)) (n.log2 - 52) (stores_small nonzero small).positive := by
  have bits := (Nat.log2_lt nonzero).2 small
  have stores := stores_small nonzero small
  have target : Format.binary64.targetExponent (totalExponent n 0) = n.log2 - 52 := by
    show max ((n.log2 : Int) + 1 + 0 - 53) (-1074) = _
    omega
  have padded : decreaseExponent n 0 (n.log2 - 52) = (n * 2 ^ (52 - n.log2), (n.log2 - 52 : Int)) := by
    have amount : ((0 : Int) - (n.log2 - 52)).toNat = 52 - n.log2 := by omega
    simp only [decreaseExponent, amount, Nat.shiftLeft_eq, Prod.mk.injEq, true_and]
    omega
  have rounded := roundWithAccuracy_exact .positive (k := 0) stores.low stores.high
    (e := (n.log2 : Int) - 52) (by omega)
  have ordered : compare (n : Int) 0 = .gt := Int.compare_eq_gt.2 (by omega)
  show UnpackedFloat.normalize Format.binary64 (n : Int) 0 .positive = _
  simp only [UnpackedFloat.normalize, ordered, UnpackedFloat.round, Int.toNat_natCast, target, padded]
  simpa using rounded

theorem unpack_ofNat_small {n : Nat} (nonzero : n ≠ 0) (small : n < 2 ^ 53) :
    (Float.ofNat n).toModel.unpack =
      .finite .positive (n * 2 ^ (52 - n.log2)) (n.log2 - 52) (stores_small nonzero small).positive := by
  have stores := stores_small nonzero small
  have one : (Float.exactlyRepresentablePowersOfTen[0]).toModel.unpack =
      .finite .positive (2 ^ 52) (-52) (by decide) := rfl
  have converted : (n.toUInt64.toFloat).toModel.unpack =
      .finite .positive (n * 2 ^ (52 - n.log2)) (n.log2 - 52) stores.positive := by
    have held : n.toUInt64.toNat = n := by
      rw [Nat.toUInt64_eq, UInt64.toNat_ofNat', Nat.mod_eq_of_lt (by omega)]
    show (Float.Model.pack (UnpackedFloat.ofNat Format.binary64 n.toUInt64.toNat)).unpack = _
    rw [held, ofNat_small nonzero small, stores.unpack_pack]
  have product : Float.ofNat n = n.toUInt64.toFloat * Float.exactlyRepresentablePowersOfTen[0] := by
    show Float.ofScientific n false 0 = _
    unfold Float.ofScientific
    rw [dif_pos ⟨small, by decide⟩]
    rfl
  rw [product]
  show (Float.Model.pack (UnpackedFloat.mul Format.binary64 (n.toUInt64.toFloat).toModel.unpack
    (Float.exactlyRepresentablePowersOfTen[0]).toModel.unpack)).unpack = _
  rw [converted, one]
  have exact := roundWithAccuracy_exact .positive (k := 52) (e := (n.log2 : Int) - 52 + -52)
    stores.low stores.high (by omega)
  have settled : ((n.log2 : Int) - 52 + -52) + (52 : Nat) = n.log2 - 52 := by omega
  simp only [settled] at exact
  show (Float.Model.pack (roundWithAccuracy Format.binary64 .positive _ _ .exact)).unpack = _
  rw [exact, stores.unpack_pack]

theorem unpack_ofNat_large {n : Nat} (large : 2 ^ 53 ≤ n) (most : n < 2 ^ 64) :
    ∃ m e, ∃ stores : Stores n m e,
      (Float.ofNat n).toModel.unpack = .finite .positive m e stores.positive := by
  have scaled : Float.ofNat n = Float.ofModel (Float.Model.ofScientific n 0) := by
    show Float.ofScientific n false 0 = _
    unfold Float.ofScientific
    rw [dif_neg (by omega)]
    rfl
  have nonzero : n ≠ 0 := by omega
  obtain ⟨atLeast, below⟩ := (Nat.log2_eq_iff nonzero).1 (rfl : n.log2 = n.log2)
  have least : 53 ≤ n.log2 := (Nat.le_log2 nonzero).2 large
  have bound : n.log2 < 64 := (Nat.log2_lt nonzero).2 most
  have bits : (n * 2 ^ 53).log2 = 52 + (n.log2 + 1) := by
    refine (Nat.log2_eq_iff (by omega)).2 ⟨?_, ?_⟩
    · rw [show 52 + (n.log2 + 1) = n.log2 + 53 by omega, Nat.pow_add]
      exact Nat.mul_le_mul_right _ atLeast
    · rw [show 52 + (n.log2 + 1) + 1 = n.log2 + 1 + 53 by omega, Nat.pow_add]
      exact Nat.mul_lt_mul_of_pos_right below (by decide)
  obtain ⟨m, e, positive, rounded, low, high, down, up⟩ :=
    roundWithAccuracy_normal .positive bits (e := -53) (by omega)
  have stores : Stores n m e := ⟨low, high, by omega, by omega, by omega⟩
  refine ⟨m, e, stores, ?_⟩
  have product : Float.Model.ofScientific n 0 =
      Float.Model.pack (roundWithAccuracy Format.binary64 .positive (n * 2 ^ 53) (-53) .exact) := by
    show Float.Model.pack (UnpackedFloat.ofScientific Format.binary64 n 0) = _
    unfold UnpackedFloat.ofScientific
    have above : ¬ (0 : Int) < -((2 : Int) ^ Format.binary64.exponentBits + n.log2) := by
      show ¬ (0 : Int) < -(2 ^ 11 + n.log2)
      omega
    rw [dif_neg nonzero, if_neg (by decide), if_neg above, if_pos (by decide)]
    show Float.Model.pack (roundWithAccuracy Format.binary64 .positive ((n <<< 53) * 1) (-53 + 0) .exact) = _
    rw [Nat.shiftLeft_eq, Nat.mul_one]
    rfl
  rw [scaled]
  show (Float.Model.ofScientific n 0).unpack = _
  rw [product, rounded, stores.unpack_pack]

theorem unpack_ofNat {n : Nat} (nonzero : n ≠ 0) (most : n < 2 ^ 64) :
    ∃ m e, ∃ stores : Stores n m e,
      (Float.ofNat n).toModel.unpack = .finite .positive m e stores.positive := by
  rcases Nat.lt_or_ge n (2 ^ 53) with small | large
  · exact ⟨_, _, stores_small nonzero small, unpack_ofNat_small nonzero small⟩
  · exact unpack_ofNat_large large most

def signOf (i : Int) : Sign := if 0 ≤ i then .positive else .negative

theorem unpack_ofInt {i : Int} (nonzero : i ≠ 0) (most : i.natAbs < 2 ^ 64) :
    ∃ m e, ∃ stores : Stores i.natAbs m e,
      (Float.ofInt i).toModel.unpack = .finite (signOf i) m e stores.positive := by
  obtain ⟨m, e, stores, unpacked⟩ := unpack_ofNat (Int.natAbs_ne_zero.2 nonzero) most
  refine ⟨m, e, stores, ?_⟩
  cases i with
  | ofNat n => simpa [Float.ofInt, signOf] using unpacked
  | negSucc n =>
    have sign : signOf (.negSucc n) = .negative := if_neg (by omega)
    show (Float.Model.pack (UnpackedFloat.neg (Float.ofNat (n + 1)).toModel.unpack)).unpack = _
    rw [show (Float.ofNat (n + 1)).toModel.unpack = _ from unpacked, sign]
    exact stores.unpack_pack .negative

theorem Stores.unique {a b m : Nat} {e : Int} (nonzero : a ≠ 0) (small : a < 2 ^ 53)
    (first : Stores a m e) (second : Stores b m e) : a = b := by
  obtain ⟨mantissa, exponent⟩ := first.small small
  have bits := (Nat.log2_lt nonzero).2 small
  have also : b < 2 ^ 53 := by
    refine Nat.lt_of_not_le fun large => ?_
    have := second.large large
    omega
  obtain ⟨mantissa', exponent'⟩ := second.small also
  have same : a.log2 = b.log2 := by omega
  have products : a * 2 ^ (52 - a.log2) = b * 2 ^ (52 - a.log2) := by
    rw [← mantissa, mantissa', same]
  exact Nat.eq_of_mul_eq_mul_right (Nat.two_pow_pos _) products

theorem signOf_natAbs {i j : Int} (sign : signOf i = signOf j) (size : i.natAbs = j.natAbs) :
    i = j := by
  unfold signOf at sign
  split at sign <;> split at sign <;> first | omega | cases sign

theorem ofInt_beq_zero {i : Int} (nonzero : i ≠ 0) (most : i.natAbs < 2 ^ 64) :
    (Float.ofInt i == Float.ofInt 0) = false := by
  obtain ⟨m, e, stores, unpacked⟩ := unpack_ofInt nonzero most
  have zero : (Float.ofInt 0).toModel.unpack = .zero .positive := rfl
  show ((Float.ofInt i).toModel.unpack.compare (Float.ofInt 0).toModel.unpack == some .eq) = false
  rw [unpacked, zero]
  cases signOf i <;> rfl

theorem ofInt_beq_self {i : Int} (most : i.natAbs < 2 ^ 64) :
    (Float.ofInt i == Float.ofInt i) = true := by
  by_cases zero : i = 0
  · subst zero
    rfl
  · obtain ⟨m, e, stores, unpacked⟩ := unpack_ofInt zero most
    show (Float.ofInt i).toModel.unpack.beq (Float.ofInt i).toModel.unpack = true
    rw [unpacked, beq_iff_ne_notANumber_and_eq]
    exact ⟨nofun, nofun, .inl rfl⟩

theorem eq_of_ofInt_beq {i j : Int} (small : i.natAbs < 2 ^ 53) (most : j.natAbs < 2 ^ 64)
    (equal : (Float.ofInt i == Float.ofInt j) = true) : i = j := by
  by_cases zero : i = 0
  · subst zero
    refine Decidable.byContradiction fun different => ?_
    rw [BEq.comm, ofInt_beq_zero (Ne.symm different) most] at equal
    cases equal
  by_cases other : j = 0
  · subst other
    rw [ofInt_beq_zero zero (by omega)] at equal
    cases equal
  obtain ⟨m, e, first, unpacked⟩ := unpack_ofInt zero (by omega)
  obtain ⟨n, f, second, unpacked'⟩ := unpack_ofInt other most
  have same : (Float.ofInt i).toModel.unpack.beq (Float.ofInt j).toModel.unpack = true := equal
  rw [unpacked, unpacked', beq_iff_ne_notANumber_and_eq] at same
  obtain ⟨sign, rfl, rfl⟩ : signOf i = signOf j ∧ m = n ∧ e = f := by simpa using same
  exact signOf_natAbs sign (first.unique (Int.natAbs_ne_zero.2 zero) small second)

/-- A whole number of at most 53 bits shares its double with no other number. -/
theorem ofInt_beq_ofInt {i j : Int} (first : i.natAbs < 2 ^ 64) (second : j.natAbs < 2 ^ 64)
    (small : i.natAbs < 2 ^ 53 ∨ j.natAbs < 2 ^ 53) :
    (Float.ofInt i == Float.ofInt j) = decide (i = j) := by
  rw [Bool.eq_iff_iff, decide_eq_true_iff]
  constructor
  · intro equal
    rcases small with small | small
    · exact eq_of_ofInt_beq small second equal
    · rw [BEq.comm] at equal
      exact (eq_of_ofInt_beq small first equal).symm
  · rintro rfl
    exact ofInt_beq_self first

end FilterQuery.Double
