import Mathlib
import FilterQuery.Proofs.Doubles

/-!
Doubles by rank. Apart from NaN, the order of doubles is that of their ranks, so it is linear up to the
sign of zero. A whole number of at most 53 bits is compared with any other as exactly by its double as it
is by itself.
-/

namespace FilterQuery.Double

open Float.Model (UnpackedFloat)
open Float.Model.UnpackedFloat (Sign)

/-- The place of a double in the order. Below zero, a greater exponent or mantissa comes first. -/
def rank : UnpackedFloat → Int ×ₗ Int ×ₗ Int
  | .infinity .negative => toLex (-2, toLex (0, 0))
  | .finite .negative m e _ => toLex (-1, toLex (-e, -m))
  | .zero _ | .notANumber => toLex (0, toLex (0, 0))
  | .finite .positive m e _ => toLex (1, toLex (e, m))
  | .infinity .positive => toLex (2, toLex (0, 0))

theorem compare_toLex (a b c x y z : Int) :
    compare (toLex (a, toLex (b, c))) (toLex (x, toLex (y, z))) =
      (compare a x).then ((compare b y).then (compare c z)) := by
  rw [Prod.Lex.compare_def, compareLex, compareOn, compareOn, Prod.Lex.compare_def]
  rfl

theorem compare_map {α β : Type} [LinearOrder α] [LinearOrder β] {f : α → β} (monotone : StrictMono f)
    (a b : α) : compare (f a) (f b) = compare a b := by
  rw [← cmp_eq_compare, ← cmp_eq_compare, monotone.cmp_map_eq]

theorem compare_neg (a b : Int) : compare (-a) (-b) = (compare a b).swap := by
  rw [Int.compare_swap, ← cmp_eq_compare, ← cmp_eq_compare]
  exact StrictAnti.cmp_map_eq (fun _ _ => neg_lt_neg) a b

theorem compare_natCast (m n : Nat) : compare (m : Int) (n : Int) = compare m n :=
  compare_map Nat.strictMono_cast m n

theorem compare_eq_rank {a b : UnpackedFloat} (first : a ≠ .notANumber) (second : b ≠ .notANumber) :
    a.compare b = some (compare (rank a) (rank b)) := by
  -- Both sides look at the classes and the signs first, and at the numbers only when those agree.
  rcases a with ⟨_ | _⟩ | _ | ⟨_ | _⟩ | ⟨_ | _, m, e, _⟩ <;>
    rcases b with ⟨_ | _⟩ | _ | ⟨_ | _⟩ | ⟨_ | _, n, f, _⟩ <;>
    first
      | exact absurd rfl first
      | exact absurd rfl second
      | rfl
      | simp [UnpackedFloat.compare, rank, compare_toLex, compare_neg, compare_natCast,
          Ordering.swap_then]

theorem beq_self_eq_true (x : Float) : (x == x) = true ↔ x.toModel.unpack ≠ .notANumber := by
  rw [beq_eq_true]
  constructor
  · intro same missing
    rw [missing] at same
    cases same
  · intro number
    rw [compare_eq_rank number number, compare_eq_iff_eq.2 rfl]

/-! Whole numbers. -/

theorem lt_of_log2_lt {a b : Nat} (nonzero : b ≠ 0) (fewer : a.log2 < b.log2) : a < b :=
  calc
    a < 2 ^ (a.log2 + 1) := Nat.lt_log2_self
    _ ≤ 2 ^ b.log2 := Nat.pow_le_pow_right (by decide) fewer
    _ ≤ b := Nat.log2_self_le nonzero

theorem Stores.compare_small {a b m n : Nat} {e f : Int} (first : Stores a m e) (second : Stores b n f)
    (one : a ≠ 0) (other : b ≠ 0) (small : a < 2 ^ 53) :
    (compare e f).then (compare m n) = compare a b := by
  obtain ⟨mantissa, exponent⟩ := first.small small
  have bits := (Nat.log2_lt one).2 small
  rcases Nat.lt_or_ge b (2 ^ 53) with also | large
  · obtain ⟨mantissa', exponent'⟩ := second.small also
    rcases Nat.lt_trichotomy a.log2 b.log2 with fewer | same | more
    · rw [Int.compare_eq_lt.2 (by omega), Nat.compare_eq_lt.2 (lt_of_log2_lt other fewer)]
      rfl
    · rw [Int.compare_eq_eq.2 (by omega), mantissa, mantissa', same,
        compare_map (strictMono_mul_right_of_pos (Nat.two_pow_pos _))]
      rfl
    · rw [Int.compare_eq_gt.2 (by omega), Nat.compare_eq_gt.2 (lt_of_log2_lt one more)]
      rfl
  · have longer : e < f := by
      have := second.large large
      omega
    rw [Int.compare_eq_lt.2 longer, Nat.compare_eq_lt.2 (Nat.lt_of_lt_of_le small large)]
    rfl

theorem Stores.compare_eq {a b m n : Nat} {e f : Int} (first : Stores a m e) (second : Stores b n f)
    (one : a ≠ 0) (other : b ≠ 0) (small : a < 2 ^ 53 ∨ b < 2 ^ 53) :
    (compare e f).then (compare m n) = compare a b := by
  rcases small with small | small
  · exact first.compare_small second one other small
  · have back := congrArg Ordering.swap (second.compare_small first other one small)
    rwa [Ordering.swap_then, Int.compare_swap, Nat.compare_swap, Nat.compare_swap] at back

theorem compareFloats_ofInt_zero {i : Int} (nonzero : i ≠ 0) (most : i.natAbs < 2 ^ 64) :
    Value.compareFloats (Float.ofInt i) (Float.ofInt 0) = some (compare i 0) := by
  obtain ⟨m, e, stores, unpacked⟩ := unpack_ofInt nonzero most
  have zero : (Float.ofInt 0).toModel.unpack = .zero .positive := rfl
  rw [compareFloats_eq, unpacked, zero]
  rcases Int.lt_or_gt_of_ne nonzero with negative | positive
  · rw [signOf, if_neg (by omega), Int.compare_eq_lt.2 negative]
    rfl
  · rw [signOf, if_pos (by omega), Int.compare_eq_gt.2 positive]
    rfl

/-- Doubles tell whole numbers apart as the numbers themselves do, if one of the two has at most 53
bits. -/
theorem compareFloats_ofInt {i j : Int} (first : i.natAbs < 2 ^ 64) (second : j.natAbs < 2 ^ 64)
    (small : i.natAbs < 2 ^ 53 ∨ j.natAbs < 2 ^ 53) :
    Value.compareFloats (Float.ofInt i) (Float.ofInt j) = some (compare i j) := by
  by_cases one : i = 0
  · subst one
    by_cases other : j = 0
    · subst other
      rfl
    · rw [compareFloats_swap, compareFloats_ofInt_zero other second, Option.map_some, Int.compare_swap]
  by_cases other : j = 0
  · subst other
    exact compareFloats_ofInt_zero one first
  obtain ⟨m, e, stores, unpacked⟩ := unpack_ofInt one first
  obtain ⟨n, f, stores', unpacked'⟩ := unpack_ofInt other second
  have sizes := stores.compare_eq stores' (by omega) (by omega) small
  rw [compareFloats_eq, unpacked, unpacked']
  rcases Int.lt_or_gt_of_ne one with negative | positive <;>
    rcases Int.lt_or_gt_of_ne other with negative' | positive'
  · rw [signOf, signOf, if_neg (by omega), if_neg (by omega)]
    show some ((compare e f).then (compare m n)).swap = _
    rw [sizes, ← compare_natCast, ← compare_neg]
    congr 2 <;> omega
  · rw [signOf, signOf, if_neg (by omega), if_pos (by omega), Int.compare_eq_lt.2 (by omega)]
    rfl
  · rw [signOf, signOf, if_pos (by omega), if_neg (by omega), Int.compare_eq_gt.2 (by omega)]
    rfl
  · rw [signOf, signOf, if_pos (by omega), if_pos (by omega)]
    show some ((compare e f).then (compare m n)) = _
    rw [sizes, ← compare_natCast]
    congr 2 <;> omega

end FilterQuery.Double
