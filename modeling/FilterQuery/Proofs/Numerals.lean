import Mathlib.Data.List.TakeWhile
import FilterQuery.Proofs.Doubles
import FilterQuery.Proofs.Letters

/-!
Whole numbers as they are typed. The same digits are read as an integer of 64 bits, exactly, or as the
double nearest to it.
-/

namespace FilterQuery.Decimal

theorem natOfDigits_ofNat (n : Nat) : natOfDigits (Text.ofNat n) = n :=
  Nat.ofDigitChars_ten_toDigits

theorem isDigit_of_mem_ofNat {n : Nat} {c : Char} (member : c ∈ Text.ofNat n) : c.isDigit = true :=
  Nat.isDigit_of_mem_toDigits (by decide) (by decide) member

theorem takeSign_digits {t : Text} (digits : ∀ c ∈ t, c.isDigit = true) :
    takeSign t = (false, t) := by
  unfold takeSign
  split
  · exact absurd (digits '-' List.mem_cons_self) (by decide)
  · exact absurd (digits '+' List.mem_cons_self) (by decide)
  · rfl

theorem takeSign_minus {t : Text} (minus : (takeSign t).1 = true) : t = '-' :: (takeSign t).2 := by
  unfold takeSign at minus ⊢
  split at minus <;> first | rfl | cases minus

theorem mem_of_takeSign_plus {t : Text} (plus : (takeSign t).1 = false) {c : Char} (member : c ∈ t) :
    c ∈ (takeSign t).2 ∨ c = '+' := by
  unfold takeSign at plus ⊢
  split at plus
  · cases plus
  · exact (List.mem_cons.1 member).symm
  · exact .inl member

theorem integer?_ofNat {n : Nat} (small : n < 2 ^ 63) :
    integer? (Text.ofNat n) = some (Int64.ofInt n) := by
  have digits : ∀ c ∈ Text.ofNat n, c.isDigit = true := fun _ => isDigit_of_mem_ofNat
  have filled : (Text.ofNat n).isEmpty = false := by
    rw [List.isEmpty_eq_false_iff]
    exact Nat.toDigits_ne_nil
  have bounds : Int64.minValue.toInt ≤ n ∧ n ≤ Int64.maxValue.toInt := by
    rw [Int64.toInt_minValue, Int64.toInt_maxValue]
    omega
  simp only [integer?, takeSign_digits digits, filled, List.all_eq_true.2 digits, natOfDigits_ofNat]
  simp [bounds]

theorem integer?_eq_some {t : Text} {i : Int64} (read : integer? t = some i) :
    (takeSign t).2 ≠ [] ∧ (∀ c ∈ (takeSign t).2, c.isDigit = true) ∧
      i.toInt = if (takeSign t).1 then -(natOfDigits (takeSign t).2 : Int)
        else natOfDigits (takeSign t).2 := by
  simp only [integer?] at read
  split at read
  case isTrue => cases read
  case isFalse filled =>
    obtain ⟨bounds, same⟩ := Option.ite_none_right_eq_some.1 read
    cases same
    rw [Int64.toInt_minValue, Int64.toInt_maxValue] at bounds
    have valid : (takeSign t).2 ≠ [] ∧ ∀ c ∈ (takeSign t).2, c.isDigit = true := by
      simpa using filled
    exact ⟨valid.1, valid.2, Int64.toInt_ofInt_of_le (by omega) (by omega)⟩

theorem scientific?_digits {t : Text} (filled : t ≠ []) (digits : ∀ c ∈ t, c.isDigit = true) :
    scientific? t = some ⟨natOfDigits t, 0⟩ := by
  have whole : t.takeWhile Char.isDigit = t := List.takeWhile_eq_self_iff.2 digits
  have rest : t.dropWhile Char.isDigit = [] := List.dropWhile_eq_nil_iff.2 digits
  simp [scientific?, whole, rest, filled, exponent?]

theorem toFloat_natural {n : Nat} (small : n < 2 ^ 64) :
    Scientific.toFloat ⟨n, 0⟩ = Float.ofNat n := by
  by_cases zero : n = 0
  · subst zero
    rfl
  · have length : (Text.ofNat n).length ≤ 20 :=
      (Nat.length_toDigits_le_iff (by decide) (by decide)).2 (by omega)
    have low : ¬ (n = 0 ∨ ((Text.ofNat n).length : Int) + 0 < -330) := by omega
    have high : ¬ ((Text.ofNat n).length : Int) + 0 > 310 := by omega
    simp only [Scientific.toFloat, low, high, if_false]
    rfl

theorem sameIgnoringCase_sign {c w : Char} (sign : c.isAlpha = false)
    (letter : w.toLower.isAlpha = true) (t ws : Text) :
    Text.sameIgnoringCase (c :: t) (w :: ws) = false := by
  have different : c.toLower ≠ w.toLower := by
    intro same
    rw [← same] at letter
    have alpha := Text.isAlpha_of_toLower letter
    rw [sign] at alpha
    cases alpha
  simp [Text.sameIgnoringCase, different]

theorem float?_digits {t : Text} (filled : (takeSign t).2 ≠ [])
    (digits : ∀ c ∈ (takeSign t).2, c.isDigit = true) (small : natOfDigits (takeSign t).2 < 2 ^ 64) :
    float? t = some (if (takeSign t).1 then -Float.ofNat (natOfDigits (takeSign t).2)
      else Float.ofNat (natOfDigits (takeSign t).2)) := by
  have number : ∀ word ∈ ["inf".toList, "infinity".toList, "nan".toList],
      Text.sameIgnoringCase (takeSign t).2 word = false := by
    obtain ⟨d, rest, begins⟩ := List.exists_cons_of_ne_nil filled
    have sign : d.isAlpha = false := Text.isAlpha_of_isDigit (digits d (by simp [begins]))
    rw [begins]
    simp [sameIgnoringCase_sign sign]
  simp only [List.forall_mem_cons] at number
  simp only [float?, number, Bool.or_self, Bool.false_eq_true, if_false,
    scientific?_digits filled digits, Option.map_some, toFloat_natural small]

end FilterQuery.Decimal

namespace FilterQuery

open Decimal (takeSign natOfDigits)

/-- A whole number of 64 bits as it is typed. There may be a sign and zeros before the digits. -/
structure Numeral where
  text : Text
  value : Int64
  reads : Decimal.integer? text = some value

namespace Numeral

theorem filled (n : Numeral) : (takeSign n.text).2 ≠ [] := (Decimal.integer?_eq_some n.reads).1

theorem digits (n : Numeral) : ∀ c ∈ (takeSign n.text).2, c.isDigit = true :=
  (Decimal.integer?_eq_some n.reads).2.1

theorem chars (n : Numeral) {c : Char} (member : c ∈ n.text) :
    c.isDigit = true ∨ c = '-' ∨ c = '+' := by
  cases minus : (takeSign n.text).1 with
  | true =>
    rw [Decimal.takeSign_minus minus] at member
    rcases List.mem_cons.1 member with rfl | member
    · exact .inr (.inl rfl)
    · exact .inl (n.digits c member)
  | false =>
    rcases Decimal.mem_of_takeSign_plus minus member with member | rfl
    · exact .inl (n.digits c member)
    · exact .inr (.inr rfl)

/-- Up to the sign of a zero, a numeral is read as the double of its value. -/
theorem float? (n : Numeral) : ∃ x, Decimal.float? n.text = some x ∧
    ∀ y : Float, (y == x) = (y == Float.ofInt n.value.toInt) := by
  obtain ⟨filled, digits, value⟩ := Decimal.integer?_eq_some n.reads
  have low := n.value.le_toInt
  have high := n.value.toInt_lt
  have small : natOfDigits (takeSign n.text).2 < 2 ^ 64 := by
    split at value <;> omega
  refine ⟨_, Decimal.float?_digits filled digits small, fun y => ?_⟩
  rw [value]
  split
  · cases natOfDigits (takeSign n.text).2 with
    | zero => exact Double.beq_neg_zero y
    | succ m => rfl
  · rfl

end Numeral

end FilterQuery
