import FilterQuery.Text.Basic
import FilterQuery.Text.Letter
import FilterQuery.Text.Quoting

/-!
ASCII letters and digits among the other classes of characters. A class is compared with another by
the code points it covers.
-/

namespace FilterQuery.Text

variable {c : Char}

theorem isAlpha_iff :
    c.isAlpha = true ↔ (65 ≤ c.toNat ∧ c.toNat ≤ 90) ∨ (97 ≤ c.toNat ∧ c.toNat ≤ 122) := by
  have ranges : c.isAlpha =
      (decide (65 ≤ c.val ∧ c.val ≤ 90) || (decide (97 ≤ c.val) && decide (c.val ≤ 122))) := rfl
  simp [ranges, UInt32.le_iff_toNat_le]

theorem isDigit_iff : c.isDigit = true ↔ 48 ≤ c.toNat ∧ c.toNat ≤ 57 := by
  simp [Char.isDigit, UInt32.le_iff_toNat_le]

theorem toLower_cases (c : Char) :
    c.toLower = c ∨ (65 ≤ c.toNat ∧ c.toNat ≤ 90 ∧ c.toLower.toNat = c.toNat + 32) := by
  unfold Char.toLower
  split
  · rename_i inside
    have bounds : 65 ≤ c.toNat ∧ c.toNat ≤ 90 := by simpa [UInt32.le_iff_toNat_le] using inside
    refine .inr ⟨bounds.1, bounds.2, ?_⟩
    have distance : ('a'.val - 'A'.val).toNat = 32 := rfl
    show (c.val + ('a'.val - 'A'.val)).toNat = c.toNat + 32
    rw [UInt32.toNat_add, distance]
    exact Nat.mod_eq_of_lt (by simp only [Char.toNat] at bounds; omega)
  · exact .inl rfl

theorem isAlpha_of_toLower (alpha : c.toLower.isAlpha = true) : c.isAlpha = true := by
  rcases toLower_cases c with kept | ⟨above, below, _⟩
  · rwa [kept] at alpha
  · exact isAlpha_iff.2 (.inl ⟨above, below⟩)

theorem isAlpha_toLower (alpha : c.isAlpha = true) : c.toLower.isAlpha = true := by
  rcases toLower_cases c with kept | ⟨above, below, raised⟩
  · rwa [kept]
  · exact isAlpha_iff.2 (.inr (by omega))

theorem eq_or_eq_of_toLower {lower upper : Char} (apart : upper.toNat + 32 = lower.toNat)
    (same : c.toLower = lower) : c = lower ∨ c = upper := by
  rcases toLower_cases c with kept | ⟨_, _, raised⟩
  · exact .inl (kept.symm.trans same)
  · rw [same] at raised
    exact .inr (Char.toNat_inj.1 (by omega))

theorem isAlpha_of_isDigit (digit : c.isDigit = true) : c.isAlpha = false := by
  refine Bool.eq_false_iff.2 fun alpha => ?_
  have numeral := isDigit_iff.1 digit
  have letter := isAlpha_iff.1 alpha
  omega

theorem isBlank_of_isAlpha (alpha : c.isAlpha = true) : isBlank c = false := by
  have letter := isAlpha_iff.1 alpha
  simp [isBlank, Ranges.has, blankRanges]
  omega

theorem isQuote_of_isAlpha (alpha : c.isAlpha = true) : isQuote c = false := by
  refine Bool.eq_false_iff.2 fun found => ?_
  simp only [isQuote, Bool.or_eq_true, decide_eq_true_eq] at found
  rcases found with rfl | rfl <;> exact absurd alpha (by decide)

theorem isLetter_of_isAlpha (alpha : c.isAlpha = true) : isLetter c = true := by
  have letter := isAlpha_iff.1 alpha
  have ascii : c.toNat < 128 := by omega
  simp [isLetter, ascii, alpha]

theorem isLetter_of_isDigit (digit : c.isDigit = true) : isLetter c = false := by
  have numeral := isDigit_iff.1 digit
  have ascii : c.toNat < 128 := by omega
  simp [isLetter, ascii, isAlpha_of_isDigit digit]

theorem isDigit_cases (digit : c.isDigit = true) : c ∈ "0123456789".toList := by
  have numeral := isDigit_iff.1 digit
  have same (d : Char) : c = d ↔ c.toNat = d.toNat := Char.toNat_inj.symm
  simp [same]
  omega

end FilterQuery.Text
