import FilterQuery.Proofs.Conditions
import FilterQuery.Proofs.Numerals
import FilterQuery.Proofs.Spacing
import FilterQuery.Proofs.Trimming
import FilterQuery.Sql.Evaluate

/-!
Numbers as they are typed in filters. Behind a comparator a number is a whole number and is compared
exactly; in a list it is a text and is compared as a double.
-/

namespace FilterQuery.Sql

theorem unescaped_bare {t : Text} (bare : ∀ c ∈ t, c ≠ '\\') : unescaped t = t := by
  induction t with
  | nil => rfl
  | cons c t ih =>
    rw [List.forall_mem_cons] at bare
    rw [unescaped_cons bare.1, ih bare.2]

theorem Literal.value_ofNat {n : Nat} (small : n < 2 ^ 63) :
    (Literal.number (Text.ofNat n)).value = .ok (.integer (Int64.ofInt n)) := by
  have plain : (Text.ofNat n).any (fun c => c = '.' || c = 'e' || c = 'E') = false := by
    refine List.any_eq_false.2 fun c member => ?_
    have digit := Decimal.isDigit_of_mem_ofNat member
    simp only [Bool.or_eq_true, decide_eq_true_eq, not_or]
    refine ⟨⟨?_, ?_⟩, ?_⟩ <;> rintro rfl <;> cases digit
  rw [value, plain, Decimal.integer?_ofNat small]
  rfl

/-- Whole numbers mean themselves, except the one whose size does not fit before its sign. -/
theorem evaluate_constantOf (schema : Schema) (row : Row) {i : Int64}
    (negatable : i ≠ Int64.minValue) :
    evaluate schema row (Filter.constantOf (Text.ofInt i.toInt)) = .ok (.integer i) := by
  have digits (n : Nat) := Filter.constantOf_digits fun c => @Decimal.isDigit_of_mem_ofNat n c
  have low := i.le_toInt
  have high := i.toInt_lt
  have size : i.toInt ≠ -2 ^ 63 := fun same => negatable (Int64.toInt_inj.1 same)
  cases number : i.toInt with
  | ofNat n =>
    have small : n < 2 ^ 63 := by
      rw [number, Int.ofNat_eq_natCast] at high
      omega
    have same : Int64.ofInt n = i := by rw [← Int64.ofInt_toInt i, number]; rfl
    rw [Text.ofInt, (digits n).1, evaluate, Literal.value_ofNat small, same]
  | negSucc n =>
    have small : n + 1 < 2 ^ 63 := by omega
    have same : -Int64.ofInt (n + 1 : Nat) = i := by
      rw [← Int64.ofInt_neg, ← Int64.ofInt_toInt i, number]
      rfl
    rw [Text.ofInt, (digits (n + 1)).2, evaluate, evaluate, Literal.value_ofNat small, ← same]
    rfl

end FilterQuery.Sql

namespace FilterQuery.Filter

open Text (isBlank isQuote stripQuotes)

/-! Names and numbers are words, and a number stands for the same constant however it is typed. -/

theorem isWordChar_of_name {c : Char} (letter : (c.isAlphanum || c = '_') = true) :
    isWordChar c = true := by
  have other {d : Char} (mark : (d.isAlphanum || d = '_') = false) : c ≠ d := by
    rintro rfl
    rw [letter] at mark
    cases mark
  obtain ⟨low, high, quote, _⟩ := Sql.isAlphanum_bounds letter
  have blank : isBlank c = false := by
    simp [isBlank, Text.Ranges.has, Text.blankRanges]
    omega
  simp [isWordChar, blank, quote, other]

theorem isWordChar_of_isDigit {c : Char} (digit : c.isDigit = true) : isWordChar c = true :=
  isWordChar_of_name (by simp [Char.isAlphanum, digit])

def IsColumnName.word {column : Text} (name : IsColumnName column)
    (ordinary : Text.sameIgnoringCase column "in".toList = false) : Word where
  text := column
  filled := by
    rintro rfl
    cases name.begins
  plain c member := isWordChar_of_name (name.letters c member)
  ordinary := ordinary

def Word.ofNumber (t : Text) (filled : t ≠ []) (digits : ∀ c ∈ t, c.isDigit = true ∨ c = '+') :
    Word where
  text := t
  filled := filled
  plain c member := by
    rcases digits c member with digit | rfl
    · exact isWordChar_of_isDigit digit
    · rfl
  ordinary := by
    obtain ⟨c, rest, rfl⟩ := List.exists_cons_of_ne_nil filled
    refine Decimal.sameIgnoringCase_sign ?_ rfl rest ['n']
    rcases digits c List.mem_cons_self with digit | rfl
    · exact Text.isAlpha_of_isDigit digit
    · rfl

theorem stripQuotes_bare {t : Text} (bare : ∀ c ∈ t, isQuote c = false) : stripQuotes t = t := by
  cases t with
  | nil => rfl
  | cons c t => simp [stripQuotes, Text.quoted?, bare c List.mem_cons_self]

end FilterQuery.Filter

namespace FilterQuery.Numeral

open Decimal (takeSign)
open FilterQuery.Filter

def operand (n : Numeral) : Operand :=
  if minus : (takeSign n.text).1 = true then
    .negative (.ofNumber (takeSign n.text).2 n.filled fun c member => .inl (n.digits c member)) <| by
      obtain ⟨d, rest, begins⟩ := List.exists_cons_of_ne_nil n.filled
      simp [Word.ofNumber, begins, n.digits d (by simp [begins])]
  else
    .word <| .ofNumber n.text (fun empty => n.filled (by rw [empty]; rfl)) fun c member =>
      (Decimal.mem_of_takeSign_plus (Bool.eq_false_iff.2 minus) member).imp_left (n.digits c)

theorem text_operand (n : Numeral) : n.operand.text = n.text := by
  unfold operand
  split
  case isTrue minus => exact (Decimal.takeSign_minus minus).symm
  case isFalse => rfl

theorem isString_operand (n : Numeral) : n.operand.isString = false := by
  unfold operand
  split <;> rfl

theorem bare_operand (n : Numeral) : (Lexeme.operand n.operand).Bare := by
  intro q same
  have string := n.isString_operand
  rw [Lexeme.operand.inj same] at string
  cases string

theorem not_mem_text (n : Numeral) {c : Char} (mark : c.isDigit = false) (minus : c ≠ '-')
    (plus : c ≠ '+') : c ∉ n.text := by
  intro member
  rcases n.chars member with digit | rfl | rfl
  · rw [mark] at digit
    cases digit
  · exact minus rfl
  · exact plus rfl

def item (n : Numeral) : Item where
  operand := n.operand
  undivided _ := by
    rw [n.text_operand]
    exact n.not_mem_text rfl (by decide) (by decide)

theorem solid (n : Numeral) {c : Char} (member : c ∈ n.text) :
    Text.isBlank c = false ∧ Text.isQuote c = false ∧ c ≠ '\\' := by
  have solid : isSolid c = true := by
    rcases n.chars member with digit | rfl | rfl
    · exact isSolid_of_isWordChar (isWordChar_of_isDigit digit)
    · rfl
    · rfl
  simpa [isSolid, and_assoc] using solid

theorem itemConstant (n : Numeral) : Filter.itemConstant n.text = .literal (.text n.text) := by
  have stripped : Text.stripQuotes n.text = n.text :=
    stripQuotes_bare fun c member => (n.solid member).2.1
  rw [Filter.itemConstant, stripped, Sql.unescaped_bare fun c member => (n.solid member).2.2]

theorem looksNumeric (n : Numeral) : Filter.looksNumeric n.text = true := by
  have digit : (takeSign n.text).2.any Char.isDigit = true := by
    obtain ⟨d, member⟩ := List.exists_mem_of_ne_nil _ n.filled
    exact List.any_eq_true.2 ⟨d, member, n.digits d member⟩
  have point : '.' ∉ (takeSign n.text).2 := fun member => absurd (n.digits '.' member) (by decide)
  have marks : (takeSign n.text).2.all (fun c => c.isDigit || c = '.') = true :=
    List.all_eq_true.2 fun c member => by simp [n.digits c member]
  simp [Filter.looksNumeric, digit, marks, List.count_eq_zero_of_not_mem point]

theorem coerceBare (n : Numeral) : Filter.coerceBare n.text = Text.ofInt n.value.toInt := by
  have point : n.text.contains '.' = false := by
    simpa using n.not_mem_text (c := '.') rfl (by decide) (by decide)
  simp only [Filter.coerceBare, n.looksNumeric, point, n.reads]
  rfl

theorem finalizeValue (n : Numeral) {comparator : Comparator} (plain : comparator ≠ .like) :
    Filter.finalizeValue comparator n.text = Text.ofInt n.value.toInt := by
  have field : isMergeField n.text = false := isMergeField_of_head fun dollar =>
    n.not_mem_text rfl (by decide) (by decide) (List.mem_of_mem_head? dollar)
  have unquoted : n.text.head?.any Text.isQuote = false := by
    cases begins : n.text with
    | nil => rfl
    | cons c rest => exact (n.solid (by simp [begins])).2.1
  simp only [Filter.finalizeValue, field, plain, unquoted, n.coerceBare]
  rfl

end FilterQuery.Numeral

namespace FilterQuery

/-! The comparisons that the two ways of typing a number come to. -/

inductive Value.IsWhole : Value → Prop where
  | null : IsWhole .null
  | integer (i : Int64) : IsWhole (.integer i)

def Numeral.double (n : Numeral) : Value := .float (Float.ofInt n.value.toInt)

namespace Value

theorem same_double (i : Int64) (n : Numeral) :
    (Value.integer i).same n.double = (Float.ofInt i.toInt == Float.ofInt n.value.toInt) := by
  rw [Bool.eq_iff_iff, ← Double.compareFloats_eq_some_eq]
  exact decide_eq_true_iff

theorem same_integer (i j : Int64) :
    (Value.integer i).same (.integer j) = decide (i.toInt = j.toInt) := by
  simp [Value.same, Value.compare]

theorem IsWhole.same_text {v : Value} (whole : v.IsWhole) (n : Numeral) :
    v.same (.text n.text) = v.same n.double := by
  cases whole with
  | null => rfl
  | integer i =>
    obtain ⟨x, read, same⟩ := n.float?
    have text : (Value.text n.text).toFloat? = some x := by
      rw [toFloat?, Text.trim_eq_self fun c member => (n.solid member).1, read]
    have compared : (Value.integer i).compare (.text n.text) =
        compareFloats (Float.ofInt i.toInt) x := by
      simp only [Value.compare, text]
      rfl
    rw [same_double, ← same, Bool.eq_iff_iff, ← Double.compareFloats_eq_some_eq, ← compared]
    exact decide_eq_true_iff

theorem IsWhole.same_integer {v : Value} (whole : v.IsWhole) {n : Numeral}
    (small : ∀ i, v = .integer i → i.toInt.natAbs < 2 ^ 53 ∨ n.value.toInt.natAbs < 2 ^ 53) :
    v.same n.double = v.same (.integer n.value) := by
  have bits (i : Int64) : i.toInt.natAbs < 2 ^ 64 := by
    have low := i.le_toInt
    have high := i.toInt_lt
    omega
  cases whole with
  | null => rfl
  | integer i =>
    rw [same_double, Value.same_integer,
      Double.ofInt_beq_ofInt (bits i) (bits n.value) (small i rfl)]

end Value

end FilterQuery
