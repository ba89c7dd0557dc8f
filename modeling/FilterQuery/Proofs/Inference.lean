import FilterQuery.Proofs.Fractions
import FilterQuery.Proofs.TypedNumbers
import FilterQuery.Value.Bindings

/-!
Two readers of the same spellings: one gives an assigned value its kind, the other puts what is typed in a
filter in its shortest form. They agree on truth values, on whole numbers and on words. On numbers with a
point they agree unless the number has a power of ten or is not finite.
-/

namespace FilterQuery.Value

open FilterQuery.Filter (looksNumeric coerceBare)
open Decimal (Fraction)

/-- What a spelling without quotes other than `null` is read as. -/
inductive Inferred (raw : Text) : Value → Prop where
  | truth (b : Bool) (spelled : Text.sameIgnoringCase raw (boolean b).display = true) :
      Inferred raw (.boolean b)
  | whole (n : Numeral) (text : n.text = raw) : Inferred raw (.integer n.value)
  | fraction (n : Fraction) (text : n.text = raw) (x : Float) (read : Decimal.float? raw = some x) :
      Inferred raw (.float x)
  | word (spelled : ∀ b, Text.sameIgnoringCase raw (boolean b).display = false)
      (whole : Decimal.integer? raw = none) (fraction : '.' ∈ raw → Decimal.float? raw = none) :
      Inferred raw (.text raw)

/-- A number with a point is plain if it is finite and has no power of ten. Every other spelling is. -/
def IsPlain (raw : Text) : Prop :=
  ∀ x, infer raw = .float x → x.isFinite = true ∧ 'e' ∉ raw ∧ 'E' ∉ raw

/-- What is typed is taken for a number or for a truth value. -/
def IsRecognized (raw : Text) : Prop :=
  (looksNumeric raw = true ∧
    if '.' ∈ raw then (Decimal.float? raw).isSome = true else (Decimal.integer? raw).isSome = true) ∨
  ∃ b, Text.sameIgnoringCase raw (boolean b).display = true

section Infer

variable {raw : Text} (unquoted : Text.quoted? raw = none)
  (present : Text.sameIgnoringCase raw "null".toList = false)
include unquoted present

theorem inferred : Inferred raw (infer raw) := by
  simp only [infer, unquoted, present, Bool.false_eq_true, if_false]
  split
  case isTrue spelled => exact .truth true spelled
  case isFalse notTrue =>
  split
  case isTrue spelled => exact .truth false spelled
  case isFalse notFalse =>
  split
  case h_1 i read => exact .whole ⟨raw, i, read⟩ rfl
  case h_2 whole =>
  split
  case h_1 x read =>
    obtain ⟨point, read⟩ := Option.ite_none_right_eq_some.1 read
    have inside : '.' ∈ raw := by simpa using point
    obtain ⟨n, text⟩ := (Decimal.float?_isSome_iff inside).1 (Option.isSome_iff_exists.2 ⟨x, read⟩)
    exact .fraction n text x read
  case h_2 unread =>
    refine .word (fun b => ?_) whole fun point => ?_
    · cases b with
      | true => exact Bool.eq_false_iff.2 notTrue
      | false => exact Bool.eq_false_iff.2 notFalse
    · rwa [if_pos (by simpa using point)] at unread

end Infer

/-! The other reader, for each of the kinds. -/

section Coerce

variable {raw : Text}

theorem sameIgnoringCase_of_same {s t : Text} (same : Text.sameIgnoringCase s t = true) (word : Text) :
    Text.sameIgnoringCase s word = Text.sameIgnoringCase t word := by
  rw [Text.sameIgnoringCase, beq_iff_eq] at same
  rw [Text.sameIgnoringCase, same, Text.sameIgnoringCase]

theorem looksNumeric_letter {c : Char} (alpha : c.isAlpha = true) (rest : Text) :
    looksNumeric (c :: rest) = false := by
  have other {d : Char} (mark : d.isAlpha = false) : c ≠ d := by
    rintro rfl
    rw [alpha] at mark
    cases mark
  have unsigned : (Decimal.takeSign (c :: rest)).2 = c :: rest := by
    refine Decimal.takeSign_append (.inl rfl) fun d found => ?_
    obtain rfl : c = d := Option.some.inj found
    exact ⟨other rfl, other rfl⟩
  have digit : c.isDigit = false := by
    by_contra digit
    rw [Text.isAlpha_of_isDigit (by simpa using digit)] at alpha
    cases alpha
  simp [looksNumeric, unsigned, digit, other]

theorem head_of_sameIgnoringCase {letter : Char} {word : Text} (alpha : letter.toLower.isAlpha = true)
    (same : Text.sameIgnoringCase raw (letter :: word) = true) :
    ∃ c rest, raw = c :: rest ∧ c.isAlpha = true := by
  cases raw with
  | nil => cases same
  | cons c rest =>
    have lower : c.toLower = letter.toLower := (List.cons.inj (beq_iff_eq.1 same)).1
    exact ⟨c, rest, rfl, Text.isAlpha_of_toLower (lower ▸ alpha)⟩

theorem coerceBare_truth {b : Bool} (spelled : Text.sameIgnoringCase raw (boolean b).display = true) :
    coerceBare raw = (boolean b).canonicalText := by
  have letter : ∃ c rest, raw = c :: rest ∧ c.isAlpha = true := by
    cases b with
    | true => exact head_of_sameIgnoringCase rfl spelled
    | false => exact head_of_sameIgnoringCase rfl spelled
  have word : looksNumeric raw = false := by
    obtain ⟨c, rest, rfl, alpha⟩ := letter
    exact looksNumeric_letter alpha rest
  cases b with
  | true =>
    have same : Text.sameIgnoringCase raw "true".toList = true := spelled
    simp only [coerceBare, word, same]
    rfl
  | false =>
    have same : Text.sameIgnoringCase raw "false".toList = true := spelled
    have other : Text.sameIgnoringCase raw "true".toList = false := sameIgnoringCase_of_same same _
    simp only [coerceBare, word, same, other]
    rfl

theorem coerceBare_unrecognized (unread : ¬ IsRecognized raw) : coerceBare raw = raw := by
  obtain ⟨number, truth⟩ := not_or.1 unread
  have notTrue : ¬ Text.sameIgnoringCase raw "true".toList = true := fun same => truth ⟨true, same⟩
  have notFalse : ¬ Text.sameIgnoringCase raw "false".toList = true := fun same => truth ⟨false, same⟩
  unfold coerceBare
  cases numeric : looksNumeric raw with
  | false => simp only [Bool.not_false, if_true, notTrue, notFalse, Bool.false_eq_true, if_false]
  | true =>
    rw [numeric] at number
    by_cases point : '.' ∈ raw
    · have unread : Decimal.float? raw = none := by simpa [point] using number
      simp only [Bool.not_true, Bool.false_eq_true, List.contains_iff_mem, point, if_true, unread, notTrue,
        notFalse, if_false, Option.map_none]
    · have unread : Decimal.integer? raw = none := by simpa [point] using number
      simp only [Bool.not_true, Bool.false_eq_true, List.contains_iff_mem, point, unread, notTrue, notFalse,
        if_false, Option.map_none]

theorem coerceBare_fraction (n : Fraction) {x : Float} (read : Decimal.float? n.text = some x) :
    coerceBare n.text = if n.power = [] then floatLayout.text x else n.text := by
  have point : '.' ∈ n.text := List.mem_append_right _ n.point_mem_size
  split
  case isTrue plain =>
    have numeric : looksNumeric n.text = true := by rw [n.looksNumeric, plain]; rfl
    simp only [coerceBare, numeric, Bool.not_true, Bool.false_eq_true, List.contains_iff_mem, point, if_true,
      read, if_false, Option.map_some]
  case isFalse raised =>
    refine coerceBare_unrecognized ?_
    rintro (⟨numeric, _⟩ | ⟨b, spelled⟩)
    · rw [n.looksNumeric, List.isEmpty_iff] at numeric
      exact raised numeric
    · have plain : '.' ∉ (boolean b).display.map Char.toLower := by cases b <;> decide
      rw [Decimal.sameIgnoringCase_point point _ plain] at spelled
      cases spelled

end Coerce

/-! Agreement. -/

section Agreement

variable {raw : Text} {value : Value}

theorem e_not_mem_canonicalText (x : Float) :
    'e' ∉ (float x).canonicalText ∧ 'E' ∉ (float x).canonicalText := by
  have outside {c : Char} (digit : c.isDigit = false) (point : c ≠ '.') (minus : c ≠ '-')
      (null : c ∉ "NULL".toList) : c ∉ (float x).canonicalText := by
    simp only [canonicalText]
    split
    case isTrue finite =>
      intro member
      rcases mem_floatText finite member with found | same | same
      · rw [digit] at found
        cases found
      · exact point same
      · exact minus same
    case isFalse => exact null
  exact ⟨outside rfl (by decide) (by decide) (by decide), outside rfl (by decide) (by decide) (by decide)⟩

theorem fraction_agrees_iff (n : Fraction) {x : Float} (read : Decimal.float? n.text = some x) :
    (float x).canonicalText = coerceBare n.text ↔ x.isFinite = true ∧ 'e' ∉ n.text ∧ 'E' ∉ n.text := by
  rw [coerceBare_fraction n read, ← n.power_eq_nil_iff]
  by_cases plain : n.power = []
  · simp only [plain, if_true, and_true]
    cases finite : x.isFinite with
    | true => simp [canonicalText, finite]
    | false =>
      have words := floatText_of_not_isFinite finite
      simp only [canonicalText, finite, Bool.false_eq_true, if_false, iff_false]
      intro same
      rw [← same] at words
      revert words
      decide
  · simp only [plain, if_false, and_false, iff_false]
    intro same
    obtain ⟨small, capital⟩ := e_not_mem_canonicalText x
    rw [same] at small capital
    exact plain (n.power_eq_nil_iff.2 ⟨small, capital⟩)

theorem Inferred.not_recognized (found : Inferred raw (.text raw)) : ¬ IsRecognized raw := by
  cases found with
  | word spelled whole fraction =>
    rintro (⟨_, read⟩ | ⟨b, same⟩)
    · by_cases point : '.' ∈ raw
      · simp [point, fraction point] at read
      · simp [point, whole] at read
    · rw [spelled b] at same
      cases same

theorem Inferred.eq_text {t : Text} (found : Inferred raw (.text t)) : t = raw := by
  cases found
  rfl

theorem Inferred.agrees_iff (found : Inferred raw value) : value.canonicalText = coerceBare raw ↔
    ∀ x, value = .float x → x.isFinite = true ∧ 'e' ∉ raw ∧ 'E' ∉ raw := by
  cases value with
  | null => cases found
  | boolean b =>
    cases found with
    | truth b spelled => simp [coerceBare_truth spelled]
  | integer i =>
    cases found with
    | whole n text =>
      subst text
      simp [n.coerceBare, canonicalText]
  | float x =>
    cases found with
    | fraction n text x read =>
      subst text
      rw [fraction_agrees_iff n read]
      simp
  | text t =>
    obtain rfl := found.eq_text
    simp [coerceBare_unrecognized found.not_recognized, canonicalText]

end Agreement

end FilterQuery.Value
