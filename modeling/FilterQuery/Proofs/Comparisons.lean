import FilterQuery.Proofs.Dialects
import FilterQuery.Proofs.Membership

/-!
A column compared with a whole number, from the typed filter to the choice of a row. The number may be typed
in any decimal form or merged in from a field. It goes through two texts on its way, and is compared as
the number that it is, also where doubles would not tell it from its neighbours.
-/

namespace FilterQuery.Text

/-! Letters and numerals of every script are no blanks. -/

theorem Ranges.has_eq_false {first second : Ranges}
    (apart : ∀ r ∈ first, ∀ q ∈ second, r.2 < q.1 ∨ q.2 < r.1) {c : Char} (inside : first.has c = true) :
    second.has c = false := by
  obtain ⟨r, member, within⟩ := List.any_eq_true.1 inside
  refine List.any_eq_false.2 fun q other => ?_
  have divided := apart r member q other
  simp only [Bool.and_eq_true, decide_eq_true_eq] at within ⊢
  omega

theorem isBlank_of_isLetterOrNumeral {c : Char} (letter : isLetterOrNumeral c = true) :
    isBlank c = false := by
  by_cases ascii : c.toNat < 0x80
  · simp only [isLetterOrNumeral, isLetter, isNumeral, if_pos ascii, Bool.or_eq_true] at letter
    rcases letter with alpha | digit
    · exact isBlank_of_isAlpha alpha
    · have numeral := isDigit_iff.1 digit
      simp [isBlank, Ranges.has, blankRanges]
      omega
  · simp only [isLetterOrNumeral, isLetter, isNumeral, if_neg ascii, Bool.or_eq_true] at letter
    rcases letter with letter | numeral
    · exact Ranges.has_eq_false (by decide +kernel) letter
    · exact Ranges.has_eq_false (by decide +kernel) numeral

end FilterQuery.Text

namespace FilterQuery.Sql

def Comparison.Relates : Comparison → Int → Int → Prop
  | eq, i, j => i = j
  | ne, i, j => i ≠ j
  | lt, i, j => i < j
  | le, i, j => i ≤ j
  | gt, i, j => i > j
  | ge, i, j => i ≥ j

instance : (c : Comparison) → (i j : Int) → Decidable (c.Relates i j)
  | .eq, i, j => inferInstanceAs (Decidable (i = j))
  | .ne, i, j => inferInstanceAs (Decidable (i ≠ j))
  | .lt, i, j => inferInstanceAs (Decidable (i < j))
  | .le, i, j => inferInstanceAs (Decidable (i ≤ j))
  | .gt, i, j => inferInstanceAs (Decidable (i > j))
  | .ge, i, j => inferInstanceAs (Decidable (i ≥ j))

theorem Comparison.holds_compare (c : Comparison) (i j : Int) :
    c.holds (compare i j) = decide (c.Relates i j) := by
  rw [Bool.eq_iff_iff, decide_eq_true_iff]
  cases c with
  | eq => simp [holds, Relates]
  | ne => simp [holds, Relates]
  | lt => simp [holds, Relates, Int.compare_eq_lt]
  | le => simp [holds, Relates, Int.compare_ne_gt]
  | gt => simp [holds, Relates, Int.compare_eq_gt]
  | ge => simp [holds, Relates, Int.compare_ne_lt]

theorem decides_compare {schema : Schema} {row : Row} {e : Expr} {column : Text} {index : Nat}
    (held : schema.indexOf? column = some index) {i j : Int64} (cell : row.cell index = .integer i)
    (constant : evaluate schema row e = .ok (.integer j)) (c : Comparison) :
    Decides schema row (.binary (.compare c) (.column column) e)
      (decide (c.Relates i.toInt j.toInt)) := by
  refine .inl ?_
  rw [evaluate, evaluate_column held, cell, constant, ← c.holds_compare]
  rfl

end FilterQuery.Sql

namespace FilterQuery.Filter

open Sql (Comparison Expr Predicate maxLevels)
open Text (isLetter isLetterOrNumeral)

/-! Only an arrow is read differently with lists and without them. -/

theorem scan_arrowless {front back : Text} (minus : '-' ∉ front) (greater : '>' ∉ back) :
    scan false (front ++ back) = scan true (front ++ back) := by
  rcases scan_cases (front ++ back) with same | ⟨before, rest, _, cut, _⟩
  · exact same
  · -- The minus sign of the arrow would be in the front, or all of the arrow behind it.
    rcases List.append_eq_append_iff.1 cut with ⟨inner, _, split⟩ | ⟨inner, split, arrow⟩
    · exact absurd (by simp [split]) greater
    · cases inner with
      | nil =>
        obtain rfl : '-' :: '>' :: rest = back := arrow
        exact absurd (by simp) greater
      | cons c inner =>
        obtain ⟨rfl, _⟩ := List.cons.inj arrow
        exact absurd (by simp [split]) minus

theorem not_mem_operand {operand : Operand} (bare : operand.isString = false) {c : Char}
    (mark : isWordChar c = false) (other : c ≠ '-') : c ∉ operand.text := by
  have outside (w : Word) : c ∉ w.text := fun member => absurd (w.plain c member) (by simp [mark])
  cases operand with
  | word w => exact outside w
  | negative w number => simp [Operand.text, outside w, other]
  | string q => cases bare

theorem minus_not_mem_front (column : Word) {comparator : Comparator} (plain : comparator ≠ .inList) :
    '-' ∉ column.text ++ comparator.spelling := by
  have word : '-' ∉ column.text := fun member => absurd (column.plain '-' member) (by decide)
  have sign : '-' ∉ comparator.spelling := by
    cases comparator <;> first | exact absurd rfl plain | decide
  simp [word, sign]

theorem scan_comparison (lists : Bool) (column : Word) {comparator : Comparator}
    (plain : comparator ≠ .inList) {operand : Operand} (bare : operand.isString = false) :
    scan lists (column.text ++ comparator.spelling ++ operand.text) =
      .ok [.clause ⟨column.text, comparator, finalizeValue comparator operand.text⟩] := by
  have listed := scan_sentence (.single (.compare column comparator plain operand))
  have text : spelled (Sentence.single (.compare column comparator plain operand)).lexemes =
      column.text ++ comparator.spelling ++ operand.text := by
    show column.text ++ (comparator.spelling ++ (operand.text ++ [])) = _
    rw [List.append_nil, List.append_assoc]
  rw [text] at listed
  cases lists with
  | true => exact listed
  | false => rwa [scan_arrowless (minus_not_mem_front column plain)
      (not_mem_operand bare rfl (by decide))]

/-! The spaces around the comparator are taken out. -/

/-- A comparison as it is typed, with spaces before and behind the comparator. -/
def comparisonText (column : Text) (comparator : Comparator) (before behind : Nat) (operand : Text) :
    Text :=
  column ++ (List.replicate before ' ' ++ (comparator.spelling ++
    (List.replicate behind ' ' ++ operand)))

theorem kept_spaces {lists : Bool} (last : Option Char) (count : Nat) (t : Text) :
    ∃ last', kept lists {} last (List.replicate count ' ' ++ t) = kept lists {} last' t := by
  induction count generalizing last with
  | zero => exact ⟨last, rfl⟩
  | succ count ih =>
    obtain ⟨last', same⟩ := ih (some ' ')
    exact ⟨last', by rw [List.replicate_succ, List.cons_append, kept_white rfl, same]⟩

theorem solid_word (w : Word) : ∀ c ∈ w.text, isSolid c = true :=
  fun c member => isSolid_of_isWordChar (w.plain c member)

theorem solid_spelling (comparator : Comparator) : ∀ c ∈ comparator.spelling, isSolid c = true := by
  cases comparator <;> exact List.all_eq_true.1 rfl

def BeginsWithSign (t : Text) : Prop := t.head?.any Char.isAlpha = false

theorem BeginsWithSign.head_ne {t : Text} (sign : BeginsWithSign t) : t.head? ≠ some 'N' := by
  intro found
  rw [BeginsWithSign, found] at sign
  cases sign

theorem kept_sign {lists : Bool} {t : Text} (solid : ∀ c ∈ t, isSolid c = true)
    (sign : BeginsWithSign t) (last : Option Char) (rest : Text) :
    ∃ last', kept lists {} last (t ++ rest) = t ++ kept lists {} last' rest := by
  refine kept_solidText solid last rest fun c tail cut => startsIn_sign ?_
  rw [BeginsWithSign, cut] at sign
  exact sign

theorem beginsWithSign_spelling (comparator : Comparator) : BeginsWithSign comparator.spelling := by
  cases comparator <;> rfl

theorem startsIn_last {before : Option Char} {c : Char} {t : Text} (solid : ∀ c ∈ t, isSolid c = true)
    (unopened : '(' ∉ t) : startsIn before c t = false := by
  by_contra starts
  obtain ⟨_, _, n, after, rest, rfl, _, bound⟩ := startsIn_inv (by simpa using starts)
  rcases bound with blank | rfl
  · have visible := solid after (by simp)
    simp [isSolid, blank] at visible
  · exact unopened (by simp)

section Chars

variable (column : Word) (comparator : Comparator) (before behind : Nat) {operand : Text}
  (solid : ∀ c ∈ operand, isSolid c = true)
include solid

theorem kept_comparison (lists : Bool) (unopened : '(' ∉ operand) :
    kept lists {} none (comparisonText column.text comparator before behind operand) =
      column.text ++ comparator.spelling ++ operand := by
  have bounded : (List.replicate before ' ' ++ (comparator.spelling ++
      (List.replicate behind ' ' ++ operand))).head?.any Char.isAlpha = false := by
    cases before with
    | zero => cases comparator <;> rfl
    | succ => rfl
  obtain ⟨last, name⟩ := @kept_solidText lists _ (solid_word column) none _
    fun c tail cut => column.startsIn_eq_false cut bounded
  obtain ⟨last, first⟩ := @kept_spaces lists last before
    (comparator.spelling ++ (List.replicate behind ' ' ++ operand))
  obtain ⟨last, marks⟩ := @kept_sign lists _ (solid_spelling comparator)
    (beginsWithSign_spelling comparator) last (List.replicate behind ' ' ++ operand)
  obtain ⟨last, second⟩ := @kept_spaces lists last behind operand
  obtain ⟨last, value⟩ := @kept_solidText lists _ solid last [] fun c tail cut => by
    subst cut
    rw [List.forall_mem_cons] at solid
    rw [List.append_nil]
    exact startsIn_last solid.2 fun member => unopened (List.mem_cons_of_mem _ member)
  have stop : kept lists {} last [] = [] := rfl
  rw [List.append_nil, stop, List.append_nil] at value
  rw [comparisonText, name, first, marks, second, value, List.append_assoc]

theorem filter_comparison :
    (comparisonText column.text comparator before behind operand).filter (· ≠ ' ') =
      column.text ++ comparator.spelling ++ operand := by
  have spaces (count : Nat) : (List.replicate count ' ').filter (· ≠ ' ') = [] := by simp
  have kept {t : Text} (solid : ∀ c ∈ t, isSolid c = true) : t.filter (· ≠ ' ') = t := by
    refine List.filter_eq_self.2 fun c member => decide_eq_true ?_
    rintro rfl
    exact absurd (solid ' ' member) (by decide)
  simp only [comparisonText, List.filter_append, spaces, kept solid, kept (solid_word column),
    kept (solid_spelling comparator), List.nil_append, List.append_assoc]

/-- Both modes leave the comparison without its spaces, if the legacy mode finds no arrow in it. -/
theorem normalize_comparison (options : Options) (unopened : '(' ∉ operand)
    (free : options = ⟨.legacy, true⟩ → ArrowFree (column.text ++ comparator.spelling ++ operand)) :
    (normalize options.normalization options.inLists
      (comparisonText column.text comparator before behind operand)).chars =
      column.text ++ comparator.spelling ++ operand := by
  obtain ⟨mode, lists⟩ := options
  cases mode with
  | strict => exact kept_comparison column comparator before behind solid lists unopened
  | legacy =>
    rw [normalize, normalizeLegacy_chars, filter_comparison column comparator before behind solid]
    cases lists with
    | true => exact arrows_eq_self (free rfl)
    | false => rfl

end Chars

theorem parse_comparison (options : Options) (column : Word) {comparator : Comparator}
    (plain : comparator ≠ .inList) (before behind : Nat) {operand : Operand}
    (bare : operand.isString = false)
    (free : options = ⟨.legacy, true⟩ →
      ArrowFree (column.text ++ comparator.spelling ++ operand.text)) :
    parse options (comparisonText column.text comparator before behind operand.text) =
      .ok [.clause ⟨column.text, comparator, finalizeValue comparator operand.text⟩] := by
  have solid : ∀ c ∈ operand.text, isSolid c = true := by
    refine (Lexeme.operand operand).solid_text ?_
    rintro q ⟨⟩
    cases bare
  have unopened : '(' ∉ operand.text := not_mem_operand bare rfl (by decide)
  have chars := normalize_comparison column comparator before behind solid options unopened free
  simp only [parse, Source.scan, chars, scan_comparison options.inLists column plain bare]
  rfl

/-! Numbers and fields behind a comparator. -/

theorem beginsWithSign_numeral (n : Numeral) : BeginsWithSign n.text := by
  cases begins : n.text with
  | nil => rfl
  | cons c rest =>
    have member : c ∈ n.text := by simp [begins]
    show c.isAlpha = false
    rcases n.chars member with digit | rfl | rfl
    · exact Text.isAlpha_of_isDigit digit
    · rfl
    · rfl

theorem isWordChar_of_isLetterOrNumeral {c : Char} (letter : isLetterOrNumeral c = true) :
    isWordChar c = true := by
  by_cases ascii : c.toNat < 0x80
  · simp only [isLetterOrNumeral, isLetter, Text.isNumeral, if_pos ascii] at letter
    exact isWordChar_of_name (by simp [Char.isAlphanum, letter])
  · have other {d : Char} (mark : d.toNat < 0x80) : c ≠ d := by
      rintro rfl
      exact ascii mark
    have blank := Text.isBlank_of_isLetterOrNumeral letter
    simp [isWordChar, blank, Text.isQuote, other]

def Word.ofField (field : Text) (isField : isMergeField ('$' :: field) = true) : Word where
  text := '$' :: field
  filled := List.cons_ne_nil _ _
  plain := by
    cases field with
    | nil => cases isField
    | cons first rest =>
      have each : (isLetter first || first = '_') = true ∧
          ∀ c ∈ rest, (isLetterOrNumeral c || c = '_') = true := by
        simpa [isMergeField] using isField
      have word {c : Char} (part : (isLetterOrNumeral c || c = '_') = true) : isWordChar c = true := by
        rcases Bool.or_eq_true_iff.1 part with letter | bar
        · exact isWordChar_of_isLetterOrNumeral letter
        · rw [of_decide_eq_true bar]
          rfl
      have begins : (isLetterOrNumeral first || first = '_') = true := by
        rcases Bool.or_eq_true_iff.1 each.1 with letter | bar
        · simp [isLetterOrNumeral, letter]
        · simp [bar]
      exact List.forall_mem_cons.2 ⟨rfl, List.forall_mem_cons.2 ⟨word begins, fun c member =>
        word (each.2 c member)⟩⟩
  ordinary := Decimal.sameIgnoringCase_sign rfl rfl field ['n']

/-! From the clause to the choice of a row. -/

def Comparator.ofComparison : Comparison → Comparator
  | .eq => .eq
  | .ne => .ne
  | .lt => .lt
  | .le => .le
  | .gt => .gt
  | .ge => .ge

namespace Comparator

theorem ofComparison_ne_inList (c : Comparison) : ofComparison c ≠ .inList := by
  cases c <;> decide

theorem ofComparison_ne_like (c : Comparison) : ofComparison c ≠ .like := by
  cases c <;> decide

theorem condition_ofComparison (c : Comparison) (left right : Expr) :
    (ofComparison c).condition left right = .binary (.compare c) left right := by
  cases c <;> rfl

theorem not_mem_spelling (comparator : Comparator) : 'N' ∉ comparator.spelling := by
  cases comparator <;> decide

end Comparator

/-- The filter compiles, SQL reads what it compiles to, and the condition is true of the row or is not. -/
def Chooses (options : Options) (fields : Bindings) (filter table : Text) (schema : Schema) (row : Row)
    (chosen : Bool) : Prop :=
  ∃ sql p, compile options fields filter = .ok sql ∧ Predicate.parse table sql = .ok p ∧
    p.selects schema row = .ok chosen

section Column

variable {column : Text} (name : IsColumnName column)
  (ordinary : Text.sameIgnoringCase column "in".toList = false) (free : ¬ "IN".toList <:+: column)
  {schema : Schema} {index : Nat} (held : schema.indexOf? column = some index) {row : Row}
  {i j : Int64} (cell : row.cell index = .integer i) (negatable : j ≠ Int64.minValue)
  {table : Text} (unquoted : '`' ∉ table)
include name ordinary free held cell negatable unquoted

theorem chooses_of_constant (options : Options) (fields : Bindings) (c : Comparison)
    (before behind : Nat) {operand : Operand} (bare : operand.isString = false)
    (sign : BeginsWithSign operand.text) (arrowless : options = ⟨.legacy, true⟩ → ArrowFree operand.text)
    {value : Text} (final : finalizeValue (.ofComparison c) operand.text = value)
    (has : Clause.HasConstant fields ⟨column, .ofComparison c, value⟩)
    (constant : Clause.constant fields ⟨column, .ofComparison c, value⟩ =
      constantOf (Text.ofInt j.toInt)) :
    Chooses options fields (comparisonText column (.ofComparison c) before behind operand.text) table
      schema row (decide (c.Relates i.toInt j.toInt)) := by
  have plain := Comparator.ofComparison_ne_inList c
  have parsed : parse options (comparisonText column (.ofComparison c) before behind operand.text) =
      .ok [.clause ⟨column, .ofComparison c, value⟩] := by
    rw [← final]
    refine parse_comparison options (name.word ordinary) plain before behind bare fun legacy => ?_
    have front := (arrowFree_of_absent free).append_other (Comparator.ofComparison c).not_mem_spelling
    exact front.append (arrowless legacy) sign.head_ne
  let chain : Chain := .single (.clause ⟨column, .ofComparison c, value⟩ plain)
  have condition : chain.condition fields =
      .binary (.compare c) (.column column) (constantOf (Text.ofInt j.toInt)) := by
    show (Comparator.ofComparison c).condition _ (Clause.constant fields _) = _
    rw [constant, Comparator.condition_ofComparison]
  have fine : ∀ node ∈ chain.nodes, node.Readable fields ∧ node.IsSplit :=
    List.forall_mem_singleton.2 ⟨⟨name, fun _ => has⟩, trivial⟩
  have flat : (chain.condition fields).levels ≤ maxLevels - 2 := by
    have constant := levels_constantOf j.toInt
    rw [condition, Expr.levels, Expr.levels]
    exact Nat.max_le.2 ⟨by decide, Nat.le_trans (Nat.succ_le_succ constant) (by decide)⟩
  refine ⟨render fields chain.nodes, ⟨chain.condition fields⟩, ?_, ?_, ?_⟩
  · rw [compile, parsed]
    rfl
  · exact (parse_render_chain fine unquoted _).2 ⟨rfl, flat⟩
  · refine Predicate.selects_decided ?_
    show Sql.Decides schema row (chain.condition fields) _
    rw [condition]
    exact Sql.decides_compare held cell (Sql.evaluate_constantOf schema row negatable) c

theorem chooses_field (options : Options) {fields : Bindings} (c : Comparison) (before behind : Nat)
    {field : Text} (isField : isMergeField ('$' :: field) = true)
    (bound : fields.get? field = some (.integer j))
    (arrowless : options = ⟨.legacy, true⟩ → ¬ "IN".toList <:+: field) :
    Chooses options fields (comparisonText column (.ofComparison c) before behind ('$' :: field)) table
      schema row (decide (c.Relates i.toInt j.toInt)) := by
  have bare : (Operand.word (.ofField field isField)).isString = false := rfl
  have text : (Operand.word (.ofField field isField)).text = '$' :: field := rfl
  have final : finalizeValue (.ofComparison c) ('$' :: field) = '$' :: field := if_pos isField
  have constant : Clause.constant fields ⟨column, .ofComparison c, '$' :: field⟩ =
      constantOf (Text.ofInt j.toInt) := by
    simp only [Clause.constant, isField, if_true, List.drop_one, List.tail_cons, bound]
    cases c <;> rfl
  have single (legacy : options = ⟨.legacy, true⟩) : ArrowFree ('$' :: field) :=
    .cons (by decide) (arrowFree_of_absent (arrowless legacy))
  have sign : BeginsWithSign ('$' :: field) := rfl
  rw [← text] at final single sign ⊢
  exact chooses_of_constant name ordinary free held cell negatable unquoted options fields c before behind
    bare sign single final (.bound (.integer j) isField bound rfl) constant

omit negatable in
theorem chooses_numeral (options : Options) (fields : Bindings) (c : Comparison) (before behind : Nat)
    {n : Numeral} (negatable : n.value ≠ Int64.minValue) :
    Chooses options fields (comparisonText column (.ofComparison c) before behind n.text) table
      schema row (decide (c.Relates i.toInt n.value.toInt)) := by
  have final : finalizeValue (.ofComparison c) n.operand.text = Text.ofInt n.value.toInt := by
    rw [n.text_operand, n.finalizeValue (Comparator.ofComparison_ne_like c)]
  have constant : Clause.constant fields ⟨column, .ofComparison c, Text.ofInt n.value.toInt⟩ =
      constantOf (Text.ofInt n.value.toInt) := by
    simp [Clause.constant, (isConstant_ofInt n.value.toInt).isMergeField]
  have arrowless : ArrowFree n.operand.text := by
    rw [n.text_operand]
    exact ArrowFree.append_other .nil (n.not_mem_text rfl (by decide) (by decide))
  have sign : BeginsWithSign n.operand.text := by
    rw [n.text_operand]
    exact beginsWithSign_numeral n
  rw [← n.text_operand]
  exact chooses_of_constant name ordinary free held cell negatable unquoted options fields c before behind
    n.isString_operand sign (fun _ => arrowless) final (.integer _ rfl) constant

end Column

/-- A whole number in a column is compared exactly with a number that is merged in or typed: the filter
compiles, is evaluated without an error, and chooses the row if and only if the comparison is true of the
two numbers. In the legacy mode, a name with the letters of an arrow is not read as a name. The name of the
table stands in backticks where the condition is read, so it must have none of its own. -/
theorem comparison_exact (options : Options) (fields : Bindings) (column : Text)
    (name : IsColumnName column) (ordinary : Text.sameIgnoringCase column "in".toList = false)
    (free : ¬ "IN".toList <:+: column) (table : Text) (unquoted : '`' ∉ table) (schema : Schema)
    (index : Nat) (held : schema.indexOf? column = some index) (row : Row) (i j : Int64)
    (cell : row.cell index = .integer i) (negatable : j ≠ Int64.minValue) (c : Comparison)
    (before behind : Nat) :
    (∀ field, isMergeField ('$' :: field) = true → fields.get? field = some (.integer j) →
      (options = ⟨.legacy, true⟩ → ¬ "IN".toList <:+: field) →
      Chooses options fields (comparisonText column (.ofComparison c) before behind ('$' :: field))
        table schema row (decide (c.Relates i.toInt j.toInt))) ∧
    ∀ n : Numeral, n.value = j →
      Chooses options fields (comparisonText column (.ofComparison c) before behind n.text)
        table schema row (decide (c.Relates i.toInt j.toInt)) := by
  constructor
  · intro field isField bound arrowless
    exact chooses_field name ordinary free held cell negatable unquoted options c before behind isField
      bound arrowless
  · rintro n rfl
    exact chooses_numeral name ordinary free held cell unquoted options fields c before behind negatable

/-- Two neighbours with the same double, and the second one typed with a sign and zeros before it. -/
theorem comparison_exact_neighbours :
    let fields : Bindings := .ofList [(['x'], .integer 9007199254740993)]
    let chooses (filter : String) := Chooses {} fields filter.toList ['t'] ⟨[{ name := "id".toList }]⟩
      [.integer 9007199254740992]
    chooses "id  <$x" true ∧ chooses "id  <+009007199254740993" true := by
  intro fields chooses
  have name : IsColumnName "id".toList := ⟨rfl, List.all_eq_true.1 rfl, by decide +kernel⟩
  let n : Numeral := ⟨"+009007199254740993".toList, 9007199254740993, by decide⟩
  obtain ⟨merged, typed⟩ := comparison_exact {} fields "id".toList name (by decide) (by decide) ['t']
    (by decide) ⟨[{ name := "id".toList }]⟩ 0 rfl [.integer 9007199254740992] 9007199254740992
    9007199254740993 rfl (by decide) .lt 2 0
  exact ⟨merged ['x'] rfl rfl fun _ => by decide, typed n rfl⟩

/-- A backtick in the name of the table ends the name, and what then follows cannot be read. -/
theorem comparison_unread :
    ∃ sql, compile {} .empty "c < 5".toList = .ok sql ∧
      Predicate.parse "a`b".toList sql = .error .unreadableCondition ∧
      ∀ chosen, ¬ Chooses {} .empty "c < 5".toList "a`b".toList ⟨[{ name := ['c'] }]⟩ [.integer 4]
        chosen := by
  have unread : (compile {} .empty "c < 5".toList).toOption.map (fun sql =>
      ((Sql.tokens? (Predicate.statementText "a`b".toList sql)).bind Sql.statements?).isNone) =
        some true := by decide +kernel
  cases compiled : compile {} .empty "c < 5".toList with
  | error e =>
    rw [compiled] at unread
    cases unread
  | ok sql =>
    rw [compiled] at unread
    have none := Option.isNone_iff_eq_none.1 (Option.some.inj unread)
    have refused : Predicate.parse "a`b".toList sql = .error .unreadableCondition := by
      rw [Predicate.parse, none]
    refine ⟨sql, rfl, refused, ?_⟩
    rintro chosen ⟨sql', p, compiled', read, _⟩
    cases compiled.symm.trans compiled'
    cases refused.symm.trans read

end FilterQuery.Filter
