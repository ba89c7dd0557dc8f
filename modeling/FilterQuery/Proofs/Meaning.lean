import FilterQuery.Filter.Compile
import FilterQuery.Proofs.Grammar
import FilterQuery.Proofs.Strings
import FilterQuery.Sql.Syntax

/-!
What the nodes of a filter say as an SQL condition, read off them directly: each clause compares its
column with a constant, a group is a nested condition, and a chain is an `OR` of `AND`s, both of which
group to the left.
-/

namespace FilterQuery.Filter

open Text (Quotation isQuote stripQuotes)
open Sql (Expr Keyword Body)

/-- The constant that a text stands for: the content of a string, or a whole number. -/
def constantOf (t : Text) : Expr :=
  match Text.quoted? t with
  | some body => .literal (.text (Sql.unescaped body))
  | none =>
    match t with
    | '-' :: digits => .unary .minus (.literal (.number digits))
    | digits => .literal (.number digits)

/-- The constant that a bound value stands for. Under `LIKE` every value is a text. -/
def mergedConstant (comparator : Comparator) (value : Value) : Expr :=
  match comparator, value with
  | .like, value => .literal (.text (mergedContent .like value))
  | comparator, .text t => .literal (.text (mergedContent comparator (.text t)))
  | _, value => constantOf value.canonicalText

def Clause.constant (fields : Bindings) (c : Clause) : Expr :=
  if isMergeField c.value then
    match fields.get? (c.value.drop 1) with
    | some value => mergedConstant c.comparator value
    | none => constantOf c.value
  else constantOf c.value

def Comparator.condition (left right : Expr) : Comparator → Expr
  | lt => .binary (.compare .lt) left right
  | le => .binary (.compare .le) left right
  | gt => .binary (.compare .gt) left right
  | ge => .binary (.compare .ge) left right
  | eq => .binary (.compare .eq) left right
  | ne => .binary (.compare .ne) left right
  | like => .like false left right
  | inList => .inList false left [right]

def itemConstant (item : Text) : Expr := .literal (.text (Sql.unescaped (stripQuotes item)))

/-- A chain on the way: the alternatives up to the last `OR`, and the conjunction behind it. -/
structure Alternatives where
  earlier : Option Expr
  last : Expr

namespace Alternatives

def expr : Alternatives → Expr
  | ⟨none, last⟩ => last
  | ⟨some earlier, last⟩ => .binary .or earlier last

def extend (a : Alternatives) (next : Expr) : Connective → Alternatives
  | .and => ⟨a.earlier, .binary .and a.last next⟩
  | .or => ⟨some a.expr, next⟩

end Alternatives

mutual

def Term.condition (fields : Bindings) : Term → Expr
  | .clause c _ => c.comparator.condition (.column c.column) (c.constant fields)
  | .membership c _ raw _ => .inList false (.column c.column) ((splitItems raw).map itemConstant)
  | .group inner => .nested (inner.alternatives fields).expr

def Chain.alternatives (fields : Bindings) : Chain → Alternatives
  | .single term => ⟨none, term.condition fields⟩
  | .extend front connective last =>
    (front.alternatives fields).extend (last.condition fields) connective

end

def Chain.condition (fields : Bindings) (chain : Chain) : Expr := (chain.alternatives fields).expr

/-! The nodes that SQL reads as they are meant. -/

/-- The words that never name a column, because they begin something else. -/
def reservedWords : List Keyword :=
  [.ALL, .ANY, .CASE, .CURRENT_DATE, .CURRENT_TIME, .CURRENT_TIMESTAMP, .EXISTS, .FALSE, .INTERVAL,
    .LOCALTIME, .LOCALTIMESTAMP, .NOT, .NULL, .SELECT, .SOME, .TRIM, .TRUE, .WITH]

/-- An ASCII identifier that is no reserved word. -/
structure IsColumnName (t : Text) : Prop where
  begins : t.head?.any (fun c => c.isAlpha || c = '_') = true
  letters : ∀ c ∈ t, (c.isAlphanum || c = '_') = true
  free : ∀ key ∈ reservedWords, Keyword.ofWord? t ≠ some key

def isPlainValue : Value → Bool
  | .text _ | .integer _ | .boolean _ => true
  | _ => false

/-- The value of a clause is a complete string, a whole number, a pattern, or a bound field. -/
inductive Clause.HasConstant (fields : Bindings) (c : Clause) : Prop where
  | string (q : Quotation) (same : c.value = q.text)
  | integer (i : Int) (same : c.value = Text.ofInt i)
  | pattern (content : Text) (same : c.value = wrapLike (escapeApostrophes content))
  | bound (value : Value) (field : isMergeField c.value = true)
      (found : fields.get? (c.value.drop 1) = some value) (plain : isPlainValue value = true)

/-- An item of a list is a complete string or holds no quote and no backslash. -/
def IsPlainItem (item : Text) : Prop :=
  (∃ q : Quotation, item = q.text) ∨ ∀ c ∈ item, isQuote c = false ∧ c ≠ '\\'

def Node.Readable (fields : Bindings) : Node → Prop
  | .clause c => IsColumnName c.column ∧ (c.comparator ≠ .inList → c.HasConstant fields)
  | .list raw _ => ∀ item ∈ splitItems raw, IsPlainItem item
  | _ => True

/-! Readable clauses and items are written as constants, and as the constants that they stand for. -/

inductive IsString : Text → Prop where
  | intro {quote : Char} {body : Text} (isQuote : isQuote quote = true) (closed : Body quote body) :
      IsString (quote :: body ++ [quote])

/-- A string, or digits with or without a minus sign before them. -/
inductive IsConstant : Text → Prop where
  | string {t : Text} (string : IsString t) : IsConstant t
  | number {t : Text} (filled : t ≠ []) (digits : ∀ c ∈ t, c.isDigit = true) : IsConstant t
  | negative {t : Text} (filled : t ≠ []) (digits : ∀ c ∈ t, c.isDigit = true) :
      IsConstant ('-' :: t)

theorem quoted?_string {quote : Char} (isQuote : isQuote quote = true) (body : Text) :
    Text.quoted? (quote :: body ++ [quote]) = some body := by
  simp [Text.quoted?, isQuote]

theorem isQuote_of_isDigit {c : Char} (digit : c.isDigit = true) : isQuote c = false := by
  by_contra quote
  simp only [isQuote, Bool.not_eq_false, Bool.or_eq_true, decide_eq_true_eq] at quote
  rcases quote with rfl | rfl <;> exact absurd digit (by decide)

theorem quoted?_digits {t : Text} (digits : ∀ c ∈ t, c.isDigit = true) :
    Text.quoted? t = none := by
  cases t with
  | nil => rfl
  | cons d t => simp [Text.quoted?, isQuote_of_isDigit (digits d List.mem_cons_self)]

theorem constantOf_string {quote : Char} (isQuote : isQuote quote = true) (body : Text) :
    constantOf (quote :: body ++ [quote]) = .literal (.text (Sql.unescaped body)) := by
  unfold constantOf
  rw [quoted?_string isQuote]

theorem ne_minus_of_digits {t : Text} (digits : ∀ c ∈ t, c.isDigit = true) (tail : Text) :
    t ≠ '-' :: tail := by
  rintro rfl
  exact absurd (digits '-' List.mem_cons_self) (by decide)

theorem constantOf_digits {t : Text} (digits : ∀ c ∈ t, c.isDigit = true) :
    constantOf t = .literal (.number t) ∧
      constantOf ('-' :: t) = .unary .minus (.literal (.number t)) := by
  refine ⟨?_, rfl⟩
  unfold constantOf
  rw [quoted?_digits digits]
  dsimp only
  split
  · exact absurd rfl (ne_minus_of_digits digits _)
  · rfl

theorem isConstant_ofInt (i : Int) : IsConstant (Text.ofInt i) := by
  have digits (n : Nat) : ∀ c ∈ Text.ofNat n, c.isDigit = true := fun c member =>
    Nat.isDigit_of_mem_toDigits (by decide) (by decide) member
  cases i with
  | ofNat n => exact .number Nat.toDigits_ne_nil (digits n)
  | negSucc n => exact .negative Nat.toDigits_ne_nil (digits (n + 1))

theorem isMergeField_of_head {t : Text} (other : t.head? ≠ some '$') : isMergeField t = false := by
  unfold isMergeField
  split
  · exact absurd rfl other
  · rfl

theorem IsConstant.isMergeField {t : Text} (constant : IsConstant t) :
    Filter.isMergeField t = false := by
  refine isMergeField_of_head fun dollar => ?_
  cases constant with
  | string string =>
    obtain ⟨isQuote, _⟩ := string
    obtain rfl := Option.some.inj dollar
    cases isQuote
  | number filled digits => exact absurd (digits '$' (List.mem_of_mem_head? dollar)) (by decide)
  | negative => cases dollar

theorem escapeSpecial_plain {t : Text} (plain : ∀ c ∈ t, c.isAlphanum = true ∨ c = '.' ∨ c = '-') :
    escapeSpecial t = t := by
  induction t with
  | nil => rfl
  | cons c t ih =>
    rw [List.forall_mem_cons] at plain
    have same : escapeChar c = [c] := by
      unfold escapeChar
      split <;> first | rfl | exact absurd plain.1 (by decide)
    show escapeChar c ++ escapeSpecial t = _
    rw [same, ih plain.2]
    rfl

theorem escapeSpecial_ofInt (i : Int) : escapeSpecial (Text.ofInt i) = Text.ofInt i := by
  have digits (n : Nat) : ∀ c ∈ Text.ofNat n, c.isAlphanum = true ∨ c = '.' ∨ c = '-' := by
    intro c member
    have digit : c.isDigit = true := Nat.isDigit_of_mem_toDigits (by decide) (by decide) member
    exact .inl (by simp [Char.isAlphanum, digit])
  refine escapeSpecial_plain ?_
  cases i with
  | ofNat n => exact digits n
  | negSucc n => exact List.forall_mem_cons.2 ⟨.inr (.inr rfl), digits (n + 1)⟩

theorem mergedText_constant (comparator : Comparator) {value : Value}
    (plain : isPlainValue value = true) :
    IsConstant (mergedText comparator value) ∧
      constantOf (mergedText comparator value) = mergedConstant comparator value := by
  by_cases string : comparator = .like ∨ ∃ t, value = .text t
  · obtain ⟨body, written, closed, stands⟩ := mergedText_string string
    rw [written, constantOf_string rfl, stands]
    refine ⟨.string (.intro rfl closed), ?_⟩
    rcases string with rfl | ⟨t, rfl⟩
    · rfl
    · cases comparator <;> rfl
  · rw [not_or] at string
    obtain ⟨notLike, notText⟩ := string
    have written : mergedText comparator value = value.canonicalText ∧
        IsConstant value.canonicalText := by
      cases value with
      | text t => exact absurd ⟨t, rfl⟩ notText
      | integer i =>
        refine ⟨?_, isConstant_ofInt i.toInt⟩
        simpa [mergedText, notLike, Value.canonicalText] using escapeSpecial_ofInt i.toInt
      | boolean b =>
        cases b with
        | true => exact ⟨by simp [mergedText, notLike]; rfl, isConstant_ofInt 1⟩
        | false => exact ⟨by simp [mergedText, notLike]; rfl, isConstant_ofInt 0⟩
      | null => cases plain
      | float x => cases plain
    rw [written.1]
    refine ⟨written.2, ?_⟩
    cases value with
    | text t => exact absurd ⟨t, rfl⟩ notText
    | _ => cases comparator <;> first | rfl | exact absurd rfl notLike

theorem Clause.HasConstant.resolve {fields : Bindings} {c : Clause} (has : c.HasConstant fields)
    (plain : c.comparator ≠ .inList) :
    IsConstant (resolve c fields) ∧ constantOf (Filter.resolve c fields) = c.constant fields := by
  -- A value that is a constant itself is no field, so nothing is merged into it.
  have typed (constant : IsConstant c.value) :
      IsConstant (Filter.resolve c fields) ∧
        constantOf (Filter.resolve c fields) = c.constant fields := by
    have own : Filter.resolve c fields = c.value := by
      simp [Filter.resolve, constant.isMergeField]
    rw [own]
    exact ⟨constant, by simp [Clause.constant, constant.isMergeField]⟩
  cases has with
  | string q same =>
    refine typed ?_
    rw [same]
    exact .string (.intro q.isQuote (.of_quotation q))
  | integer i same =>
    refine typed ?_
    rw [same]
    exact isConstant_ofInt i
  | pattern content same =>
    refine typed ?_
    have string := IsString.intro rfl (Sql.body_wrapLike content)
    rw [same]
    exact .string (by simpa [wrapLike] using string)
  | bound value field found kind =>
    have merged : Filter.resolve c fields = mergedText c.comparator value := by
      simp only [Filter.resolve, plain, field, found, decide_false, Bool.not_true, Bool.or_self,
        Bool.false_eq_true, ↓reduceIte]
    rw [merged]
    have constant : c.constant fields = mergedConstant c.comparator value := by
      simp only [Clause.constant, field, found, ↓reduceIte]
    rw [constant]
    exact mergedText_constant c.comparator kind

theorem requote_constant {item : Text} (plain : IsPlainItem item) :
    IsString (requote item) ∧ constantOf (requote item) = itemConstant item := by
  -- Without its quotes the item is a body, if only for the quotes that it had.
  have closed : ∃ quote, Body quote (stripQuotes item) := by
    rcases plain with ⟨q, rfl⟩ | bare
    · have strip : stripQuotes q.text = q.body := by
        rw [stripQuotes, Quotation.text, quoted?_string q.isQuote]
        rfl
      exact ⟨q.quote, by rw [strip]; exact .of_quotation q⟩
    · have strip : stripQuotes item = item := by
        cases item with
        | nil => rfl
        | cons c t => simp [stripQuotes, Text.quoted?, (bare c List.mem_cons_self).1]
      rw [strip]
      refine ⟨'"', Sql.body_of_plain fun c member => ⟨?_, (bare c member).2⟩⟩
      rintro rfl
      exact absurd (bare '"' member).1 (by decide)
  obtain ⟨quote, closed⟩ := closed
  obtain ⟨body, stands⟩ := closed.escapeApostrophes
  refine ⟨.intro rfl body, ?_⟩
  rw [requote, constantOf_string rfl, stands]
  rfl

end FilterQuery.Filter
