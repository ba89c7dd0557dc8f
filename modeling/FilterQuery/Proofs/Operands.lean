import FilterQuery.Proofs.Lexing
import FilterQuery.Sql.Query

/-!
Reading the operands of rendered clauses: a column before a comparator, and a constant before whatever
may follow a clause. None of the forms that begin with a word gets in the way, because none of them
goes on with a comparator.
-/

namespace FilterQuery.Sql

open FilterQuery.Filter (Comparator Connective constantTokens constantOf IsConstant reservedWords)

/-! Tokens that begin with no name. No keyword is found there, and no type. -/

def beginsName : List Token → Bool
  | .word _ _ :: _ => true
  | .quotedName _ :: _ => true
  | _ => false

section Nameless

variable {ts : List Token} (nameless : beginsName ts = false)

include nameless

theorem accepts_oneOf_nameless (choices : List Keyword) :
    accepts (oneOf choices) ts = some (false, ts) := by
  cases ts with
  | nil => rfl
  | cons token ts => cases token <;> first | rfl | cases nameless

theorem accepts_word_nameless (key : Keyword) : accepts (word key) ts = some (false, ts) := by
  cases ts with
  | nil => rfl
  | cons token ts => cases token <;> first | rfl | cases nameless

theorem beginsQuery_nameless : beginsQuery ts = false := by
  cases ts with
  | nil => rfl
  | cons token ts => cases token <;> first | rfl | cases nameless

theorem TypeName.within_nameless (fuel : Nat) : within fuel ts = none := by
  cases fuel with
  | zero => rfl
  | succ fuel =>
    have unread : first (within fuel) ts = none := by
      cases ts with
      | nil => rfl
      | cons token ts => cases token <;> first | rfl | cases nameless
    simp [within, unread]

end Nameless

/-! Types. A comparator is no part of a type, and no type begins with what stands behind one. -/

namespace TypeName

theorem Shape.rest_comparator (shape : Shape) (comparator : Comparator) (ts : List Token) :
    shape.rest (comparator.token :: ts) = none ∨
      shape.rest (comparator.token :: ts) = some ((), comparator.token :: ts) := by
  cases shape <;> cases comparator <;> first | exact .inl rfl | exact .inr rfl

theorem custom_comparator (spelled : Text) (key : Option Keyword) (comparator : Comparator)
    (ts : List Token) :
    custom (.word spelled key :: comparator.token :: ts) =
      some ((.custom, false), comparator.token :: ts) := by
  cases comparator <;> rfl

theorem first_comparator (inner : Parser (TypeKind × Bool)) (spelled : Text) {key : Option Keyword}
    (timeless : key ≠ some .INTERVAL) (comparator : Comparator) {ts : List Token}
    (untyped : inner ts = none) :
    first inner (.word spelled key :: comparator.token :: ts) = none ∨
      ∃ kind, kind ≠ .interval ∧ first inner (.word spelled key :: comparator.token :: ts) =
        some ((kind, false), comparator.token :: ts) := by
  cases key with
  | none => exact .inr ⟨.custom, by decide, custom_comparator spelled none comparator ts⟩
  | some key =>
    by_cases array : key = .ARRAY
    · -- Here `<` opens the bracket around the type of the items, but what follows it is no type.
      subst array
      refine .inl ?_
      cases comparator with
      | lt => simp [first, sign, Comparator.token, untyped]
      | _ => rfl
    · have interval : key ≠ .INTERVAL := fun same => timeless (congrArg some same)
      cases shaped : shape? key with
      | none =>
        refine .inr ⟨.custom, by decide, ?_⟩
        rw [← custom_comparator spelled (some key) comparator ts]
        simp [first, shaped]
      | some shape =>
        have read : first inner (.word spelled (some key) :: comparator.token :: ts) =
            (shape.rest (comparator.token :: ts)).map fun found => ((.standard, false), found.2) := by
          simp [first, shaped]
        rw [read]
        rcases shape.rest_comparator comparator ts with failed | kept
        · exact .inl (by simp [failed])
        · exact .inr ⟨.standard, by decide, by simp [kept]⟩

end TypeName

theorem typeName_comparator (spelled : Text) {key : Option Keyword}
    (timeless : key ≠ some .INTERVAL) (comparator : Comparator) {ts : List Token}
    (nameless : beginsName ts = false) :
    typeName (.word spelled key :: comparator.token :: ts) = none ∨
      ∃ kind, kind ≠ .interval ∧
        typeName (.word spelled key :: comparator.token :: ts) =
          some (kind, comparator.token :: ts) := by
  have unbracketed : TypeName.brackets (comparator.token :: ts) =
      some (false, comparator.token :: ts) := by
    cases comparator <;> rfl
  unfold typeName
  rw [List.length_cons, List.length_cons, TypeName.within]
  rcases TypeName.first_comparator _ spelled timeless comparator
      (TypeName.within_nameless nameless (ts.length + 1)) with failed | ⟨kind, other, read⟩
  · exact .inl (by simp [failed])
  · exact .inr ⟨kind, other, by simp [read, unbracketed]⟩

/-! What a word begins before a comparator. -/

theorem accepts_oneOf_other (spelled : Text) {key : Option Keyword} {choices : List Keyword}
    (other : ∀ choice ∈ choices, key ≠ some choice) (ts : List Token) :
    accepts (oneOf choices) (.word spelled key :: ts) = some (false, .word spelled key :: ts) := by
  cases key with
  | none => rfl
  | some key =>
    have absent : key ∉ choices := fun member => other key member rfl
    simp [accepts, oneOf, absent]

theorem beginsQuery_other (spelled : Text) {key : Option Keyword} (unselected : key ≠ some .SELECT)
    (unnamed : key ≠ some .WITH) (ts : List Token) :
    beginsQuery (.word spelled key :: ts) = false := by
  cases key with
  | none => rfl
  | some key =>
    have select : key ≠ .SELECT := fun same => unselected (congrArg some same)
    have named : key ≠ .WITH := fun same => unnamed (congrArg some same)
    simp [beginsQuery, select, named]

theorem plainString_comparator (comparator : Comparator) (ts : List Token) :
    plainString (comparator.token :: ts) = none := by
  cases comparator <;> rfl

namespace Below

variable (b : Below)

theorem typedLiteral_comparator (spelled : Text) {key : Option Keyword}
    (timeless : key ≠ some .INTERVAL) (comparator : Comparator) {ts : List Token}
    (nameless : beginsName ts = false) :
    b.typedLiteral (.word spelled key :: comparator.token :: ts) = none := by
  rcases typeName_comparator spelled timeless comparator nameless with failed | ⟨kind, other, read⟩
  · simp [typedLiteral, failed]
  · cases kind with
    | standard => simp [typedLiteral, read, plainString_comparator]
    | interval => exact absurd rfl other
    | custom => simp [typedLiteral, read]

theorem form?_comparator {key : Keyword} {form : Parser Expr} (found : b.form? key = some form)
    (free : key ∉ reservedWords) (comparator : Comparator) (ts : List Token) :
    form (comparator.token :: ts) = none ∧ key ∉ [Keyword.EXISTS, .INTERVAL, .TRIM] := by
  -- The forms that begin with a word that may be a name go on with a parenthesis or a bracket.
  unfold form? at found
  split at found
  all_goals first
    | exact absurd (by decide) free
    | (cases found; refine ⟨?_, by decide⟩; cases comparator <;> rfl)
    | cases found

theorem named_comparator (spelled : Text) (comparator : Comparator) (ts : List Token) :
    b.named spelled (comparator.token :: ts) = some (.column spelled, comparator.token :: ts) := by
  have column :
      b.column spelled (comparator.token :: ts) = some (.column spelled, comparator.token :: ts) := by
    cases comparator <;> rfl
  unfold named
  split
  · cases comparator <;> exact column
  · exact column

theorem worded_comparator (spelled : Text) {key : Option Keyword}
    (free : ∀ word ∈ reservedWords, key ≠ some word) (comparator : Comparator) (ts : List Token) :
    b.worded spelled key (comparator.token :: ts) =
      some (.column spelled, comparator.token :: ts) := by
  cases formed : key.bind b.form? with
  | none => simp [worded, formed, named_comparator]
  | some form =>
    obtain ⟨key, rfl, found⟩ := Option.bind_eq_some_iff.1 formed
    obtain ⟨failed, other⟩ :=
      b.form?_comparator found (fun reserved => free key reserved rfl) comparator ts
    simp only [worded, formed]
    rw [if_neg (by simpa using other)]
    simp [failed, named_comparator]

theorem primary_column (spelled : Text) {key : Option Keyword}
    (free : ∀ word ∈ reservedWords, key ≠ some word) (comparator : Comparator) {ts : List Token}
    (nameless : beginsName ts = false) :
    b.primary (.word spelled key :: comparator.token :: ts) =
      some (.column spelled, comparator.token :: ts) := by
  have literal := b.typedLiteral_comparator spelled (free .INTERVAL (by decide)) comparator nameless
  have column : b.untyped (.word spelled key :: comparator.token :: ts) =
      some (.column spelled, comparator.token :: ts) := b.worded_comparator spelled free comparator ts
  have uncollated : accepts (word .COLLATE) (comparator.token :: ts) =
      some (false, comparator.token :: ts) := by
    cases comparator <;> rfl
  simp [primary, unsupported, literal, column, uncollated]

end Below

/-! Constants, before what may follow a clause. -/

/-- What may follow a constant or a group. -/
inductive Stops : List Token → Prop where
  | done : Stops []
  | connective (c : Connective) (ts : List Token) : Stops (c.token :: ts)
  | closing (ts : List Token) : Stops (.sign .closing :: ts)
  | comma (ts : List Token) : Stops (.sign .comma :: ts)

theorem Stops.infixPower {ts : List Token} (stops : Stops ts) : infixPower ts ≤ powerAnd := by
  cases stops with
  | connective c ts =>
    cases c with
    | and => exact Nat.le_refl powerAnd
    | or => exact (by decide : powerOr ≤ powerAnd)
  | done | closing | comma => exact Nat.zero_le _

theorem Stops.accepts_collate {ts : List Token} (stops : Stops ts) :
    accepts (word .COLLATE) ts = some (false, ts) := by
  cases stops with
  | connective c ts => cases c <;> rfl
  | done | closing | comma => rfl

theorem Stops.ne_period {ts : List Token} (stops : Stops ts) (after : List Token) :
    ts ≠ .sign .period :: after := by
  cases stops with
  | connective c ts => cases c <;> simp [Connective.token]
  | done | closing | comma => simp

theorem Below.primary_untyped (b : Below) {ts rest : List Token} {e : Expr} {enough : Prop}
    [Decidable enough] (nameless : beginsName ts = false) (stops : Stops rest)
    (untyped : b.untyped ts = if enough then some (e, rest) else none) :
    b.primary ts = if enough then some (e, rest) else none := by
  have typed : b.typedLiteral ts = none := by
    simp [typedLiteral, typeName, TypeName.within_nameless nameless _]
  by_cases within : enough
  · simp [primary, unsupported, typed, untyped, within, stops.accepts_collate]
  · simp [primary, unsupported, typed, untyped, within]

theorem Below.climb_stop (b : Below) {power : Nat} (fuel : Nat) (left : Expr) {ts : List Token}
    (weak : infixPower ts ≤ power) : b.climb power fuel left ts = some (left, ts) := by
  cases fuel with
  | zero => rfl
  | succ fuel => simp [climb, weak]

theorem Below.climb_step (b : Below) {power : Nat} (fuel : Nat) (left : Expr) {ts : List Token}
    (strong : power < infixPower ts) :
    b.climb power (fuel + 1) left ts =
      (b.infixed left ts).bind fun found => b.climb power fuel found.1 found.2 := by
  simp [climb, Nat.not_le.2 strong]

theorem operand_succ (levels power : Nat) (ts : List Token) :
    operand (levels + 1) power ts = ((below levels).primary ts).bind fun found =>
      (below levels).climb power found.2.length found.1 found.2 := by
  rw [operand]
  rfl

mutual

/-- How many levels the reading of a condition takes up. What stands in parentheses, behind a sign or an
operator, or in a list is read one level further down. -/
def Expr.levels : Expr → Nat
  | .column _ => 1
  | .literal _ => 1
  | .nested inner => inner.levels + 1
  | .unary _ operand => operand.levels + 1
  | .binary _ left right => max left.levels (right.levels + 1)
  | .like _ operand pattern => max operand.levels (pattern.levels + 1)
  | .inList _ operand items => max operand.levels (Expr.listLevels items + 1)
  | .isNull _ operand => operand.levels
  | .unsupported => 1

def Expr.listLevels : List Expr → Nat
  | [] => 0
  | item :: items => max item.levels (Expr.listLevels items)

end

theorem operand_untyped {ts rest : List Token} {e : Expr} {levels power : Nat} {enough : Prop}
    [Decidable enough] (nameless : beginsName ts = false) (stops : Stops rest)
    (weak : infixPower rest ≤ power)
    (untyped : (below levels).untyped ts = if enough then some (e, rest) else none) :
    operand (levels + 1) power ts = if enough then some (e, rest) else none := by
  rw [operand_succ, (below levels).primary_untyped nameless stops untyped]
  split
  · simp [Below.climb_stop _ _ _ weak]
  · rfl

theorem operand_literal {token : Token} {l : Literal} {rest : List Token}
    (nameless : beginsName (token :: rest) = false)
    (read : ∀ b : Below, b.untyped (token :: rest) = some (.literal l, rest)) (stops : Stops rest)
    (levels : Nat) {power : Nat} (weak : infixPower rest ≤ power) :
    operand levels power (token :: rest) =
      if 1 ≤ levels then some (.literal l, rest) else none := by
  cases levels with
  | zero => rfl
  | succ levels => exact operand_untyped nameless stops weak (by simp [read])

theorem operand_negative (digits : Text) {rest : List Token} (stops : Stops rest) (levels : Nat)
    {power : Nat} (weak : infixPower rest ≤ power) :
    operand levels power (.sign .minus :: .number digits :: rest) =
      if 2 ≤ levels then some (.unary .minus (.literal (.number digits)), rest) else none := by
  cases levels with
  | zero => rfl
  | succ levels =>
    refine operand_untyped rfl stops weak ?_
    -- The digits are an operand of their own, one level further down.
    have unsigned : operand levels powerProduct (.number digits :: rest) =
        if 1 ≤ levels then some (.literal (.number digits), rest) else none :=
      operand_literal rfl (fun b => rfl) stops levels (Nat.le_trans stops.infixPower (by decide))
    have untyped : (below levels).untyped (.sign .minus :: .number digits :: rest) =
        (operand levels powerProduct (.number digits :: rest)).map fun found =>
          (.unary .minus found.1, found.2) := rfl
    rw [untyped, unsigned]
    cases levels <;> rfl

theorem operand_constant {t : Text} (constant : IsConstant t) {rest : List Token}
    (stops : Stops rest) (levels : Nat) {power : Nat} (weak : infixPower rest ≤ power) :
    operand levels power (constantTokens t ++ rest) =
      if (constantOf t).levels ≤ levels then some (constantOf t, rest) else none := by
  cases constant with
  | string string =>
    obtain ⟨isQuote, closed⟩ := string
    rw [Filter.constantTokens_string isQuote, Filter.constantOf_string isQuote]
    exact operand_literal rfl (fun b => rfl) stops levels weak
  | number filled digits =>
    rw [(Filter.constantTokens_digits digits).1, (Filter.constantOf_digits digits).1]
    exact operand_literal rfl (fun b => rfl) stops levels weak
  | negative filled digits =>
    rw [(Filter.constantTokens_digits digits).2, (Filter.constantOf_digits digits).2]
    exact operand_negative _ stops levels weak

end FilterQuery.Sql
