import FilterQuery.Sql.Like
import FilterQuery.Sql.Syntax
import FilterQuery.Table.Schema

/-!
The value of a condition on a row. Comparisons with something that has no order with the other side
are null; a null counts as false in `AND` and `OR`, and `NOT` keeps it.
-/

namespace FilterQuery.Sql

def columnValue (schema : Schema) (row : Row) (name : Text) : Except StoreError Value :=
  match schema.indexOf? name with
  | some index => .ok (row.cell index)
  | none => .error (.columnNotFound name)

def Literal.value : Literal → Except StoreError Value
  | null => .ok .null
  | boolean b => .ok (.boolean b)
  | text t => .ok (.text t)
  | number digits =>
    if digits.any fun c => c = '.' || c = 'e' || c = 'E' then
      .ok (.float ((Decimal.float? digits).getD 0.0))
    else match Decimal.integer? digits with
      | some i => .ok (.integer i)
      | none => .error .numberTooLarge
  | valueless shown => .error (.unsupportedLiteral shown)

/-- Whether a value counts as true: every number but zero does. -/
def truthy : Value → Bool
  | .boolean b => b
  | .null => false
  | value =>
    match value.toFloat? with
    | some x => x != 0.0
    | none => false

def Comparison.holds : Comparison → Ordering → Bool
  | eq, o => o = .eq
  | ne, o => o ≠ .eq
  | lt, o => o = .lt
  | le, o => o ≠ .gt
  | gt, o => o = .gt
  | ge, o => o ≠ .lt

def BinaryOp.apply : BinaryOp → Value → Value → Except StoreError Value
  | and, left, right => .ok (.boolean (truthy left && truthy right))
  | or, left, right => .ok (.boolean (truthy left || truthy right))
  | compare c, left, right =>
    match left.compare right with
    | some o => .ok (.boolean (c.holds o))
    | none => .ok .null
  | unsupported symbol, _, _ => .error (.unsupportedOperator symbol)

def UnaryOp.apply : UnaryOp → Value → Except StoreError Value
  | plus, value => .ok value
  | minus, .integer i => .ok (.integer (-i))
  | minus, .float x => .ok (.float (-x))
  | minus, value => .error (.unsupportedNegation value)
  | not, .null => .ok .null
  | not, value => .ok (.boolean (!truthy value))

mutual

def evaluate (schema : Schema) (row : Row) : Expr → Except StoreError Value
  | .column name => columnValue schema row name
  | .literal l => l.value
  | .nested inner => evaluate schema row inner
  | .unary op operand => do op.apply (← evaluate schema row operand)
  | .binary op left right => do
    let left ← evaluate schema row left
    let right ← evaluate schema row right
    op.apply left right
  | .like negated operand pattern => do
    let value ← evaluate schema row operand
    let pattern ← evaluate schema row pattern
    if value.isNull || pattern.isNull then return .null
    return .boolean (likeMatch value.canonicalText pattern.canonicalText != negated)
  | .inList negated operand items => do
    let value ← evaluate schema row operand
    if value.isNull then return .null
    return .boolean ((← someItemSame schema row value items) != negated)
  | .isNull negated operand => do
    return .boolean ((← evaluate schema row operand).isNull != negated)
  | .unsupported => .error .unsupportedExpression

/-- Whether one of the items is the same value. The items behind it are not evaluated. -/
def someItemSame (schema : Schema) (row : Row) (value : Value) :
    List Expr → Except StoreError Bool
  | [] => .ok false
  | item :: rest => do
    if value.same (← evaluate schema row item) then return true
    someItemSame schema row value rest

end

end FilterQuery.Sql
