import FilterQuery.Decimal.Reading
import FilterQuery.Sql.Syntax

/-!
Readers of tokens and the small ones of which the others are made.
-/

namespace FilterQuery.Sql

abbrev Parser := StateT (List Token) Option

namespace Parser

variable {α β : Type}

@[simp] theorem pure_apply (a : α) (ts : List Token) : (pure a : Parser α) ts = some (a, ts) := rfl

@[simp] theorem bind_apply (p : Parser α) (next : α → Parser β) (ts : List Token) :
    (p >>= next) ts = (p ts).bind fun found => next found.1 found.2 := rfl

@[simp] theorem map_apply (f : α → β) (p : Parser α) (ts : List Token) :
    (f <$> p) ts = (p ts).map fun found => (f found.1, found.2) := by
  show ((p ts).bind fun found => some (f found.1, found.2)) = _
  cases p ts <;> rfl

@[simp] theorem discard_apply (p : Parser α) (ts : List Token) :
    (discard p : Parser Unit) ts = (p ts).map fun found => ((), found.2) := by
  show ((p ts).bind fun found => some ((), found.2)) = _
  cases p ts <;> rfl

@[simp] theorem failure_apply (ts : List Token) : (failure : Parser α) ts = none := rfl

@[simp] theorem orElse_apply (p q : Parser α) (ts : List Token) :
    (p <|> q) ts = (p ts).or (q ts) := by
  show (p ts <|> q ts) = _
  cases p ts <;> rfl

@[simp] theorem get_apply (ts : List Token) : (get : Parser (List Token)) ts = some (ts, ts) := rfl

@[simp] theorem set_apply (rest ts : List Token) :
    (set rest : Parser PUnit) ts = some ((), rest) := rfl

end Parser

def sign (s : Sign) : Parser Unit := fun
  | .sign found :: rest => if found = s then some ((), rest) else none
  | _ => none

def word (k : Keyword) : Parser Unit := fun
  | .word _ (some found) :: rest => if found = k then some ((), rest) else none
  | _ => none

def words : List Keyword → Parser Unit
  | [] => pure ()
  | k :: rest => do word k; words rest

def oneOf (choices : List Keyword) : Parser Unit := fun
  | .word _ (some found) :: rest => if found ∈ choices then some ((), rest) else none
  | _ => none

def accepts {α : Type} (p : Parser α) : Parser Bool := fun ts =>
  match p ts with
  | some (_, rest) => some (true, rest)
  | none => some (false, ts)

def optionally {α : Type} (p : Parser α) : Parser Unit := discard (accepts p)

/-- A part that may be left out but has to be complete behind its `opening`. -/
def clause {α : Type} (opening : Parser Unit) (part : Parser α) : Parser (Option α) := do
  if ← accepts opening then some <$> part else pure none

def repeatWithin (step : Parser Bool) : Nat → Parser Unit
  | 0 => pure ()
  | fuel + 1 => do if ← step then repeatWithin step fuel

def repeating (step : Parser Bool) : Parser Unit := fun ts => repeatWithin step ts.length ts

def repeated {α : Type} (opening : Parser Unit) (part : Parser α) : Parser Unit :=
  repeating (do return (← clause opening part).isSome)

def commaSeparated {α : Type} (item : Parser α) : Nat → Parser (List α)
  | 0 => failure
  | fuel + 1 => do
    let first ← item
    if ← accepts (sign .comma) then return first :: (← commaSeparated item fuel) else return [first]

def items {α : Type} (item : Parser α) : Parser (List α) :=
  fun ts => commaSeparated item ts.length ts

def parenthesized {α : Type} (p : Parser α) : Parser α := do
  sign .opening
  let a ← p
  sign .closing
  return a

/-! Names and literals. -/

def name : Parser Text := fun
  | .word spelled _ :: ts => some (spelled, ts)
  | .quotedName n :: ts => some (n, ts)
  | _ => none

def identifier : Parser Text := fun
  | .string _ content :: ts => some (content, ts)
  | ts => name ts

def dottedWithin : Nat → Parser Unit
  | 0 => failure
  | fuel + 1 => do
    discard identifier
    if ← accepts (sign .period) then dottedWithin fuel

def dottedName : Parser Unit := fun ts => dottedWithin ts.length ts

def identifierList : Parser Unit := parenthesized (discard (items identifier))

def freeName : Parser Unit := fun
  | .word _ none :: ts => some ((), ts)
  | .quotedName _ :: ts => some ((), ts)
  | _ => none

def plainString : Parser Unit := fun
  | .string _ _ :: ts => some ((), ts)
  | ts => freeName ts

def number : Parser Unit := fun
  | .number _ :: ts => some ((), ts)
  | _ => none

def wholeNumber : Parser Unit := fun
  | .number digits :: ts =>
    if digits.all Char.isDigit && Decimal.natOfDigits digits < UInt64.size then some ((), ts) else none
  | _ => none

def isMarked (marks : List Char) (shown : Text) : Bool := shown.head?.any marks.contains

/-- The literals that are not words. A colon or an at sign makes a parameter of the name or the number
behind it. -/
def literal : Parser Literal := fun
  | .number digits :: ts => some (.number digits, ts)
  | .string _ content :: ts => some (.text content, ts)
  | .valueless shown :: ts => some (.valueless shown, ts)
  | .sign .colon :: .number digits :: ts => some (.valueless (':' :: digits), ts)
  | .sign .colon :: ts => (name ts).map fun (n, ts) => (.valueless (':' :: n), ts)
  | .sign .atSign :: .number digits :: ts => some (.valueless ('@' :: digits), ts)
  | .sign .atSign :: ts => (name ts).map fun (n, ts) => (.valueless ('@' :: n), ts)
  | _ => none

def value : Parser Unit := oneOf [.TRUE, .FALSE, .NULL] <|> discard literal

/-- What a reader of conditions is given: how to read an operand whose operators have more than a
certain power, and how to read a query, both one level further down. -/
structure Below where
  operand : Nat → Parser Expr
  query : Parser Unit

namespace Below

def expr (b : Below) : Parser Expr := b.operand 0

def exprs (b : Below) : Parser Unit := discard (items b.expr)

end Below

def unsupported {α : Type} (p : Parser α) : Parser Expr := do
  discard p
  return .unsupported

end FilterQuery.Sql
