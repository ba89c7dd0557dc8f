import FilterQuery.Sql.Definition
import FilterQuery.Sql.Evaluate
import FilterQuery.Sql.Lexer

/-!
Texts of one or more statements. Queries keep their condition; of the other statements it is only
checked that they are well formed.
-/

namespace FilterQuery.Sql

inductive Statement where
  | query (condition : Option Expr)
  | other
deriving Repr

/-- How deep a statement may nest, itself included. -/
def maxLevels : Nat := 50

def runnable (levels : Nat) : Parser Statement := do
  match ← get with
  | .word _ (some key) :: rest =>
    if key ∈ [Keyword.SELECT, .WITH, .VALUES] then return .query (← query levels)
    else match (below levels).other? key with
      | some part =>
        set rest
        part
        return .other
      | none => failure
  | .sign .opening :: _ => return .query (← query levels)
  | _ => failure

def explained : Parser Unit := do
  oneOf [.EXPLAIN, .DESCRIBE, .DESC]
  optionally (word .ANALYZE)
  optionally (word .VERBOSE)
  if !(← accepts (runnable (maxLevels - 2))) then
    optionally (oneOf [.EXTENDED, .FORMATTED])
    dottedName

def statement : Parser Statement := runnable (maxLevels - 1) <|> (do explained; return .other)

/-- All the statements of a text. Semicolons divide them; empty statements do not count, and nothing
counts after the word `END` behind a statement. -/
def statementsWithin : Nat → List Token → Option (List Statement)
  | _, [] => some []
  | 0, _ :: _ => none
  | fuel + 1, .sign .semicolon :: ts => statementsWithin fuel ts
  | fuel + 1, ts => do
    let (first, ts) ← statement ts
    match ts with
    | [] => return [first]
    | .sign .semicolon :: ts => return first :: (← statementsWithin fuel ts)
    | .word _ (some .END) :: _ => return [first]
    | _ => none

def statements? (ts : List Token) : Option (List Statement) := statementsWithin ts.length ts

/-!
Conditions given as text. The text is put behind a query on the table and read together with it, so it
has to be the rest of exactly one statement.
-/

structure Predicate where
  condition : Expr
deriving Repr

namespace Predicate

def statementText (table condition : Text) : Text :=
  "SELECT * FROM `".toList ++ table ++ "` WHERE ".toList ++ condition

def parse (table condition : Text) : Except StoreError Predicate :=
  match (tokens? (statementText table condition)).bind statements? with
  | none => .error .unreadableCondition
  | some [.query (some e)] => .ok ⟨e⟩
  | some [_] => .error .unsupportedQuery
  | some _ => .error .extraStatements

/-- Whether a row is selected: the condition has to be true, not null or any other value. -/
def selects (p : Predicate) (schema : Schema) (row : Row) : Except StoreError Bool := do
  return (← evaluate schema row p.condition) == .boolean true

/-- The selected rows in their order. The first row on which the condition fails makes all fail. -/
def filter (p : Predicate) (schema : Schema) : List Row → Except StoreError (List Row)
  | [] => .ok []
  | row :: rest => do
    let keep ← p.selects schema row
    let kept ← p.filter schema rest
    return if keep then row :: kept else kept

end Predicate

end FilterQuery.Sql
