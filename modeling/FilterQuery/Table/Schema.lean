import FilterQuery.Value.Bindings

/-!
The columns of a table, rows of values in the order of the columns, and what can go wrong in a store of
tables.
-/

namespace FilterQuery

inductive StoreError where
  | unreadableCondition
  | extraStatements
  | unsupportedQuery
  | unsupportedExpression
  | unsupportedNegation (value : Value)
  | unsupportedOperator (symbol : Text)
  | unsupportedLiteral (shown : Text)
  | numberTooLarge
  | columnNotFound (name : Text)
  | nullNotAllowed (column : Text)
  | duplicateKey
  | noPrimaryKey (table : Text)
  | tableNotFound (table : Text)
  | tableExists (table : Text)
  | noTableChosen
  /-- An operation has counted on a place that is not there, and breaks off. -/
  | outOfRange

def StoreError.message : StoreError → String
  | unreadableCondition => "WHERE parsing error"
  | extraStatements => "WHERE text must not contain extra statements"
  | unsupportedQuery => "Unsupported WHERE clause format"
  | unsupportedExpression => "Unsupported WHERE expression"
  | unsupportedNegation value =>
    "Unsupported unary operator - on " ++ String.ofList value.display
  | unsupportedOperator symbol =>
    "Unsupported operator in WHERE clause: " ++ String.ofList symbol
  | unsupportedLiteral shown => "Unsupported value expression: " ++ String.ofList shown
  | numberTooLarge => "number too large to fit in target type"
  | columnNotFound name => "Column not found: " ++ String.ofList name
  | nullNotAllowed column => "Column '" ++ String.ofList column ++ "' cannot be NULL"
  | duplicateKey => "Primary key violation: duplicate value"
  | noPrimaryKey table => "Table '" ++ String.ofList table ++ "' has no primary key"
  | tableNotFound table => "Table '" ++ String.ofList table ++ "' not found"
  | tableExists table => "Table '" ++ String.ofList table ++ "' already exists"
  | noTableChosen => "No table specified in SELECT"
  | outOfRange => "index out of bounds"

/-- What stands at a place that has to be there. -/
def lookUp {α : Type} (xs : List α) (index : Nat) : Except StoreError α :=
  match xs[index]? with
  | some x => .ok x
  | none => .error .outOfRange

def putAt {α : Type} (xs : List α) (index : Nat) (x : α) : Except StoreError (List α) :=
  if index < xs.length then .ok (xs.set index x) else .error .outOfRange

structure Column where
  name : Text
  isKey : Bool := false
  nullable : Bool := true
deriving DecidableEq, Repr

def Column.primaryKey (c : Column) : Column := { c with isKey := true, nullable := false }

def Column.notNull (c : Column) : Column := { c with nullable := false }

structure Schema where
  columns : List Column
deriving DecidableEq, Repr

abbrev Row := List Value

abbrev Record := Bindings

namespace Schema

def indexOf? (s : Schema) (name : Text) : Option Nat :=
  s.columns.findIdx? (·.name = name)

def keyIndex? (s : Schema) : Option Nat := s.columns.findIdx? (·.isKey)

end Schema

/-- The value at a place, as conditions read it: past its end a row holds nulls. -/
def Row.cell (row : Row) (index : Nat) : Value := row.getD index .null

end FilterQuery
