import FilterQuery.Sql.Predicate
import FilterQuery.Table.Basic
import FilterQuery.Table.Order
import FilterQuery.Table.ResultSet

/-!
Tables in memory and the query that is being put together. A query is executed once: whatever comes of
it, the store then holds no pending query.
-/

namespace FilterQuery

structure PendingQuery where
  columns : List Text := []
  table : Option Text := none
  condition : Option Text := none
  order : List SortKey := []

structure MemoryStore where
  tables : List Table := []
  pending : PendingQuery := {}

namespace MemoryStore

def find? (s : MemoryStore) (name : Text) : Option Table := s.tables.find? (·.name = name)

def contains (s : MemoryStore) (name : Text) : Bool := (s.find? name).isSome

def createTable (s : MemoryStore) (name : Text) (schema : Schema) :
    Except StoreError Unit × MemoryStore :=
  if s.contains name then (.error (.tableExists name), s)
  else (.ok (), { s with tables := s.tables ++ [{ name, schema }] })

def replace (s : MemoryStore) (t : Table) : MemoryStore :=
  { s with tables := s.tables.map fun old => if old.name = t.name then t else old }

def table (s : MemoryStore) (name : Text) : Except StoreError Table :=
  match s.find? name with
  | some t => .ok t
  | none => .error (.tableNotFound name)

/-- What an operation on one of the tables answers, and the store with the table as it is then. -/
def onTable (s : MemoryStore) (name : Text) (operation : Table → Except StoreError Nat × Table) :
    Except StoreError Nat × MemoryStore :=
  match s.table name with
  | .ok t =>
    let (answer, t) := operation t
    (answer, s.replace t)
  | .error e => (.error e, s)

def insert (s : MemoryStore) (name : Text) (record : Record) : Except StoreError Nat × MemoryStore :=
  s.onTable name (·.insert record)

def update (s : MemoryStore) (name : Text) (record : Record) (identifier : Value) :
    Except StoreError Nat × MemoryStore :=
  s.onTable name (·.update record identifier)

end MemoryStore

def Schema.index (s : Schema) (name : Text) : Except StoreError Nat :=
  match s.indexOf? name with
  | some index => .ok index
  | none => .error (.columnNotFound name)

def Table.selected (t : Table) (condition : Option Text) : Except StoreError (List Row) :=
  match condition with
  | none => .ok t.rows
  | some text => do
    let predicate ← Sql.Predicate.parse t.name text
    predicate.filter t.schema t.rows

/-- The places of the columns asked for. No names, or a star among them, mean all columns. -/
def Schema.projection (s : Schema) (names : List Text) : Except StoreError (List Nat) :=
  if names.isEmpty || names.contains ['*'] then .ok (List.range s.columns.length)
  else names.mapM s.index

/-- The answer that is made of some rows of the table: they are sorted and cut down to the columns. -/
def Table.present (t : Table) (order : List SortKey) (columns : List Text) (rows : List Row) :
    Except StoreError ResultSet := do
  let keys ← order.mapM fun key => do return (← t.schema.index key.column, key.direction)
  let rows ← Row.sort keys rows
  let places ← t.schema.projection columns
  let header ← places.mapM (lookUp t.schema.columns)
  let rows ← rows.mapM fun row => places.mapM (lookUp row)
  return { columns := header.map Column.name, rows }

def Table.answer (t : Table) (q : PendingQuery) : Except StoreError ResultSet := do
  t.present q.order q.columns (← t.selected q.condition)

namespace MemoryStore

def answer (s : MemoryStore) : Except StoreError ResultSet :=
  match s.pending.table with
  | none => .error .noTableChosen
  | some name => do (← s.table name).answer s.pending

def execute (s : MemoryStore) : Except StoreError ResultSet × MemoryStore :=
  (s.answer, { s with pending := {} })

def select (s : MemoryStore) (columns : List Text) : MemoryStore :=
  { s with pending := { s.pending with columns } }

def fromTable (s : MemoryStore) (name : Text) : MemoryStore :=
  { s with pending := { s.pending with table := some name } }

def onCondition (s : MemoryStore) (condition : Text) : MemoryStore :=
  { s with pending := { s.pending with condition := some condition } }

def orderBy (s : MemoryStore) (key : SortKey) : MemoryStore :=
  { s with pending := { s.pending with order := s.pending.order ++ [key] } }

end MemoryStore

end FilterQuery
