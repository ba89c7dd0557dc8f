import FilterQuery.Filter.Compile
import FilterQuery.Store.Memory
import FilterQuery.Table.Order

/-!
What a request needs of the place where the tables are: a query is put together step by step and then
executed.
-/

namespace FilterQuery

class Backend (σ : Type) (ε : outParam Type) where
  tableExists : σ → Text → Except ε Bool
  select : σ → List Text → σ
  fromTable : σ → Text → σ
  onCondition : σ → Text → σ
  orderBy : σ → SortKey → σ
  execute : σ → Except ε ResultSet × σ
  /-- The number of rows written. -/
  insert : σ → Text → Record → Except ε Nat × σ
  /-- The number of rows written. -/
  update : σ → Text → Record → Value → Except ε Nat × σ

instance : Backend MemoryStore StoreError where
  tableExists s name := .ok (s.contains name)
  select := MemoryStore.select
  fromTable := MemoryStore.fromTable
  onCondition := MemoryStore.onCondition
  orderBy := MemoryStore.orderBy
  execute := MemoryStore.execute
  insert := MemoryStore.insert
  update := MemoryStore.update

/-! Requests for rows, with the filter and the order as people type them. -/

structure Request where
  table : Text
  columns : List Text := []
  filter : Option Text := none
  order : Option Text := none
  fields : Bindings := .empty
  /-- The filter is an SQL condition already. -/
  raw : Bool := false
  /-- A missing table has no rows and is no error. -/
  toleratesMissing : Bool := false

inductive RequestError (ε : Type) where
  | missingTable (table : Text)
  | filter (e : Filter.CompileError)
  | order (e : OrderError)
  | backend (e : ε)

def RequestError.message {ε : Type} (describe : ε → String) : RequestError ε → String
  | missingTable table => "table '" ++ String.ofList table ++ "' does not exist"
  | filter e => e.message
  | order e => e.message
  | backend e => "backend error: " ++ describe e

namespace Request

/-- The condition of a request. A blank filter is none. -/
def condition (options : Filter.Options) (r : Request) :
    Except Filter.CompileError (Option Text) :=
  match r.filter with
  | none => .ok none
  | some filter =>
    if (Text.trim filter).isEmpty then .ok none
    else if r.raw then .ok (some filter)
    else (Filter.compile options r.fields filter).map some

def sortKeys (r : Request) : Except OrderError (List SortKey) :=
  match r.order with
  | none => .ok []
  | some text => SortKey.parse text

def selection (r : Request) : List Text := if r.columns.isEmpty then [['*']] else r.columns

/-- What is checked before the backend is asked for rows: the condition and the sort keys, or nothing
for a missing table that is tolerated. -/
def prepare {σ ε : Type} [Backend σ ε] (options : Filter.Options) (backend : σ) (r : Request) :
    Except (RequestError ε) (Option (Option Text × List SortKey)) := do
  if ← (Backend.tableExists backend r.table).mapError .backend then
    let condition ← (r.condition options).mapError .filter
    let keys ← r.sortKeys.mapError .order
    return some (condition, keys)
  else if r.toleratesMissing then return none
  else .error (.missingTable r.table)

def submit {σ ε : Type} [Backend σ ε] (backend : σ) (r : Request) (condition : Option Text)
    (keys : List SortKey) : σ :=
  let backend := Backend.fromTable (Backend.select backend r.selection) r.table
  let backend := match condition with
    | some text => Backend.onCondition backend text
    | none => backend
  keys.foldl Backend.orderBy backend

def fetch {σ ε : Type} [Backend σ ε] (options : Filter.Options) (backend : σ) (r : Request) :
    Except (RequestError ε) ResultSet × σ :=
  match r.prepare options backend with
  | .error e => (.error e, backend)
  | .ok none => (.ok { columns := r.columns }, backend)
  | .ok (some (condition, keys)) =>
    let (result, backend) := Backend.execute (r.submit backend condition keys)
    (result.mapError .backend, backend)

end Request

def insertRecord {σ ε : Type} [Backend σ ε] (backend : σ) (table : Text) (record : Record) :
    Except (RequestError ε) Nat × σ :=
  let (result, backend) := Backend.insert backend table record
  (result.mapError .backend, backend)

def updateRecord {σ ε : Type} [Backend σ ε] (backend : σ) (table : Text) (record : Record)
    (identifier : Value) : Except (RequestError ε) Nat × σ :=
  let (result, backend) := Backend.update backend table record identifier
  (result.mapError .backend, backend)

end FilterQuery
