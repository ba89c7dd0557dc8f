import FilterQuery.Proofs.Rows
import FilterQuery.Proofs.Selection

/-!
Tables do not hear of each other. An operation on a table is answered from that table alone, and between
two operations no part of a query is left pending, whatever became of the operations before. So a table
is what the writes to it have made of it, in every run.
-/

namespace FilterQuery

/-! What a write to one table means for what is found under a name. -/

namespace MemoryStore

theorem find?_replace (s : MemoryStore) (t : Table) (name : Text) :
    (s.replace t).find? name =
      if t.name = name then (s.find? name).map fun _ => t else s.find? name := by
  obtain ⟨tables, pending⟩ := s
  simp only [find?, replace]
  induction tables with
  | nil => simp
  | cons old tables ih =>
    rw [List.map_cons, List.find?_cons, List.find?_cons]
    by_cases replaced : old.name = t.name
    · by_cases named : t.name = name
      · simp [replaced, named]
      · simpa [replaced, named] using ih
    · by_cases found : old.name = name
      · subst found
        simp [replaced, Ne.symm replaced]
      · simpa [replaced, found] using ih

theorem find?_append (s : MemoryStore) (t : Table) (name : Text) (fresh : s.find? t.name = none) :
    { s with tables := s.tables ++ [t] }.find? name =
      if t.name = name then some t else s.find? name := by
  rw [find?, List.find?_append]
  by_cases named : t.name = name
  · subst named
    rw [find?] at fresh
    simp [fresh]
  · simp [named, find?]

end MemoryStore

/-- A regular table stays one, and stays under its name. -/
def Keeps (operation : Table → Except StoreError Nat × Table) : Prop :=
  ∀ t : Table, t.Regular → (operation t).2.Regular ∧ (operation t).2.name = t.name

theorem keeps_perform (write : Write) : Keeps (·.perform write) := by
  intro t regular
  obtain ⟨still, named, _⟩ := regular.after write
  exact ⟨still, named⟩

theorem insertRecord_eq (s : MemoryStore) (table : Text) (record : Record) :
    insertRecord s table record =
      (s.onTable table (·.perform (.insert record))).map (·.mapError .backend) id :=
  rfl

theorem updateRecord_eq (s : MemoryStore) (table : Text) (record : Record) (identifier : Value) :
    updateRecord s table record identifier =
      (s.onTable table (·.perform (.update record identifier))).map (·.mapError .backend) id :=
  rfl

/-- The stores hold the same under the name, no query is pending in either, and the tables of the first are
regular. -/
structure MemoryStore.Agree (name : Text) (s s' : MemoryStore) : Prop where
  found : s.find? name = s'.find? name
  idle : s.pending = {}
  idle' : s'.pending = {}
  regular : s.Regular

namespace MemoryStore

variable {name : Text} {s s' : MemoryStore} {operation : Table → Except StoreError Nat × Table}

theorem pending_onTable (s : MemoryStore) (name : Text)
    (operation : Table → Except StoreError Nat × Table) :
    (s.onTable name operation).2.pending = s.pending := by
  rcases onTable_cases s name operation with ⟨t, _, performed⟩ | ⟨_, performed⟩
  · rw [performed]
    rfl
  · rw [performed]

theorem Agree.onTable (agree : Agree name s s') (keeps : Keeps operation) :
    (s.onTable name operation).1 = (s'.onTable name operation).1 ∧
      Agree name (s.onTable name operation).2 (s'.onTable name operation).2 := by
  have same : s.table name = s'.table name := by rw [table, table, agree.found]
  have next : Agree name (s.onTable name operation).2 (s'.onTable name operation).2 :=
    { found := by
        unfold MemoryStore.onTable
        rw [same]
        cases s'.table name with
        | error e => exact agree.found
        | ok t =>
          show (s.replace _).find? name = (s'.replace _).find? name
          rw [find?_replace, find?_replace, agree.found]
      idle := (pending_onTable s name operation).trans agree.idle
      idle' := (pending_onTable s' name operation).trans agree.idle'
      regular := agree.regular.onTable name fun t regular => (keeps t regular).1 }
  refine ⟨?_, next⟩
  unfold MemoryStore.onTable
  rw [same]
  cases s'.table name <;> rfl

theorem Agree.elsewhere {table : Text} (agree : Agree name s s') (keeps : Keeps operation)
    (elsewhere : table ≠ name) : Agree name (s.onTable table operation).2 s' := by
  refine ⟨?_, (pending_onTable s table operation).trans agree.idle, agree.idle',
    agree.regular.onTable table fun t regular => (keeps t regular).1⟩
  rcases onTable_cases s table operation with ⟨t, there, performed⟩ | ⟨_, performed⟩
  · have named : (operation t).2.name = table :=
      (keeps t (agree.regular t (mem_of_table there))).2.trans (table_eq_ok there).2
    rw [performed, find?_replace, if_neg (by rwa [named]), agree.found]
  · rw [performed, agree.found]

theorem createTable_fresh {schema : Schema} (fresh : s.find? name = none) :
    s.createTable name schema = (.ok (), { s with tables := s.tables ++ [{ name, schema }] }) := by
  simp [createTable, contains, fresh]

theorem createTable_taken {t : Table} {schema : Schema} (found : s.find? name = some t) :
    s.createTable name schema = (.error (.tableExists name), s) := by
  simp [createTable, contains, found]

end MemoryStore

/-! A request to a store where nothing is pending. -/

namespace Request

def answerFrom (options : Filter.Options) (r : Request) :
    Option Table → Except (RequestError StoreError) ResultSet
  | none => if r.toleratesMissing then .ok { columns := r.columns } else .error (.missingTable r.table)
  | some t => do
    let condition ← (r.condition options).mapError .filter
    let order ← r.sortKeys.mapError .order
    (t.answer { columns := r.selection, table := some r.table, condition, order }).mapError .backend

theorem submit_idle {s : MemoryStore} (idle : s.pending = {}) (r : Request) (condition : Option Text)
    (order : List SortKey) :
    r.submit s condition order =
      { s with pending := { columns := r.selection, table := some r.table, condition, order } } := by
  unfold submit
  rw [foldl_orderBy]
  cases condition <;>
    simp [Backend.select, Backend.fromTable, Backend.onCondition, MemoryStore.select,
      MemoryStore.fromTable, MemoryStore.onCondition, idle]

theorem execute_submit_idle {s : MemoryStore} {r : Request} {t : Table} (idle : s.pending = {})
    (found : s.find? r.table = some t) (condition : Option Text) (order : List SortKey) :
    Backend.execute (r.submit s condition order) =
      (t.answer { columns := r.selection, table := some r.table, condition, order }, s) := by
  have table : s.table r.table = .ok t := by rw [MemoryStore.table, found]
  have cleared : { s with pending := {} } = s := by rw [← idle]
  rw [submit_idle idle]
  refine Prod.ext ?_ cleared
  show (do (← s.table r.table).answer _ : Except StoreError ResultSet) = _
  rw [table]
  rfl

/-- Where no query is pending, a request leaves the store as it is, whether it fails or not, and no other
table plays a part in its answer. -/
theorem fetch_idle {s : MemoryStore} (idle : s.pending = {}) (options : Filter.Options) (r : Request) :
    r.fetch options s = (r.answerFrom options (s.find? r.table), s) := by
  unfold fetch prepare answerFrom
  simp only [Backend.tableExists, MemoryStore.contains]
  cases found : s.find? r.table with
  | none => cases r.toleratesMissing <;> rfl
  | some t =>
    -- The filter is looked at first, then the order; the backend is asked only if both are readable.
    cases r.condition options with
    | error e => rfl
    | ok condition =>
      cases r.sortKeys with
      | error e => rfl
      | ok order =>
        have executed := execute_submit_idle idle found condition order
        simp only [Except.mapError, bind, Except.bind, pure, Except.pure, Option.isSome_some, if_true,
          executed]

end Request

/-! Runs of operations. -/

inductive Operation where
  | create (table : Text) (schema : Schema)
  | insert (table : Text) (record : Record)
  | update (table : Text) (record : Record) (identifier : Value)
  | fetch (r : Request)
  /-- The condition of a request is asked for and not its rows. -/
  | condition (r : Request)
  | lookup (table : Text)

inductive Answer where
  | created (result : Except StoreError Unit)
  | written (result : Except (RequestError StoreError) Nat)
  | fetched (result : Except (RequestError StoreError) ResultSet)
  | understood (result : Except Filter.CompileError (Option Text))
  | present (result : Except StoreError Bool)

def Answer.ofWrite (result : Except StoreError Nat) : Answer := .written (result.mapError .backend)

namespace Operation

def table : Operation → Text
  | create table _ => table
  | insert table _ => table
  | update table _ _ => table
  | fetch r => r.table
  | condition r => r.table
  | lookup table => table

def isWrite : Operation → Bool
  | create _ _ | insert _ _ | update _ _ _ => true
  | _ => false

def perform (options : Filter.Options) (s : MemoryStore) : Operation → Answer × MemoryStore
  | create table schema => (s.createTable table schema).map .created id
  | insert table record => (insertRecord s table record).map .written id
  | update table record identifier => (updateRecord s table record identifier).map .written id
  | fetch r => (r.fetch options s).map .fetched id
  | condition r => (.understood (r.condition options), s)
  | lookup table => (.present (Backend.tableExists s table), s)

def afterAll (options : Filter.Options) (s : MemoryStore) (run : List Operation) : MemoryStore :=
  run.foldl (fun s operation => (operation.perform options s).2) s

end Operation

namespace MemoryStore

variable {name : Text} {s s' : MemoryStore}

/-- Two stores that agree on the table of an operation give the same answer to it, and still agree. -/
theorem Agree.perform (options : Filter.Options) (operation : Operation)
    (agree : Agree operation.table s s') :
    (operation.perform options s).1 = (operation.perform options s').1 ∧
      Agree operation.table (operation.perform options s).2 (operation.perform options s').2 := by
  cases operation with
  | create table schema =>
    have found : s.find? table = s'.find? table := agree.found
    simp only [Operation.perform]
    cases there : s'.find? table with
    | some t =>
      rw [createTable_taken (found.trans there), createTable_taken there]
      exact ⟨rfl, agree⟩
    | none =>
      have regular := agree.regular.createTable table schema
      rw [createTable_fresh (found.trans there)] at regular ⊢
      rw [createTable_fresh there]
      refine ⟨rfl, ?_, agree.idle, agree.idle', regular⟩
      have grown := find?_append s { name := table, schema } table (found.trans there)
      have grown' := find?_append s' { name := table, schema } table there
      rw [if_pos rfl] at grown grown'
      exact grown.trans grown'.symm
  | insert table record =>
    simp only [Operation.perform, insertRecord_eq]
    obtain ⟨same, agree⟩ := agree.onTable (keeps_perform (.insert record))
    exact ⟨congrArg Answer.ofWrite same, agree⟩
  | update table record identifier =>
    simp only [Operation.perform, updateRecord_eq]
    obtain ⟨same, agree⟩ := agree.onTable (keeps_perform (.update record identifier))
    exact ⟨congrArg Answer.ofWrite same, agree⟩
  | fetch r =>
    have found : s.find? r.table = s'.find? r.table := agree.found
    simp only [Operation.perform, Request.fetch_idle agree.idle, Request.fetch_idle agree.idle', found]
    exact ⟨rfl, agree⟩
  | condition r => exact ⟨rfl, agree⟩
  | lookup table =>
    have found : s.find? table = s'.find? table := agree.found
    simp only [Operation.perform, Backend.tableExists, contains, found]
    exact ⟨trivial, agree⟩

theorem Agree.pass (options : Filter.Options) (operation : Operation) (agree : Agree name s s')
    (other : ¬ (operation.isWrite = true ∧ operation.table = name)) :
    Agree name (operation.perform options s).2 s' := by
  cases operation with
  | create table schema =>
    have elsewhere : table ≠ name := by simpa [Operation.isWrite, Operation.table] using other
    simp only [Operation.perform]
    cases there : s.find? table with
    | some t =>
      rw [createTable_taken there]
      exact agree
    | none =>
      have regular := agree.regular.createTable table schema
      rw [createTable_fresh there] at regular ⊢
      refine ⟨?_, agree.idle, agree.idle', regular⟩
      rw [← agree.found]
      exact (find?_append s _ name there).trans (if_neg elsewhere)
  | insert table record =>
    have elsewhere : table ≠ name := by simpa [Operation.isWrite, Operation.table] using other
    simp only [Operation.perform, insertRecord_eq]
    exact agree.elsewhere (keeps_perform (.insert record)) elsewhere
  | update table record identifier =>
    have elsewhere : table ≠ name := by simpa [Operation.isWrite, Operation.table] using other
    simp only [Operation.perform, updateRecord_eq]
    exact agree.elsewhere (keeps_perform (.update record identifier)) elsewhere
  | fetch r =>
    simp only [Operation.perform, Request.fetch_idle agree.idle]
    exact agree
  | condition r => exact agree
  | lookup table => exact agree

/-- Of a run, a table is only touched by the writes to it. -/
theorem Agree.afterAll (options : Filter.Options) (run : List Operation) (agree : Agree name s s') :
    Agree name (Operation.afterAll options s run)
      (Operation.afterAll options s'
        (run.filter fun operation => operation.isWrite && operation.table = name)) := by
  induction run generalizing s s' with
  | nil => exact agree
  | cons operation run ih =>
    by_cases concerns : operation.isWrite = true ∧ operation.table = name
    · obtain ⟨writes, rfl⟩ := concerns
      rw [List.filter_cons_of_pos (by simp [writes])]
      exact ih (agree.perform options operation).2
    · rw [List.filter_cons_of_neg (by simpa using concerns)]
      exact ih (agree.pass options operation concerns)

end MemoryStore

/-- After any run of operations, a request is answered as it would be if only the writes to its table had
been made. -/
theorem Request.fetch_isolated (options : Filter.Options) (run : List Operation) (r : Request) :
    (r.fetch options (Operation.afterAll options {} run)).1 =
      (r.fetch options (Operation.afterAll options {}
        (run.filter fun operation => operation.isWrite && operation.table = r.table))).1 := by
  have fresh : MemoryStore.Agree r.table {} {} := ⟨rfl, rfl, rfl, MemoryStore.Reachable.empty.regular⟩
  have same := ((fresh.afterAll options run).perform options (.fetch r)).1
  exact Answer.fetched.inj same

end FilterQuery
