import Mathlib
import FilterQuery.Proofs.Writes
import FilterQuery.Store.Memory

/-!
The rows of a table have a value for each column, and no null where a column does not take one, after any
writes. So no operation comes to a place that is not there: not when it looks for a key, not when it
writes, and not when it sorts rows or cuts them down. The rows of an answer are as wide as its header.
-/

namespace FilterQuery

/-- Every place that was counted on was there. -/
def InRange {α : Type} (answer : Except StoreError α) : Prop := answer ≠ .error .outOfRange

section InRange

variable {α β : Type} {answer : Except StoreError α}

theorem inRange_ok (a : α) : InRange (.ok a) := by simp [InRange]

theorem inRange_of_eq_ok {a : α} (done : answer = .ok a) : InRange answer := done ▸ inRange_ok a

theorem InRange.bind {next : α → Except StoreError β} (first : InRange answer)
    (each : ∀ a, answer = .ok a → InRange (next a)) : InRange (answer >>= next) := by
  cases answer with
  | error e =>
    intro failed
    cases failed
    exact first rfl
  | ok a => exact each a rfl

theorem bind_congr_ok {next next' : α → Except StoreError β}
    (each : ∀ a, answer = .ok a → next a = next' a) : (answer >>= next) = answer >>= next' := by
  cases answer with
  | error e => rfl
  | ok a => exact each a rfl

theorem inRange_mapM {f : α → Except StoreError β} {xs : List α} (each : ∀ x ∈ xs, InRange (f x)) :
    InRange (xs.mapM f) := by
  intro failed
  obtain ⟨before, x, after, rfl, _, bad⟩ := mapM_eq_error_iff.1 failed
  exact each x (by simp) bad

end InRange

/-! Writes. -/

namespace Table

variable {t : Table} {record : Record} {identifier : Value}

theorem checkColumns_inRange (t : Table) (record : Record) : InRange (t.checkColumns record) := by
  unfold checkColumns
  split <;> simp [InRange]

theorem checkNull_inRange (column : Column) (value : Value) : InRange (checkNull column value) := by
  unfold checkNull
  split <;> simp [InRange]

theorem insertion_inRange (t : Table) (record : Record) : InRange (t.insertion record) := by
  refine (checkColumns_inRange t record).bind fun _ _ => ?_
  refine InRange.bind (inRange_mapM fun column _ => checkNull_inRange column _) fun row _ => ?_
  cases t.schema.keyIndex? with
  | none => exact inRange_ok _
  | some keyIndex =>
    dsimp only
    split
    · simp [InRange, bind, Except.bind]
    · exact inRange_ok _

theorem checkChanges_inRange (t : Table) (record : Record) :
    InRange ((t.assignments record).forM t.checkChange) := by
  have each : ∀ change ∈ t.assignments record, InRange (t.checkChange change) := by
    intro change member
    have there := List.getElem?_eq_getElem (assignments_inside member)
    rw [checkChange, lookUp_eq_ok_iff.2 there]
    split
    · refine InRange.bind (inRange_ok _) fun column _ => ?_
      exact (checkNull_inRange column change.2).bind fun _ _ => inRange_ok _
    · exact inRange_ok _
  generalize t.assignments record = changes at each
  induction changes with
  | nil => exact inRange_ok _
  | cons change changes ih =>
    obtain ⟨first, rest⟩ := List.forall_mem_cons.1 each
    exact first.bind fun _ _ => ih rest

theorem revision_inRange (t : Table) (record : Record) (identifier : Value) :
    InRange (t.revision record identifier) := by
  refine (checkColumns_inRange t record).bind fun _ _ => ?_
  cases t.schema.keyIndex? with
  | none => simp [InRange]
  | some keyIndex =>
    dsimp only
    split
    · simp [InRange, bind, Except.bind]
    · exact (checkChanges_inRange t record).bind fun _ _ => inRange_ok _

theorem Regular.perform_inRange (regular : t.Regular) (write : Write) : InRange (t.perform write).1 := by
  have verdict : InRange (t.verdict write) := by
    cases write with
    | insert record => exact insertion_inRange t record
    | update record identifier => exact revision_inRange t record identifier
  rcases regular.perform_cases write with ⟨count, changed, _, performed⟩ | ⟨e, refused, performed⟩
  · rw [performed]
    exact inRange_ok count
  · rw [refused] at verdict
    rw [performed]
    intro failed
    cases failed
    exact verdict rfl

end Table

/-! Conditions. -/

namespace Sql

theorem Literal.value_inRange (l : Literal) : InRange l.value := by
  cases l with
  | number digits =>
    dsimp only [Literal.value]
    split
    · exact inRange_ok _
    · split <;> simp [InRange]
  | _ => simp [InRange, Literal.value]

theorem BinaryOp.apply_inRange (op : BinaryOp) (left right : Value) : InRange (op.apply left right) := by
  cases op with
  | compare c =>
    dsimp only [BinaryOp.apply]
    split <;> exact inRange_ok _
  | _ => simp [InRange, BinaryOp.apply]

theorem UnaryOp.apply_inRange (op : UnaryOp) (value : Value) : InRange (op.apply value) := by
  cases op <;> cases value <;> simp [InRange, UnaryOp.apply]

theorem columnValue_inRange (schema : Schema) (row : Row) (name : Text) :
    InRange (columnValue schema row name) := by
  unfold columnValue
  split <;> simp [InRange]

mutual

theorem evaluate_inRange (schema : Schema) (row : Row) : (e : Expr) → InRange (evaluate schema row e)
  | .column name => by
    rw [evaluate]
    exact columnValue_inRange schema row name
  | .literal l => by
    rw [evaluate]
    exact l.value_inRange
  | .nested inner => by
    rw [evaluate]
    exact evaluate_inRange schema row inner
  | .unary op operand => by
    rw [evaluate]
    exact (evaluate_inRange schema row operand).bind fun value _ => op.apply_inRange value
  | .binary op left right => by
    rw [evaluate]
    refine (evaluate_inRange schema row left).bind fun first _ => ?_
    refine (evaluate_inRange schema row right).bind fun second _ => ?_
    exact op.apply_inRange first second
  | .like negated operand pattern => by
    rw [evaluate]
    refine (evaluate_inRange schema row operand).bind fun value _ => ?_
    refine (evaluate_inRange schema row pattern).bind fun shape _ => ?_
    split <;> exact inRange_ok _
  | .inList negated operand items => by
    rw [evaluate]
    refine (evaluate_inRange schema row operand).bind fun value _ => ?_
    split
    · exact inRange_ok _
    · exact (someItemSame_inRange schema row value items).bind fun _ _ => inRange_ok _
  | .isNull negated operand => by
    rw [evaluate]
    exact (evaluate_inRange schema row operand).bind fun _ _ => inRange_ok _
  | .unsupported => by
    rw [evaluate]
    simp [InRange]

theorem someItemSame_inRange (schema : Schema) (row : Row) (value : Value) :
    (items : List Expr) → InRange (someItemSame schema row value items)
  | [] => by
    rw [someItemSame]
    exact inRange_ok _
  | item :: rest => by
    rw [someItemSame]
    refine (evaluate_inRange schema row item).bind fun found _ => ?_
    split
    · exact inRange_ok _
    · exact someItemSame_inRange schema row value rest

end

namespace Predicate

theorem parse_inRange (table condition : Text) : InRange (parse table condition) := by
  unfold parse
  split <;> simp [InRange]

theorem filter_inRange (p : Predicate) (schema : Schema) (rows : List Row) :
    InRange (p.filter schema rows) := by
  induction rows with
  | nil => exact inRange_ok _
  | cons row rows ih =>
    have selects : InRange (p.selects schema row) :=
      (evaluate_inRange schema row p.condition).bind fun _ _ => inRange_ok _
    exact selects.bind fun _ _ => ih.bind fun _ _ => inRange_ok _

/-- Whether the predicate is true of the row. A failure counts as no. -/
def accepts (p : Predicate) (schema : Schema) (row : Row) : Bool :=
  match p.selects schema row with
  | .ok b => b
  | .error _ => false

theorem accepts_iff {p : Predicate} {schema : Schema} {row : Row} :
    p.accepts schema row = true ↔ p.selects schema row = .ok true := by
  unfold accepts
  cases p.selects schema row <;> simp

theorem filter_eq_ok {p : Predicate} {schema : Schema} {rows kept : List Row}
    (filtered : p.filter schema rows = .ok kept) : kept = rows.filter (p.accepts schema) := by
  induction rows generalizing kept with
  | nil =>
    cases filtered
    rfl
  | cons row rows ih =>
    obtain ⟨keep, selects, filtered⟩ := Filter.bind_eq_ok filtered
    obtain ⟨rest, others, filtered⟩ := Filter.bind_eq_ok filtered
    cases filtered
    have accepts : p.accepts schema row = keep := by rw [accepts, selects]
    rw [ih others, List.filter_cons, accepts]

end Predicate

end Sql

/-! Sorting. -/

namespace Row

variable {keys : List (Nat × Direction)} {row a b : Row} {rows placed : List Row}

def Covers (row : Row) (keys : List (Nat × Direction)) : Prop := ∀ key ∈ keys, key.1 < row.length

/-- The order of two rows, of which all values are there. -/
def lexOrder : List (Nat × Direction) → Row → Row → Ordering
  | [], _, _ => .eq
  | (index, direction) :: keys, a, b =>
    (direction.orient ((a.cell index).sortOrder (b.cell index))).then (lexOrder keys a b)

/-- The rows in order, where a row is put behind those that it does not precede. -/
def sorted (keys : List (Nat × Direction)) (rows : List Row) : List Row :=
  (rows.reverse.insertionSort fun a b => lexOrder keys a b ≠ .lt).reverse

theorem perm_sorted (keys : List (Nat × Direction)) (rows : List Row) : (sorted keys rows).Perm rows :=
  (List.reverse_perm _).trans ((List.perm_insertionSort _ _).trans (List.reverse_perm _))

theorem order_eq (first : a.Covers keys) (second : b.Covers keys) :
    order keys a b = .ok (lexOrder keys a b) := by
  induction keys with
  | nil => rfl
  | cons key keys ih =>
    obtain ⟨here, later⟩ := List.forall_mem_cons.1 first
    obtain ⟨here', later'⟩ := List.forall_mem_cons.1 second
    rw [order, lookUp_cell here, lookUp_cell here', lexOrder]
    dsimp only [bind, Except.bind]
    cases key.2.orient ((a.cell key.1).sortOrder (b.cell key.1)) with
    | eq => exact ih later later'
    | _ => rfl

theorem insertSorted_eq (covers : row.Covers keys) (each : ∀ row ∈ rows, row.Covers keys) :
    insertSorted keys row rows =
      .ok (rows.orderedInsert (fun a b => lexOrder keys a b ≠ .lt) row) := by
  induction rows with
  | nil => rfl
  | cons last rest ih =>
    obtain ⟨here, later⟩ := List.forall_mem_cons.1 each
    rw [insertSorted, order_eq covers here, ih later, List.orderedInsert]
    dsimp only [bind, Except.bind]
    cases lexOrder keys row last <;> rfl

theorem foldlM_insertSorted (each : ∀ row ∈ rows, row.Covers keys)
    (before : ∀ row ∈ placed, row.Covers keys) :
    rows.foldlM (fun placed row => insertSorted keys row placed) placed =
      .ok (rows.foldl (fun placed row =>
        placed.orderedInsert (fun a b => lexOrder keys a b ≠ .lt) row) placed) := by
  induction rows generalizing placed with
  | nil => rfl
  | cons row rows ih =>
    obtain ⟨here, later⟩ := List.forall_mem_cons.1 each
    rw [List.foldlM_cons, insertSorted_eq here before, List.foldl_cons]
    refine ih later ?_
    intro other member
    rcases List.mem_cons.1 ((List.perm_orderedInsert _ _ _).mem_iff.1 member) with rfl | old
    · exact here
    · exact before other old

theorem sort_eq (each : ∀ row ∈ rows, row.Covers keys) : sort keys rows = .ok (sorted keys rows) := by
  rw [sort, foldlM_insertSorted each (by simp), sorted, List.insertionSort, List.foldr_reverse]
  rfl

end Row

/-! Answers. -/

theorem Schema.index_eq_ok_iff {s : Schema} {name : Text} {index : Nat} :
    s.index name = .ok index ↔ s.indexOf? name = some index := by
  unfold Schema.index
  cases s.indexOf? name <;> simp

theorem Schema.index_inRange (s : Schema) (name : Text) : InRange (s.index name) := by
  unfold Schema.index
  split <;> simp [InRange]

theorem Schema.projection_inRange (s : Schema) (names : List Text) : InRange (s.projection names) := by
  unfold Schema.projection
  split
  · exact inRange_ok _
  · exact inRange_mapM fun name _ => s.index_inRange name

theorem Schema.projection_inside {s : Schema} {names : List Text} {places : List Nat}
    (projected : s.projection names = .ok places) : ∀ index ∈ places, index < s.columns.length := by
  intro index member
  unfold Schema.projection at projected
  split at projected
  case isTrue =>
    cases projected
    exact List.mem_range.1 member
  case isFalse =>
    obtain ⟨name, _, found⟩ := (mem_of_mapM projected).2 index member
    exact indexOf?_inside (index_eq_ok_iff.1 found)

namespace Table

variable {t : Table} {order : List SortKey} {columns : List Text} {rows : List Row} {result : ResultSet}

theorem selected_inRange (t : Table) (condition : Option Text) : InRange (t.selected condition) := by
  cases condition with
  | none => exact inRange_ok _
  | some text =>
    exact (Sql.Predicate.parse_inRange t.name text).bind fun p _ => p.filter_inRange t.schema t.rows

theorem mem_of_mem_selected {condition : Option Text} (selected : t.selected condition = .ok rows) :
    ∀ row ∈ rows, row ∈ t.rows := by
  cases condition with
  | none =>
    cases selected
    intro row member
    exact member
  | some text =>
    obtain ⟨predicate, _, filtered⟩ := Filter.bind_eq_ok selected
    rw [Sql.Predicate.filter_eq_ok filtered]
    exact fun row member => (List.mem_filter.1 member).1

def resolve (t : Table) (order : List SortKey) : Except StoreError (List (Nat × Direction)) :=
  order.mapM fun key => do return (← t.schema.index key.column, key.direction)

theorem resolve_inRange (t : Table) (order : List SortKey) : InRange (t.resolve order) :=
  inRange_mapM fun key _ => (t.schema.index_inRange key.column).bind fun _ _ => inRange_ok _

theorem resolve_inside {keys : List (Nat × Direction)} (resolved : t.resolve order = .ok keys) :
    ∀ key ∈ keys, key.1 < t.schema.columns.length := by
  intro place member
  obtain ⟨key, _, made⟩ := (mem_of_mapM resolved).2 place member
  obtain ⟨index, found, made⟩ := Filter.bind_eq_ok made
  cases made
  exact Schema.indexOf?_inside (Schema.index_eq_ok_iff.1 found)

/-- The answer that is made of rows of the right width: the rows are sorted and cut down without fail. -/
theorem present_eq (wide : ∀ row ∈ rows, row.length = t.schema.columns.length) :
    t.present order columns rows = (do
      let keys ← t.resolve order
      let places ← t.schema.projection columns
      let header ← places.mapM (lookUp t.schema.columns)
      return {
        columns := header.map Column.name
        rows := (Row.sorted keys rows).map fun row => places.map row.cell }) := by
  refine bind_congr_ok fun keys resolved => ?_
  have covers : ∀ row ∈ rows, row.Covers keys := by
    intro row member key there
    rw [wide row member]
    exact resolve_inside resolved key there
  rw [Row.sort_eq covers]
  show (t.schema.projection columns >>= _) = _
  refine bind_congr_ok fun places projected => bind_congr_ok fun header _ => ?_
  have cells : (Row.sorted keys rows).mapM (fun row => places.mapM (lookUp row)) =
      .ok ((Row.sorted keys rows).map fun row => places.map row.cell) := by
    refine mapM_ok fun row member => mapM_ok fun index there => lookUp_cell ?_
    rw [wide row ((Row.perm_sorted keys rows).mem_iff.1 member)]
    exact Schema.projection_inside projected index there
  rw [cells]
  rfl

theorem present_inRange (wide : ∀ row ∈ rows, row.length = t.schema.columns.length)
    (order : List SortKey) (columns : List Text) : InRange (t.present order columns rows) := by
  rw [present_eq wide]
  refine (resolve_inRange t order).bind fun keys _ => ?_
  refine (t.schema.projection_inRange columns).bind fun places projected => ?_
  refine InRange.bind (inRange_mapM fun index member => ?_) fun header _ => inRange_ok _
  have there := List.getElem?_eq_getElem (Schema.projection_inside projected index member)
  exact inRange_of_eq_ok (lookUp_eq_ok_iff.2 there)

theorem width_present (wide : ∀ row ∈ rows, row.length = t.schema.columns.length)
    (presented : t.present order columns rows = .ok result) :
    ∀ row ∈ result.rows, row.length = result.columns.length := by
  rw [present_eq wide] at presented
  obtain ⟨keys, _, presented⟩ := Filter.bind_eq_ok presented
  obtain ⟨places, _, presented⟩ := Filter.bind_eq_ok presented
  obtain ⟨header, found, presented⟩ := Filter.bind_eq_ok presented
  cases presented
  intro row member
  obtain ⟨whole, _, rfl⟩ := List.mem_map.1 member
  rw [List.length_map, List.length_map]
  exact (mapM_eq_ok_iff.1 found).length_eq

theorem Regular.wide (regular : t.Regular) {condition : Option Text}
    (selected : t.selected condition = .ok rows) :
    ∀ row ∈ rows, row.length = t.schema.columns.length := by
  intro row member
  exact (regular row (mem_of_mem_selected selected row member)).length

theorem Regular.answer_inRange (regular : t.Regular) (q : PendingQuery) : InRange (t.answer q) :=
  (selected_inRange t q.condition).bind fun _ selected =>
    present_inRange (regular.wide selected) q.order q.columns

end Table

/-! Stores. -/

namespace MemoryStore

/-- The store has come about from an empty one by calls of its own operations, refused ones included. -/
inductive Reachable : MemoryStore → Prop where
  | empty : Reachable {}
  | create {s : MemoryStore} (before : Reachable s) (name : Text) (schema : Schema) :
      Reachable (s.createTable name schema).2
  | insert {s : MemoryStore} (before : Reachable s) (name : Text) (record : Record) :
      Reachable (s.insert name record).2
  | update {s : MemoryStore} (before : Reachable s) (name : Text) (record : Record)
      (identifier : Value) : Reachable (s.update name record identifier).2
  | select {s : MemoryStore} (before : Reachable s) (columns : List Text) : Reachable (s.select columns)
  | fromTable {s : MemoryStore} (before : Reachable s) (name : Text) : Reachable (s.fromTable name)
  | onCondition {s : MemoryStore} (before : Reachable s) (condition : Text) :
      Reachable (s.onCondition condition)
  | orderBy {s : MemoryStore} (before : Reachable s) (key : SortKey) : Reachable (s.orderBy key)
  | execute {s : MemoryStore} (before : Reachable s) : Reachable s.execute.2

def Regular (s : MemoryStore) : Prop := ∀ t ∈ s.tables, t.Regular

variable {s : MemoryStore} {name : Text} {operation : Table → Except StoreError Nat × Table}

theorem mem_replace {changed t : Table} (member : t ∈ (s.replace changed).tables) :
    t = changed ∨ t ∈ s.tables := by
  obtain ⟨old, there, rfl⟩ := List.mem_map.1 member
  by_cases replaced : old.name = changed.name
  · exact .inl (if_pos replaced)
  · rw [if_neg replaced]
    exact .inr there

theorem table_eq_ok {t : Table} (found : s.table name = .ok t) : s.find? name = some t ∧ t.name = name := by
  unfold table at found
  split at found
  case h_1 t' there =>
    cases found
    exact ⟨there, by simpa using List.find?_some there⟩
  case h_2 => cases found

theorem mem_of_table {t : Table} (found : s.table name = .ok t) : t ∈ s.tables :=
  List.mem_of_find?_eq_some (table_eq_ok found).1

theorem onTable_cases (s : MemoryStore) (name : Text) (operation : Table → Except StoreError Nat × Table) :
    (∃ t, s.table name = .ok t ∧
      s.onTable name operation = ((operation t).1, s.replace (operation t).2)) ∨
      s.table name = .error (.tableNotFound name) ∧
        s.onTable name operation = (.error (.tableNotFound name), s) := by
  unfold onTable table
  cases s.find? name with
  | none => exact .inr ⟨rfl, rfl⟩
  | some t => exact .inl ⟨t, rfl, rfl⟩

theorem Regular.onTable (regular : s.Regular) (name : Text)
    (keeps : ∀ t : Table, t.Regular → (operation t).2.Regular) : (s.onTable name operation).2.Regular := by
  rcases onTable_cases s name operation with ⟨old, found, performed⟩ | ⟨_, performed⟩
  · rw [performed]
    intro t member
    rcases mem_replace member with rfl | kept
    · exact keeps old (regular old (mem_of_table found))
    · exact regular t kept
  · rw [performed]
    exact regular

theorem Regular.createTable (regular : s.Regular) (name : Text) (schema : Schema) :
    (s.createTable name schema).2.Regular := by
  unfold MemoryStore.createTable
  split
  case isTrue => exact regular
  case isFalse =>
    intro t member
    rcases List.mem_append.1 member with old | new
    · exact regular t old
    · rw [List.mem_singleton.1 new]
      exact Table.regular_empty name schema

theorem Reachable.regular (reachable : Reachable s) : s.Regular := by
  induction reachable with
  | empty =>
    intro t member
    cases member
  | create before name schema ih => exact ih.createTable name schema
  | insert before name record ih =>
    exact ih.onTable name fun t regular => (regular.after (.insert record)).1
  | update before name record identifier ih =>
    exact ih.onTable name fun t regular => (regular.after (.update record identifier)).1
  | select before columns ih => exact ih
  | fromTable before name ih => exact ih
  | onCondition before condition ih => exact ih
  | orderBy before key ih => exact ih
  | execute before ih => exact ih

theorem Regular.onTable_inRange (regular : s.Regular) (name : Text)
    (each : ∀ t : Table, t.Regular → InRange (operation t).1) :
    InRange (s.onTable name operation).1 := by
  rcases onTable_cases s name operation with ⟨t, found, performed⟩ | ⟨_, performed⟩
  · rw [performed]
    exact each t (regular t (mem_of_table found))
  · rw [performed]
    simp [InRange]

theorem table_inRange (s : MemoryStore) (name : Text) : InRange (s.table name) := by
  unfold table
  split <;> simp [InRange]

theorem Regular.answer_inRange (regular : s.Regular) : InRange s.answer := by
  unfold answer
  split
  case h_1 => simp [InRange]
  case h_2 name chosen =>
    refine (table_inRange s name).bind fun t found => ?_
    exact (regular t (mem_of_table found)).answer_inRange s.pending

theorem Regular.width_answer (regular : s.Regular) {result : ResultSet} (done : s.answer = .ok result) :
    ∀ row ∈ result.rows, row.length = result.columns.length := by
  unfold answer at done
  split at done
  case h_1 => cases done
  case h_2 name chosen =>
    obtain ⟨t, found, done⟩ := Filter.bind_eq_ok done
    obtain ⟨rows, selected, done⟩ := Filter.bind_eq_ok done
    exact Table.width_present ((regular t (mem_of_table found)).wide selected) done

end MemoryStore

/-- After any writes to an empty table, refused ones included, its schema admits every row, and whatever
write comes next does not come to a place that is not there. The same holds of every table in a store,
however the store has come about, also for queries, and the rows of an answer are as wide as its header. -/
theorem rows_regular (name : Text) (schema : Schema) (writes : List Write) :
    (Table.afterAll { name, schema } writes).schema = schema ∧
    (Table.afterAll { name, schema } writes).Regular ∧
    (∀ write, InRange (Table.perform (.afterAll { name, schema } writes) write).1) ∧
    ∀ s, MemoryStore.Reachable s →
      s.Regular ∧
      (∀ name record, InRange (s.insert name record).1) ∧
      (∀ name record identifier, InRange (s.update name record identifier).1) ∧
      InRange s.execute.1 ∧
      ∀ result, s.execute.1 = .ok result →
        ∀ row ∈ result.rows, row.length = result.columns.length := by
  obtain ⟨regular, same⟩ := (Table.regular_empty name schema).afterAll writes
  refine ⟨same, regular, regular.perform_inRange, ?_⟩
  intro s reachable
  have whole := reachable.regular
  refine ⟨whole, fun name record => ?_, fun name record identifier => ?_, whole.answer_inRange, ?_⟩
  · exact whole.onTable_inRange name fun t regular => regular.perform_inRange (.insert record)
  · exact whole.onTable_inRange name fun t regular => regular.perform_inRange (.update record identifier)
  · intro result done
    exact whole.width_answer done

/-- Two columns of one name: the update reaches the first, the new row both. -/
theorem rows_regular_twins :
    ∃ s result, MemoryStore.Reachable s ∧ s.Regular ∧ InRange s.execute.1 ∧
      s.execute.1 = .ok result ∧ result.rows.length = 1 ∧
      ∀ row ∈ result.rows, row.length = result.columns.length := by
  let id : Text := "id".toList
  let schema : Schema := ⟨[Column.primaryKey { name := id }, { name := id }]⟩
  have updated := ((MemoryStore.Reachable.empty.create ['t'] schema).insert ['t']
    (.ofList [(id, .integer 1)])).update ['t'] (.ofList [(id, .integer 2)]) (.integer 1)
  have asked := ((updated.select [id, id]).fromTable ['t']).orderBy ⟨id, .descending⟩
  obtain ⟨whole, _, _, inRange, width⟩ := (rows_regular ['t'] schema []).2.2.2 _ asked
  exact ⟨_, _, asked, whole, inRange, rfl, rfl, width _ rfl⟩

/-- A row that is too short for its schema stops an update. -/
example :
    let t : Table := { name := ['t'], schema := ⟨[Column.primaryKey { name := ['k'] }]⟩, rows := [[]] }
    (t.update (.ofList []) .null).1 = .error .outOfRange := rfl

end FilterQuery
