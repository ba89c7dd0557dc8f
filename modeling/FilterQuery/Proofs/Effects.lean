import FilterQuery.Proofs.Isolation
import FilterQuery.Proofs.Keys

/-!
What a write does to a table, and when it is accepted. An update writes the entries of the record over
exactly the rows with the key; an insert adds exactly one row. All that is checked is checked before the
first value is written, and nothing goes wrong after that; so a write that is refused has written nothing.
-/

namespace FilterQuery

/-! When a write is accepted. -/

def Schema.Knows (s : Schema) (record : Record) : Prop :=
  ∀ name value, record.get? name = some value → ∃ index, s.indexOf? name = some index

def Schema.rowOf (s : Schema) (record : Record) : Row :=
  s.columns.map fun column => (record.get? column.name).getD .null

namespace Table

structure Insertable (t : Table) (record : Record) : Prop where
  known : t.schema.Knows record
  filled : ∀ column ∈ t.schema.columns, column.Admits ((record.get? column.name).getD .null)
  fresh : ∀ keyIndex, t.schema.keyIndex? = some keyIndex → ∀ row ∈ t.rows,
    (row.cell keyIndex).compare ((t.schema.rowOf record).cell keyIndex) ≠ some .eq

/-- The record may give a key that only the rows to be updated have. -/
structure Updatable (t : Table) (record : Record) (identifier : Value) : Prop where
  known : t.schema.Knows record
  keyed : ∃ keyIndex, t.schema.keyIndex? = some keyIndex
  fresh : ∀ keyIndex column key, t.schema.keyIndex? = some keyIndex →
    t.schema.columns[keyIndex]? = some column → record.get? column.name = some key →
    ∀ row ∈ t.rows, (row.cell keyIndex).compare key = some .eq →
      (row.cell keyIndex).compare identifier = some .eq
  filled : ∀ name value index column, record.get? name = some value →
    t.schema.indexOf? name = some index → t.schema.columns[index]? = some column →
    column.Admits value

variable {t changed : Table} {record : Record} {identifier : Value} {keyIndex count : Nat} {column : Column}
  {row : Row}

theorem checkColumns_eq_ok_iff : t.checkColumns record = .ok () ↔ t.schema.Knows record := by
  have named : (∀ name ∈ record.names, ¬ (t.schema.indexOf? name).isNone = true) ↔
      t.schema.Knows record := by
    simp only [Bindings.names, List.mem_map, Prod.exists, exists_and_right, exists_eq_right, mem_entries,
      Option.isNone_iff_eq_none, Option.ne_none_iff_exists', Schema.Knows, forall_exists_index,
      ← ne_eq]
  rw [← named, ← List.find?_eq_none, checkColumns]
  split
  case h_1 name missing => simp [missing]
  case h_2 none => simp [none]

theorem keyClashes_eq_false_iff (there : t.schema.columns[keyIndex]? = some column) :
    t.keyClashes keyIndex record identifier = false ↔
      ∀ key, record.get? column.name = some key → ∀ row ∈ t.rows,
        (row.cell keyIndex).compare key = some .eq →
          (row.cell keyIndex).compare identifier = some .eq := by
  rw [keyClashes, there, Option.bind_some]
  cases record.get? column.name with
  | none => simp
  | some key => simp [keyed, Value.same]

theorem checkChanges_eq_ok_iff : (t.assignments record).forM t.checkChange = .ok () ↔
    ∀ name value index column, record.get? name = some value →
      t.schema.indexOf? name = some index → t.schema.columns[index]? = some column →
      column.Admits value := by
  rw [forM_eq_ok_iff]
  constructor
  · intro each name value index column given found there
    have member := mem_assignments.2 ⟨name, mem_entries.2 given, found⟩
    exact (checkChange_eq_ok_iff there).1 (each _ member)
  · rintro filled ⟨index, value⟩ member
    obtain ⟨name, given, found⟩ := mem_assignments.1 member
    obtain ⟨column, there, _⟩ := Schema.column_of_indexOf? found
    exact (checkChange_eq_ok_iff there).2
      (filled name value index column (mem_entries.1 given) found there)

theorem revision_eq_ok_iff : (∃ count changed, t.revision record identifier = .ok (count, changed)) ↔
    t.Updatable record identifier := by
  constructor
  · rintro ⟨count, changed, done⟩
    obtain ⟨_, known, _⟩ := Filter.bind_eq_ok done
    obtain ⟨keyIndex, isKey, unclashed, checked, _⟩ := revision_eq_ok done
    refine ⟨checkColumns_eq_ok_iff.1 known, ⟨keyIndex, isKey⟩, ?_, checkChanges_eq_ok_iff.1 checked⟩
    intro keyIndex' column key isKey' there given
    obtain rfl := Option.some.inj (isKey.symm.trans isKey')
    exact (keyClashes_eq_false_iff there).1 unclashed key given
  · intro updatable
    obtain ⟨keyIndex, isKey⟩ := updatable.keyed
    have there := List.getElem?_eq_getElem (Schema.keyIndex?_inside isKey)
    have unclashed : t.keyClashes keyIndex record identifier = false :=
      (keyClashes_eq_false_iff there).2 fun key => updatable.fresh keyIndex _ key isKey there
    refine ⟨t.rows.countP (keyed keyIndex identifier),
      t.updated keyIndex identifier (t.assignments record), ?_⟩
    simp only [revision, checkColumns_eq_ok_iff.2 updatable.known, isKey, unclashed,
      checkChanges_eq_ok_iff.2 updatable.filled]
    rfl

theorem newRow_eq_ok_iff : t.newRow record = .ok row ↔
    row = t.schema.rowOf record ∧
      ∀ column ∈ t.schema.columns, column.Admits ((record.get? column.name).getD .null) := by
  have whole {row : Row} (made : t.newRow record = .ok row) : row = t.schema.rowOf record := by
    have each := (mapM_eq_ok_iff.1 made).imp fun column value checked => (checkNull_eq_ok checked).1.symm
    rwa [← List.forall₂_map_left_iff, List.forall₂_eq_eq_eq, eq_comm] at each
  have made : (∃ row, t.newRow record = .ok row) ↔
      ∀ column ∈ t.schema.columns, column.Admits ((record.get? column.name).getD .null) := by
    simp only [newRow, exists_mapM_iff, checkNull_eq_ok_iff]
  constructor
  · intro done
    exact ⟨whole done, made.1 ⟨row, done⟩⟩
  · rintro ⟨rfl, filled⟩
    obtain ⟨row, done⟩ := made.2 filled
    rwa [whole done] at done

theorem insertion_eq_ok_iff : t.insertion record = .ok (count, changed) ↔
    count = 1 ∧ changed = { t with rows := t.rows ++ [t.schema.rowOf record] } ∧ t.Insertable record := by
  constructor
  · intro done
    obtain ⟨_, known, _⟩ := Filter.bind_eq_ok done
    obtain ⟨row, made, rfl, rfl, fresh⟩ := insertion_eq_ok done
    obtain ⟨rfl, filled⟩ := newRow_eq_ok_iff.1 made
    refine ⟨rfl, rfl, checkColumns_eq_ok_iff.1 known, filled, ?_⟩
    intro keyIndex isKey row member
    simpa [keyed, Value.same] using List.any_eq_false.1 (fresh keyIndex isKey) row member
  · rintro ⟨rfl, rfl, insertable⟩
    have made := newRow_eq_ok_iff.2 ⟨rfl, insertable.filled⟩
    simp only [insertion, checkColumns_eq_ok_iff.2 insertable.known, made, bind, Except.bind]
    cases isKey : t.schema.keyIndex? with
    | none => rfl
    | some keyIndex =>
      have fresh : t.rows.any (keyed keyIndex ((t.schema.rowOf record).cell keyIndex)) = false := by
        simpa [keyed, Value.same] using insertable.fresh keyIndex isKey
      simp only [fresh]
      rfl

end Table

/-! What an update makes of a row and of the table. -/

/-- The new row has the values of the record at the first columns of their names, and is else the old. -/
structure Schema.Overwrites (s : Schema) (record : Record) (old new : Row) : Prop where
  length : new.length = old.length
  given : ∀ name value index, record.get? name = some value → s.indexOf? name = some index →
    new[index]? = some value
  spared : ∀ index, (∀ name, s.indexOf? name = some index → record.get? name = none) →
    new[index]? = old[index]?

namespace Table

/-- So many rows have the key. They are overwritten; the others are as they were, and all in their order. -/
structure UpdatedTo (t : Table) (record : Record) (identifier : Value) (count : Nat)
    (changed : Table) : Prop where
  name : changed.name = t.name
  schema : changed.schema = t.schema
  rows : ∃ keyIndex, t.schema.keyIndex? = some keyIndex ∧
    count = t.rows.countP (fun row => (row.cell keyIndex).compare identifier = some .eq) ∧
    List.Forall₂ (fun old new =>
      if (old.cell keyIndex).compare identifier = some .eq then t.schema.Overwrites record old new
      else new = old) t.rows changed.rows

variable {t changed : Table} {record : Record} {identifier : Value} {count : Nat} {row : Row}

theorem overwrites_assign (admitted : t.schema.Admits row) :
    t.schema.Overwrites record row (assign row (t.assignments record)) where
  length := length_assign row _
  given name value index given found := by
    have inside : index < row.length := admitted.length ▸ Schema.indexOf?_inside found
    rw [getElem?_eq_cell (by rwa [length_assign]), cell_assign_given found given inside]
  spared index spared := by
    by_cases inside : index < row.length
    · rw [getElem?_eq_cell (by rwa [length_assign]), getElem?_eq_cell inside,
        cell_assign_spared spared inside]
    · have outside := Nat.le_of_not_lt inside
      rw [List.getElem?_eq_none outside, List.getElem?_eq_none (by rwa [length_assign])]

theorem Regular.updatedTo (regular : t.Regular)
    (done : t.revision record identifier = .ok (count, changed)) :
    t.UpdatedTo record identifier count changed := by
  obtain ⟨keyIndex, isKey, _, _, rfl, rfl⟩ := revision_eq_ok done
  refine ⟨rfl, rfl, keyIndex, isKey, rfl, ?_⟩
  rw [updated, List.forall₂_map_right_iff, List.forall₂_same]
  intro row member
  simp only [keyed, Value.same, decide_eq_true_eq]
  split
  · exact overwrites_assign (regular row member)
  · rfl

theorem Regular.ne_outOfRange (regular : t.Regular) {write : Write} {e : StoreError}
    (refused : t.perform write = (.error e, t)) : e ≠ .outOfRange := by
  rintro rfl
  exact regular.perform_inRange write (congrArg Prod.fst refused)

/-- The table has come about from an empty one by writes, or in a store. -/
def Reachable (t : Table) : Prop :=
  (∃ name schema writes, t = afterAll { name, schema } writes) ∨
    ∃ s, MemoryStore.Reachable s ∧ t ∈ s.tables

theorem Reachable.regular (reachable : t.Reachable) : t.Regular := by
  rcases reachable with ⟨name, schema, writes, rfl⟩ | ⟨s, reachable, member⟩
  · exact ((regular_empty name schema).afterAll writes).1
  · exact reachable.regular t member

end Table

/-! Writes through a store. -/

namespace MemoryStore

variable {s : MemoryStore}

def Distinct (s : MemoryStore) : Prop := (s.tables.map Table.name).Nodup

theorem Distinct.onTable (distinct : s.Distinct) (name : Text)
    (operation : Table → Except StoreError Nat × Table) : (s.onTable name operation).2.Distinct := by
  rcases onTable_cases s name operation with ⟨t, _, performed⟩ | ⟨_, performed⟩
  · have names : (s.replace (operation t).2).tables.map Table.name = s.tables.map Table.name := by
      rw [replace, List.map_map]
      refine List.map_congr_left fun old _ => ?_
      by_cases replaced : old.name = (operation t).2.name <;> simp [replaced]
    rw [performed, Distinct, names]
    exact distinct
  · rw [performed]
    exact distinct

theorem Distinct.createTable (distinct : s.Distinct) (name : Text) (schema : Schema) :
    (s.createTable name schema).2.Distinct := by
  cases there : s.find? name with
  | some t =>
    rw [createTable_taken there]
    exact distinct
  | none =>
    rw [createTable_fresh there]
    have fresh : name ∉ s.tables.map Table.name := by
      intro taken
      obtain ⟨t, member, named⟩ := List.mem_map.1 taken
      exact absurd named (by simpa using List.find?_eq_none.1 there t member)
    rw [Distinct, List.map_append]
    exact List.Nodup.append distinct (List.nodup_singleton name) (by simpa using fresh)

theorem Reachable.distinct (reachable : Reachable s) : s.Distinct := by
  induction reachable with
  | empty => exact List.nodup_nil
  | create before name schema ih => exact ih.createTable name schema
  | insert before name record ih => exact ih.onTable name _
  | update before name record identifier ih => exact ih.onTable name _
  | select before columns ih => exact ih
  | fromTable before name ih => exact ih
  | onCondition before condition ih => exact ih
  | orderBy before key ih => exact ih
  | execute before ih => exact ih

theorem Distinct.replace_self (distinct : s.Distinct) {t : Table} (member : t ∈ s.tables) :
    s.replace t = s := by
  have same : (s.tables.map fun old => if old.name = t.name then t else old) = s.tables := by
    refine (List.map_congr_left fun old there => ?_).trans s.tables.map_id
    split
    case isTrue named => exact List.inj_on_of_nodup_map distinct member there named.symm
    case isFalse => rfl
  rw [replace, same]

end MemoryStore

section Store

variable {s : MemoryStore} {t changed : Table} {write : Write} {count : Nat} {e : StoreError}

theorem onTable_ok (found : s.table t.name = .ok t) (done : t.perform write = (.ok count, changed)) :
    s.onTable t.name (·.perform write) = (.ok count, s.replace changed) := by
  simp [MemoryStore.onTable, found, done]

theorem onTable_error (reachable : s.Reachable) (found : s.table t.name = .ok t)
    (refused : t.perform write = (.error e, t)) :
    s.onTable t.name (·.perform write) = (.error e, s) := by
  simp [MemoryStore.onTable, found, refused,
    reachable.distinct.replace_self (MemoryStore.mem_of_table found)]

end Store

/-- A write to a table that has come about in any way is either accepted or refused, by conditions on the
old rows. An update that is accepted overwrites the rows with the key, says how many they are, and leaves the
others alone; an insert adds the row of the record. One that is refused leaves the table, and the store that
holds it, as it was. -/
theorem writes_exact {t : Table} (reachable : t.Reachable) (record : Record) (identifier : Value) :
    ((∃ count changed, t.update record identifier = (.ok count, changed) ∧
        t.Updatable record identifier ∧ t.UpdatedTo record identifier count changed ∧
        ∀ s : MemoryStore, s.table t.name = .ok t →
          updateRecord s t.name record identifier = (.ok count, s.replace changed)) ∨
      ∃ e, t.update record identifier = (.error e, t) ∧ e ≠ .outOfRange ∧
        ¬ t.Updatable record identifier ∧
        ∀ s : MemoryStore, s.Reachable → s.table t.name = .ok t →
          updateRecord s t.name record identifier = (.error (.backend e), s)) ∧
    ((t.insert record = (.ok 1, { t with rows := t.rows ++ [t.schema.rowOf record] }) ∧
        t.Insertable record ∧
        ∀ s : MemoryStore, s.table t.name = .ok t →
          insertRecord s t.name record =
            (.ok 1, s.replace { t with rows := t.rows ++ [t.schema.rowOf record] })) ∨
      ∃ e, t.insert record = (.error e, t) ∧ e ≠ .outOfRange ∧ ¬ t.Insertable record ∧
        ∀ s : MemoryStore, s.Reachable → s.table t.name = .ok t →
          insertRecord s t.name record = (.error (.backend e), s)) := by
  have regular := reachable.regular
  constructor
  · rcases regular.perform_cases (.update record identifier) with
      ⟨count, changed, done, performed⟩ | ⟨e, refused, performed⟩
    · refine .inl ⟨count, changed, performed, Table.revision_eq_ok_iff.1 ⟨count, changed, done⟩,
        regular.updatedTo done, fun s found => ?_⟩
      rw [updateRecord_eq, onTable_ok found performed]
      rfl
    · refine .inr ⟨e, performed, ?_, fun updatable => ?_, fun s whole found => ?_⟩
      · exact regular.ne_outOfRange performed
      · obtain ⟨count, changed, accepted⟩ := Table.revision_eq_ok_iff.2 updatable
        cases refused.symm.trans accepted
      · rw [updateRecord_eq, onTable_error whole found performed]
        rfl
  · rcases regular.perform_cases (.insert record) with
      ⟨count, changed, done, performed⟩ | ⟨e, refused, performed⟩
    · obtain ⟨rfl, rfl, insertable⟩ := Table.insertion_eq_ok_iff.1 done
      refine .inl ⟨performed, insertable, fun s found => ?_⟩
      rw [insertRecord_eq, onTable_ok found performed]
      rfl
    · refine .inr ⟨e, performed, ?_, fun insertable => ?_, fun s whole found => ?_⟩
      · exact regular.ne_outOfRange performed
      · cases refused.symm.trans (Table.insertion_eq_ok_iff.2 ⟨rfl, rfl, insertable⟩)
      · rw [insertRecord_eq, onTable_error whole found performed]
        rfl

/-- The number 1 is the key of both rows, `1` and `1.0`; of two columns with the name `a` the first is
written. -/
theorem writes_exact_twins :
    ∃ (t : Table) (record : Record) (changed : Table), t.Reachable ∧ t.Updatable record (.integer 1) ∧
      t.UpdatedTo record (.integer 1) 2 changed := by
  let id : Text := "id".toList
  let schema : Schema := ⟨[Column.primaryKey { name := id }, { name := ['a'] }, { name := ['a'] }]⟩
  let t := Table.afterAll { name := ['t'], schema } [.insert (.ofList [(id, .text ['1'])]),
    .insert (.ofList [(id, .text "1.0".toList), (['a'], .integer 3)])]
  let record : Record := .ofList [(['a'], .integer 7)]
  have reachable : t.Reachable := .inl ⟨_, _, _, rfl⟩
  have counted : (t.update record (.integer 1)).1.toOption = some 2 := by decide +kernel
  rcases (writes_exact reachable record (.integer 1)).1 with
    ⟨count, changed, done, updatable, updated, _⟩ | ⟨e, refused, _⟩
  · rw [done] at counted
    cases counted
    exact ⟨t, record, changed, reachable, updatable, updated⟩
  · rw [refused] at counted
    cases counted

end FilterQuery
