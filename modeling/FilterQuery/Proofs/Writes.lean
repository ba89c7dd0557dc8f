import Mathlib
import FilterQuery.Proofs.Moves
import FilterQuery.Proofs.Traversal
import FilterQuery.Table.Basic

/-!
What a write does to a table, step by step. An operation on a table takes back nothing that it has written,
and breaks off where it counts on a place that is not there. On a table whose rows are as wide as its
schema every such place is there; so a write is refused before the first value is written, or comes to
its end.
-/

namespace FilterQuery

/-! Places that are there. -/

section Places

variable {α : Type} {xs : List α} {x : α} {index : Nat} {row : Row}

theorem lookUp_eq_ok_iff : lookUp xs index = .ok x ↔ xs[index]? = some x := by
  unfold lookUp
  cases xs[index]? <;> simp

theorem putAt_inside (inside : index < xs.length) : putAt xs index x = .ok (xs.set index x) :=
  if_pos inside

theorem getElem?_eq_cell (inside : index < row.length) : row[index]? = some (row.cell index) := by
  simp [Row.cell, inside]

theorem lookUp_cell (inside : index < row.length) : lookUp row index = .ok (row.cell index) :=
  lookUp_eq_ok_iff.2 (getElem?_eq_cell inside)

end Places

/-! Rows as the schema has them. -/

def Column.Admits (column : Column) (value : Value) : Prop :=
  column.nullable = false → value ≠ .null

/-- The row has a value for each column, one that the column takes. -/
def Schema.Admits (s : Schema) (row : Row) : Prop := List.Forall₂ Column.Admits s.columns row

namespace Schema

variable {s : Schema} {row : Row} {index : Nat} {name other : Text}

theorem Admits.length (admitted : s.Admits row) : row.length = s.columns.length :=
  (List.Forall₂.length_eq admitted).symm

theorem indexOf?_inside (found : s.indexOf? name = some index) : index < s.columns.length :=
  (List.findIdx?_eq_some_iff_getElem.1 found).1

theorem keyIndex?_inside (found : s.keyIndex? = some index) : index < s.columns.length :=
  (List.findIdx?_eq_some_iff_getElem.1 found).1

theorem column_of_indexOf? (found : s.indexOf? name = some index) :
    ∃ column, s.columns[index]? = some column ∧ column.name = name := by
  obtain ⟨inside, named, _⟩ := List.findIdx?_eq_some_iff_getElem.1 found
  exact ⟨_, List.getElem?_eq_getElem inside, by simpa using named⟩

theorem indexOf?_inj (found : s.indexOf? name = some index) (found' : s.indexOf? other = some index) :
    name = other := by
  obtain ⟨column, here, rfl⟩ := column_of_indexOf? found
  obtain ⟨column', here', rfl⟩ := column_of_indexOf? found'
  rw [here] at here'
  cases here'
  rfl

end Schema

namespace Table

/-- The schema admits every row. -/
def Regular (t : Table) : Prop := ∀ row ∈ t.rows, t.schema.Admits row

theorem regular_empty (name : Text) (schema : Schema) : Regular { name, schema } := by
  intro row none
  cases none

/-! Runs of operations, from one step to the next. -/

namespace Action

variable {α β : Type}

theorem run_bind (first : Action α) (next : α → Action β) (t : Table) :
    (first >>= next).run t =
      match first.run t with
      | (.ok a, t) => (next a).run t
      | (.error e, t) => (.error e, t) := by
  show (match first.run t with | (answer, t) => ExceptT.bindCont next answer t) = _
  rcases first.run t with ⟨_ | _, t⟩ <;> rfl

theorem run_bind_ok {first : Action α} {next : α → Action β} {t after : Table} {a : α}
    (done : first.run t = (.ok a, after)) : (first >>= next).run t = (next a).run after := by
  rw [run_bind, done]

theorem run_lift {checked : Except StoreError α} {a : α} (passed : checked = .ok a)
    (next : α → Action β) (t : Table) : (liftM checked >>= next : Action β).run t = (next a).run t := by
  rw [passed]
  rfl

theorem run_get (next : Table → Action β) (t : Table) :
    (get >>= next : Action β).run t = (next t).run t := rfl

end Action

/-! Rows by their keys. -/

def keyed (keyIndex : Nat) (key : Value) (row : Row) : Bool := (row.cell keyIndex).same key

section Keys

variable {t : Table} {keyIndex : Nat} {key : Value}

theorem hasKey_inside {row : Row} (inside : keyIndex < row.length) :
    hasKey keyIndex key row = .ok (keyed keyIndex key row) := by
  rw [hasKey, lookUp_cell inside]
  rfl

theorem Regular.hasKey (regular : t.Regular) (isKey : t.schema.keyIndex? = some keyIndex) {row : Row}
    (member : row ∈ t.rows) (key : Value) : hasKey keyIndex key row = .ok (keyed keyIndex key row) :=
  hasKey_inside ((regular row member).length ▸ Schema.keyIndex?_inside isKey)

def targets (t : Table) (keyIndex : Nat) (key : Value) : List Nat :=
  (((t.rows.map (keyed keyIndex key)).zipIdx).filter Prod.fst).map Prod.snd

theorem Regular.findByKey (regular : t.Regular) (isKey : t.schema.keyIndex? = some keyIndex)
    (key : Value) : t.findByKey keyIndex key = .ok (t.targets keyIndex key) := by
  rw [Table.findByKey, mapM_ok fun row member => regular.hasKey isKey member key]
  rfl

theorem Regular.someHasKey (regular : t.Regular) (isKey : t.schema.keyIndex? = some keyIndex)
    (key : Value) (counts : Nat → Bool) :
    t.someHasKey keyIndex key counts =
      .ok (t.rows.zipIdx.any fun entry => keyed keyIndex key entry.1 && counts entry.2) := by
  refine anyM_ok ?_
  rintro ⟨row, index⟩ member
  dsimp only
  rw [regular.hasKey isKey (List.fst_mem_of_mem_zipIdx member)]
  rfl

theorem mem_targets {index : Nat} : index ∈ t.targets keyIndex key ↔
    ∃ row, t.rows[index]? = some row ∧ keyed keyIndex key row = true := by
  simp [targets, List.mem_zipIdx_iff_getElem?]

theorem length_targets : (t.targets keyIndex key).length = t.rows.countP (keyed keyIndex key) := by
  rw [targets, List.length_map, ← List.countP_eq_length_filter]
  have places (flags : List Bool) (start : Nat) :
      (flags.zipIdx start).countP Prod.fst = flags.countP id := by
    induction flags generalizing start with
    | nil => rfl
    | cons flag flags ih => simp [List.zipIdx_cons, List.countP_cons, ih]
  rw [places, List.countP_map]
  rfl

theorem nodup_targets : (t.targets keyIndex key).Nodup :=
  (List.filter_sublist.map Prod.snd).nodup (by
    rw [List.zipIdx_map_snd]
    exact List.nodup_range')

end Keys

/-! Writing, value by value and row by row. -/

def assign (row : Row) (changes : List (Nat × Value)) : Row :=
  changes.foldl (fun row change => row.set change.1 change.2) row

theorem length_assign (row : Row) (changes : List (Nat × Value)) :
    (assign row changes).length = row.length := by
  induction changes generalizing row with
  | nil => rfl
  | cons change changes ih => exact (ih _).trans List.length_set

section Loops

variable {t : Table} {row : Row} {rowIndex : Nat} {changes : List (Nat × Value)}

theorem writeCell_run {change : Nat × Value} (there : t.rows[rowIndex]? = some row)
    (inside : change.1 < row.length) :
    (writeCell rowIndex change).run t =
      (.ok (), { t with rows := t.rows.set rowIndex (row.set change.1 change.2) }) := by
  show Action.run (do
    let row ← liftM (lookUp t.rows rowIndex)
    let changed ← liftM (putAt row change.1 change.2)
    set { t with rows := t.rows.set rowIndex changed }) t = _
  rw [Action.run_lift (lookUp_eq_ok_iff.2 there), Action.run_lift (putAt_inside inside)]
  rfl

/-- All changes of a row: each finds the row as the one before has left it. -/
theorem writeCells_run (there : t.rows[rowIndex]? = some row)
    (inside : ∀ change ∈ changes, change.1 < row.length) :
    Action.run (changes.forM (writeCell rowIndex)) t =
      (.ok (), { t with rows := t.rows.set rowIndex (assign row changes) }) := by
  induction changes generalizing t row with
  | nil =>
    have same : t.rows.set rowIndex row = t.rows := by
      obtain ⟨within, rfl⟩ := List.getElem?_eq_some_iff.1 there
      exact List.set_getElem_self within
    rw [assign, List.foldl_nil, same]
    rfl
  | cons change changes ih =>
    obtain ⟨first, rest⟩ := List.forall_mem_cons.1 inside
    have within := (List.getElem?_eq_some_iff.1 there).1
    refine (Action.run_bind_ok (writeCell_run there first)).trans ?_
    rw [ih (List.getElem?_set_self within) (by simpa using rest)]
    simp [assign]

theorem writeRow_run (there : t.rows[rowIndex]? = some row)
    (inside : ∀ change ∈ changes, change.1 < row.length) :
    (writeRow changes rowIndex).run t =
      (.ok (), { t with rows := t.rows.set rowIndex (assign row changes) }) := by
  show Action.run (do
    discard (liftM (lookUp t.rows rowIndex))
    changes.forM (writeCell rowIndex)) t = _
  rw [lookUp_eq_ok_iff.2 there]
  exact writeCells_run there inside

/-- All rows: each row is written once, and no row is written by the changes of another. -/
theorem writeRows_run {targets : List Nat} (distinct : targets.Nodup)
    (each : ∀ rowIndex ∈ targets, ∃ row, t.rows[rowIndex]? = some row ∧
      ∀ change ∈ changes, change.1 < row.length) :
    Action.run (targets.forM (writeRow changes)) t =
      (.ok (), { t with rows := t.rows.mapIdx fun index row =>
        if index ∈ targets then assign row changes else row }) := by
  induction targets generalizing t with
  | nil =>
    have same : (t.rows.mapIdx fun index row => if index ∈ [] then assign row changes else row) = t.rows := by
      simp [List.mapIdx_eq_zipIdx_map]
    rw [same]
    rfl
  | cons target targets ih =>
    obtain ⟨⟨row, there, inside⟩, rest⟩ := List.forall_mem_cons.1 each
    obtain ⟨fresh, distinct⟩ := List.nodup_cons.1 distinct
    refine (Action.run_bind_ok (writeRow_run there inside)).trans ?_
    rw [ih distinct]
    · congr 2
      refine List.ext_getElem? fun index => ?_
      simp only [List.getElem?_mapIdx, List.getElem?_set, List.mem_cons]
      by_cases here : target = index
      · subst here
        obtain ⟨within, rfl⟩ := List.getElem?_eq_some_iff.1 there
        simp [within, fresh]
      · simp [here, Ne.symm here]
    · intro later member
      obtain ⟨other, found, fits⟩ := rest later member
      refine ⟨other, ?_, fits⟩
      rw [List.getElem?_set_ne (by rintro rfl; exact fresh member)]
      exact found

end Loops

/-! What comes of a write. -/

/-- The answer and the table, where a write that is refused has left the table alone. -/
def outcome (t : Table) : Except StoreError (Nat × Table) → Except StoreError Nat × Table
  | .ok (count, changed) => (.ok count, changed)
  | .error e => (.error e, t)

theorem run_checked {α : Type} {t : Table} {checked : Except StoreError α} {next : α → Action Nat}
    {plain : α → Except StoreError (Nat × Table)}
    (each : ∀ a, checked = .ok a → (next a).run t = outcome t (plain a)) :
    (liftM checked >>= next : Action Nat).run t = outcome t (checked >>= plain) := by
  cases checked with
  | error e => rfl
  | ok a => exact each a rfl

/-- The table with the row of the record, if the record is accepted. -/
def insertion (t : Table) (record : Record) : Except StoreError (Nat × Table) := do
  t.checkColumns record
  let row ← t.newRow record
  if let some keyIndex := t.schema.keyIndex? then
    if t.rows.any (keyed keyIndex (row.cell keyIndex)) then .error .duplicateKey
  return (1, { t with rows := t.rows ++ [row] })

/-- Whether giving the key of the record to the rows with the key `identifier` would make another row
share it. -/
def keyClashes (t : Table) (keyIndex : Nat) (record : Record) (identifier : Value) : Bool :=
  match (t.schema.columns[keyIndex]?).bind fun column => record.get? column.name with
  | some key =>
    t.rows.any fun row => keyed keyIndex key row && !keyed keyIndex identifier row
  | none => false

def updated (t : Table) (keyIndex : Nat) (identifier : Value) (changes : List (Nat × Value)) : Table :=
  { t with
    rows := t.rows.map fun row => if keyed keyIndex identifier row then assign row changes else row }

/-- The table with the record written over the rows with the key, if the record is accepted. -/
def revision (t : Table) (record : Record) (identifier : Value) : Except StoreError (Nat × Table) := do
  t.checkColumns record
  match t.schema.keyIndex? with
  | none => .error (.noPrimaryKey t.name)
  | some keyIndex =>
    if t.keyClashes keyIndex record identifier then .error .duplicateKey
    (t.assignments record).forM t.checkChange
    return (t.rows.countP (keyed keyIndex identifier), t.updated keyIndex identifier (t.assignments record))

section Outcome

variable {t : Table} {record : Record} {identifier value : Value} {keyIndex index : Nat} {row : Row}
  {column : Column}

theorem checkNull_eq_ok {written : Value} (checked : checkNull column value = .ok written) :
    written = value ∧ column.Admits written := by
  unfold checkNull at checked
  split at checked
  case isTrue => cases checked
  case isFalse free =>
    cases checked
    refine ⟨rfl, ?_⟩
    rintro strict rfl
    exact free (by simp [Value.isNull, strict])

theorem newRow_admitted (made : t.newRow record = .ok row) : t.schema.Admits row := by
  refine (mapM_eq_ok_iff.1 made).imp ?_
  intro column value checked
  exact (checkNull_eq_ok checked).2

theorem mem_assignments : (index, value) ∈ t.assignments record ↔
    ∃ name, (name, value) ∈ record.entries ∧ t.schema.indexOf? name = some index := by
  simp [assignments, and_comm, and_left_comm]

theorem assignments_inside {change : Nat × Value} (member : change ∈ t.assignments record) :
    change.1 < t.schema.columns.length := by
  obtain ⟨name, _, found⟩ := mem_assignments.1 member
  exact Schema.indexOf?_inside found

theorem Regular.insert_eq (regular : t.Regular) (record : Record) :
    t.insert record = outcome t (t.insertion record) := by
  unfold insert inserting insertion
  rw [Action.run_get]
  refine run_checked fun _ _ => ?_
  rw [Action.run_get]
  refine run_checked fun row made => ?_
  rw [Action.run_get]
  cases isKey : t.schema.keyIndex? with
  | none => rfl
  | some keyIndex =>
    have inside : keyIndex < row.length :=
      (newRow_admitted made).length ▸ Schema.keyIndex?_inside isKey
    have taken : (t.rows.zipIdx.any fun entry => keyed keyIndex (row.cell keyIndex) entry.1 && true) =
        t.rows.any (keyed keyIndex (row.cell keyIndex)) := by
      simp only [Bool.and_true]
      conv_rhs => rw [← t.rows.zipIdx_map_fst 0, List.any_map]
      rfl
    dsimp only
    rw [Action.run_lift (lookUp_cell inside), Action.run_get,
      Action.run_lift (regular.someHasKey isKey _ _), taken]
    cases t.rows.any (keyed keyIndex (row.cell keyIndex)) <;> rfl

theorem checkChanges_run (changes : List (Nat × Value)) (t : Table) :
    Action.run (changes.forM fun change => do (← get).checkChange change) t =
      (changes.forM t.checkChange, t) := by
  induction changes with
  | nil => rfl
  | cons change changes ih =>
    show Action.run (liftM (t.checkChange change) >>= fun _ => _) t = (t.checkChange change >>= fun _ => _, t)
    cases checked : t.checkChange change with
    | error e => rfl
    | ok => exact ih

theorem mapIdx_targets (changes : List (Nat × Value)) :
    { t with rows := t.rows.mapIdx fun index row =>
      if index ∈ t.targets keyIndex identifier then assign row changes else row } =
      t.updated keyIndex identifier changes := by
  rw [updated]
  congr 1
  refine List.ext_getElem? fun index => ?_
  rw [List.getElem?_mapIdx, List.getElem?_map]
  cases there : t.rows[index]? with
  | none => rfl
  | some row => simp [mem_targets, there]

theorem Regular.write_targets (regular : t.Regular) :
    Action.run ((t.targets keyIndex identifier).forM (writeRow (t.assignments record))) t =
      (.ok (), t.updated keyIndex identifier (t.assignments record)) := by
  rw [← mapIdx_targets]
  refine writeRows_run nodup_targets fun rowIndex member => ?_
  obtain ⟨row, there, _⟩ := mem_targets.1 member
  refine ⟨row, there, fun change assigned => ?_⟩
  rw [(regular row (List.mem_of_getElem? there)).length]
  exact assignments_inside assigned

theorem clash_eq (key : Value) :
    (t.rows.zipIdx.any fun entry => keyed keyIndex key entry.1 &&
      !(t.targets keyIndex identifier).contains entry.2) =
      t.rows.any fun row => keyed keyIndex key row && !keyed keyIndex identifier row := by
  rw [Bool.eq_iff_iff, List.any_eq_true, List.any_eq_true]
  constructor
  · rintro ⟨⟨row, index⟩, member, clashes⟩
    have there := List.mk_mem_zipIdx_iff_getElem?.1 member
    refine ⟨row, List.mem_of_getElem? there, ?_⟩
    simpa [mem_targets, there] using clashes
  · rintro ⟨row, member, clashes⟩
    obtain ⟨index, there⟩ := List.mem_iff_getElem?.1 member
    refine ⟨(row, index), List.mk_mem_zipIdx_iff_getElem?.2 there, ?_⟩
    simpa [mem_targets, there] using clashes

theorem Regular.update_eq (regular : t.Regular) (record : Record) (identifier : Value) :
    t.update record identifier = outcome t (t.revision record identifier) := by
  unfold update updating revision
  rw [Action.run_get]
  refine run_checked fun _ _ => ?_
  rw [Action.run_get]
  cases isKey : t.schema.keyIndex? with
  | none => rfl
  | some keyIndex =>
    have inside := Schema.keyIndex?_inside isKey
    have there := List.getElem?_eq_getElem inside
    -- What is left when no key clashes: the nulls are looked for, and then all is written.
    have rest : Action.run (do
        let changes := (← get).assignments record
        changes.forM fun change => do (← get).checkChange change
        (t.targets keyIndex identifier).forM (writeRow changes)
        return (t.targets keyIndex identifier).length) t =
        outcome t (do
          (t.assignments record).forM t.checkChange
          return (t.rows.countP (keyed keyIndex identifier),
            t.updated keyIndex identifier (t.assignments record))) := by
      rw [Action.run_get, Action.run_bind, checkChanges_run]
      cases (t.assignments record).forM t.checkChange with
      | error e => rfl
      | ok =>
        refine (Action.run_bind_ok regular.write_targets).trans ?_
        rw [length_targets]
        rfl
    dsimp only
    rw [Action.run_get, Action.run_lift (regular.findByKey isKey _), Action.run_get,
      Action.run_lift (lookUp_eq_ok_iff.2 there)]
    simp only [keyClashes, there, Option.bind_some]
    cases record.get? t.schema.columns[keyIndex].name with
    | none => exact rest
    | some key =>
      dsimp only
      rw [Action.run_get, Action.run_lift (regular.someHasKey isKey _ _), clash_eq]
      split
      case isTrue => rfl
      case isFalse => exact rest

end Outcome

end Table

/-! Writes that are accepted. -/

theorem Schema.Admits.assign {s : Schema} {row : Row} {changes : List (Nat × Value)}
    (admitted : s.Admits row)
    (each : ∀ change ∈ changes, ∃ column, s.columns[change.1]? = some column ∧ column.Admits change.2) :
    s.Admits (Table.assign row changes) := by
  induction changes generalizing row with
  | nil => exact admitted
  | cons change changes ih =>
    rw [List.forall_mem_cons] at each
    obtain ⟨⟨column, there, takes⟩, each⟩ := each
    exact ih (forall₂_set admitted there takes) each

namespace Table

section Accepted

variable {t changed : Table} {record : Record} {identifier value : Value} {count : Nat} {row : Row}
  {column : Column}

theorem insertion_eq_ok (done : t.insertion record = .ok (count, changed)) :
    ∃ row, t.newRow record = .ok row ∧ count = 1 ∧ changed = { t with rows := t.rows ++ [row] } ∧
      ∀ keyIndex, t.schema.keyIndex? = some keyIndex →
        t.rows.any (keyed keyIndex (row.cell keyIndex)) = false := by
  obtain ⟨_, _, done⟩ := Filter.bind_eq_ok done
  obtain ⟨row, made, done⟩ := Filter.bind_eq_ok done
  refine ⟨row, made, ?_⟩
  rcases key : t.schema.keyIndex? with _ | keyIndex
  · rw [key] at done
    cases done
    exact ⟨rfl, rfl, by simp⟩
  · simp only [key] at done
    split at done
    case isTrue => cases done
    case isFalse fresh =>
      cases done
      exact ⟨rfl, rfl, by simpa using fresh⟩

theorem revision_eq_ok (done : t.revision record identifier = .ok (count, changed)) :
    ∃ keyIndex, t.schema.keyIndex? = some keyIndex ∧
      t.keyClashes keyIndex record identifier = false ∧
      (t.assignments record).forM t.checkChange = .ok () ∧
      count = t.rows.countP (keyed keyIndex identifier) ∧
      changed = t.updated keyIndex identifier (t.assignments record) := by
  obtain ⟨_, _, done⟩ := Filter.bind_eq_ok done
  rcases key : t.schema.keyIndex? with _ | keyIndex
  · rw [key] at done
    cases done
  · simp only [key] at done
    split at done
    case isTrue => cases done
    case isFalse fresh =>
      obtain ⟨_, checked, done⟩ := Filter.bind_eq_ok done
      cases done
      exact ⟨keyIndex, rfl, by simpa using fresh, checked, rfl, rfl⟩

theorem checkNull_eq_ok_iff : (∃ written, checkNull column value = .ok written) ↔
    column.Admits value := by
  constructor
  · rintro ⟨written, checked⟩
    obtain ⟨rfl, admits⟩ := checkNull_eq_ok checked
    exact admits
  · intro admits
    refine ⟨value, if_neg ?_⟩
    cases value with
    | null => simpa [Column.Admits, Value.isNull] using admits
    | _ => simp [Value.isNull]

theorem checkChange_eq_ok_iff {change : Nat × Value}
    (there : t.schema.columns[change.1]? = some column) :
    t.checkChange change = .ok () ↔ column.Admits change.2 := by
  rw [checkChange, lookUp_eq_ok_iff.2 there, ← checkNull_eq_ok_iff]
  cases null : change.2.isNull with
  | false =>
    refine iff_of_true rfl ⟨change.2, if_neg ?_⟩
    simp [null]
  | true =>
    show (discard (checkNull column change.2) : Except StoreError Unit) = _ ↔ _
    cases checkNull column change.2 with
    | error e =>
      constructor
      · intro checked
        cases checked
      · rintro ⟨_, checked⟩
        cases checked
    | ok written => exact iff_of_true rfl ⟨written, rfl⟩

theorem admits_of_checked (checked : (t.assignments record).forM t.checkChange = .ok ()) :
    ∀ change ∈ t.assignments record, ∃ column, t.schema.columns[change.1]? = some column ∧
      column.Admits change.2 := by
  intro change member
  have there := List.getElem?_eq_getElem (assignments_inside member)
  exact ⟨_, there, (checkChange_eq_ok_iff there).1 (forM_eq_ok_iff.1 checked change member)⟩

theorem Regular.insertion (regular : t.Regular) (done : t.insertion record = .ok (count, changed)) :
    changed.Regular := by
  obtain ⟨row, made, _, rfl, _⟩ := insertion_eq_ok done
  intro other member
  rcases List.mem_append.1 member with old | new
  · exact regular other old
  · rw [List.mem_singleton.1 new]
    exact newRow_admitted made

theorem Regular.revision (regular : t.Regular)
    (done : t.revision record identifier = .ok (count, changed)) : changed.Regular := by
  obtain ⟨keyIndex, _, _, checked, _, rfl⟩ := revision_eq_ok done
  intro row member
  obtain ⟨old, there, rfl⟩ := List.mem_map.1 member
  have admitted := regular old there
  by_cases chosen : keyed keyIndex identifier old = true
  · rw [if_pos chosen]
    exact admitted.assign (admits_of_checked checked)
  · rw [if_neg chosen]
    exact admitted

end Accepted

end Table

/-! Writes one after the other. -/

inductive Write where
  | insert (record : Record)
  | update (record : Record) (identifier : Value)

namespace Table

def perform (t : Table) : Write → Except StoreError Nat × Table
  | .insert record => t.insert record
  | .update record identifier => t.update record identifier

def after (t : Table) (write : Write) : Table := (t.perform write).2

def afterAll (t : Table) (writes : List Write) : Table := writes.foldl after t

def verdict (t : Table) : Write → Except StoreError (Nat × Table)
  | .insert record => t.insertion record
  | .update record identifier => t.revision record identifier

section Run

variable {t changed : Table} {count : Nat} {write : Write}

theorem Regular.perform_eq (regular : t.Regular) (write : Write) :
    t.perform write = outcome t (t.verdict write) := by
  cases write with
  | insert record => exact regular.insert_eq record
  | update record identifier => exact regular.update_eq record identifier

theorem Regular.verdict (regular : t.Regular) (done : t.verdict write = .ok (count, changed)) :
    changed.Regular := by
  cases write with
  | insert record => exact regular.insertion done
  | update record identifier => exact regular.revision done

theorem kept_of_verdict (done : t.verdict write = .ok (count, changed)) :
    changed.name = t.name ∧ changed.schema = t.schema := by
  cases write with
  | insert record =>
    obtain ⟨row, _, _, rfl, _⟩ := insertion_eq_ok done
    exact ⟨rfl, rfl⟩
  | update record identifier =>
    obtain ⟨_, _, _, _, _, rfl⟩ := revision_eq_ok done
    exact ⟨rfl, rfl⟩

theorem Regular.perform_cases (regular : t.Regular) (write : Write) :
    (∃ count changed, t.verdict write = .ok (count, changed) ∧ t.perform write = (.ok count, changed)) ∨
      ∃ e, t.verdict write = .error e ∧ t.perform write = (.error e, t) := by
  rw [regular.perform_eq]
  cases t.verdict write with
  | ok result => exact .inl ⟨result.1, result.2, rfl, rfl⟩
  | error e => exact .inr ⟨e, rfl, rfl⟩

theorem Regular.after (regular : t.Regular) (write : Write) :
    (t.after write).Regular ∧ (t.after write).name = t.name ∧ (t.after write).schema = t.schema := by
  rcases regular.perform_cases write with ⟨count, changed, done, performed⟩ | ⟨e, _, performed⟩
  · rw [Table.after, performed]
    exact ⟨regular.verdict done, kept_of_verdict done⟩
  · rw [Table.after, performed]
    exact ⟨regular, rfl, rfl⟩

theorem Regular.afterAll (regular : t.Regular) (writes : List Write) :
    (t.afterAll writes).Regular ∧ (t.afterAll writes).schema = t.schema := by
  induction writes generalizing t with
  | nil => exact ⟨regular, rfl⟩
  | cons write writes ih =>
    obtain ⟨next, _, schema⟩ := regular.after write
    obtain ⟨whole, same⟩ := ih next
    exact ⟨whole, same.trans schema⟩

end Run

end Table

end FilterQuery
