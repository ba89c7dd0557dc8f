import FilterQuery.Table.Schema

/-!
Tables and the two ways of writing to them. What is checked is checked before anything is written; nothing
is taken back.
-/

namespace FilterQuery

structure Table where
  name : Text
  schema : Schema
  rows : List Row := []

namespace Table

/-- An operation on a table answers or fails, and leaves the table as far as it has come with it. -/
abbrev Action := ExceptT StoreError (StateM Table)

def Action.run {α : Type} (action : Action α) (t : Table) : Except StoreError α × Table :=
  StateT.run (ExceptT.run action) t

def checkColumns (t : Table) (record : Record) : Except StoreError Unit :=
  match record.names.find? fun name => (t.schema.indexOf? name).isNone with
  | some name => .error (.columnNotFound name)
  | none => .ok ()

def checkNull (column : Column) (value : Value) : Except StoreError Value :=
  if value.isNull && !column.nullable then .error (.nullNotAllowed column.name) else .ok value

def newRow (t : Table) (record : Record) : Except StoreError Row :=
  t.schema.columns.mapM fun column =>
    checkNull column ((record.get? column.name).getD .null)

def hasKey (keyIndex : Nat) (key : Value) (row : Row) : Except StoreError Bool := do
  return (← lookUp row keyIndex).same key

def findByKey (t : Table) (keyIndex : Nat) (key : Value) : Except StoreError (List Nat) := do
  let found ← t.rows.mapM (hasKey keyIndex key)
  return (found.zipIdx.filter Prod.fst).map Prod.snd

/-- Whether some row has the key, at a place that counts. Rows behind the first are not looked at. -/
def someHasKey (t : Table) (keyIndex : Nat) (key : Value) (counts : Nat → Bool) :
    Except StoreError Bool :=
  t.rows.zipIdx.anyM fun (row, index) => do return (← hasKey keyIndex key row) && counts index

def inserting (record : Record) : Action Nat := do
  (← get).checkColumns record
  let row ← (← get).newRow record
  if let some keyIndex := (← get).schema.keyIndex? then
    let key ← lookUp row keyIndex
    if ← (← get).someHasKey keyIndex key fun _ => true then throw .duplicateKey
  modify fun t => { t with rows := t.rows ++ [row] }
  return 1

def assignments (t : Table) (record : Record) : List (Nat × Value) :=
  record.entries.filterMap fun (name, value) => (t.schema.indexOf? name).map (·, value)

/-- Refuses a null for a column that takes none. Only for a null is the column looked up. -/
def checkChange (t : Table) (change : Nat × Value) : Except StoreError Unit := do
  if change.2.isNull then
    let column ← lookUp t.schema.columns change.1
    discard (checkNull column change.2)

def writeCell (rowIndex : Nat) (change : Nat × Value) : Action Unit := do
  let t ← get
  let row ← lookUp t.rows rowIndex
  let changed ← putAt row change.1 change.2
  set { t with rows := t.rows.set rowIndex changed }

def writeRow (changes : List (Nat × Value)) (rowIndex : Nat) : Action Unit := do
  discard (lookUp (← get).rows rowIndex)
  changes.forM (writeCell rowIndex)

/-- Writes the record over the rows with the key `identifier`, and answers how many they are. -/
def updating (record : Record) (identifier : Value) : Action Nat := do
  (← get).checkColumns record
  let some keyIndex := (← get).schema.keyIndex? | throw (.noPrimaryKey (← get).name)
  let targets ← (← get).findByKey keyIndex identifier
  let column ← lookUp (← get).schema.columns keyIndex
  if let some key := record.get? column.name then
    -- The rows that are written may keep their key or share the new one.
    if ← (← get).someHasKey keyIndex key (!targets.contains ·) then throw .duplicateKey
  let changes := (← get).assignments record
  changes.forM fun change => do (← get).checkChange change
  targets.forM (writeRow changes)
  return targets.length

def insert (t : Table) (record : Record) : Except StoreError Nat × Table := (inserting record).run t

def update (t : Table) (record : Record) (identifier : Value) : Except StoreError Nat × Table :=
  (updating record identifier).run t

end Table

end FilterQuery
