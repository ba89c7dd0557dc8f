import FilterQuery.Text.Quoting
import FilterQuery.Value.Basic

/-!
Values by name, in the order of the names and each name once. Merge fields and the records that are
written to a table are bindings.
-/

namespace FilterQuery

def Text.Before (s t : Text) : Prop := Text.cmp s t = .lt

structure Bindings where
  entries : List (Text × Value) := []
  ordered : entries.Pairwise (fun a b => Text.Before a.1 b.1) := by simp

namespace Bindings

def empty : Bindings := {}

instance : Inhabited Bindings := ⟨empty⟩

def names (b : Bindings) : List Text := b.entries.map Prod.fst

def get? (b : Bindings) (name : Text) : Option Value :=
  (b.entries.find? (·.1 = name)).map Prod.snd

def insertEntry (name : Text) (value : Value) : List (Text × Value) → List (Text × Value)
  | [] => [(name, value)]
  | entry :: rest =>
    match Text.cmp name entry.1 with
    | .lt => (name, value) :: entry :: rest
    | .eq => (name, value) :: rest
    | .gt => entry :: insertEntry name value rest

theorem mem_insertEntry {name : Text} {value : Value} {entries : List (Text × Value)}
    {entry : Text × Value} (member : entry ∈ insertEntry name value entries) :
    entry = (name, value) ∨ entry ∈ entries := by
  induction entries with
  | nil => simpa [insertEntry] using member
  | cons head rest ih =>
    simp only [insertEntry] at member
    split at member <;> grind

theorem insertEntry_ordered (name : Text) (value : Value) {entries : List (Text × Value)}
    (ordered : entries.Pairwise (fun a b => Text.Before a.1 b.1)) :
    (insertEntry name value entries).Pairwise (fun a b => Text.Before a.1 b.1) := by
  induction entries with
  | nil => simp [insertEntry]
  | cons head rest ih =>
    have parts := List.pairwise_cons.1 ordered
    simp only [insertEntry]
    split
    next less =>
      refine List.pairwise_cons.2 ⟨fun entry member => ?_, ordered⟩
      rcases List.mem_cons.1 member with rfl | member
      · exact less
      · exact Text.cmp_lt_trans less (parts.1 entry member)
    next same =>
      have equal : name = head.1 := (Text.cmp_eq_iff _ _).1 same
      subst equal
      exact List.pairwise_cons.2 ⟨parts.1, parts.2⟩
    next more =>
      refine List.pairwise_cons.2 ⟨fun entry member => ?_, ih parts.2⟩
      rcases mem_insertEntry member with rfl | member
      · exact (Text.cmp_gt_iff _ _).1 more
      · exact parts.1 entry member

def insert (b : Bindings) (name : Text) (value : Value) : Bindings where
  entries := insertEntry name value b.entries
  ordered := insertEntry_ordered name value b.ordered

theorem find_insertEntry (name other : Text) (value : Value) (entries : List (Text × Value)) :
    (insertEntry name value entries).find? (·.1 = other) =
      if name = other then some (name, value) else entries.find? (·.1 = other) := by
  induction entries with
  | nil => by_cases same : name = other <;> simp [insertEntry, same]
  | cons head rest ih =>
    simp only [insertEntry]
    split
    next => by_cases same : name = other <;> simp [same]
    next equal =>
      have key : name = head.1 := (Text.cmp_eq_iff _ _).1 equal
      by_cases same : name = other <;> simp [same, ← key]
    next more =>
      have different : head.1 ≠ name := by
        intro equal
        rw [equal, Text.cmp_self] at more
        cases more
      by_cases found : head.1 = other
      · have : name ≠ other := fun same => different (found.trans same.symm)
        simp [found, this]
      · simp [found, ih]

theorem get?_insert (b : Bindings) (name other : Text) (value : Value) :
    (b.insert name value).get? other = if name = other then some value else b.get? other := by
  simp only [get?, insert, find_insertEntry]
  split <;> rfl

def erase (b : Bindings) (name : Text) : Bindings where
  entries := b.entries.filter (·.1 ≠ name)
  ordered := b.ordered.filter _

theorem get?_erase (b : Bindings) (name other : Text) :
    (b.erase name).get? other = if name = other then none else b.get? other := by
  simp only [get?, erase, List.find?_filter]
  by_cases same : name = other
  · subst same
    simp
  · have agree : (fun entry : Text × Value => !decide (entry.1 = name) && decide (entry.1 = other)) =
        fun entry => decide (entry.1 = other) := by
      funext entry
      by_cases found : entry.1 = other
      · simp [found, Ne.symm same]
      · simp [found]
    simp [same, agree]

/-- The bindings of a list. Of two with one name the later one counts. -/
def ofList (entries : List (Text × Value)) : Bindings :=
  entries.foldl (fun b entry => b.insert entry.1 entry.2) empty

end Bindings

/-!
Assignments `name=value` as they are typed on a command line, where the kind of a value is read off
its spelling.
-/

/-- The value a bare spelling stands for. Quotes make a text of anything; a number with a point is a
double, one without is an integer if it fits. -/
def Value.infer (raw : Text) : Value :=
  match Text.quoted? raw with
  | some content => .text content
  | none =>
    if Text.sameIgnoringCase raw "null".toList then .null
    else if Text.sameIgnoringCase raw "true".toList then .boolean true
    else if Text.sameIgnoringCase raw "false".toList then .boolean false
    else match Decimal.integer? raw with
      | some i => .integer i
      | none =>
        match if raw.contains '.' then Decimal.float? raw else none with
        | some x => .float x
        | none => .text raw

/-- A merge field is named with or without its dollar signs. -/
def fieldName (t : Text) : Text := (Text.trim t).dropWhile (· = '$')

def assignment? (t : Text) : Option (Text × Value) := do
  let (left, right) ← Text.cutOnce '=' t
  let name := fieldName left
  if name.isEmpty then none else some (name, Value.infer (Text.trim right))

end FilterQuery
