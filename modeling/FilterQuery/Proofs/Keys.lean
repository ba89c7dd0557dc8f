import FilterQuery.Proofs.Doubles
import FilterQuery.Proofs.Writes

/-!
The keys of a table over whole runs of writes. A new row and a changed row are checked against the rows
that are there, so keys stay unique, with one exception: an update that finds several rows gives all of
them the same new key. Two rows can have the key that an update asks for because `1` and `1.0` are
different texts and the same number.
-/

namespace FilterQuery

/-! The order of two values is the same from both sides. -/

theorem Text.cmp_swap (s t : Text) : cmp t s = (cmp s t).swap := by
  cases order : cmp s t with
  | lt => exact (cmp_gt_iff t s).2 order
  | eq => rw [(cmp_eq_iff s t).1 order, cmp_self]; rfl
  | gt => exact (cmp_gt_iff s t).1 order

theorem Value.compare_swap (a b : Value) : b.compare a = (a.compare b).map Ordering.swap := by
  cases a <;> cases b
  case text.text s t => exact congrArg some (Text.cmp_swap s t)
  case integer.integer i j => exact congrArg some (Int.compare_swap _ _).symm
  -- All other pairs are compared as numbers, if both are numbers.
  all_goals
    simp only [compare]
    first
      | rfl
      | split
        next first second => simp only [first, second, ← Double.compareFloats_swap]
        next missing =>
          split
          next first second => exact absurd first (missing _ _ second)
          next => rfl

namespace Table

/-- No two rows have keys in the same place of the order. -/
def UniqueKeys (t : Table) : Prop :=
  ∀ keyIndex, t.schema.keyIndex? = some keyIndex →
    t.rows.Pairwise fun a b => (a.cell keyIndex).compare (b.cell keyIndex) ≠ some .eq

/-- The write is an update that gives one key to several rows. A key that is in no place of the order,
such as a null, is shared by nobody. -/
def Merges (t : Table) : Write → Prop
  | .insert _ => False
  | .update record identifier =>
    ∃ count changed keyIndex name key,
      t.update record identifier = (.ok count, changed) ∧ 2 ≤ count ∧
        t.schema.keyIndex? = some keyIndex ∧ t.schema.indexOf? name = some keyIndex ∧
        record.get? name = some key ∧ key.compare key = some .eq

theorem cell_assign {row : Row} {changes : List (Nat × Value)} {index : Nat} {value : Value}
    (inside : index < row.length) (agree : ∀ change ∈ changes, change.1 = index → change.2 = value)
    (reached : row.cell index = value ∨ ∃ change ∈ changes, change.1 = index) :
    (assign row changes).cell index = value := by
  induction changes generalizing row with
  | nil => exact reached.resolve_right (by simp)
  | cons change changes ih =>
    have inside' : index < (row.set change.1 change.2).length := by simpa using inside
    show (assign (row.set change.1 change.2) changes).cell index = value
    refine ih inside' (fun other member => agree other (.tail _ member)) ?_
    by_cases here : change.1 = index
    · left
      rw [here, agree change (.head _) here]
      simp [Row.cell, inside]
    · refine reached.imp ?_ ?_
      · intro start
        simpa [Row.cell, List.getElem?_set, here] using start
      · rintro ⟨other, member, there⟩
        rcases List.mem_cons.1 member with rfl | member
        · exact absurd there here
        · exact ⟨other, member, there⟩

theorem inside_of_keyed {keyIndex : Nat} {key : Value} {row : Row}
    (found : keyed keyIndex key row = true) : keyIndex < row.length := by
  refine Decidable.byContradiction fun outside => ?_
  have null : row.cell keyIndex = .null := by
    simp only [Row.cell, List.getD_eq_getElem?_getD, List.getElem?_eq_none (Nat.le_of_not_lt outside)]
    rfl
  rw [keyed, null] at found
  cases found

theorem find?_of_mem {entries : List (Text × Value)} {name : Text} {value : Value}
    (ordered : entries.Pairwise fun a b => Text.Before a.1 b.1) (member : (name, value) ∈ entries) :
    entries.find? (·.1 = name) = some (name, value) := by
  induction entries with
  | nil => cases member
  | cons entry entries ih =>
    obtain ⟨before, ordered⟩ := List.pairwise_cons.1 ordered
    rcases List.mem_cons.1 member with rfl | member
    · simp
    · have different : entry.1 ≠ name := by
        intro same
        have less : Text.cmp entry.1 name = .lt := before _ member
        rw [same, Text.cmp_self] at less
        cases less
      rw [List.find?_cons_of_neg (by simpa using different)]
      exact ih ordered member

theorem mem_entries {record : Record} {name : Text} {value : Value} :
    (name, value) ∈ record.entries ↔ record.get? name = some value := by
  constructor
  · intro member
    rw [Bindings.get?, find?_of_mem record.ordered member]
    rfl
  · intro given
    obtain ⟨⟨other, _⟩, found, rfl⟩ := Option.map_eq_some_iff.1 given
    have same : other = name := by simpa using List.find?_some found
    rw [← same]
    exact List.mem_of_find?_eq_some found

section Update

variable {t : Table} {record : Record} {identifier key : Value} {keyIndex : Nat} {row : Row} {name : Text}

theorem cell_assign_given (found : t.schema.indexOf? name = some keyIndex)
    (given : record.get? name = some key) (inside : keyIndex < row.length) :
    (assign row (t.assignments record)).cell keyIndex = key := by
  refine cell_assign inside ?_ (.inr ⟨(keyIndex, key), ?_, rfl⟩)
  · rintro ⟨_, value⟩ member rfl
    obtain ⟨other, there, found'⟩ := mem_assignments.1 member
    obtain rfl := Schema.indexOf?_inj found found'
    rw [mem_entries, given] at there
    exact (Option.some.inj there).symm
  · exact mem_assignments.2 ⟨name, mem_entries.2 given, found⟩

theorem cell_assign_spared
    (spared : ∀ name, t.schema.indexOf? name = some keyIndex → record.get? name = none)
    (inside : keyIndex < row.length) :
    (assign row (t.assignments record)).cell keyIndex = row.cell keyIndex := by
  refine cell_assign inside ?_ (.inl rfl)
  rintro ⟨_, value⟩ member rfl
  obtain ⟨name, there, found⟩ := mem_assignments.1 member
  rw [mem_entries, spared name found] at there
  cases there

theorem keyed_of_fresh (fresh : t.keyClashes keyIndex record identifier = false)
    (found : t.schema.indexOf? name = some keyIndex) (given : record.get? name = some key)
    (member : row ∈ t.rows) (taken : keyed keyIndex key row = true) :
    keyed keyIndex identifier row = true := by
  obtain ⟨column, here, rfl⟩ := Schema.column_of_indexOf? found
  simp only [keyClashes, here, Option.bind_some, given] at fresh
  have := List.any_eq_false.1 fresh row member
  simpa [taken] using this

end Update

theorem pairwise_not_both_iff {α : Type} {p : α → Bool} {xs : List α} :
    xs.Pairwise (fun a b => ¬ (p a = true ∧ p b = true)) ↔ xs.countP p ≤ 1 := by
  induction xs with
  | nil => simp
  | cons x xs ih =>
    rw [List.pairwise_cons, ih, List.countP_cons]
    by_cases has : p x = true
    · have none : (∀ y ∈ xs, ¬ (p x = true ∧ p y = true)) ↔ xs.countP p = 0 := by
        simp [has, List.countP_eq_zero]
      rw [none]
      simp only [has, if_true]
      omega
    · simp [has]

theorem uniqueKeys_iff {t : Table} {keyIndex : Nat} (isKey : t.schema.keyIndex? = some keyIndex) :
    t.UniqueKeys ↔
      t.rows.Pairwise fun a b => (a.cell keyIndex).compare (b.cell keyIndex) ≠ some .eq := by
  simp [UniqueKeys, isKey]

theorem uniqueKeys_insertion {t changed : Table} {record : Record} {count : Nat} (unique : t.UniqueKeys)
    (done : t.insertion record = .ok (count, changed)) : changed.UniqueKeys := by
  obtain ⟨row, _, _, rfl, fresh⟩ := insertion_eq_ok done
  intro keyIndex isKey
  refine List.pairwise_append.2 ⟨unique keyIndex isKey, List.pairwise_singleton _ _, ?_⟩
  intro old member new here
  rw [List.mem_singleton.1 here]
  simpa [keyed, Value.same] using List.any_eq_false.1 (fresh keyIndex isKey) old member

section Update

variable {t : Table} {record : Record} {identifier key : Value} {keyIndex : Nat} {name : Text}

theorem uniqueKeys_updated_spared (unique : t.UniqueKeys)
    (isKey : t.schema.keyIndex? = some keyIndex)
    (spared : ∀ name, t.schema.indexOf? name = some keyIndex → record.get? name = none) :
    (t.updated keyIndex identifier (t.assignments record)).UniqueKeys := by
  have kept (row : Row) :
      (if keyed keyIndex identifier row then assign row (t.assignments record) else row).cell keyIndex =
        row.cell keyIndex := by
    split
    case isTrue chosen => exact cell_assign_spared spared (inside_of_keyed chosen)
    case isFalse => rfl
  have isKey' : (t.updated keyIndex identifier (t.assignments record)).schema.keyIndex? = some keyIndex :=
    isKey
  rw [uniqueKeys_iff isKey', updated, List.pairwise_map]
  simpa only [kept] using (uniqueKeys_iff isKey).1 unique

theorem uniqueKeys_updated_given (unique : t.UniqueKeys)
    (isKey : t.schema.keyIndex? = some keyIndex)
    (fresh : t.keyClashes keyIndex record identifier = false)
    (found : t.schema.indexOf? name = some keyIndex) (given : record.get? name = some key) :
    (t.updated keyIndex identifier (t.assignments record)).UniqueKeys ↔
      ¬ (2 ≤ t.rows.countP (keyed keyIndex identifier) ∧ key.compare key = some .eq) := by
  have cell (row : Row) :
      (if keyed keyIndex identifier row then assign row (t.assignments record) else row).cell keyIndex =
        if keyed keyIndex identifier row then key else row.cell keyIndex := by
    split
    case isTrue chosen => exact cell_assign_given found given (inside_of_keyed chosen)
    case isFalse => rfl
  have spared {row : Row} (member : row ∈ t.rows) (other : ¬ keyed keyIndex identifier row = true) :
      (row.cell keyIndex).compare key ≠ some .eq := by
    intro taken
    exact other (keyed_of_fresh fresh found given member (by simpa [keyed, Value.same] using taken))
  have pairs : (t.updated keyIndex identifier (t.assignments record)).UniqueKeys ↔ t.rows.Pairwise fun a b =>
      ¬ ((keyed keyIndex identifier a = true ∧ keyed keyIndex identifier b = true) ∧
        key.compare key = some .eq) := by
    have isKey' : (t.updated keyIndex identifier (t.assignments record)).schema.keyIndex? =
        some keyIndex := isKey
    have old := (uniqueKeys_iff isKey).1 unique
    rw [uniqueKeys_iff isKey', updated, List.pairwise_map]
    simp only [cell]
    constructor
    · refine List.Pairwise.imp ?_
      rintro a b distinct ⟨⟨first, second⟩, ordered⟩
      simp [first, second, ordered] at distinct
    · intro apart
      refine (old.and apart).imp_of_mem ?_
      rintro a b here there ⟨distinct, apart⟩
      split <;> split
      case isTrue.isTrue first second => exact fun ordered => apart ⟨⟨first, second⟩, ordered⟩
      case isTrue.isFalse first second =>
        rw [Value.compare_swap]
        simpa using spared there second
      case isFalse.isTrue first second => exact spared here first
      case isFalse.isFalse => exact distinct
  rw [pairs]
  by_cases ordered : key.compare key = some .eq
  · simp only [ordered, and_true]
    rw [pairwise_not_both_iff]
    omega
  · simp [ordered, List.pairwise_of_forall]

end Update

theorem merges_update_iff {t changed : Table} {record : Record} {identifier : Value}
    {count keyIndex : Nat} (done : t.update record identifier = (.ok count, changed))
    (isKey : t.schema.keyIndex? = some keyIndex) :
    t.Merges (.update record identifier) ↔
      2 ≤ count ∧ ∃ name key, t.schema.indexOf? name = some keyIndex ∧
        record.get? name = some key ∧ key.compare key = some .eq := by
  simp [Merges, done, isKey]

theorem uniqueKeys_revision_iff {t changed : Table} {record : Record} {identifier : Value} {count : Nat}
    (unique : t.UniqueKeys) (done : t.revision record identifier = .ok (count, changed))
    (performed : t.update record identifier = (.ok count, changed)) :
    changed.UniqueKeys ↔ ¬ t.Merges (.update record identifier) := by
  obtain ⟨keyIndex, isKey, fresh, _, rfl, rfl⟩ := revision_eq_ok done
  rw [merges_update_iff performed isKey]
  by_cases given : ∃ name key, t.schema.indexOf? name = some keyIndex ∧ record.get? name = some key
  · obtain ⟨name, key, found, given⟩ := given
    rw [uniqueKeys_updated_given unique isKey fresh found given]
    refine not_congr (and_congr_right fun _ => ?_)
    constructor
    · exact fun ordered => ⟨name, key, found, given, ordered⟩
    · rintro ⟨name', key', found', given', ordered⟩
      obtain rfl := Schema.indexOf?_inj found found'
      rw [given] at given'
      cases given'
      exact ordered
  · have spared (name : Text) (found : t.schema.indexOf? name = some keyIndex) :
        record.get? name = none :=
      Option.eq_none_iff_forall_not_mem.2 fun key there => given ⟨name, key, found, there⟩
    refine iff_of_true (uniqueKeys_updated_spared unique isKey spared) ?_
    rintro ⟨_, name, key, found, there, _⟩
    exact given ⟨name, key, found, there⟩

theorem uniqueKeys_after_iff {t : Table} (regular : t.Regular) (unique : t.UniqueKeys) (write : Write) :
    (t.after write).UniqueKeys ↔ ¬ t.Merges write := by
  rcases regular.perform_cases write with ⟨count, changed, done, performed⟩ | ⟨e, _, performed⟩
  · rw [after, performed]
    cases write with
    | insert record => exact iff_of_true (uniqueKeys_insertion unique done) not_false
    | update record identifier => exact uniqueKeys_revision_iff unique done performed
  · rw [after, performed]
    refine iff_of_true unique ?_
    cases write with
    | insert record => exact not_false
    | update record identifier =>
      rintro ⟨_, _, _, _, _, done, _⟩
      rw [perform, done] at performed
      cases performed

theorem afterAll_take_succ {t : Table} {writes : List Write} {n : Nat} {write : Write}
    (next : writes[n]? = some write) :
    t.afterAll (writes.take (n + 1)) = (t.afterAll (writes.take n)).after write := by
  rw [afterAll, List.take_add_one, next, List.foldl_append]
  rfl

/-- Over every run of writes to an empty table, refused writes included: at no point do two rows have
the same key, if and only if no write of the run gives one key to several rows. -/
theorem uniqueKeys_run_iff (name : Text) (schema : Schema) (writes : List Write) :
    (∀ n, (afterAll { name, schema } (writes.take n)).UniqueKeys) ↔
      ∀ n write, writes[n]? = some write →
        ¬ (afterAll { name, schema } (writes.take n)).Merges write := by
  have regular (n : Nat) : (afterAll { name, schema } (writes.take n)).Regular :=
    ((regular_empty name schema).afterAll _).1
  constructor
  · intro unique n write next
    rw [← uniqueKeys_after_iff (regular n) (unique n), ← afterAll_take_succ next]
    exact unique (n + 1)
  · intro harmless n
    induction n with
    | zero => exact fun _ _ => List.Pairwise.nil
    | succ n ih =>
      rcases next : writes[n]? with _ | write
      · rwa [List.take_add_one, next, Option.toList_none, List.append_nil]
      · rw [afterAll_take_succ next, uniqueKeys_after_iff (regular n) ih]
        exact harmless n write next

/-- The texts `1` and `1.0` are different keys, and an update of the key `1`, the number, finds both. -/
theorem uniqueKeys_lost :
    ¬ (afterAll { name := "t".toList, schema := ⟨[{ name := "id".toList, isKey := true }]⟩ }
      [.insert (.ofList [("id".toList, .text "1".toList)]),
        .insert (.ofList [("id".toList, .text "1.0".toList)]),
        .update (.ofList [("id".toList, .integer 5)]) (.integer 1)]).UniqueKeys := by
  intro unique
  exact absurd (unique 0 rfl) (by decide +kernel)

end Table

end FilterQuery
