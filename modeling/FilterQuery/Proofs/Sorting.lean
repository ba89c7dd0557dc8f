import FilterQuery.Proofs.Kinds

/-!
The rows of an answer are the matching rows of the table, sorted. Among values that are integers or nulls,
and among values that are texts or nulls, the order of the sort keys is that of the numbers and of the
texts. Rows that no key tells apart stay in the order in which they came into the table.
-/

namespace FilterQuery

/-! Sorting by a comparison keeps the order of what it does not tell apart. -/

section Places

variable {α : Type} {cmp : α → α → Ordering}

/-- The order of elements with their old places: these tell the order where the comparison does not. -/
def Follows (cmp : α → α → Ordering) (a b : α × Nat) : Prop :=
  cmp b.1 a.1 = .lt ∨ cmp b.1 a.1 = .eq ∧ b.2 < a.2

theorem follows_of_isLE {a b : α × Nat} (below : (cmp b.1 a.1).isLE = true) (earlier : b.2 < a.2) :
    Follows cmp a b := by
  cases order : cmp b.1 a.1 with
  | lt => exact .inl order
  | eq => exact .inr ⟨order, earlier⟩
  | gt =>
    rw [order] at below
    cases below

theorem pairwise_orderedInsert [ordered : Std.TransCmp cmp] {x : α × Nat} {placed : List (α × Nat)}
    (later : ∀ y ∈ placed, y.2 < x.2) (sorted : placed.Pairwise (Follows cmp)) :
    (placed.orderedInsert (fun a b => cmp a.1 b.1 ≠ .lt) x).Pairwise (Follows cmp) := by
  induction placed with
  | nil => exact List.pairwise_singleton _ _
  | cons last rest ih =>
    obtain ⟨behind, sorted⟩ := List.pairwise_cons.1 sorted
    obtain ⟨before, later⟩ := List.forall_mem_cons.1 later
    rw [List.orderedInsert]
    split
    case isTrue stays =>
      have below : (cmp last.1 x.1).isLE = true := by
        rw [ordered.eq_swap]
        cases order : cmp x.1 last.1 with
        | lt => exact absurd order stays
        | _ => rfl
      refine List.pairwise_cons.2 ⟨?_, List.pairwise_cons.2 ⟨behind, sorted⟩⟩
      refine List.forall_mem_cons.2 ⟨follows_of_isLE below before, fun y member => ?_⟩
      have lower : (cmp y.1 last.1).isLE = true := by
        rcases behind y member with less | ⟨same, _⟩
        · rw [less]
          rfl
        · rw [same]
          rfl
      exact follows_of_isLE (ordered.isLE_trans lower below) (later y member)
    case isFalse passes =>
      refine List.pairwise_cons.2 ⟨fun y member => ?_, ih later sorted⟩
      rcases List.mem_cons.1 ((List.perm_orderedInsert _ _ _).mem_iff.1 member) with rfl | old
      · exact .inl (not_not.1 passes)
      · exact behind y old

theorem pairwise_insertionSort [Std.TransCmp cmp] {xs : List (α × Nat)}
    (descending : xs.Pairwise fun a b => b.2 < a.2) :
    (xs.insertionSort fun a b => cmp a.1 b.1 ≠ .lt).Pairwise (Follows cmp) := by
  induction xs with
  | nil => exact .nil
  | cons x xs ih =>
    obtain ⟨later, descending⟩ := List.pairwise_cons.1 descending
    refine pairwise_orderedInsert (fun y member => ?_) (ih descending)
    exact later y ((List.perm_insertionSort _ _).mem_iff.1 member)

theorem exists_places (ordered : Std.TransCmp cmp) (xs : List α) :
    ∃ placed : List (α × Nat),
      placed.map Prod.fst = (xs.reverse.insertionSort fun a b => cmp a b ≠ .lt).reverse ∧
      placed.Perm xs.zipIdx ∧ placed.Pairwise fun a b => Follows cmp b a := by
  refine ⟨(xs.zipIdx.reverse.insertionSort fun a b => cmp a.1 b.1 ≠ .lt).reverse, ?_, ?_, ?_⟩
  · rw [List.map_reverse, List.map_insertionSort _ (fun a b => cmp a b ≠ .lt) _ _ (by simp),
      List.map_reverse, List.zipIdx_map_fst]
  · exact (List.reverse_perm _).trans ((List.perm_insertionSort _ _).trans (List.reverse_perm _))
  · rw [List.pairwise_reverse]
    refine pairwise_insertionSort (List.pairwise_reverse.2 (List.pairwise_map.1 ?_))
    rw [List.zipIdx_map_snd]
    exact List.pairwise_lt_range'

end Places

namespace Row

variable {keys : List (Nat × Direction)}

theorem exists_places_of_sorted {fits : Row → Prop}
    (ordered : Std.TransCmp fun a b : { row // fits row } => lexOrder keys a.1 b.1) {rows : List Row}
    (each : ∀ row ∈ rows, fits row) :
    ∃ placed : List (Row × Nat), placed.map Prod.fst = sorted keys rows ∧ placed.Perm rows.zipIdx ∧
      placed.Pairwise fun a b =>
        lexOrder keys a.1 b.1 = .lt ∨ lexOrder keys a.1 b.1 = .eq ∧ a.2 < b.2 := by
  -- The order is one on fitting rows only, so it is these that are sorted.
  obtain ⟨placed, same, perm, inOrder⟩ := exists_places ordered (rows.attachWith fits each)
  refine ⟨placed.map (Prod.map Subtype.val id), ?_, ?_, List.pairwise_map.2 inOrder⟩
  · calc
      (placed.map (Prod.map Subtype.val id)).map Prod.fst = (placed.map Prod.fst).map Subtype.val := by
        simp
      _ = sorted keys ((rows.attachWith fits each).map Subtype.val) := by
        rw [same, sorted, List.map_reverse,
          List.map_insertionSort _ (fun a b => lexOrder keys a b ≠ .lt) _ _ (by simp), List.map_reverse]
      _ = sorted keys rows := by rw [List.attachWith_map_subtype_val]
  · have permuted := perm.map (Prod.map Subtype.val id)
    rwa [List.map_zipIdx, List.attachWith_map_subtype_val] at permuted

end Row

/-! What an answer should be. -/

namespace Value

/-- The order of a sorted column: nulls first, integers by size, texts by their characters. -/
inductive Before : Value → Value → Prop where
  | null {v : Value} (present : v ≠ .null) : Before .null v
  | integer {i j : Int64} (less : i.toInt < j.toInt) : Before (.integer i) (.integer j)
  | text {s t : Text} (less : s < t) : Before (.text s) (.text t)

def IsInteger (v : Value) : Prop := v = .null ∨ ∃ i, v = .integer i

def IsText (v : Value) : Prop := v = .null ∨ ∃ t, v = .text t

def Alike (v w : Value) : Prop := v.IsInteger ∧ w.IsInteger ∨ v.IsText ∧ w.IsText

end Value

def Direction.Before : Direction → Value → Value → Prop
  | ascending, v, w => v.Before w
  | descending, v, w => w.Before v

namespace Schema

def value? (s : Schema) (column : Text) (row : Row) : Option Value :=
  (s.indexOf? column).bind (row[·]?)

/-- The first key in which the rows differ puts the first row before the second. -/
inductive Precedes (s : Schema) : List SortKey → Row → Row → Prop where
  | decided {key : SortKey} {keys : List SortKey} {a b : Row} {v w : Value}
      (first : s.value? key.column a = some v) (second : s.value? key.column b = some w)
      (before : key.direction.Before v w) : Precedes s (key :: keys) a b
  | tied {key : SortKey} {keys : List SortKey} {a b : Row}
      (same : s.value? key.column a = s.value? key.column b) (later : Precedes s keys a b) :
      Precedes s (key :: keys) a b

def Ties (s : Schema) (keys : List SortKey) (a b : Row) : Prop :=
  ∀ key ∈ keys, s.value? key.column a = s.value? key.column b

/-- In the column, the rows have only integers and nulls, or only texts and nulls. -/
def Sortable (s : Schema) (rows : Row → Prop) (column : Text) : Prop :=
  (∀ row v, rows row → s.value? column row = some v → v.IsInteger) ∨
    ∀ row v, rows row → s.value? column row = some v → v.IsText

/-- The row cut down to the columns of the names. No names, or a star among them, mean all columns. -/
inductive Projects (s : Schema) (names : List Text) (row : Row) : Row → Prop where
  | whole (all : names = [] ∨ ['*'] ∈ names) : Projects s names row row
  | chosen {cut : Row} (filled : names ≠ []) (starless : ['*'] ∉ names)
      (values : cut.map some = names.map fun name => s.value? name row) : Projects s names row cut

end Schema

namespace Table

/-- The condition is true of the row. No condition is true of every row. -/
def Matches (t : Table) (condition : Option Text) (row : Row) : Prop :=
  ∀ text, condition = some text →
    ∃ p, Sql.Predicate.parse t.name text = .ok p ∧ p.selects t.schema row = .ok true

/-- The rows are the matching rows of the table, each as often as it is there, in the order of the keys
and otherwise in that of the table, and cut down to the columns of the query. -/
def AnswersSorted (t : Table) (q : PendingQuery) (rows : List Row) : Prop :=
  ∃ (keep : Row → Bool) (placed : List (Row × Nat)),
    (∀ row ∈ t.rows, keep row = true ↔ t.Matches q.condition row) ∧
    placed.Perm (t.rows.filter keep).zipIdx ∧
    (placed.Pairwise fun a b => t.schema.Precedes q.order a.1 b.1 ∨
      t.schema.Ties q.order a.1 b.1 ∧ a.2 < b.2) ∧
    List.Forall₂ (fun entry cut => t.schema.Projects q.columns entry.1 cut) placed rows

end Table

/-! The order of the keys is the order that is meant. -/

namespace Value

theorem before_or_eq_of_null {v w : Value} (null : v = .null ∨ w = .null) :
    (v.sortOrder w = .lt → v.Before w) ∧ (v.sortOrder w = .eq → v = w) := by
  rcases null with rfl | rfl
  · cases w with
    | null => exact ⟨nofun, fun _ => rfl⟩
    | _ => exact ⟨fun _ => .null nofun, nofun⟩
  · cases v with
    | null => exact ⟨nofun, fun _ => rfl⟩
    | _ => exact ⟨nofun, nofun⟩

theorem before_or_eq {v w : Value} (alike : v.Alike w) :
    (v.sortOrder w = .lt → v.Before w) ∧ (v.sortOrder w = .eq → v = w) := by
  rcases alike with ⟨rfl | ⟨i, rfl⟩, second⟩ | ⟨rfl | ⟨s, rfl⟩, second⟩
  · exact before_or_eq_of_null (.inl rfl)
  · obtain rfl | ⟨j, rfl⟩ := second
    · exact before_or_eq_of_null (.inr rfl)
    · refine ⟨fun less => .integer (compare_lt_iff_lt.1 less), fun same => ?_⟩
      rw [Int64.toInt_inj.1 (compare_eq_iff_eq.1 same)]
  · exact before_or_eq_of_null (.inl rfl)
  · obtain rfl | ⟨t, rfl⟩ := second
    · exact before_or_eq_of_null (.inr rfl)
    · refine ⟨fun less => .text ((Text.cmp_eq_lt_iff s t).1 less), fun same => ?_⟩
      rw [(Text.cmp_eq_iff s t).1 same]

theorem kinds_agree {v w : Value} (alike : v.Alike w) {k l : Kind}
    (first : v.kind? = some k) (second : w.kind? = some l) : k.agrees l = true := by
  rcases alike with ⟨rfl | ⟨i, rfl⟩, rfl | ⟨j, rfl⟩⟩ | ⟨rfl | ⟨s, rfl⟩, rfl | ⟨t, rfl⟩⟩ <;>
    cases first <;> cases second
  · split <;> split <;> rfl
  · rfl

end Value

namespace Schema

variable {s : Schema} {a b : Row}

def Resolves (s : Schema) (key : SortKey) (place : Nat × Direction) : Prop :=
  s.indexOf? key.column = some place.1 ∧ key.direction = place.2

theorem value?_eq_cell {column : Text} {index : Nat} {row : Row} (found : s.indexOf? column = some index)
    (whole : s.columns.length = row.length) : s.value? column row = some (row.cell index) := by
  obtain ⟨inside, _⟩ := List.findIdx?_eq_some_iff_getElem.1 found
  rw [value?, found, Option.bind_some, getElem?_eq_cell (whole ▸ inside)]

theorem Resolves.before_or_eq {key : SortKey} {place : Nat × Direction} (resolved : s.Resolves key place)
    {v w : Value} (alike : v.Alike w) :
    (place.2.orient (v.sortOrder w) = .lt → key.direction.Before v w) ∧
      (place.2.orient (v.sortOrder w) = .eq → v = w) := by
  obtain ⟨less, same⟩ := Value.before_or_eq alike
  obtain ⟨more, same'⟩ := Value.before_or_eq (alike.imp And.symm And.symm)
  rw [resolved.2]
  cases place.2 with
  | ascending => exact ⟨less, same⟩
  | descending =>
    simp only [Direction.orient, ← Value.sortOrder_swap]
    exact ⟨more, fun equal => (same' equal).symm⟩

theorem exists_key {keys : List SortKey} {places : List (Nat × Direction)}
    (resolved : List.Forall₂ s.Resolves keys places) {place : Nat × Direction} (member : place ∈ places) :
    ∃ key ∈ keys, s.Resolves key place := by
  induction resolved with
  | nil => cases member
  | cons resolves _ ih =>
    rcases List.mem_cons.1 member with rfl | member
    · exact ⟨_, List.mem_cons_self, resolves⟩
    · obtain ⟨key, later, resolves⟩ := ih member
      exact ⟨key, List.mem_cons_of_mem _ later, resolves⟩

theorem precedes_or_ties {keys : List SortKey} {places : List (Nat × Direction)}
    (resolved : List.Forall₂ s.Resolves keys places) (first : s.columns.length = a.length)
    (second : s.columns.length = b.length)
    (alike : ∀ place ∈ places, (a.cell place.1).Alike (b.cell place.1)) :
    (Row.lexOrder places a b = .lt → s.Precedes keys a b) ∧
      (Row.lexOrder places a b = .eq → s.Ties keys a b) := by
  induction resolved with
  | nil => exact ⟨nofun, fun _ => nofun⟩
  | @cons key place keys places resolves _ ih =>
    obtain ⟨here, later⟩ := List.forall_mem_cons.1 alike
    obtain ⟨less, same⟩ := resolves.before_or_eq here
    obtain ⟨precedes, ties⟩ := ih later
    have one := value?_eq_cell resolves.1 first
    have other := value?_eq_cell resolves.1 second
    rw [Row.lexOrder, Ordering.then_eq_lt, Ordering.then_eq_eq]
    constructor
    · rintro (decided | ⟨tied, decided⟩)
      · exact .decided one other (less decided)
      · exact .tied (by rw [one, other, same tied]) (precedes decided)
    · rintro ⟨tied, rest⟩
      exact List.forall_mem_cons.2 ⟨by rw [one, other, same tied], ties rest⟩

/-! The columns of an answer. -/

theorem range_map_cell {row : Row} (whole : s.columns.length = row.length) :
    (List.range s.columns.length).map row.cell = row := by
  refine List.ext_getElem (by simp [whole]) fun index _ inside => ?_
  simp [Row.cell, inside]

theorem projects {names : List Text} {places : List Nat} (projected : s.projection names = .ok places)
    {row : Row} (whole : s.columns.length = row.length) : s.Projects names row (places.map row.cell) := by
  unfold Schema.projection at projected
  by_cases all : names = [] ∨ ['*'] ∈ names
  · rw [if_pos (by simpa using all)] at projected
    cases projected
    rw [range_map_cell whole]
    exact .whole all
  · rw [if_neg (by simpa using all)] at projected
    obtain ⟨filled, starless⟩ := not_or.1 all
    refine .chosen filled starless ?_
    have each := mapM_eq_ok_iff.1 projected
    clear projected all filled starless
    induction each with
    | nil => rfl
    | cons found _ ih =>
      rw [List.map_cons, List.map_cons, List.map_cons, ih, value?_eq_cell (index_eq_ok_iff.1 found) whole]

end Schema

/-! The rows of an answer. -/

namespace Table

variable {t : Table}

theorem selected_eq_ok {condition : Option Text} {rows : List Row}
    (selected : t.selected condition = .ok rows) :
    ∃ keep : Row → Bool, (∀ row, keep row = true ↔ t.Matches condition row) ∧
      rows = t.rows.filter keep := by
  cases condition with
  | none =>
    cases selected
    exact ⟨fun _ => true, fun _ => ⟨fun _ => nofun, fun _ => rfl⟩, by simp⟩
  | some text =>
    obtain ⟨p, parsed, filtered⟩ := Filter.bind_eq_ok selected
    refine ⟨p.accepts t.schema, fun row => ?_, Sql.Predicate.filter_eq_ok filtered⟩
    rw [Sql.Predicate.accepts_iff]
    constructor
    · rintro selects _ ⟨⟩
      exact ⟨p, parsed, selects⟩
    · intro holds
      obtain ⟨p', parsed', selects⟩ := holds text rfl
      rw [parsed] at parsed'
      cases parsed'
      exact selects

theorem present_eq_ok {order : List SortKey} {columns : List Text} {rows : List Row}
    {result : ResultSet} (wide : ∀ row ∈ rows, row.length = t.schema.columns.length)
    (presented : t.present order columns rows = .ok result) :
    ∃ keys places, List.Forall₂ t.schema.Resolves order keys ∧ t.schema.projection columns = .ok places ∧
      result.rows = (Row.sorted keys rows).map fun row => places.map row.cell := by
  rw [present_eq wide] at presented
  obtain ⟨keys, found, presented⟩ := Filter.bind_eq_ok presented
  obtain ⟨places, projected, presented⟩ := Filter.bind_eq_ok presented
  obtain ⟨header, _, presented⟩ := Filter.bind_eq_ok presented
  cases presented
  refine ⟨keys, places, (mapM_eq_ok_iff.1 found).imp ?_, projected, rfl⟩
  intro key place made
  obtain ⟨index, there, made⟩ := Filter.bind_eq_ok made
  cases made
  exact ⟨Schema.index_eq_ok_iff.1 there, rfl⟩

def SortableBy (t : Table) (q : PendingQuery) : Prop :=
  ∀ key ∈ q.order, t.schema.Sortable (fun row => row ∈ t.rows ∧ t.Matches q.condition row) key.column

theorem SortableBy.alike {q : PendingQuery} (sortable : t.SortableBy q) (regular : t.Regular)
    {places : List (Nat × Direction)} (resolved : List.Forall₂ t.schema.Resolves q.order places)
    {place : Nat × Direction} (member : place ∈ places) {a b : Row}
    (first : a ∈ t.rows ∧ t.Matches q.condition a) (second : b ∈ t.rows ∧ t.Matches q.condition b) :
    (a.cell place.1).Alike (b.cell place.1) := by
  obtain ⟨key, asked, found, _⟩ := Schema.exists_key resolved member
  have one := Schema.value?_eq_cell found (regular a first.1).length.symm
  have other := Schema.value?_eq_cell found (regular b second.1).length.symm
  rcases sortable key asked with integers | texts
  · exact .inl ⟨integers a _ first one, integers b _ second other⟩
  · exact .inr ⟨texts a _ first one, texts b _ second other⟩

theorem Regular.answersSorted {q : PendingQuery} {result : ResultSet} (regular : t.Regular)
    (sortable : t.SortableBy q) (answered : t.answer q = .ok result) : t.AnswersSorted q result.rows := by
  obtain ⟨rows, selected, presented⟩ := Filter.bind_eq_ok answered
  obtain ⟨keys, places, resolved, projected, rows⟩ := present_eq_ok (regular.wide selected) presented
  obtain ⟨keep, keeps, rfl⟩ := selected_eq_ok selected
  have matching {row : Row} (member : row ∈ t.rows.filter keep) :
      row ∈ t.rows ∧ t.Matches q.condition row := by
    obtain ⟨stored, kept⟩ := List.mem_filter.1 member
    exact ⟨stored, (keeps row).1 kept⟩
  -- The kinds that have to agree are those that occur in a column.
  let kinds (index : Nat) : Set Kind := { k | ∃ row ∈ t.rows.filter keep, (row.cell index).kind? = some k }
  have agree : ∀ place ∈ keys, ∀ k ∈ kinds place.1, ∀ l ∈ kinds place.1, k.agrees l = true := by
    rintro place member k ⟨a, first, one⟩ l ⟨b, second, other⟩
    exact Value.kinds_agree (sortable.alike regular resolved member (matching first) (matching second))
      one other
  have ordered := Row.transCmp_lexOrder_of_agrees agree
  obtain ⟨placed, same, perm, sorted⟩ := Row.exists_places_of_sorted ordered
    fun row member index k found => ⟨row, member, found⟩
  have stored {entry : Row × Nat} (member : entry ∈ placed) : entry.1 ∈ t.rows.filter keep :=
    List.fst_mem_of_mem_zipIdx (perm.mem_iff.1 member)
  refine ⟨keep, placed, fun row _ => keeps row, perm, sorted.imp_of_mem ?_, ?_⟩
  · intro a b first second inOrder
    have one := matching (stored first)
    have other := matching (stored second)
    obtain ⟨precedes, ties⟩ := Schema.precedes_or_ties resolved (regular _ one.1).length.symm
      (regular _ other.1).length.symm fun place member => sortable.alike regular resolved member one other
    exact inOrder.imp precedes fun tied => ⟨ties tied.1, tied.2⟩
  · rw [rows, ← same, List.map_map, List.forall₂_map_right_iff, List.forall₂_same]
    intro entry member
    exact Schema.projects projected (regular _ (matching (stored member)).1).length.symm

end Table

/-- An answer is sorted: it comes from the chosen table, and consists of the matching rows, if their sorted
columns hold integers or texts. -/
theorem MemoryStore.execute_sorted {s : MemoryStore} (reachable : s.Reachable) {result : ResultSet}
    (done : s.execute.1 = .ok result) :
    ∃ name t, s.pending.table = some name ∧ s.find? name = some t ∧
      (t.SortableBy s.pending → t.AnswersSorted s.pending result.rows) := by
  unfold execute answer at done
  split at done
  case h_1 => cases done
  case h_2 name chosen =>
    obtain ⟨t, found, answered⟩ := Filter.bind_eq_ok done
    refine ⟨name, t, chosen, (table_eq_ok found).1, fun sortable => ?_⟩
    exact (reachable.regular t (mem_of_table found)).answersSorted sortable answered

namespace MemoryStore

/-- A query for texts by number. Two rows share a number, one row has none, and one that does not match has
a text in its place. -/
def scores : MemoryStore where
  tables := [{
    name := ['t']
    schema := ⟨[{ name := ['n'] }, { name := ['v'] }]⟩
    rows := [[.integer 2, .text ['b']], [.null, .text ['c']], [.text ['9'], .text ['x']],
      [.integer 2, .text ['a']], [.integer 10, .text ['d']]] }]
  pending := {
    columns := [['v']]
    table := some ['t']
    condition := some "v != 'x'".toList
    order := [⟨['n'], .descending⟩] }

theorem scores_reachable : Reachable scores := by
  have created := Reachable.empty.create ['t'] ⟨[{ name := ['n'] }, { name := ['v'] }]⟩
  have one := created.insert ['t'] (.ofList [(['n'], .integer 2), (['v'], .text ['b'])])
  have two := one.insert ['t'] (.ofList [(['v'], .text ['c'])])
  have three := two.insert ['t'] (.ofList [(['n'], .text ['9']), (['v'], .text ['x'])])
  have four := three.insert ['t'] (.ofList [(['n'], .integer 2), (['v'], .text ['a'])])
  have five := four.insert ['t'] (.ofList [(['n'], .integer 10), (['v'], .text ['d'])])
  exact (((five.select [['v']]).fromTable ['t']).onCondition "v != 'x'".toList).orderBy
    ⟨['n'], .descending⟩

theorem scores_done : ∃ result, scores.execute.1 = .ok result := by
  have ok : scores.execute.1.isOk = true := by decide +kernel
  cases done : scores.execute.1 with
  | ok result => exact ⟨result, rfl⟩
  | error e =>
    rw [done] at ok
    cases ok

theorem scores_sortable {t : Table} (found : scores.find? ['t'] = some t) :
    t.SortableBy scores.pending := by
  cases found
  intro key member
  cases List.mem_singleton.1 member
  refine .inl ?_
  rintro row v ⟨stored, holds⟩ there
  have other : row ≠ [.text ['9'], .text ['x']] := by
    rintro rfl
    obtain ⟨p, parsed, selects⟩ := holds _ rfl
    have refused : (Sql.Predicate.parse ['t'] "v != 'x'".toList).toOption.map
        (fun p => p.accepts ⟨[{ name := ['n'] }, { name := ['v'] }]⟩ [.text ['9'], .text ['x']]) =
          some false := by decide +kernel
    rw [parsed] at refused
    have accepted := Sql.Predicate.accepts_iff.2 selects
    cases accepted.symm.trans (Option.some.inj refused)
  simp only [List.mem_cons, List.not_mem_nil, or_false] at stored
  rcases stored with rfl | rfl | rfl | rfl | rfl
  · exact .inr ⟨2, (Option.some.inj there).symm⟩
  · exact .inl (Option.some.inj there).symm
  · exact absurd rfl other
  · exact .inr ⟨2, (Option.some.inj there).symm⟩
  · exact .inr ⟨10, (Option.some.inj there).symm⟩

theorem execute_sorted_scores :
    ∃ result name t, Reachable scores ∧ scores.execute.1 = .ok result ∧
      scores.pending.table = some name ∧ scores.find? name = some t ∧ t.SortableBy scores.pending ∧
      t.AnswersSorted scores.pending result.rows := by
  obtain ⟨result, done⟩ := scores_done
  obtain ⟨name, t, chosen, found, answers⟩ := execute_sorted scores_reachable done
  have sortable : t.SortableBy scores.pending := by
    cases chosen
    exact scores_sortable found
  exact ⟨result, name, t, scores_reachable, done, chosen, found, sortable, answers sortable⟩

end MemoryStore

end FilterQuery
