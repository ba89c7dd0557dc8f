import FilterQuery.Proofs.Preservation
import FilterQuery.Proofs.Spacing
import FilterQuery.Store.Request

/-!
From a filter to the rows of the answer. A sentence selects rows of a table if SQL reads its condition
and the condition decides each row; a request with such a filter is answered with exactly these rows,
in both modes.
-/

namespace FilterQuery.Sql

/-- The condition has a truth value on the row, where null counts as false. -/
def Decides (schema : Schema) (row : Row) (e : Expr) (b : Bool) : Prop :=
  evaluate schema row e = .ok (.boolean b) ∨ (evaluate schema row e = .ok .null ∧ b = false)

section Decides

variable {schema : Schema} {row : Row} {e : Expr} {b : Bool}

theorem Decides.evaluated (decides : Decides schema row e b) :
    ∃ v, evaluate schema row e = .ok v ∧ truthy v = b := by
  rcases decides with found | ⟨found, rfl⟩ <;> exact ⟨_, found, rfl⟩

theorem Decides.or {other : Expr} {b' : Bool} (first : Decides schema row e b)
    (second : Decides schema row other b') : Decides schema row (.binary .or e other) (b || b') := by
  obtain ⟨v, found, rfl⟩ := first.evaluated
  obtain ⟨v', found', rfl⟩ := second.evaluated
  exact .inl (by simp [evaluate, found, found', bind, Except.bind, BinaryOp.apply])

theorem Decides.and {other : Expr} {b' : Bool} (first : Decides schema row e b)
    (second : Decides schema row other b') : Decides schema row (.binary .and e other) (b && b') := by
  obtain ⟨v, found, rfl⟩ := first.evaluated
  obtain ⟨v', found', rfl⟩ := second.evaluated
  exact .inl (by simp [evaluate, found, found', bind, Except.bind, BinaryOp.apply])

variable {column : Text} {index : Nat} (held : schema.indexOf? column = some index)
include held

theorem evaluate_column : evaluate schema row (.column column) = .ok (row.cell index) := by
  simp [evaluate, columnValue, held]

theorem decides_equals {v : Value} (constant : evaluate schema row e = .ok v) :
    Decides schema row (.binary (.compare .eq) (.column column) e) ((row.cell index).same v) := by
  have compared : evaluate schema row (.binary (.compare .eq) (.column column) e) =
      BinaryOp.apply (.compare .eq) (row.cell index) v := by
    rw [evaluate, evaluate_column held, constant]
    rfl
  rw [Decides, compared, BinaryOp.apply, Value.same]
  cases (row.cell index).compare v with
  | none => exact .inr ⟨rfl, rfl⟩
  | some o => exact .inl (by simp [Comparison.holds])

omit held in
theorem someItemSame_texts (value : Value) (texts : List Text) :
    someItemSame schema row value (texts.map fun t => .literal (.text t)) =
      .ok (texts.any fun t => value.same (.text t)) := by
  induction texts with
  | nil => rfl
  | cons t texts ih =>
    have item : evaluate schema row (.literal (.text t)) = .ok (.text t) := by
      rw [evaluate, Literal.value]
    rw [List.map_cons, someItemSame, item, ih, List.any_cons]
    show (if value.same (.text t) then Except.ok true else _) = _
    cases value.same (.text t) <;> rfl

theorem decides_inList (texts : List Text) :
    Decides schema row (.inList false (.column column) (texts.map fun t => .literal (.text t)))
      (texts.any fun t => (row.cell index).same (.text t)) := by
  rw [Decides, evaluate, evaluate_column held]
  cases row.cell index with
  | null => exact .inr ⟨rfl, by simp [Value.same, Value.compare]⟩
  | _ => exact .inl (by simp [bind, Except.bind, Value.isNull, someItemSame_texts, pure, Except.pure])

end Decides

theorem Predicate.selects_decided {p : Predicate} {schema : Schema} {row : Row} {b : Bool}
    (decides : Decides schema row p.condition b) : p.selects schema row = .ok b := by
  rcases decides with found | ⟨found, rejected⟩
  · rw [selects, found]
    cases b <;> rfl
  · rw [selects, found, rejected]
    rfl

theorem Predicate.filter_decided {p : Predicate} {schema : Schema} {rows : List Row}
    {keep : Row → Bool} (decides : ∀ row ∈ rows, Decides schema row p.condition (keep row)) :
    p.filter schema rows = .ok (rows.filter keep) := by
  induction rows with
  | nil => rfl
  | cons row rows ih =>
    rw [List.forall_mem_cons] at decides
    rw [filter, selects_decided decides.1, ih decides.2, List.filter_cons]
    rfl

end FilterQuery.Sql

namespace FilterQuery.Request

/-! A request whose filter is understood comes down to the rows that the filter selects. -/

def withFilter (r : Request) (filter : Text) : Request := { r with filter := some filter }

def answerWith (r : Request) (s : MemoryStore) (t : Table) (rows : List Row) :
    Except (RequestError StoreError) ResultSet × MemoryStore :=
  match r.sortKeys with
  | .error e => (.error (.order e), s)
  | .ok keys =>
    ((t.present (s.pending.order ++ keys) r.selection rows).mapError .backend,
      { s with pending := {} })

theorem foldl_orderBy (s : MemoryStore) (keys : List SortKey) :
    keys.foldl Backend.orderBy s =
      { s with pending := { s.pending with order := s.pending.order ++ keys } } := by
  induction keys generalizing s with
  | nil => simp
  | cons key keys ih =>
    rw [List.foldl_cons, ih]
    simp [Backend.orderBy, MemoryStore.orderBy]

theorem execute_submit {s : MemoryStore} {r : Request} {t : Table}
    (found : s.find? r.table = some t) {condition : Text} {rows : List Row}
    (selected : t.selected (some condition) = .ok rows) (keys : List SortKey) :
    Backend.execute (r.submit s (some condition) keys) =
      (t.present (s.pending.order ++ keys) r.selection rows, { s with pending := {} }) := by
  rw [submit, foldl_orderBy]
  refine Prod.ext ?_ rfl
  show (do (← s.table r.table).answer _ : Except StoreError ResultSet) = _
  rw [MemoryStore.table, found]
  show (do t.present _ _ (← t.selected (some condition)) : Except StoreError ResultSet) = _
  rw [selected]
  rfl

theorem fetch_selected {options : Filter.Options} {s : MemoryStore} {r : Request} {t : Table}
    (found : s.find? r.table = some t) (typed : r.raw = false) {filter condition : Text}
    (filled : Text.trim filter ≠ [])
    (compiled : Filter.compile options r.fields filter = .ok condition) {rows : List Row}
    (selected : t.selected (some condition) = .ok rows) :
    (r.withFilter filter).fetch options s = r.answerWith s t rows := by
  have present : s.contains r.table = true := by simp [MemoryStore.contains, found]
  have understood : (r.withFilter filter).condition options = .ok (some condition) := by
    simp [Request.condition, withFilter, filled, typed, compiled, Except.map]
  have prepared : (r.withFilter filter).prepare options s =
      (r.sortKeys.mapError .order).map fun keys => some (some condition, keys) := by
    show (if s.contains r.table then _ else _ : Except (RequestError StoreError) _) = _
    rw [present, understood]
    show (r.sortKeys.mapError .order >>= _ : Except (RequestError StoreError) _) = _
    cases r.sortKeys <;> rfl
  rw [Request.fetch, prepared, answerWith]
  cases r.sortKeys with
  | error e => rfl
  | ok keys =>
    have executed := execute_submit (r := r.withFilter filter) found selected keys
    simp only [Except.mapError, Except.map, executed]
    rfl

end FilterQuery.Request

namespace FilterQuery.Filter

open Sql (Decides maxLevels)

/-- In both modes, the sentence is a filter that keeps these rows of the table: the modes agree on it,
SQL reads its condition, and the condition decides each row. -/
structure Sentence.Selects (sentence : Sentence) (fields : Bindings) (t : Table)
    (keep : Row → Bool) : Prop where
  bare : ∀ lexeme ∈ sentence.lexemes, lexeme.Bare
  free : ArrowFree (spelled sentence.lexemes)
  readable : ∀ node ∈ sentence.chain.nodes, node.Readable fields ∧ node.IsSplit
  flat : (sentence.chain.condition fields).levels ≤ maxLevels - 2
  decides : ∀ row ∈ t.rows, Decides t.schema row (sentence.chain.condition fields) (keep row)

namespace Sentence.Selects

variable {sentence : Sentence} {fields : Bindings} {t : Table} {keep : Row → Bool}

theorem selected (selects : sentence.Selects fields t keep) (unquoted : '`' ∉ t.name) :
    t.selected (some (render fields sentence.chain.nodes)) = .ok (t.rows.filter keep) := by
  have parsed := (parse_render_chain selects.readable unquoted ⟨sentence.chain.condition fields⟩).2
    ⟨rfl, selects.flat⟩
  show (do
    let predicate ← Sql.Predicate.parse t.name (render fields sentence.chain.nodes)
    predicate.filter t.schema t.rows) = _
  rw [parsed]
  exact Sql.Predicate.filter_decided selects.decides

theorem fetch {s : MemoryStore} {r : Request} (selects : sentence.Selects r.fields t keep)
    (found : s.find? r.table = some t) (unquoted : '`' ∉ r.table) (typed : r.raw = false)
    (mode : Normalization) :
    (r.withFilter (spacedText sentence.lexemes)).fetch ⟨mode, true⟩ s =
      r.answerWith s t (t.rows.filter keep) := by
  have name : t.name = r.table := by simpa using List.find?_some found
  have compiled : compile ⟨mode, true⟩ r.fields (spacedText sentence.lexemes) =
      .ok (render r.fields sentence.chain.nodes) := by
    rw [compile, parse_spacedText mode selects.bare selects.free]
    rfl
  exact Request.fetch_selected found typed (trim_spacedText_ne_nil selects.bare) compiled
    (selects.selected (name ▸ unquoted))

theorem or {phrase : Phrase} {keep' : Row → Bool} (first : sentence.Selects fields t keep)
    (second : (single phrase).Selects fields t keep')
    (shallow : ((single phrase).chain.condition fields).levels < maxLevels - 2) :
    (extend sentence .or phrase).Selects fields t (fun row => keep row || keep' row) where
  bare lexeme member := by
    rw [lexemes, List.mem_append, List.mem_cons] at member
    rcases member with member | rfl | member
    · exact first.bare lexeme member
    · nofun
    · exact second.bare lexeme member
  free := by
    have arrowless := first.free.append (.cons (c := '|') (by decide)
      (.cons (c := '|') (by decide) second.free)) (by simp)
    simpa [spelled, lexemes, Lexeme.text, Connective.mark] using arrowless
  readable node member := by
    rw [chain, Chain.nodes, List.mem_append, List.mem_cons] at member
    rcases member with member | rfl | member
    · exact first.readable node member
    · exact ⟨trivial, trivial⟩
    · exact second.readable node member
  flat := Nat.max_le.2 ⟨first.flat, shallow⟩
  decides row member := (first.decides row member).or (second.decides row member)

end Sentence.Selects

end FilterQuery.Filter
