import Mathlib.Data.List.Basic
import FilterQuery.Filter.Compile
import FilterQuery.Proofs.Strings
import FilterQuery.Sql.Lexer

/-!
Merging leaves the text around a value alone. A rendered filter is a template with a slot for each
clause whose field is bound; the template is made without looking at a value, and what fills a slot is
read as one string that ends where the slot ends.
-/

namespace FilterQuery

def Bindings.binds (fields : Bindings) (name : Text) : Bool := (fields.get? name).isSome

namespace Filter

/-- The field whose value a clause takes if the names for which `bound` holds are bound. -/
def Clause.field? (bound : Text → Bool) (c : Clause) : Option Text :=
  if c.comparator ≠ .inList ∧ isMergeField c.value ∧ bound (c.value.drop 1) then
    some (c.value.drop 1)
  else none

inductive Piece where
  | fixed (t : Text)
  | slot (comparator : Comparator) (name : Text)

namespace Piece

def slot? : Piece → Option (Comparator × Text)
  | fixed _ => none
  | slot comparator name => some (comparator, name)

def fill (fields : Bindings) : Piece → Text
  | fixed t => t
  | slot comparator name => ((fields.get? name).map (mergedText comparator)).getD []

end Piece

namespace Node

def slot? (bound : Text → Bool) : Node → Option (Comparator × Text)
  | .clause c => (c.field? bound).map fun name => (c.comparator, name)
  | _ => none

/-- A clause with a slot has a space behind it. All else is written as if nothing were bound. -/
def pieces (bound : Text → Bool) : Node → List Piece
  | .clause c =>
    match c.field? bound with
    | some name =>
      [.fixed (c.column ++ ' ' :: c.comparator.sql ++ [' ']), .slot c.comparator name, .fixed [' ']]
    | none => [.fixed (renderNode .empty (.clause c))]
  | node => [.fixed (renderNode .empty node)]

theorem pieces_cases (bound : Text → Bool) (node : Node) :
    (∃ c name, node = .clause c ∧ c.field? bound = some name ∧ node.pieces bound =
      [.fixed (c.column ++ ' ' :: c.comparator.sql ++ [' ']), .slot c.comparator name,
        .fixed [' ']]) ∨
    (node.slot? bound = none ∧ node.pieces bound = [.fixed (renderNode .empty node)]) := by
  cases node with
  | clause c =>
    cases found : c.field? bound with
    | some name => exact .inl ⟨c, name, rfl, found, by simp [pieces, found]⟩
    | none => exact .inr ⟨by simp [slot?, found], by simp [pieces, found]⟩
  | _ => exact .inr ⟨rfl, rfl⟩

end Node

def template (bound : Text → Bool) (nodes : List Node) : List Piece :=
  nodes.flatMap (Node.pieces bound)

theorem resolve_field? {c : Clause} {fields : Bindings} {name : Text}
    (found : c.field? fields.binds = some name) :
    c.comparator ≠ .inList ∧ ∃ value, fields.get? name = some value ∧
      resolve c fields = mergedText c.comparator value := by
  unfold Clause.field? at found
  split at found
  · rename_i merges
    obtain ⟨plain, field, bound⟩ := merges
    cases found
    obtain ⟨value, same⟩ := Option.isSome_iff_exists.1 bound
    refine ⟨plain, value, same, ?_⟩
    simp only [resolve, plain, field, same, decide_false, Bool.not_true, Bool.or_self,
      Bool.false_eq_true, ↓reduceIte]
  · cases found

theorem resolve_unbound {c : Clause} {fields : Bindings} (free : c.field? fields.binds = none) :
    resolve c fields = c.value := by
  unfold Clause.field? at free
  split at free
  · cases free
  · rename_i unmerged
    unfold resolve
    split
    · rfl
    · rename_i merges
      simp only [Bool.or_eq_true, decide_eq_true_eq, Bool.not_eq_true', not_or] at merges
      -- A field that is bound would have a slot.
      cases found : fields.get? (c.value.drop 1) with
      | none => rfl
      | some value =>
        have bound : fields.binds (c.value.drop 1) = true := by
          rw [Bindings.binds, found]
          rfl
        exact absurd ⟨merges.1, by simpa using merges.2, bound⟩ unmerged

theorem renderNode_unbound {fields : Bindings} {node : Node}
    (free : node.slot? fields.binds = none) : renderNode fields node = renderNode .empty node := by
  cases node with
  | clause c =>
    have unbound : c.field? (Bindings.binds .empty) = none := by
      simp [Clause.field?, Bindings.binds, Bindings.get?, Bindings.empty]
    have untaken : c.field? fields.binds = none := by simpa [Node.slot?] using free
    simp [renderNode, resolve_unbound untaken, resolve_unbound unbound]
  | _ => rfl

theorem fill_pieces (fields : Bindings) (node : Node) :
    (node.pieces fields.binds).flatMap (Piece.fill fields) = renderNode fields node := by
  rcases node.pieces_cases fields.binds with ⟨c, name, rfl, found, cut⟩ | ⟨free, cut⟩
  · obtain ⟨plain, value, bound, merged⟩ := resolve_field? found
    simp [cut, renderNode, Piece.fill, bound, merged, plain]
  · simp [cut, Piece.fill, renderNode_unbound free]

theorem slots_pieces (bound : Text → Bool) (node : Node) :
    (node.pieces bound).filterMap Piece.slot? = (node.slot? bound).toList := by
  rcases node.pieces_cases bound with ⟨c, name, rfl, found, cut⟩ | ⟨free, cut⟩
  · rw [cut, Node.slot?, found]
    rfl
  · rw [cut, free]
    rfl

theorem template_slot {fields : Bindings} {nodes : List Node} {before after : List Piece}
    {comparator : Comparator} {name : Text}
    (cut : template fields.binds nodes = before ++ .slot comparator name :: after) :
    (∃ value, fields.get? name = some value) ∧ ∃ later, after = .fixed [' '] :: later := by
  induction nodes generalizing before with
  | nil => simp [template] at cut
  | cons node nodes ih =>
    have first : template fields.binds (node :: nodes) =
        node.pieces fields.binds ++ template fields.binds nodes := rfl
    rw [first] at cut
    rcases node.pieces_cases fields.binds with ⟨c, field, rfl, found, pieces⟩ | ⟨_, pieces⟩
    · rw [pieces] at cut
      -- The slot is the second of the three pieces, or it lies behind them.
      rcases before with _ | ⟨_, _ | ⟨_, _ | ⟨_, before⟩⟩⟩
      · cases cut
      · obtain ⟨_, value, bound, _⟩ := resolve_field? found
        simp only [List.cons_append, List.nil_append, List.cons.injEq, Piece.slot.injEq] at cut
        obtain ⟨_, ⟨rfl, rfl⟩, rfl⟩ := cut
        exact ⟨⟨value, bound⟩, _, rfl⟩
      · simp at cut
      · simp only [List.cons_append, List.nil_append, List.cons.injEq] at cut
        exact ih cut.2.2.2
    · rw [pieces] at cut
      rcases before with _ | ⟨_, before⟩
      · cases cut
      · exact ih (List.cons.inj cut).2

theorem render_eq_fill (fields : Bindings) (nodes : List Node) :
    render fields nodes = (template fields.binds nodes).flatMap (Piece.fill fields) := by
  rw [render, template, List.flatMap_assoc]
  simp only [fill_pieces]

theorem slots_template (bound : Text → Bool) (nodes : List Node) :
    (template bound nodes).filterMap Piece.slot? = nodes.filterMap (Node.slot? bound) := by
  rw [template, List.filterMap_flatMap, List.filterMap_eq_flatMap_toList]
  simp only [slots_pieces]

theorem readToken_mergedText {comparator : Comparator} {value : Value}
    (string : comparator = .like ∨ ∃ t, value = .text t) {rest : Text}
    (single : rest.head? ≠ some '\'') :
    Sql.readToken (mergedText comparator value ++ rest) =
      some (.string '\'' (mergedContent comparator value), rest) := by
  obtain ⟨body, written, closed, stands⟩ := mergedText_string string
  have whole : mergedText comparator value ++ rest = '\'' :: (body ++ '\'' :: rest) := by
    simp [written]
  rw [whole, Sql.readToken, closed.readString (by decide) single, stands]
  rfl

/-- Bindings of the same names fill the same template, whose slots are the clauses with a bound field
in their order. Behind each slot stands a space, and a text in a slot, or any value under `LIKE`, is
read as one string up to that space and gives back the text of the value. -/
theorem render_template (nodes : List Node) (fields : Bindings) :
    (∀ other : Bindings, (∀ name, other.binds name = fields.binds name) →
      render other nodes = (template fields.binds nodes).flatMap (Piece.fill other)) ∧
    (template fields.binds nodes).filterMap Piece.slot? =
      nodes.filterMap (Node.slot? fields.binds) ∧
    ∀ before comparator name after,
      template fields.binds nodes = before ++ .slot comparator name :: after →
      ∃ value, fields.get? name = some value ∧
        (after.flatMap (Piece.fill fields)).head? = some ' ' ∧
        (comparator = .like ∨ (∃ t, value = .text t) →
          Sql.readToken ((Piece.slot comparator name).fill fields ++
              after.flatMap (Piece.fill fields)) =
            some (.string '\'' (mergedContent comparator value),
              after.flatMap (Piece.fill fields))) := by
  refine ⟨?_, slots_template fields.binds nodes, ?_⟩
  · intro other same
    rw [render_eq_fill, show other.binds = fields.binds from funext same]
  · intro before comparator name after cut
    obtain ⟨⟨value, bound⟩, later, rfl⟩ := template_slot cut
    have filled : (Piece.slot comparator name).fill fields = mergedText comparator value := by
      simp [Piece.fill, bound]
    refine ⟨value, bound, rfl, ?_⟩
    intro string
    rw [filled]
    exact readToken_mergedText string (by simp [Piece.fill])

/-- A text that ends in a backslash and tries to leave its string is read whole, before a second clause
that takes the same field. -/
theorem render_template_escaped :
    Sql.readToken "'\\\\\\' OR 1=1 -- \\\\' AND b LIKE '%\\\\\\' OR 1=1 -- \\\\%' ".toList =
      some (.string '\'' "\\' OR 1=1 -- \\".toList,
        " AND b LIKE '%\\\\\\' OR 1=1 -- \\\\%' ".toList) := by
  let fields : Bindings := ⟨[(['n'], .text "\\' OR 1=1 -- \\".toList)], by simp⟩
  let nodes : List Node := [.clause ⟨['a'], .eq, "$n".toList⟩, .connective .and,
    .clause ⟨['b'], .like, "$n".toList⟩]
  obtain ⟨value, bound, _, read⟩ := (render_template nodes fields).2.2 [.fixed "a = ".toList] .eq ['n']
    (.fixed [' '] :: template fields.binds nodes.tail) rfl
  cases bound
  exact read (.inr ⟨_, rfl⟩)

end Filter

end FilterQuery
